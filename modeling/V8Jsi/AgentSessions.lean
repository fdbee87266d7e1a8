import V8Jsi.AgentQueue

set_option autoImplicit false

/- What the queue of entries does to `state_`, `session_id_` and the V8 session
when several frontends share one agent. -/
namespace V8Jsi.AgentDispatch

open Runs InspectorUtils
open SocketServer (tagConnect tagDisconnect)

/-- The text of an entry says what the delegate meant by it. -/
def Entry.Honest (entry : Entry) : Prop :=
  match entry.origin with
  | .startSession => tagOf entry.message = tagConnect
  | .endSession => tagOf entry.message = tagDisconnect
  | .messageReceived =>
      tagOf entry.message ≠ tagConnect ∧ tagOf entry.message ≠ tagDisconnect

/-- The entries lead from the sessions that are open before them to those open
after them. If `exclusive`, a session opens only while no other is open. -/
def Timeline (exclusive : Bool) : List Nat → List Entry → List Nat → Prop
  | opened, [], final => opened = final
  | opened, entry :: rest, final =>
      match entry.origin with
      | .startSession => (exclusive = true → opened = []) ∧
          Timeline exclusive (entry.sessionId :: opened) rest final
      | .messageReceived => entry.sessionId ∈ opened ∧ Timeline exclusive opened rest final
      | .endSession => entry.sessionId ∈ opened ∧
          Timeline exclusive (opened.erase entry.sessionId) rest final

theorem Timeline.append {exclusive : Bool} {entries more : List Entry} {middle final : List Nat} :
    ∀ {opened : List Nat}, Timeline exclusive opened entries middle →
      Timeline exclusive middle more final → Timeline exclusive opened (entries ++ more) final := by
  induction entries with
  | nil =>
    intro opened here later
    rw [List.nil_append, show opened = middle from here]
    exact later
  | cons entry rest ih =>
    intro opened here later
    rw [List.cons_append]
    unfold Timeline at here ⊢
    cases origin : entry.origin with
    | startSession =>
      rw [origin] at here
      exact ⟨here.1, ih here.2 later⟩
    | messageReceived =>
      rw [origin] at here
      exact ⟨here.1, ih here.2 later⟩
    | endSession =>
      rw [origin] at here
      exact ⟨here.1, ih here.2 later⟩

/-- What the sessions of the agent depend on. -/
structure View where
  state : State
  sessionId : Nat
  session : Bool
  shuttingDown : Bool
  pending : List Entry
  attached : List Nat
  current : Option Entry
  dispatched : List (Entry × Nat)
  sent : List Sent

def Agent.view (agent : Agent) : View where
  state := agent.state
  sessionId := agent.sessionId
  session := agent.session
  shuttingDown := agent.shuttingDown
  pending := agent.dispatch.remaining ++ agent.incomingMessageQueue
  attached := agent.attached
  current := agent.currentEntry
  dispatched := agent.dispatched
  sent := agent.sent

/-- The session the agent is connected to. -/
def View.opened (view : View) : List Nat :=
  if view.state = .kConnected then [view.sessionId] else []

structure View.Coherent (exclusive : Bool) (view : View) : Prop where
  running : view.shuttingDown = false
  control : view.state = .kAccepting ∧ view.session = false ∨
    view.state = .kConnected ∧ view.session = true
  honest : ∀ entry ∈ view.pending, entry.Honest
  timeline : Timeline exclusive view.opened view.pending view.attached
  current : ∀ entry, view.current = some entry → view.sessionId = entry.sessionId
  dispatched : ∀ entry sessionId, (entry, sessionId) ∈ view.dispatched →
    entry.sessionId = sessionId
  sent : ∀ message ∈ view.sent, ∀ entry, message.during = some entry →
    message.sessionId = entry.sessionId

/-- An open session is the one the agent is connected to. -/
theorem View.Coherent.connected {exclusive : Bool} {view : View} {sessionId : Nat}
    (coherent : view.Coherent exclusive) (member : sessionId ∈ view.opened) :
    view.state = .kConnected ∧ view.session = true ∧ sessionId = view.sessionId := by
  rcases coherent.control with ⟨accepting, -⟩ | ⟨connected, present⟩
  · simp [View.opened, accepting] at member
  · refine ⟨connected, present, ?_⟩
    simpa [View.opened, connected] using member

theorem dispatchMessages_view (agent : Agent) : agent.dispatchMessages.view = agent.view := by
  unfold Agent.dispatchMessages
  split
  · rename_i idle
    simp [Agent.view, Agent.currentEntry, idle, Dispatch.remaining]
  · rfl

theorem appendMessage_view (agent : Agent) (entry : Entry) :
    (agent.appendMessage entry).view =
      { agent.view with pending := agent.view.pending ++ [entry] } := by
  unfold Agent.appendMessage
  simp only
  split <;> simp [Agent.view, Agent.currentEntry]

/-- Posting extends the timeline at its end. -/
theorem appendMessage_coherent {exclusive : Bool} {agent : Agent} {entry : Entry}
    {attached : List Nat} (coherent : agent.view.Coherent exclusive) (honest : entry.Honest)
    (extends_ : Timeline exclusive agent.attached [entry] attached) :
    (({ agent with attached } : Agent).appendMessage entry).view.Coherent exclusive := by
  rw [appendMessage_view]
  refine ⟨coherent.running, coherent.control, ?_, coherent.timeline.append extends_,
    coherent.current, coherent.dispatched, coherent.sent⟩
  intro other inside
  rcases List.mem_append.mp inside with inside | inside
  · exact coherent.honest other inside
  · rwa [List.mem_singleton.mp inside]

/-- The agent while it processes the first entry of a batch. -/
def Agent.processing (agent : Agent) (entry : Entry) (rest : List Entry) : Agent :=
  { agent with processed := agent.processed ++ [entry], dispatch := .processing entry rest }

/-- The entry is processed for its own session, and as a message without a change of
the control. -/
def Processes (exclusive : Bool) (agent : Agent) (entry : Entry) (rest : List Entry) : Prop :=
  ∃ next, (agent.processing entry rest).processEntry entry = .ok next ∧
    next.view.Coherent exclusive ∧ next.sessionId = entry.sessionId ∧
    (entry.origin = .messageReceived → next.state = agent.state ∧
      next.sessionId = agent.sessionId ∧ next.session = agent.session)

section

variable {exclusive : Bool} {agent : Agent} {entry : Entry} {rest : List Entry}

theorem view_batch (batch : agent.dispatch = .batch (entry :: rest)) :
    agent.view.pending = entry :: (rest ++ agent.incomingMessageQueue) := by
  simp [Agent.view, batch, Dispatch.remaining]

/-- What is known about the entry at the front. -/
theorem View.Coherent.front (coherent : agent.view.Coherent exclusive)
    (batch : agent.dispatch = .batch (entry :: rest)) :
    entry.Honest ∧ Timeline exclusive agent.view.opened
      (entry :: (rest ++ agent.incomingMessageQueue)) agent.attached := by
  rw [← view_batch batch]
  constructor
  · apply coherent.honest
    rw [view_batch batch]
    exact List.mem_cons_self
  · exact coherent.timeline

theorem View.Coherent.honest_rest (coherent : agent.view.Coherent exclusive)
    (batch : agent.dispatch = .batch (entry :: rest)) :
    ∀ other ∈ rest ++ agent.incomingMessageQueue, other.Honest := by
  intro other inside
  apply coherent.honest
  rw [view_batch batch]
  exact List.mem_cons_of_mem entry inside

/-- A connect entry opens its session, or fails the check on a second frontend. -/
theorem processEntry_startSession (coherent : agent.view.Coherent exclusive)
    (batch : agent.dispatch = .batch (entry :: rest)) (origin : entry.origin = .startSession) :
    Processes exclusive agent entry rest ∨
      (agent.processing entry rest).processEntry entry = .error (.checkFailed .kAccepting) ∧
        exclusive = false := by
  obtain ⟨honestEntry, timeline⟩ := coherent.front batch
  simp only [Entry.Honest, Timeline, origin] at honestEntry timeline
  rcases coherent.control with ⟨accepting, -⟩ | ⟨connected, -⟩
  · left
    have accepting : agent.state = .kAccepting := accepting
    have opened : agent.view.opened = [] := by simp [View.opened, Agent.view, accepting]
    rw [opened] at timeline
    simp only [Processes, Agent.processing, Agent.processEntry, honestEntry, accepting, ↓reduceIte]
    refine ⟨_, rfl, ⟨coherent.running, .inr ⟨rfl, rfl⟩, coherent.honest_rest batch, timeline.2, ?_,
      coherent.dispatched, coherent.sent⟩, rfl, ?_⟩
    · intro other same
      cases same
      rfl
    · rw [origin]
      exact nofun
  · right
    have connected : agent.state = .kConnected := connected
    have opened : agent.view.opened ≠ [] := by simp [View.opened, Agent.view, connected]
    constructor
    · simp [Agent.processing, Agent.processEntry, honestEntry, connected]
    · by_contra strict
      exact opened (timeline.1 (by simpa using strict))

/-- A message goes to the session that is open. -/
theorem processEntry_messageReceived (coherent : agent.view.Coherent exclusive)
    (batch : agent.dispatch = .batch (entry :: rest)) (origin : entry.origin = .messageReceived) :
    Processes exclusive agent entry rest := by
  obtain ⟨honestEntry, timeline⟩ := coherent.front batch
  simp only [Entry.Honest, Timeline, origin] at honestEntry timeline
  have current := coherent.connected timeline.1
  have connected : agent.state = .kConnected := current.1
  have present : agent.session = true := current.2.1
  have same : entry.sessionId = agent.sessionId := current.2.2
  simp only [Processes, Agent.processing, Agent.processEntry, honestEntry.1, honestEntry.2,
    ↓reduceIte, Agent.dispatchMessageFromFrontend, present]
  refine ⟨_, rfl, ⟨coherent.running, .inr ⟨connected, rfl⟩, coherent.honest_rest batch, timeline.2,
    ?_, ?_, coherent.sent⟩, same.symm, fun _ => ⟨rfl, rfl, rfl⟩⟩
  · intro other processed
    cases processed
    exact same.symm
  · intro other sessionId inside
    rcases List.mem_append.mp inside with inside | inside
    · exact coherent.dispatched other sessionId inside
    · obtain ⟨rfl, rfl⟩ := Prod.mk.inj (List.mem_singleton.mp inside)
      exact same

/-- A disconnect entry closes the session that is open. -/
theorem processEntry_endSession (coherent : agent.view.Coherent exclusive)
    (batch : agent.dispatch = .batch (entry :: rest)) (origin : entry.origin = .endSession) :
    Processes exclusive agent entry rest := by
  obtain ⟨honestEntry, timeline⟩ := coherent.front batch
  simp only [Entry.Honest, Timeline, origin] at honestEntry timeline
  obtain ⟨member, timeline⟩ := timeline
  have current := coherent.connected member
  have keep : agent.shuttingDown = false := coherent.running
  have connected : agent.state = .kConnected := current.1
  have same : entry.sessionId = agent.sessionId := current.2.2
  have opened : agent.view.opened = [agent.sessionId] := by
    simp [View.opened, Agent.view, connected]
  rw [opened, same, List.erase_cons_head] at timeline
  have other : tagDisconnect ≠ tagConnect := by decide
  simp only [Processes, Agent.processing, Agent.processEntry, honestEntry, other, connected, keep,
    ↓reduceIte, Bool.false_eq_true]
  refine ⟨_, rfl, ⟨rfl, .inl ⟨rfl, rfl⟩, coherent.honest_rest batch, timeline, ?_,
    coherent.dispatched, coherent.sent⟩, same.symm, ?_⟩
  · intro other processed
    cases processed
    exact same.symm
  · rw [origin]
    exact nofun

/-- Processing an honest entry at the front of the timeline either succeeds, or
fails the check on a second frontend. -/
theorem processEntry_coherent (coherent : agent.view.Coherent exclusive)
    (batch : agent.dispatch = .batch (entry :: rest)) :
    Processes exclusive agent entry rest ∨
      (agent.processing entry rest).processEntry entry = .error (.checkFailed .kAccepting) ∧
        exclusive = false := by
  cases origin : entry.origin with
  | startSession => exact processEntry_startSession coherent batch origin
  | messageReceived => exact .inl (processEntry_messageReceived coherent batch origin)
  | endSession => exact .inl (processEntry_endSession coherent batch origin)

end

/-! ## Whole steps -/

section

variable {multiByteToWideChar : List UInt8 → Option (List UInt16)} {exclusive : Bool}

/-- The loop takes the text for a tag. -/
def spellsTag (multiByteToWideChar : List UInt8 → Option (List UInt16)) (message : List UInt8) :
    Bool :=
  match utf8ToUtf16 multiByteToWideChar message with
  | .error _ => false
  | .ok units => tagOf units == tagConnect || tagOf units == tagDisconnect

/-- No client sends a tag, `waitForDebugger` does not take the agent out of a
connection, and if `exclusive`, frontends attach one at a time. -/
def Proper (exclusive : Bool) (multiByteToWideChar : List UInt8 → Option (List UInt16))
    (agent : Agent) : Action → Prop
  | .startSession _ => exclusive = true → agent.attached = []
  | .messageReceived _ message => spellsTag multiByteToWideChar message = false
  | .frontendMessageArrived => agent.state ≠ .kConnected
  | .endSession _ | .postTask | .requestInterrupt | .notifyMessageReceived | .runTask
  | .runInterrupt | .dispatchOnPause | .waitForDebugger | .dispatchAtStartup | .pauseOnStart
  | .swapBehindLock | .nextEntry | .finishEntry | .leaveDispatch
  | .sendMessageToFrontend _ => True

instance (agent : Agent) : ∀ action, Decidable (Proper exclusive multiByteToWideChar agent action)
  | .startSession _ => inferInstanceAs (Decidable (_ → _))
  | .messageReceived _ _ => inferInstanceAs (Decidable (_ = _))
  | .frontendMessageArrived => inferInstanceAs (Decidable (¬ _))
  | .endSession _ | .postTask | .requestInterrupt | .notifyMessageReceived | .runTask
  | .runInterrupt | .dispatchOnPause | .waitForDebugger | .dispatchAtStartup | .pauseOnStart
  | .swapBehindLock | .nextEntry | .finishEntry | .leaveDispatch
  | .sendMessageToFrontend _ => isTrue trivial

theorem tagConnect_converts (widens : WidensAscii multiByteToWideChar) :
    utf8ToUtf16 multiByteToWideChar tagConnect = .ok (tagConnect.map UInt8.toUInt16) :=
  utf8ToUtf16_ascii widens tagConnect (by decide) (by decide) (by simp [tagConnect])

theorem tagDisconnect_converts (widens : WidensAscii multiByteToWideChar) :
    utf8ToUtf16 multiByteToWideChar tagDisconnect = .ok (tagDisconnect.map UInt8.toUInt16) :=
  utf8ToUtf16_ascii widens tagDisconnect (by decide) (by decide)
    (by simp [tagDisconnect, tagConnect])

theorem startSession_coherent (widens : WidensAscii multiByteToWideChar) {agent : Agent}
    (everAttached : List Nat) (sessionId : Nat) (coherent : agent.view.Coherent exclusive)
    (alone : exclusive = true → agent.attached = []) :
    (postIncomingMessage multiByteToWideChar { agent with
      attached := sessionId :: agent.attached, everAttached } sessionId tagConnect
      .startSession).view.Coherent exclusive := by
  simp only [postIncomingMessage, tagConnect_converts widens]
  have start : Entry.Honest ⟨sessionId, tagConnect.map UInt8.toUInt16, .startSession⟩ :=
    show tagOf (tagConnect.map UInt8.toUInt16) = tagConnect by decide
  have before : ({ agent with everAttached } : Agent).view.Coherent exclusive := coherent
  exact appendMessage_coherent before start ⟨alone, rfl⟩

theorem endSession_coherent (widens : WidensAscii multiByteToWideChar) {agent : Agent}
    (sessionId : Nat) (coherent : agent.view.Coherent exclusive)
    (member : sessionId ∈ agent.attached) :
    (postIncomingMessage multiByteToWideChar
      { agent with attached := agent.attached.erase sessionId } sessionId tagDisconnect
      .endSession).view.Coherent exclusive := by
  simp only [postIncomingMessage, tagDisconnect_converts widens]
  have finish : Entry.Honest ⟨sessionId, tagDisconnect.map UInt8.toUInt16, .endSession⟩ :=
    show tagOf (tagDisconnect.map UInt8.toUInt16) = tagDisconnect by decide
  exact appendMessage_coherent coherent finish ⟨member, rfl⟩

theorem messageReceived_coherent {agent : Agent} (sessionId : Nat) (message : List UInt8)
    (coherent : agent.view.Coherent exclusive) (member : sessionId ∈ agent.attached)
    (plain : spellsTag multiByteToWideChar message = false) :
    (postIncomingMessage multiByteToWideChar agent sessionId message
      .messageReceived).view.Coherent exclusive := by
  unfold spellsTag at plain
  unfold postIncomingMessage
  split
  · exact coherent
  · rename_i units converted
    rw [converted] at plain
    have text : Entry.Honest ⟨sessionId, units, .messageReceived⟩ := by
      simpa [Entry.Honest] using plain
    exact appendMessage_coherent coherent text ⟨member, rfl⟩

theorem swapBehindLock_view {agent : Agent} (swapping : agent.dispatch = .swapping) :
    ({ agent with
      incomingMessageQueue := []
      dispatch := if agent.incomingMessageQueue.isEmpty then .leaving
        else .batch agent.incomingMessageQueue } : Agent).view = agent.view := by
  by_cases empty : agent.incomingMessageQueue = []
  · simp [Agent.view, Agent.currentEntry, swapping, empty, Dispatch.remaining]
  · simp [Agent.view, Agent.currentEntry, swapping, empty, Dispatch.remaining]

/-- Between two entries no entry is current. -/
theorem View.Coherent.between {view : View} (coherent : view.Coherent exclusive) :
    ({ view with current := none } : View).Coherent exclusive :=
  { coherent with current := fun _ impossible => by cases impossible }

theorem write_coherent {agent : Agent} (message : List UInt16)
    (coherent : agent.view.Coherent exclusive) :
    (agent.write message).view.Coherent exclusive := by
  refine { coherent with sent := ?_ }
  intro sent inside entry during
  rcases List.mem_append.mp inside with inside | inside
  · exact coherent.sent sent inside entry during
  · rw [List.mem_singleton.mp inside] at during ⊢
    exact coherent.current entry during

/-- The control state of the agent. -/
def Agent.control (agent : Agent) : State × Nat × Bool :=
  (agent.state, agent.sessionId, agent.session)

/-- A step changes the control state only by processing an entry that was posted
to open or to close the session it belongs to. -/
def Separated (agent : Agent) (action : Action) (next : Agent) : Prop :=
  next.control = agent.control ∨
    action = .nextEntry ∧ ∃ entry rest, agent.dispatch = .batch (entry :: rest) ∧
      entry.origin ≠ .messageReceived ∧ next.sessionId = entry.sessionId

/-- What one proper step does to a coherent agent. -/
def Stepped (exclusive : Bool) (agent : Agent) (action : Action) :
    Except Failure Agent → Prop
  | .ok next => next.view.Coherent exclusive ∧ Separated agent action next
  | .error failure => failure = .nullSessionAtPause ∨
      exclusive = false ∧ failure = .checkFailed .kAccepting

theorem nextEntry_stepped {agent : Agent} {outcome : Except Failure Agent}
    (coherent : agent.view.Coherent exclusive)
    (called : call multiByteToWideChar agent .nextEntry = some outcome) :
    Stepped exclusive agent .nextEntry outcome := by
  simp only [call] at called
  split at called
  · rename_i entry rest batch
    obtain rfl := Option.some.inj called
    change Stepped exclusive agent .nextEntry ((agent.processing entry rest).processEntry entry)
    rcases processEntry_coherent coherent batch with ⟨next, success, after, same, text⟩ | refused
    · rw [success]
      refine ⟨after, ?_⟩
      by_cases message : entry.origin = .messageReceived
      · obtain ⟨state, sessionId, session⟩ := text message
        left
        rw [Agent.control, state, sessionId, session]
        rfl
      · exact .inr ⟨rfl, entry, rest, batch, message, same⟩
    · rw [refused.1]
      exact .inr ⟨refused.2, rfl⟩
  · rename_i batch
    obtain rfl := Option.some.inj called
    refine ⟨?_, .inl rfl⟩
    have same : ({ agent with dispatch := .swapping } : Agent).view = agent.view := by
      simp [Agent.view, Agent.currentEntry, batch, Dispatch.remaining]
    rwa [same]
  all_goals cases called

/-- A step that leaves the view alone. -/
theorem Stepped.same {agent next : Agent} {action : Action}
    (coherent : agent.view.Coherent exclusive) (view : next.view = agent.view) :
    Stepped exclusive agent action (.ok next) := by
  refine ⟨by rwa [view], .inl ?_⟩
  exact congrArg (fun view : View => (view.state, view.sessionId, view.session)) view

theorem postIncomingMessage_control (agent : Agent) (sessionId : Nat) (message : List UInt8)
    (origin : Origin) :
    (postIncomingMessage multiByteToWideChar agent sessionId message origin).control =
      agent.control := by
  unfold postIncomingMessage
  split
  · rfl
  · unfold Agent.appendMessage
    simp only
    split <;> rfl

theorem call_stepped (widens : WidensAscii multiByteToWideChar) {agent : Agent} {action : Action}
    {outcome : Except Failure Agent} (coherent : agent.view.Coherent exclusive)
    (proper : Proper exclusive multiByteToWideChar agent action)
    (called : call multiByteToWideChar agent action = some outcome) :
    Stepped exclusive agent action outcome := by
  cases action with
  | startSession sessionId =>
    obtain ⟨-, posted⟩ := Option.ite_none_right_eq_some.mp called
    obtain rfl := Option.some.inj posted
    exact ⟨startSession_coherent widens _ sessionId coherent proper,
      .inl (postIncomingMessage_control _ _ _ _)⟩
  | messageReceived sessionId message =>
    obtain ⟨member, posted⟩ := Option.ite_none_right_eq_some.mp called
    obtain rfl := Option.some.inj posted
    exact ⟨messageReceived_coherent sessionId message coherent member proper,
      .inl (postIncomingMessage_control _ _ _ _)⟩
  | endSession sessionId =>
    obtain ⟨member, posted⟩ := Option.ite_none_right_eq_some.mp called
    obtain rfl := Option.some.inj posted
    exact ⟨endSession_coherent widens sessionId coherent member,
      .inl (postIncomingMessage_control _ _ _ _)⟩
  | frontendMessageArrived =>
    obtain ⟨-, arrived⟩ := Option.ite_none_right_eq_some.mp called
    obtain rfl := Option.some.inj arrived
    rcases coherent.control with ⟨accepting, -⟩ | ⟨connected, -⟩
    · have accepting : agent.state = .kAccepting := accepting
      exact Stepped.same coherent (by simp [Agent.view, accepting, Agent.currentEntry])
    · exact absurd connected proper
  | runTask | runInterrupt | dispatchOnPause | dispatchAtStartup =>
    obtain ⟨-, entered⟩ := Option.ite_none_right_eq_some.mp called
    obtain rfl := Option.some.inj entered
    exact Stepped.same coherent (dispatchMessages_view _)
  | pauseOnStart =>
    obtain ⟨-, left⟩ := Option.ite_none_right_eq_some.mp called
    obtain rfl := Option.some.inj left
    split
    · exact Stepped.same coherent rfl
    · exact .inl rfl
  | swapBehindLock =>
    simp only [call] at called
    split at called
    · rename_i swapping
      obtain rfl := Option.some.inj called
      exact Stepped.same coherent (swapBehindLock_view swapping)
    all_goals cases called
  | nextEntry => exact nextEntry_stepped coherent called
  | finishEntry =>
    simp only [call] at called
    split at called
    · rename_i entry rest processing
      obtain rfl := Option.some.inj called
      have view : ({ agent with dispatch := .batch rest } : Agent).view =
          { agent.view with current := none } := by
        simp [Agent.view, Agent.currentEntry, processing, Dispatch.remaining]
      exact ⟨by rw [view]; exact coherent.between, .inl rfl⟩
    all_goals cases called
  | leaveDispatch =>
    simp only [call] at called
    split at called
    · rename_i leaving
      obtain rfl := Option.some.inj called
      apply Stepped.same coherent
      simp [Agent.view, Agent.currentEntry, leaving, Dispatch.remaining]
    all_goals cases called
  | sendMessageToFrontend message =>
    obtain ⟨-, sent⟩ := Option.ite_none_right_eq_some.mp called
    obtain rfl := Option.some.inj sent
    exact ⟨write_coherent message coherent, .inl rfl⟩
  | postTask | requestInterrupt | notifyMessageReceived | waitForDebugger =>
    obtain ⟨-, taken⟩ := Option.ite_none_right_eq_some.mp called
    obtain rfl := Option.some.inj taken
    exact Stepped.same coherent rfl

/-- An outcome a run of proper steps can have. -/
def Sound (exclusive : Bool) : Except Failure Agent → Prop
  | .ok agent => agent.view.Coherent exclusive
  | .error failure => failure = .nullSessionAtPause ∨
      exclusive = false ∧ failure = .checkFailed .kAccepting

theorem start_coherent : ({} : Agent).view.Coherent exclusive where
  running := rfl
  control := .inl ⟨rfl, rfl⟩
  honest := by simp [Agent.view, Dispatch.remaining]
  timeline := rfl
  current := fun _ impossible => by cases impossible
  dispatched := by simp [Agent.view]
  sent := by simp [Agent.view]

theorem run_sound (widens : WidensAscii multiByteToWideChar) {trace : List Action}
    {outcome : Except Failure Agent}
    (proper : (agentProgram multiByteToWideChar).Meets (Proper exclusive multiByteToWideChar)
      (agentProgram multiByteToWideChar).start trace)
    (ran : (agentProgram multiByteToWideChar).run trace = some outcome) :
    Sound exclusive outcome := by
  refine (Program.run_invariant (fun agent : Agent => agent.view.Coherent exclusive)
    (Sound exclusive) start_coherent (fun _ coherent => coherent) ?_ proper ran).1
  intro agent action reached coherent admitted called
  have stepped := call_stepped widens coherent admitted called
  cases reached with
  | error failure => exact ⟨stepped, fun _ impossible => by cases impossible⟩
  | ok next =>
    refine ⟨stepped.1, ?_⟩
    rintro _ ⟨⟩
    exact stepped.1

/-- When frontends attach one at a time, send no tag, and `waitForDebugger` meets
no connection, no check of the dispatch loop fails, and every message finds a
session. -/
theorem dispatch_never_aborts (widens : WidensAscii multiByteToWideChar) {trace : List Action}
    {outcome : Except Failure Agent}
    (proper : (agentProgram multiByteToWideChar).Meets (Proper true multiByteToWideChar)
      (agentProgram multiByteToWideChar).start trace)
    (ran : (agentProgram multiByteToWideChar).run trace = some outcome) :
    (∀ expected, outcome ≠ .error (.checkFailed expected)) ∧
      outcome ≠ .error .nullSessionAtDispatch := by
  have sound := run_sound widens proper ran
  constructor
  · rintro expected rfl
    simp [Sound] at sound
  · rintro rfl
    simp [Sound] at sound

/-- When no client sends a tag and `waitForDebugger` meets no connection, text
never changes the control state, and no message reaches another session. -/
theorem control_data_separated (widens : WidensAscii multiByteToWideChar) {trace : List Action}
    {agent : Agent}
    (proper : (agentProgram multiByteToWideChar).Meets (Proper false multiByteToWideChar)
      (agentProgram multiByteToWideChar).start trace)
    (ran : (agentProgram multiByteToWideChar).run trace = some (.ok agent)) :
    (∀ action next, Proper false multiByteToWideChar agent action →
        call multiByteToWideChar agent action = some (.ok next) → Separated agent action next) ∧
      (∀ entry sessionId, (entry, sessionId) ∈ agent.dispatched → entry.sessionId = sessionId) ∧
      ∀ message ∈ agent.sent, ∀ entry, message.during = some entry →
        message.sessionId = entry.sessionId := by
  have coherent : agent.view.Coherent false := run_sound widens proper ran
  refine ⟨?_, coherent.dispatched, coherent.sent⟩
  intro action next admitted called
  exact (call_stepped widens coherent admitted called).2

end

/-- Attach, ask, answer, detach, and the next frontend. -/
def oneAtATime : List Action :=
  [.startSession 0, .messageReceived 0 [0x7B], .postTask, .runTask, .swapBehindLock, .nextEntry,
    .finishEntry, .nextEntry, .sendMessageToFrontend [0x7D], .finishEntry, .nextEntry,
    .endSession 0, .swapBehindLock, .nextEntry, .finishEntry, .startSession 1]

theorem oneAtATime_never_aborts :
    ∃ agent, (agentProgram asciiToWideChar).run oneAtATime = some (.ok agent) ∧
      ∀ outcome, (agentProgram asciiToWideChar).run oneAtATime = some outcome →
        outcome ≠ .error .nullSessionAtDispatch :=
  ⟨_, rfl, fun _ ran => (dispatch_never_aborts asciiToWideChar_widens (by decide) ran).2⟩

theorem oneAtATime_separated :
    ∃ agent, (agentProgram asciiToWideChar).run oneAtATime = some (.ok agent) ∧
      agent.sent.length = 1 ∧ ∀ message ∈ agent.sent, ∀ entry, message.during = some entry →
        message.sessionId = entry.sessionId := by
  obtain ⟨agent, ran, sent⟩ : ∃ agent,
      (agentProgram asciiToWideChar).run oneAtATime = some (.ok agent) ∧ agent.sent.length = 1 :=
    ⟨_, rfl, rfl⟩
  exact ⟨agent, ran, sent, (control_data_separated asciiToWideChar_widens (by decide) ran).2.2⟩

/-- A second frontend, or a client that writes a tag as its text, fails a check. -/
theorem second_frontend_or_tag_aborts :
    (agentProgram asciiToWideChar).run
        [.startSession 0, .startSession 1, .postTask, .runTask, .swapBehindLock, .nextEntry,
          .finishEntry, .nextEntry] = some (.error (.checkFailed .kAccepting)) ∧
      (agentProgram asciiToWideChar).run
        [.startSession 0, .messageReceived 0 tagConnect, .postTask, .runTask, .swapBehindLock,
          .nextEntry, .finishEntry, .nextEntry] = some (.error (.checkFailed .kAccepting)) :=
  ⟨rfl, rfl⟩

/-- A client that writes "#disconnect" ends the V8 session by the text of a frame. -/
theorem text_closes_session :
    ∃ agent next entry, (agentProgram asciiToWideChar).run
        [.startSession 0, .messageReceived 0 tagDisconnect, .postTask, .runTask, .swapBehindLock,
          .nextEntry, .finishEntry] = some (.ok agent) ∧
      agent.dispatch = .batch [entry] ∧ entry.origin = .messageReceived ∧
      call asciiToWideChar agent .nextEntry = some (.ok next) ∧
      agent.control = (.kConnected, 0, true) ∧ next.control = (.kAccepting, 0, false) ∧
      ¬ Separated agent .nextEntry next := by
  refine ⟨_, _, _, rfl, rfl, rfl, rfl, rfl, rfl, ?_⟩
  rintro (same | ⟨-, entry, rest, batch, control, -⟩)
  · revert same
    decide
  · cases batch
    exact control rfl

end V8Jsi.AgentDispatch
