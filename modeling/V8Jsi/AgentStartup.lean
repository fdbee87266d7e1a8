import V8Jsi.AgentDispatch

set_option autoImplicit false

/- `waitForDebugger` of inspector_agent.cpp: the loop at the start of a program that
dispatches messages until the debugger tells it to go on. -/
namespace V8Jsi.AgentStartup

open AgentDispatch (Action Agent Dispatch Entry Failure tagOf)
open SocketServer (tagConnect tagDisconnect)
open Runs

/-- The agent, and what the loop found when it was entered: how many messages had been
dispatched, and whether `waiting_for_frontend_` was set. -/
structure Startup where
  agent : Agent := {}
  dispatchedBefore : Nat := 0
  enteredWaiting : Bool := false
  deriving DecidableEq, Repr

def Startup.after (startup : Startup) (action : Action) (agent : Agent) : Startup :=
  if action = .frontendMessageArrived then
    { agent
      dispatchedBefore := agent.dispatched.length
      enteredWaiting := agent.waitingForFrontend }
  else { startup with agent }

/-- The message contains "Runtime.runIfWaitingForDebugger". -/
def isCommand (entry : Entry) : Bool :=
  decide (AgentDispatch.runIfWaitingForDebugger <:+: InspectorUtils.utf16toUTF8 entry.message)

/-- The entry is neither of the two tags. -/
def isProtocolMessage (entry : Entry) : Bool :=
  tagOf entry.message ≠ tagConnect && tagOf entry.message ≠ tagDisconnect

/-- Messages dispatched since the loop was entered. -/
def Startup.dispatched (startup : Startup) : List Entry :=
  (startup.agent.dispatched.drop startup.dispatchedBefore).map Prod.fst

/-- In the loop the flag is set until the command has been dispatched; and the loop is
left with a frontend connected. -/
def EndsOnCommand : Except Failure Startup → Prop
  | .ok startup => startup.agent.startup = .looping → startup.enteredWaiting = true →
      (startup.agent.waitingForFrontend = true ↔
        ∀ entry ∈ startup.dispatched, isCommand entry = false)
  | .error reason => reason ≠ .nullSessionAtPause

/-- The entry that the loop over `tasks` takes next. -/
def upcoming : Dispatch → Option Entry
  | .batch (entry :: _) => some entry
  | .batch [] | .idle | .swapping | .processing _ _ | .leaving => none

/-- A frontend gets no message while the loop waits, and the loop is entered waiting or
with a frontend connected. -/
def Quiet (startup : Startup) : Action → Prop
  | .nextEntry =>
      startup.agent.startup = .looping → startup.agent.waitingForFrontend = true →
        startup.agent.session = true →
        ∀ entry ∈ upcoming startup.agent.dispatch, isProtocolMessage entry = false
  | .frontendMessageArrived =>
      startup.agent.waitingForFrontend = true ∨ startup.agent.session = true
  | .startSession _ | .messageReceived _ _ | .endSession _ | .postTask | .requestInterrupt
  | .notifyMessageReceived | .runTask | .runInterrupt | .dispatchOnPause | .waitForDebugger
  | .dispatchAtStartup | .pauseOnStart | .swapBehindLock | .finishEntry | .leaveDispatch
  | .sendMessageToFrontend _ => True

section

variable (multiByteToWideChar : List UInt8 → Option (List UInt16))

def call (startup : Startup) (action : Action) : Option (Except Failure Startup) :=
  (AgentDispatch.call multiByteToWideChar startup.agent action).map fun outcome =>
    outcome.map (startup.after action)

def startupProgram : Program Startup Action Failure where
  start := {}
  call := call multiByteToWideChar

end

/-! ## What a step changes -/

/-- The members that waiting depends on. -/
structure Unchanged (agent next : Agent) : Prop where
  startup : next.startup = agent.startup
  waitingForFrontend : next.waitingForFrontend = agent.waitingForFrontend
  session : next.session = agent.session
  dispatched : next.dispatched = agent.dispatched

/-- A step of the agent as the loop at startup sees it. -/
inductive Stepped (agent next : Agent) : Action → Prop
  | waits (idle : agent.dispatch = .idle) (eq : next = { agent with startup := .waiting }) :
      Stepped agent next .waitForDebugger
  | enters (waiting : agent.startup = .waiting)
      (eq : next = { agent with state := .kAccepting, startup := .looping }) :
      Stepped agent next .frontendMessageArrived
  | leaves (eq : next = { agent with startup := .none }) : Stepped agent next .pauseOnStart
  | takes (entry : Entry) (rest : List Entry) (batch : agent.dispatch = .batch (entry :: rest))
      (processed : { agent with
        processed := agent.processed ++ [entry]
        dispatch := .processing entry rest }.processEntry entry = .ok next) :
      Stepped agent next .nextEntry
  | moves {action : Action} (entering : action ≠ .frontendMessageArrived)
      (unchanged : Unchanged agent next)
      (starts : agent.dispatch = .idle → next.dispatch = .idle ∨ agent.startup = .none ∨
        agent.startup = .looping ∧ agent.waitingForFrontend = true) :
      Stepped agent next action

theorem dispatchMessages_unchanged {agent woken : Agent} (unchanged : Unchanged agent woken) :
    Unchanged agent woken.dispatchMessages := by
  unfold Agent.dispatchMessages
  split
  · exact ⟨unchanged.startup, unchanged.waitingForFrontend, unchanged.session,
      unchanged.dispatched⟩
  · exact unchanged

theorem inScript_idle {agent : Agent} (script : agent.inScript = true)
    (idle : agent.dispatch = .idle) : agent.startup = .none := by
  unfold Agent.inScript at script
  rw [idle] at script
  exact eq_of_beq script

section

variable {multiByteToWideChar : List UInt8 → Option (List UInt16)}

theorem postIncomingMessage_unchanged (agent : Agent) (sessionId : Nat) (message : List UInt8)
    (origin : AgentDispatch.Origin) :
    Unchanged agent
        (AgentDispatch.postIncomingMessage multiByteToWideChar agent sessionId message origin) ∧
      (AgentDispatch.postIncomingMessage multiByteToWideChar agent sessionId message
        origin).dispatch = agent.dispatch := by
  unfold AgentDispatch.postIncomingMessage
  split
  · exact ⟨⟨rfl, rfl, rfl, rfl⟩, rfl⟩
  · unfold Agent.appendMessage
    simp only
    split
    · exact ⟨⟨rfl, rfl, rfl, rfl⟩, rfl⟩
    · exact ⟨⟨rfl, rfl, rfl, rfl⟩, rfl⟩

theorem Stepped.posts {agent woken : Agent} {action : Action} (sessionId : Nat)
    (message : List UInt8) (origin : AgentDispatch.Origin)
    (entering : action ≠ .frontendMessageArrived) (unchanged : Unchanged agent woken)
    (dispatch : woken.dispatch = agent.dispatch) :
    Stepped agent
      (AgentDispatch.postIncomingMessage multiByteToWideChar woken sessionId message origin)
      action := by
  obtain ⟨⟨startup, waiting, session, dispatched⟩, same⟩ :=
    @postIncomingMessage_unchanged multiByteToWideChar woken sessionId message origin
  refine .moves entering ⟨startup.trans unchanged.startup,
    waiting.trans unchanged.waitingForFrontend, session.trans unchanged.session,
    dispatched.trans unchanged.dispatched⟩ fun idle => ?_
  exact .inl (same.trans (dispatch.trans idle))

theorem call_stepped {agent next : Agent} {action : Action}
    (called : AgentDispatch.call multiByteToWideChar agent action = some (.ok next)) :
    Stepped agent next action := by
  cases action with
  | startSession sessionId =>
    obtain ⟨-, rfl⟩ := Program.guard_inv called
    exact .posts sessionId _ _ (by simp) ⟨rfl, rfl, rfl, rfl⟩ rfl
  | messageReceived sessionId message =>
    obtain ⟨-, rfl⟩ := Program.guard_inv called
    exact .posts sessionId _ _ (by simp) ⟨rfl, rfl, rfl, rfl⟩ rfl
  | endSession sessionId =>
    obtain ⟨-, rfl⟩ := Program.guard_inv called
    exact .posts sessionId _ _ (by simp) ⟨rfl, rfl, rfl, rfl⟩ rfl
  | postTask | requestInterrupt | notifyMessageReceived | sendMessageToFrontend message =>
    obtain ⟨-, rfl⟩ := Program.guard_inv called
    exact .moves (by simp) ⟨rfl, rfl, rfl, rfl⟩ fun idle => .inl idle
  | runTask | runInterrupt =>
    obtain ⟨⟨script, -⟩, rfl⟩ := Program.guard_inv called
    exact .moves (by simp) (dispatchMessages_unchanged ⟨rfl, rfl, rfl, rfl⟩) fun idle =>
      .inr (.inl (inScript_idle script idle))
  | dispatchOnPause =>
    obtain ⟨script, rfl⟩ := Program.guard_inv called
    exact .moves (by simp) (dispatchMessages_unchanged ⟨rfl, rfl, rfl, rfl⟩) fun idle =>
      .inr (.inl (inScript_idle script idle))
  | waitForDebugger =>
    obtain ⟨⟨idle, -⟩, rfl⟩ := Program.guard_inv called
    exact .waits idle rfl
  | frontendMessageArrived =>
    obtain ⟨⟨waiting, -⟩, rfl⟩ := Program.guard_inv called
    exact .enters waiting rfl
  | dispatchAtStartup =>
    obtain ⟨⟨looping, -, waiting⟩, rfl⟩ := Program.guard_inv called
    exact .moves (by simp) (dispatchMessages_unchanged ⟨rfl, rfl, rfl, rfl⟩) fun idle =>
      .inr (.inr ⟨looping, waiting⟩)
  | pauseOnStart =>
    obtain ⟨-, taken⟩ := Option.ite_none_right_eq_some.mp called
    split at taken
    · exact .leaves (Except.ok.inj (Option.some.inj taken)).symm
    · cases taken
  | swapBehindLock | finishEntry | leaveDispatch =>
    simp only [AgentDispatch.call] at called
    split at called
    · rename_i at_
      obtain rfl := Except.ok.inj (Option.some.inj called)
      exact .moves (by simp) ⟨rfl, rfl, rfl, rfl⟩ fun idle => by
        rw [at_] at idle
        cases idle
    all_goals cases called
  | nextEntry =>
    simp only [AgentDispatch.call] at called
    split at called
    · rename_i entry rest batch
      exact .takes entry rest batch (Option.some.inj called)
    · rename_i batch
      obtain rfl := Except.ok.inj (Option.some.inj called)
      exact .moves (by simp) ⟨rfl, rfl, rfl, rfl⟩ fun idle => by
        rw [batch] at idle
        cases idle
    all_goals cases called

/-- An entry may find no session, but never at the pause. -/
theorem processEntry_not_pause {agent : Agent} {entry : Entry} :
    agent.processEntry entry ≠ .error .nullSessionAtPause := by
  intro lost
  unfold Agent.processEntry Agent.dispatchMessageFromFrontend at lost
  simp only at lost
  split at lost
  · split at lost
    all_goals cases lost
  · split at lost
    · split at lost
      all_goals cases lost
    · split at lost
      all_goals cases lost

theorem call_pauseLost {agent : Agent} {action : Action}
    (called : AgentDispatch.call multiByteToWideChar agent action =
      some (.error .nullSessionAtPause)) :
    agent.startup = .looping ∧ agent.waitingForFrontend = false ∧ agent.session = false := by
  obtain ⟨_, _, -, -, lost⟩ | ⟨-, looping, -, passed, absent, -⟩ :=
    AgentDispatch.call_error_inv called
  · exact absurd lost processEntry_not_pause
  · exact ⟨looping, passed, absent⟩

end

/-- The two tags change the session and the state, and nothing the loop waits for. -/
theorem processEntry_tag {agent next : Agent} {entry : Entry}
    (tag : isProtocolMessage entry = false) (ok : agent.processEntry entry = .ok next) :
    next.startup = agent.startup ∧ next.waitingForFrontend = agent.waitingForFrontend ∧
      next.dispatched = agent.dispatched := by
  unfold Agent.processEntry at ok
  by_cases connect : tagOf entry.message = tagConnect
  · rw [if_pos connect] at ok
    split at ok
    · obtain rfl := Except.ok.inj ok
      exact ⟨rfl, rfl, rfl⟩
    · cases ok
  · rw [if_neg connect] at ok
    have disconnect : tagOf entry.message = tagDisconnect := by
      by_contra other
      simp [isProtocolMessage, connect, other] at tag
    rw [if_pos disconnect] at ok
    split at ok
    · obtain rfl := Except.ok.inj ok
      exact ⟨rfl, rfl, rfl⟩
    · cases ok

/-- A message goes to the session, and clears the flag unless it is the command. -/
theorem processEntry_message {agent next : Agent} {entry : Entry}
    (message : isProtocolMessage entry = true) (ok : agent.processEntry entry = .ok next) :
    agent.session = true ∧ next.startup = agent.startup ∧
      next.waitingForFrontend = (agent.waitingForFrontend && isCommand entry) ∧
      next.dispatched = agent.dispatched ++ [(entry, agent.sessionId)] := by
  have apart : tagOf entry.message ≠ tagConnect ∧ tagOf entry.message ≠ tagDisconnect := by
    simpa [isProtocolMessage] using message
  unfold Agent.processEntry at ok
  rw [if_neg apart.1, if_neg apart.2] at ok
  unfold Agent.dispatchMessageFromFrontend at ok
  simp only at ok
  split at ok
  · rename_i present
    obtain rfl := Except.ok.inj ok
    exact ⟨present, rfl, rfl, rfl⟩
  · cases ok

/-! ## Quiet runs -/

/-- The loop waits and nothing has been dispatched, or it never waited. -/
structure Undisturbed (startup : Startup) : Prop where
  idle : startup.agent.startup = .waiting → startup.agent.dispatch = .idle
  looping : startup.agent.startup = .looping →
    startup.agent.waitingForFrontend = true ∧ startup.enteredWaiting = true ∧
        startup.agent.dispatched.length = startup.dispatchedBefore ∨
      startup.agent.waitingForFrontend = false ∧ startup.enteredWaiting = false ∧
        startup.agent.session = true ∧ startup.agent.dispatch = .idle

theorem Undisturbed.ends {startup : Startup} (inv : Undisturbed startup) :
    EndsOnCommand (.ok startup) := by
  intro looping entered
  rcases inv.looping looping with ⟨waiting, -, none⟩ | ⟨-, passed, -, -⟩
  · refine iff_of_true waiting fun entry member => ?_
    rw [Startup.dispatched, ← none, List.drop_length] at member
    simp at member
  · rw [entered] at passed
    cases passed

/-- Steps that leave the flag, the session and the messages alone. -/
theorem Undisturbed.unchanged {startup : Startup} {agent : Agent} (inv : Undisturbed startup)
    (unchanged : Unchanged startup.agent agent)
    (starts : startup.agent.dispatch = .idle → agent.dispatch = .idle ∨
      startup.agent.startup = .none ∨
      startup.agent.startup = .looping ∧ startup.agent.waitingForFrontend = true) :
    Undisturbed { startup with agent } := by
  constructor
  · intro waiting
    have before : startup.agent.startup = .waiting := unchanged.startup.symm.trans waiting
    rcases starts (inv.idle before) with idle | none | ⟨looping, -⟩
    · exact idle
    · rw [before] at none
      cases none
    · rw [before] at looping
      cases looping
  · intro looping
    have before : startup.agent.startup = .looping := unchanged.startup.symm.trans looping
    have flag := unchanged.waitingForFrontend
    rcases inv.looping before with ⟨waiting, entered, none⟩ | ⟨passed, entered, session, idle⟩
    · refine .inl ⟨flag.trans waiting, entered, ?_⟩
      rw [← none, ← unchanged.dispatched]
    · refine .inr ⟨flag.trans passed, entered, unchanged.session.trans session, ?_⟩
      rcases starts idle with idle | none | ⟨-, waiting⟩
      · exact idle
      · rw [before] at none
        cases none
      · rw [passed] at waiting
        cases waiting

theorem after_other {startup : Startup} {action : Action} {agent : Agent}
    (other : action ≠ .frontendMessageArrived) :
    startup.after action agent = { startup with agent } := if_neg other

theorem Undisturbed.step {startup : Startup} {action : Action} {agent : Agent}
    (inv : Undisturbed startup) (quiet : Quiet startup action)
    (stepped : Stepped startup.agent agent action) :
    Undisturbed (startup.after action agent) := by
  cases stepped with
  | waits idle eq =>
    subst eq
    rw [after_other (by simp)]
    exact ⟨fun _ => idle, fun looping => by cases looping⟩
  | enters waiting eq =>
    subst eq
    rw [Startup.after, if_pos rfl]
    refine ⟨fun again => (by cases again), fun _ => ?_⟩
    cases flag : startup.agent.waitingForFrontend with
    | true => exact .inl ⟨rfl, rfl, rfl⟩
    | false =>
      have session : startup.agent.session = true := by
        rcases quiet with set | present
        · rw [flag] at set
          cases set
        · exact present
      exact .inr ⟨rfl, rfl, session, inv.idle waiting⟩
  | leaves eq =>
    subst eq
    rw [after_other (by simp)]
    exact ⟨fun waiting => (by cases waiting), fun looping => (by cases looping)⟩
  | moves entering unchanged starts =>
    rw [after_other entering]
    exact inv.unchanged unchanged starts
  | takes entry rest batch processed =>
    rw [after_other (by simp)]
    have kept : agent.startup = startup.agent.startup := by
      cases message : isProtocolMessage entry with
      | false => exact (processEntry_tag message processed).1
      | true => exact (processEntry_message message processed).2.1
    constructor
    · intro waiting
      have idle := inv.idle (kept.symm.trans waiting)
      rw [batch] at idle
      cases idle
    · intro looping
      have before : startup.agent.startup = .looping := kept.symm.trans looping
      rcases inv.looping before with ⟨waiting, entered, none⟩ | ⟨-, -, -, idle⟩
      · have tag : isProtocolMessage entry = false := by
          by_contra other
          have message : isProtocolMessage entry = true := by simpa using other
          obtain ⟨session, -⟩ := processEntry_message message processed
          have barred := quiet before waiting session entry (by rw [batch]; rfl)
          rw [message] at barred
          cases barred
        obtain ⟨-, flag, dispatched⟩ := processEntry_tag tag processed
        refine .inl ⟨flag.trans waiting, entered, ?_⟩
        rw [← none, show agent.dispatched = startup.agent.dispatched from dispatched]
      · rw [batch] at idle
        cases idle

section

variable {multiByteToWideChar : List UInt8 → Option (List UInt16)}

theorem call_undisturbed (startup : Startup) (action : Action) (outcome : Except Failure Startup)
    (inv : Undisturbed startup) (quiet : Quiet startup action)
    (called : call multiByteToWideChar startup action = some outcome) :
    EndsOnCommand outcome ∧ ∀ next, outcome = .ok next → Undisturbed next := by
  obtain ⟨result, stepped, rfl⟩ := Option.map_eq_some_iff.mp called
  cases result with
  | ok agent =>
    have kept := inv.step quiet (call_stepped stepped)
    refine ⟨kept.ends, ?_⟩
    rintro next ⟨⟩
    exact kept
  | error reason =>
    refine ⟨?_, fun next impossible => by cases impossible⟩
    rintro rfl
    obtain ⟨looping, passed, absent⟩ := call_pauseLost stepped
    rcases inv.looping looping with ⟨waiting, -⟩ | ⟨-, -, session, -⟩
    · rw [passed] at waiting
      cases waiting
    · rw [absent] at session
      cases session

theorem start_undisturbed : Undisturbed (startupProgram multiByteToWideChar).start :=
  ⟨fun waiting => (by cases waiting), fun looping => (by cases looping)⟩

/-- The first message that the loop dispatches decides the flag the wrong way round. -/
theorem message_disturbs {startup : Startup} {outcome : Except Failure Startup}
    (inv : Undisturbed startup) (loud : ¬ Quiet startup .nextEntry)
    (called : call multiByteToWideChar startup .nextEntry = some outcome) :
    ¬ EndsOnCommand outcome := by
  unfold Quiet at loud
  push Not at loud
  obtain ⟨looping, waiting, session, entry, next, message⟩ := loud
  have message : isProtocolMessage entry = true := by simpa using message
  obtain ⟨rest, batch⟩ : ∃ rest, startup.agent.dispatch = .batch (entry :: rest) := by
    unfold upcoming at next
    split at next
    · rename_i first rest batch
      obtain rfl := Option.some.inj next
      exact ⟨rest, batch⟩
    all_goals cases next
  obtain ⟨result, stepped, rfl⟩ := Option.map_eq_some_iff.mp called
  simp only [AgentDispatch.call, batch, Option.some.injEq] at stepped
  obtain ⟨agent, rfl⟩ : ∃ agent, result = .ok agent := by
    have apart : tagOf entry.message ≠ tagConnect ∧ tagOf entry.message ≠ tagDisconnect := by
      simpa [isProtocolMessage] using message
    rw [← stepped, Agent.processEntry, if_neg apart.1, if_neg apart.2,
      Agent.dispatchMessageFromFrontend]
    simp [session]
  obtain ⟨-, kept, flag, dispatched⟩ := processEntry_message message stepped
  rcases inv.looping looping with ⟨-, entered, none⟩ | ⟨passed, -, -, -⟩
  · intro ends
    have exactly := ends (kept.trans looping) entered
    have since : (startup.after .nextEntry agent).dispatched = [entry] := by
      rw [after_other (by simp), Startup.dispatched, ← none, dispatched, List.drop_left]
      rfl
    rw [since] at exactly
    have clears : (startup.after .nextEntry agent).agent.waitingForFrontend = isCommand entry := by
      rw [after_other (by simp)]
      exact flag.trans (by rw [waiting, Bool.true_and])
    rw [clears] at exactly
    cases command : isCommand entry with
    | true => simp [command] at exactly
    | false => simp [command] at exactly
  · rw [passed] at waiting
    cases waiting

/-- A loop that is entered without a wait and without a session has nothing to pause. -/
theorem entry_disturbs {startup : Startup} {outcome : Except Failure Startup}
    (inv : Undisturbed startup) (loud : ¬ Quiet startup .frontendMessageArrived)
    (called : call multiByteToWideChar startup .frontendMessageArrived = some outcome) :
    (startupProgram multiByteToWideChar).exec outcome [.pauseOnStart] =
      some (.error .nullSessionAtPause) := by
  unfold Quiet at loud
  push Not at loud
  obtain ⟨passed, absent⟩ := loud
  obtain ⟨result, stepped, rfl⟩ := Option.map_eq_some_iff.mp called
  obtain ⟨⟨waiting, queued⟩, entered⟩ := Option.ite_none_right_eq_some.mp stepped
  obtain rfl := Option.some.inj entered
  have idle := inv.idle waiting
  have flag : startup.agent.waitingForFrontend = false := by simpa using passed
  have session : startup.agent.session = false := by simpa using absent
  simp [Except.map, Startup.after, startupProgram, call, AgentDispatch.call, idle, flag, session]

end

/-- In every quiet run the loop waits for the command and is left with a frontend; the
first step that is not quiet leads to a state where it does not. -/
theorem quiet_wait_ends_on_command (multiByteToWideChar : List UInt8 → Option (List UInt16))
    (trace : List Action) (outcome : Except Failure Startup)
    (ran : (startupProgram multiByteToWideChar).run trace = some outcome)
    (quiet : (startupProgram multiByteToWideChar).Meets Quiet
      (startupProgram multiByteToWideChar).start trace) :
    EndsOnCommand outcome ∧
      ∀ startup action next, outcome = .ok startup → ¬ Quiet startup action →
        call multiByteToWideChar startup action = some next →
        ∃ more last, (startupProgram multiByteToWideChar).exec next more = some last ∧
          ¬ EndsOnCommand last := by
  obtain ⟨ends, kept⟩ := Program.run_invariant Undisturbed EndsOnCommand start_undisturbed
    (fun _ inv => inv.ends) call_undisturbed quiet ran
  refine ⟨ends, ?_⟩
  rintro startup action next rfl loud called
  have inv := kept startup rfl
  cases action with
  | nextEntry => exact ⟨[], next, Program.exec_nil next, message_disturbs inv loud called⟩
  | frontendMessageArrived =>
    exact ⟨[.pauseOnStart], _, entry_disturbs inv loud called, fun ends => ends rfl⟩
  | startSession _ | messageReceived _ _ | endSession _ | postTask | requestInterrupt
  | notifyMessageReceived | runTask | runInterrupt | dispatchOnPause | waitForDebugger
  | dispatchAtStartup | pauseOnStart | swapBehindLock | finishEntry | leaveDispatch
  | sendMessageToFrontend _ => exact absurd trivial loud

instance (startup : Startup) (action : Action) : Decidable (Quiet startup action) :=
  match action with
  | .nextEntry => inferInstanceAs (Decidable (_ → _ → _ → ∀ _ ∈ upcoming _, _))
  | .frontendMessageArrived => inferInstanceAs (Decidable (_ ∨ _))
  | .startSession _ | .messageReceived _ _ | .endSession _ | .postTask | .requestInterrupt
  | .notifyMessageReceived | .runTask | .runInterrupt | .dispatchOnPause | .waitForDebugger
  | .dispatchAtStartup | .pauseOnStart | .swapBehindLock | .finishEntry | .leaveDispatch
  | .sendMessageToFrontend _ => .isTrue trivial

/-- A frontend connects while the program waits. -/
def connecting : List Action :=
  [.waitForDebugger, .startSession 0, .frontendMessageArrived, .dispatchAtStartup,
    .swapBehindLock, .nextEntry, .finishEntry, .nextEntry, .swapBehindLock, .leaveDispatch]

theorem connecting_ends_on_command :
    ∃ outcome, (startupProgram InspectorUtils.asciiToWideChar).run connecting = some outcome ∧
      EndsOnCommand outcome :=
  ⟨_, rfl, (quiet_wait_ends_on_command InspectorUtils.asciiToWideChar connecting _ rfl
    (by decide)).1⟩

/-- A connected frontend sends a message. -/
def sending (message : List UInt8) : List Action :=
  [.waitForDebugger, .startSession 0, .messageReceived 0 message, .frontendMessageArrived,
    .dispatchAtStartup, .swapBehindLock, .nextEntry, .finishEntry, .nextEntry, .finishEntry]

/-- The same frontend then leaves, in the same batch. -/
def leavingAtOnce : List Action :=
  [.waitForDebugger, .startSession 0, .messageReceived 0 [0x7B], .endSession 0,
    .frontendMessageArrived, .dispatchAtStartup, .swapBehindLock, .nextEntry, .finishEntry,
    .nextEntry, .finishEntry, .nextEntry, .finishEntry, .nextEntry, .swapBehindLock,
    .leaveDispatch, .pauseOnStart]

/-- Any other message ends the wait, the command does not, and a frontend that has
already left is paused. -/
theorem wait_ends_without_command :
    (∃ startup, (startupProgram InspectorUtils.asciiToWideChar).run (sending [0x7B]) =
        some (.ok startup) ∧ startup.agent.waitingForFrontend = false ∧
        (∀ entry ∈ startup.dispatched, isCommand entry = false) ∧ ¬ EndsOnCommand (.ok startup)) ∧
    (∃ startup, (startupProgram InspectorUtils.asciiToWideChar).run
          (sending AgentDispatch.runIfWaitingForDebugger) = some (.ok startup) ∧
        startup.agent.waitingForFrontend = true ∧
        (∃ entry ∈ startup.dispatched, isCommand entry = true) ∧ ¬ EndsOnCommand (.ok startup)) ∧
    (startupProgram InspectorUtils.asciiToWideChar).run leavingAtOnce =
      some (.error .nullSessionAtPause) := by
  refine ⟨⟨_, rfl, by decide, by decide, fun ends => ?_⟩,
    ⟨_, rfl, by decide, by decide, fun ends => ?_⟩, by decide⟩
  · exact absurd (ends rfl rfl) (by decide)
  · exact absurd (ends rfl rfl) (by decide)

end V8Jsi.AgentStartup
