import V8Jsi.AgentQueue
import V8Jsi.FrameText

set_option autoImplicit false

/- The way of a text of the debugger to V8: the read loop and `WsHandler::OnWsFrame` of
inspector_tcp.cpp and inspector_socket.cpp, `PostIncomingMessage` and `DispatchMessages` of
inspector_agent.cpp, which any number of connections share. -/
namespace V8Jsi.WireCommands

open AgentDispatch InspectorSocket InspectorUtils Runs Unicode WsFrame
open Connection (converts)
open SocketServer (tagConnect tagDisconnect)

/-- What `MultiByteToWideChar` makes of well-formed UTF-8. -/
def Decodes (multiByteToWideChar : List UInt8 → Option (List UInt16)) : Prop :=
  ∀ text : List Char, text ≠ [] → multiByteToWideChar (utf8Encode text) = some (utf16Encode text)

/-- The entry changes the state of the agent instead of going to V8. -/
def isControl (message : List UInt16) : Bool :=
  tagOf message = tagConnect || tagOf message = tagDisconnect

/-- What a run hands to the agent from one session. -/
def received (sessionId : Nat) : List AgentDispatch.Action → List (List UInt8)
  | [] => []
  | .messageReceived other message :: rest =>
      if other = sessionId then message :: received sessionId rest else received sessionId rest
  | _ :: rest => received sessionId rest

/-- The entries of a session that are for V8. -/
def commands (sessionId : Nat) (entries : List Entry) : List (List UInt16) :=
  (entries.filter fun entry => entry.sessionId = sessionId && !isControl entry.message).map
    (·.message)

/-- What V8 has been given from a session. -/
def dispatchedFrom (sessionId : Nat) (agent : Agent) : List (List UInt16) :=
  (agent.dispatched.filter fun (entry, _) => entry.sessionId = sessionId).map (·.1.message)

section

variable {multiByteToWideChar : List UInt8 → Option (List UInt16)}

/-! ## Texts -/

theorem utf8ToUtf16_decodes (decodes : Decodes multiByteToWideChar) {text : List Char}
    (short : (utf8Encode text).length ≤ intMax) :
    utf8ToUtf16 multiByteToWideChar (utf8Encode text) = .ok (utf16Encode text) := by
  by_cases empty : text = []
  · subst empty
    rfl
  · have present : (utf8Encode text).length ≠ 0 := by
      intro none
      cases text with
      | nil => exact empty rfl
      | cons char rest =>
        rw [utf8Encode_cons, List.length_append, String.length_utf8EncodeChar] at none
        exact absurd none (Nat.ne_of_gt (Nat.add_pos_left char.utf8Size_pos _))
    rw [utf8ToUtf16, if_neg present, if_neg (Nat.not_lt.mpr short), decodes text empty]
    cases units : utf16Encode text with
    | nil => exact absurd units (utf16Encode_ne_nil empty)
    | cons unit rest => rfl

theorem tagConnect_decodes (decodes : Decodes multiByteToWideChar) :
    ∃ units, utf8ToUtf16 multiByteToWideChar tagConnect = .ok units ∧ isControl units = true := by
  have encoded : utf8Encode ['#', 'c', 'o', 'n', 'n', 'e', 'c', 't'] = tagConnect := by
    decide +kernel
  refine ⟨_, ?_, show isControl (utf16Encode ['#', 'c', 'o', 'n', 'n', 'e', 'c', 't']) = true by
    decide +kernel⟩
  rw [← encoded]
  exact utf8ToUtf16_decodes decodes (by rw [encoded]; decide)

theorem tagDisconnect_decodes (decodes : Decodes multiByteToWideChar) :
    ∃ units, utf8ToUtf16 multiByteToWideChar tagDisconnect = .ok units ∧
      isControl units = true := by
  let text := ['#', 'd', 'i', 's', 'c', 'o', 'n', 'n', 'e', 'c', 't']
  have encoded : utf8Encode text = tagDisconnect := by decide +kernel
  refine ⟨_, ?_, show isControl (utf16Encode text) = true by decide +kernel⟩
  rw [← encoded]
  exact utf8ToUtf16_decodes decodes (by rw [encoded]; decide)

/-! ## The queue -/

variable (multiByteToWideChar) in
/-- The entry that `PostIncomingMessage` appends. -/
def entryOf (sessionId : Nat) (message : List UInt8) (origin : Origin) : List Entry :=
  match utf8ToUtf16 multiByteToWideChar message with
  | .error _ => []
  | .ok units => [⟨sessionId, units, origin⟩]

variable (multiByteToWideChar) in
def posts : AgentDispatch.Action → List Entry
  | .startSession sessionId => entryOf multiByteToWideChar sessionId tagConnect .startSession
  | .messageReceived sessionId message =>
      entryOf multiByteToWideChar sessionId message .messageReceived
  | .endSession sessionId => entryOf multiByteToWideChar sessionId tagDisconnect .endSession
  | _ => []

variable (multiByteToWideChar) in
/-- What V8 is to be given for a message. -/
def commandOf (message : List UInt8) : List (List UInt16) :=
  match utf8ToUtf16 multiByteToWideChar message with
  | .error _ => []
  | .ok units => if isControl units then [] else [units]

@[simp] theorem commands_append (sessionId : Nat) (entries more : List Entry) :
    commands sessionId (entries ++ more) =
      commands sessionId entries ++ commands sessionId more := by
  simp [commands]

theorem commands_entryOf_control {sessionId other : Nat} {message : List UInt8} {origin : Origin}
    (control : ∃ units, utf8ToUtf16 multiByteToWideChar message = .ok units ∧
      isControl units = true) :
    commands sessionId (entryOf multiByteToWideChar other message origin) = [] := by
  obtain ⟨units, converted, control⟩ := control
  simp [commands, entryOf, converted, control]

theorem commands_posts (decodes : Decodes multiByteToWideChar) (sessionId : Nat)
    (action : AgentDispatch.Action) :
    commands sessionId (posts multiByteToWideChar action) =
      (received sessionId [action]).flatMap (commandOf multiByteToWideChar) := by
  cases action with
  | startSession other => exact commands_entryOf_control (tagConnect_decodes decodes)
  | endSession other => exact commands_entryOf_control (tagDisconnect_decodes decodes)
  | messageReceived other message =>
    rw [posts, entryOf]
    by_cases same : other = sessionId
    · cases converted : utf8ToUtf16 multiByteToWideChar message with
      | error reason => simp [commands, received, same, commandOf, converted]
      | ok units =>
        cases control : isControl units <;>
          simp [commands, received, same, commandOf, converted, control]
    · cases converted : utf8ToUtf16 multiByteToWideChar message with
      | error reason => simp [commands, received, same]
      | ok units => simp [commands, received, same]
  | _ => rfl

theorem appendMessage_posted (agent : Agent) (entry : Entry) :
    (agent.appendMessage entry).posted = agent.posted ++ [entry] ∧
      (agent.appendMessage entry).processed = agent.processed ∧
      (agent.appendMessage entry).dispatched = agent.dispatched := by
  unfold Agent.appendMessage
  simp only
  split <;> exact ⟨rfl, rfl, rfl⟩

variable (multiByteToWideChar) in
theorem postIncomingMessage_posted (agent : Agent) (sessionId : Nat) (message : List UInt8)
    (origin : Origin) {after : Agent}
    (result : postIncomingMessage multiByteToWideChar agent sessionId message origin = after) :
    after.posted = agent.posted ++ entryOf multiByteToWideChar sessionId message origin ∧
      after.processed = agent.processed ∧ after.dispatched = agent.dispatched := by
  subst result
  rw [postIncomingMessage, entryOf]
  cases utf8ToUtf16 multiByteToWideChar message with
  | error reason => simp
  | ok units => exact appendMessage_posted agent _

theorem dispatchMessages_posted (agent : Agent) :
    agent.dispatchMessages.posted = agent.posted ∧
      agent.dispatchMessages.processed = agent.processed ∧
      agent.dispatchMessages.dispatched = agent.dispatched := by
  unfold Agent.dispatchMessages
  split <;> exact ⟨rfl, rfl, rfl⟩

/-- An entry that is processed goes to V8 unless it is one of the two tags. -/
theorem processEntry_dispatched {agent next : Agent} {entry : Entry}
    (processed : agent.processEntry entry = .ok next) :
    next.dispatched.map Prod.fst = agent.dispatched.map Prod.fst ++
      [entry].filter fun entry => !isControl entry.message := by
  unfold Agent.processEntry at processed
  split at processed
  · rename_i connect
    split at processed
    · obtain rfl := Except.ok.inj processed
      simp [Agent.connectFrontend, isControl, connect]
    · cases processed
  · rename_i connect
    split at processed
    · rename_i disconnect
      split at processed
      · obtain rfl := Except.ok.inj processed
        simp [Agent.disconnectFrontend, Agent.quitMessageLoopOnPause, isControl, disconnect]
      · cases processed
    · rename_i disconnect
      unfold Agent.dispatchMessageFromFrontend at processed
      simp only at processed
      split at processed
      · obtain rfl := Except.ok.inj processed
        simp [isControl, connect, disconnect]
      · cases processed

/-- What one step does to the record of the run: it posts, or it processes the next entry. -/
theorem call_inv {agent next : Agent} {action : AgentDispatch.Action}
    (called : call multiByteToWideChar agent action = some (.ok next)) :
    next.posted = agent.posted ++ posts multiByteToWideChar action ∧
      ∃ taken : List Entry, next.processed = agent.processed ++ taken ∧
        next.dispatched.map Prod.fst = agent.dispatched.map Prod.fst ++
          taken.filter fun entry => !isControl entry.message := by
  cases action with
  | startSession sessionId =>
    obtain ⟨-, rfl⟩ := Program.guard_inv called
    obtain ⟨posted, processed, dispatched⟩ :=
      postIncomingMessage_posted multiByteToWideChar _ sessionId tagConnect .startSession rfl
    exact ⟨posted, [], by simpa using processed, by simpa using congrArg _ dispatched⟩
  | messageReceived sessionId message =>
    obtain ⟨-, rfl⟩ := Program.guard_inv called
    obtain ⟨posted, processed, dispatched⟩ :=
      postIncomingMessage_posted multiByteToWideChar _ sessionId message .messageReceived rfl
    exact ⟨posted, [], by simpa using processed, by simpa using congrArg _ dispatched⟩
  | endSession sessionId =>
    obtain ⟨-, rfl⟩ := Program.guard_inv called
    obtain ⟨posted, processed, dispatched⟩ :=
      postIncomingMessage_posted multiByteToWideChar _ sessionId tagDisconnect .endSession rfl
    exact ⟨posted, [], by simpa using processed, by simpa using congrArg _ dispatched⟩
  | nextEntry =>
    simp only [call] at called
    split at called
    · rename_i entry rest batch
      have success := Option.some.inj called
      have pump := processEntry_pump success
      have dispatched := processEntry_dispatched success
      refine ⟨?_, [entry], congrArg Pump.processed pump, dispatched⟩
      exact (congrArg Pump.posted pump).trans (List.append_nil _).symm
    · obtain rfl := Except.ok.inj (Option.some.inj called)
      exact ⟨by simp [posts], [], by simp, by simp⟩
    all_goals cases called
  | runTask | runInterrupt | dispatchOnPause | dispatchAtStartup =>
    obtain ⟨-, rfl⟩ := Program.guard_inv called
    obtain ⟨posted, processed, dispatched⟩ := dispatchMessages_posted _
    exact ⟨by rw [posted]; simp [posts], [], by rw [processed]; simp, by rw [dispatched]; simp⟩
  | pauseOnStart =>
    simp only [call] at called
    split at called
    · split at called
      · obtain rfl := Except.ok.inj (Option.some.inj called)
        exact ⟨by simp [posts], [], by simp, by simp⟩
      · cases called
    · cases called
  | swapBehindLock | finishEntry | leaveDispatch =>
    simp only [call] at called
    split at called
    all_goals first
      | (obtain rfl := Except.ok.inj (Option.some.inj called)
         exact ⟨by simp [posts], [], by simp, by simp⟩)
      | cases called
  | postTask | requestInterrupt | notifyMessageReceived | waitForDebugger
  | frontendMessageArrived | sendMessageToFrontend _ =>
    obtain ⟨-, rfl⟩ := Program.guard_inv called
    exact ⟨by simp [posts, Agent.write], [], by simp [Agent.write], by simp [Agent.write]⟩

/-! ## Runs -/

theorem received_cons (sessionId : Nat) (action : AgentDispatch.Action)
    (rest : List AgentDispatch.Action) :
    received sessionId (action :: rest) =
      received sessionId [action] ++ received sessionId rest := by
  cases action with
  | messageReceived other message =>
    by_cases same : other = sessionId <;> simp [received, same]
  | _ => rfl

variable (multiByteToWideChar) in
/-- The agent owes V8 what it has processed, and has been posted what it received. -/
structure Carries (sessionId : Nat) (before : List (List UInt8)) (agent : Agent) : Prop where
  posted : commands sessionId agent.posted =
    before.flatMap (commandOf multiByteToWideChar)
  dispatched : agent.dispatched.map Prod.fst =
    agent.processed.filter fun entry => !isControl entry.message
  inOrder : agent.pump.InOrder

theorem exec_carries (decodes : Decodes multiByteToWideChar) (sessionId : Nat)
    (trace : List AgentDispatch.Action) : ∀ before agent next,
    Carries multiByteToWideChar sessionId before agent →
    (agentProgram multiByteToWideChar).exec (.ok agent) trace = some (.ok next) →
    Carries multiByteToWideChar sessionId
      (before ++ received sessionId trace) next := by
  induction trace with
  | nil =>
    intro before agent next carries ran
    obtain rfl : agent = next := by simpa using ran
    simpa [received] using carries
  | cons action rest ih =>
    intro before agent next carries ran
    obtain ⟨middle, called, continued⟩ := Program.exec_alive_cons_inv ran
    obtain ⟨posted, taken, processed, dispatched⟩ := call_inv called
    rw [received_cons, ← List.append_assoc]
    refine ih _ middle next ⟨?_, ?_, call_inOrder carries.inOrder called⟩ continued
    · rw [posted, commands_append, carries.posted, commands_posts decodes, List.flatMap_append]
    · rw [dispatched, carries.dispatched, processed, List.filter_append]

theorem dispatchedFrom_eq {agent : Agent} (sessionId : Nat)
    (dispatched : agent.dispatched.map Prod.fst =
      agent.processed.filter fun entry => !isControl entry.message) :
    dispatchedFrom sessionId agent = commands sessionId agent.processed := by
  have taken : commands sessionId agent.processed =
      ((agent.dispatched.map Prod.fst).filter fun entry => entry.sessionId = sessionId).map
        (·.message) := by
    rw [dispatched, List.filter_filter]
    rfl
  rw [taken, List.filter_map, List.map_map]
  rfl

theorem flatMap_commandOf (decodes : Decodes multiByteToWideChar) (texts : List (List Char))
    (short : ∀ text ∈ texts, (utf8Encode text).length ≤ intMax)
    (plain : ∀ text ∈ texts, isControl (utf16Encode text) = false) :
    (texts.map utf8Encode).flatMap (commandOf multiByteToWideChar) = texts.map utf16Encode := by
  induction texts with
  | nil => rfl
  | cons text texts ih =>
    have first : commandOf multiByteToWideChar (utf8Encode text) = [utf16Encode text] := by
      rw [commandOf, utf8ToUtf16_decodes decodes (short text List.mem_cons_self)]
      simp [plain text List.mem_cons_self]
    rw [List.map_cons, List.flatMap_cons, first, List.map_cons,
      ih (fun other inside => short other (List.mem_cons_of_mem _ inside))
        (fun other inside => plain other (List.mem_cons_of_mem _ inside))]
    rfl

/-- The read loop hands on each text of whole frames. -/
theorem delivered_texts (decodes : Decodes multiByteToWideChar) {texts : List (List Char)}
    {frames : List ClientFrame} {reads : List (List UInt8)}
    (payloads : frames.map (·.payload) = texts.map utf8Encode)
    (short : ∀ text ∈ texts, (utf8Encode text).length ≤ intMax)
    (sizes : ∀ read ∈ reads, 1 ≤ read.length ∧ read.length ≤ 8192)
    (whole : WholeFrames frames reads) :
    (readLoopAsync (converts multiByteToWideChar) {} reads).2.delivered =
      texts.map utf8Encode := by
  obtain ⟨groups, rfl, rfl⟩ := whole
  have returned : ∀ frame ∈ groups.flatten,
      converts multiByteToWideChar frame.payload = true := by
    intro frame inside
    obtain ⟨text, member, encoded⟩ : ∃ text ∈ texts, utf8Encode text = frame.payload := by
      have payload : frame.payload ∈ groups.flatten.map (·.payload) := List.mem_map_of_mem inside
      rw [payloads] at payload
      exact List.mem_map.mp payload
    rw [← encoded, converts, utf8ToUtf16_decodes decodes (short text member)]
    rfl
  rw [readLoopAsync_groups (converts multiByteToWideChar) groups {} rfl
    (fun group inside => sizes _ (List.mem_map_of_mem inside)) returned, ← payloads]
  simp [WsHandler.delivered, WsHandler.deliver, List.filterMap_map, Function.comp_def, payload?]

/-- At every moment V8 has been given the first texts of a debugger, once each and in order,
whatever the threads, the other debuggers and V8 itself do in between. Once the agent has no work
left it has been given all that was received. -/
theorem commands_arrive (decodes : Decodes multiByteToWideChar) {texts : List (List Char)}
    {frames : List ClientFrame} {reads : List (List UInt8)}
    {trace : List AgentDispatch.Action} {agent : Agent} {sessionId : Nat}
    (payloads : frames.map (·.payload) = texts.map utf8Encode)
    (short : ∀ text ∈ texts, (utf8Encode text).length ≤ intMax)
    (plain : ∀ text ∈ texts, isControl (utf16Encode text) = false)
    (sizes : ∀ read ∈ reads, 1 ≤ read.length ∧ read.length ≤ 8192)
    (whole : WholeFrames frames reads)
    (handed : received sessionId trace <+:
      (readLoopAsync (converts multiByteToWideChar) {} reads).2.delivered)
    (ran : (agentProgram multiByteToWideChar).run trace = some (.ok agent)) :
    (received sessionId trace).length ≤ texts.length ∧
      ∃ arrived ≤ (received sessionId trace).length,
        dispatchedFrom sessionId agent = (texts.take arrived).map utf16Encode ∧
        (agent.incomingMessageQueue = [] → agent.dispatch = .idle →
          arrived = (received sessionId trace).length) := by
  have fresh : Carries multiByteToWideChar sessionId [] {} :=
    ⟨rfl, rfl, rfl, fun waiting => absurd rfl waiting⟩
  obtain ⟨posted, dispatched, inOrder⟩ := exec_carries decodes sessionId trace [] _ agent fresh ran
  rw [delivered_texts decodes payloads short sizes whole] at handed
  have front : received sessionId trace =
      (texts.take (received sessionId trace).length).map utf8Encode := by
    rw [List.map_take]
    exact List.prefix_iff_eq_take.mp handed
  have within : (received sessionId trace).length ≤ texts.length := by
    simpa using handed.length_le
  generalize count : (received sessionId trace).length = received at front within ⊢
  rw [List.nil_append, front, flatMap_commandOf decodes _
    (fun text inside => short text (List.mem_of_mem_take inside))
    (fun text inside => plain text (List.mem_of_mem_take inside))] at posted
  have order : agent.processed ++ (agent.dispatch.remaining ++ agent.incomingMessageQueue) =
      agent.posted := by
    rw [← List.append_assoc]
    exact inOrder.order
  rw [← order, commands_append] at posted
  have taken := dispatchedFrom_eq sessionId dispatched
  have length := congrArg List.length posted
  rw [List.length_append, List.length_map, List.length_take, Nat.min_eq_left within] at length
  refine ⟨within, (commands sessionId agent.processed).length, by omega, ?_, ?_⟩
  · rw [taken]
    have first := congrArg (List.take (commands sessionId agent.processed).length) posted
    rw [List.take_left, ← List.map_take, List.take_take, Nat.min_eq_left (by omega)] at first
    exact first
  · intro empty idle
    rw [idle, empty] at length
    simpa [Dispatch.remaining, commands] using length

end

/-- The frame of a text under the zero masking key. -/
def textClientFrame (payload : List UInt8) (short : payload.length < 2 ^ 63) : ClientFrame where
  maskingKey := Vector.replicate 4 0
  payload := payload
  bounded := short

/-- V8 works on the first of two texts while the second is in the queue. -/
theorem commands_arrive_first :
    ∃ agent, ∃ arrived ≤ 2, (agentProgram transcode).run
        [.startSession 0, .messageReceived 0 [0x6F, 0x6B], .postTask, .runTask, .swapBehindLock,
          .nextEntry, .finishEntry, .nextEntry, .messageReceived 0 [0xC3, 0xA9]] =
        some (.ok agent) ∧
      dispatchedFrom 0 agent = ([['o', 'k'], ['é']].take arrived).map utf16Encode := by
  let trace : List AgentDispatch.Action :=
    [.startSession 0, .messageReceived 0 [0x6F, 0x6B], .postTask, .runTask, .swapBehindLock,
      .nextEntry, .finishEntry, .nextEntry, .messageReceived 0 [0xC3, 0xA9]]
  let frames := [textClientFrame [0x6F, 0x6B] (by decide), textClientFrame [0xC3, 0xA9] (by decide)]
  have alive : (((agentProgram transcode).run trace).bind Except.toOption).isSome = true := by
    decide +kernel
  obtain ⟨agent, found⟩ := Option.isSome_iff_exists.mp alive
  obtain ⟨outcome, ran, same⟩ := Option.bind_eq_some_iff.mp found
  cases outcome with
  | error reason => cases same
  | ok state =>
    obtain rfl := Option.some.inj same
    have whole : WholeFrames frames (frames.map (·.encode)) :=
      ⟨frames.map ([·]), by simp [frames], by simp [frames]⟩
    obtain ⟨-, arrived, within, given, -⟩ := commands_arrive
      (fun text _ => transcode_utf8Encode text)
      (show frames.map (·.payload) = [['o', 'k'], ['é']].map utf8Encode by decide +kernel)
      (by decide +kernel) (by decide +kernel) (by decide +kernel) whole
      (show received 0 trace <+: _ by decide +kernel) ran
    exact ⟨state, arrived, within, ran, given⟩

end V8Jsi.WireCommands
