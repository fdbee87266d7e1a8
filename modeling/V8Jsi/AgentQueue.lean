import V8Jsi.AgentDispatch

set_option autoImplicit false

namespace V8Jsi.AgentDispatch

open Runs InspectorUtils

/-- Entries of the current batch that are still to be processed. -/
def Dispatch.remaining : Dispatch → List Entry
  | .batch rest | .processing _ rest => rest
  | .idle | .swapping | .leaving => []

/-- The loop will look at the queue once more. -/
def Dispatch.Continues : Dispatch → Prop
  | .swapping | .batch _ | .processing _ _ => True
  | .idle | .leaving => False

/-- The part of the agent that moves entries. -/
structure Pump where
  queue : List Entry
  dispatch : Dispatch
  tasks : Nat
  interrupts : Nat
  toPostTask : Nat
  posted : List Entry
  processed : List Entry

def Agent.pump (agent : Agent) : Pump where
  queue := agent.incomingMessageQueue
  dispatch := agent.dispatch
  tasks := agent.pendingTasks
  interrupts := agent.pendingInterrupts
  toPostTask := agent.toPostTask
  posted := agent.posted
  processed := agent.processed

/-- A message in the queue will be looked for: by the running loop, by a task or
an interrupt, or by a call that is about to post its task. -/
def Pump.Woken (pump : Pump) : Prop :=
  pump.queue ≠ [] →
    pump.dispatch.Continues ∨ 0 < pump.tasks ∨ 0 < pump.interrupts ∨ 0 < pump.toPostTask

structure Pump.InOrder (pump : Pump) : Prop where
  order : pump.processed ++ pump.dispatch.remaining ++ pump.queue = pump.posted
  woken : pump.Woken

theorem processEntry_pump {agent next : Agent} {entry : Entry}
    (success : agent.processEntry entry = .ok next) : next.pump = agent.pump := by
  unfold Agent.processEntry at success
  split at success
  · split at success
    · obtain rfl := Except.ok.inj success
      rfl
    · cases success
  · split at success
    · split at success
      · obtain rfl := Except.ok.inj success
        rfl
      · cases success
    · unfold Agent.dispatchMessageFromFrontend at success
      simp only at success
      split at success
      · obtain rfl := Except.ok.inj success
        rfl
      · cases success

theorem appendMessage_inOrder {agent : Agent} (entry : Entry) (inOrder : agent.pump.InOrder) :
    (agent.appendMessage entry).pump.InOrder := by
  have order : agent.processed ++ agent.dispatch.remaining ++ agent.incomingMessageQueue =
      agent.posted := inOrder.order
  by_cases empty : agent.incomingMessageQueue = []
  · have appended : agent.appendMessage entry = { agent with
        incomingMessageQueue := agent.incomingMessageQueue ++ [entry]
        posted := agent.posted ++ [entry]
        toPostTask := agent.toPostTask + 1 } := by simp [Agent.appendMessage, empty]
    rw [appended]
    refine ⟨?_, fun _ => .inr (.inr (.inr (Nat.succ_pos _)))⟩
    simp only [Agent.pump, ← order, List.append_assoc]
  · have appended : agent.appendMessage entry = { agent with
        incomingMessageQueue := agent.incomingMessageQueue ++ [entry]
        posted := agent.posted ++ [entry]
        toNotify := agent.toNotify + 1 } := by simp [Agent.appendMessage, empty]
    rw [appended]
    refine ⟨?_, fun _ => inOrder.woken empty⟩
    simp only [Agent.pump, ← order, List.append_assoc]

theorem postIncomingMessage_inOrder
    (multiByteToWideChar : List UInt8 → Option (List UInt16)) {agent : Agent} (sessionId : Nat)
    (message : List UInt8) (origin : Origin) (inOrder : agent.pump.InOrder) :
    (postIncomingMessage multiByteToWideChar agent sessionId message origin).pump.InOrder := by
  unfold postIncomingMessage
  split
  · exact inOrder
  · exact appendMessage_inOrder _ inOrder

/-- A call of `DispatchMessages` may use up what woke it: either it starts the
loop, or a loop is running already. -/
theorem dispatchMessages_inOrder {agent : Agent}
    (order : agent.processed ++ agent.dispatch.remaining ++ agent.incomingMessageQueue =
      agent.posted)
    (script : agent.inScript = true ∨ agent.dispatch = .idle) :
    agent.dispatchMessages.pump.InOrder := by
  unfold Agent.dispatchMessages
  split
  · rename_i idle
    refine ⟨?_, fun _ => .inl trivial⟩
    rw [idle] at order
    exact order
  · rename_i busy
    refine ⟨order, fun _ => .inl ?_⟩
    rcases script with script | idle
    · change agent.dispatch.Continues
      unfold Agent.inScript at script
      split at script
      · rename_i idle
        exact absurd idle busy
      · rename_i entry rest processing
        rw [processing]
        trivial
      all_goals cases script
    · exact absurd idle busy

theorem swapBehindLock_inOrder {agent : Agent} (inOrder : agent.pump.InOrder)
    (swapping : agent.dispatch = .swapping) :
    ({ agent with
      incomingMessageQueue := []
      dispatch := if agent.incomingMessageQueue.isEmpty then .leaving
        else .batch agent.incomingMessageQueue } : Agent).pump.InOrder := by
  have order : agent.processed ++ agent.dispatch.remaining ++ agent.incomingMessageQueue =
      agent.posted := inOrder.order
  refine ⟨?_, fun waiting => absurd rfl waiting⟩
  rw [swapping] at order
  by_cases empty : agent.incomingMessageQueue = []
  · simpa [Agent.pump, empty, Dispatch.remaining] using order
  · simpa [Agent.pump, empty, Dispatch.remaining] using order

section

variable {multiByteToWideChar : List UInt8 → Option (List UInt16)}

theorem nextEntry_inOrder {agent next : Agent} (inOrder : agent.pump.InOrder)
    (called : call multiByteToWideChar agent .nextEntry = some (.ok next)) :
    next.pump.InOrder := by
  have order : agent.processed ++ agent.dispatch.remaining ++ agent.incomingMessageQueue =
      agent.posted := inOrder.order
  simp only [call] at called
  split at called
  · rename_i entry rest batch
    rw [processEntry_pump (Option.some.inj called)]
    refine ⟨?_, fun _ => .inl trivial⟩
    rw [batch] at order
    simpa [Agent.pump, Dispatch.remaining] using order
  · rename_i batch
    obtain rfl := Except.ok.inj (Option.some.inj called)
    refine ⟨?_, fun _ => .inl trivial⟩
    rw [batch] at order
    exact order
  all_goals cases called

theorem finishEntry_inOrder {agent next : Agent} (inOrder : agent.pump.InOrder)
    (called : call multiByteToWideChar agent .finishEntry = some (.ok next)) :
    next.pump.InOrder := by
  have order : agent.processed ++ agent.dispatch.remaining ++ agent.incomingMessageQueue =
      agent.posted := inOrder.order
  simp only [call] at called
  split at called
  · rename_i entry rest processing
    obtain rfl := Except.ok.inj (Option.some.inj called)
    refine ⟨?_, fun _ => .inl trivial⟩
    rw [processing] at order
    exact order
  all_goals cases called

/-- Whoever appends in the window before the loop is left finds the queue empty,
so that leaving strands no message. -/
theorem leaveDispatch_inOrder {agent next : Agent} (inOrder : agent.pump.InOrder)
    (called : call multiByteToWideChar agent .leaveDispatch = some (.ok next)) :
    next.pump.InOrder := by
  obtain ⟨order, woken⟩ := inOrder
  simp only [call] at called
  split at called
  · rename_i leaving
    obtain rfl := Except.ok.inj (Option.some.inj called)
    have shape : agent.pump.dispatch = .leaving := leaving
    rw [shape] at order
    refine ⟨order, fun waiting => ?_⟩
    rcases woken waiting with continues | pending
    · rw [shape] at continues
      exact continues.elim
    · exact .inr pending
  all_goals cases called

theorem call_inOrder {agent next : Agent} {action : Action} (inOrder : agent.pump.InOrder)
    (called : call multiByteToWideChar agent action = some (.ok next)) : next.pump.InOrder := by
  cases action with
  | startSession sessionId =>
    obtain ⟨-, rfl⟩ := Program.guard_inv called
    exact postIncomingMessage_inOrder _ _ _ _ inOrder
  | messageReceived sessionId message =>
    obtain ⟨-, rfl⟩ := Program.guard_inv called
    exact postIncomingMessage_inOrder _ _ _ _ inOrder
  | endSession sessionId =>
    obtain ⟨-, rfl⟩ := Program.guard_inv called
    exact postIncomingMessage_inOrder _ _ _ _ inOrder
  | postTask =>
    obtain ⟨-, rfl⟩ := Program.guard_inv called
    exact ⟨inOrder.order, fun _ => .inr (.inl (Nat.succ_pos _))⟩
  | requestInterrupt =>
    obtain ⟨-, rfl⟩ := Program.guard_inv called
    exact ⟨inOrder.order, fun _ => .inr (.inr (.inl (Nat.succ_pos _)))⟩
  | runTask =>
    obtain ⟨⟨script, -⟩, rfl⟩ := Program.guard_inv called
    exact dispatchMessages_inOrder inOrder.order (.inl script)
  | runInterrupt =>
    obtain ⟨⟨script, -⟩, rfl⟩ := Program.guard_inv called
    exact dispatchMessages_inOrder inOrder.order (.inl script)
  | dispatchOnPause =>
    obtain ⟨script, rfl⟩ := Program.guard_inv called
    exact dispatchMessages_inOrder inOrder.order (.inl script)
  | dispatchAtStartup =>
    obtain ⟨⟨-, idle, -⟩, rfl⟩ := Program.guard_inv called
    exact dispatchMessages_inOrder inOrder.order (.inr idle)
  | swapBehindLock =>
    simp only [call] at called
    split at called
    · rename_i swapping
      obtain rfl := Except.ok.inj (Option.some.inj called)
      exact swapBehindLock_inOrder inOrder swapping
    all_goals cases called
  | nextEntry => exact nextEntry_inOrder inOrder called
  | finishEntry => exact finishEntry_inOrder inOrder called
  | leaveDispatch => exact leaveDispatch_inOrder inOrder called
  | pauseOnStart =>
    simp only [call] at called
    split at called
    · split at called
      · obtain rfl := Except.ok.inj (Option.some.inj called)
        exact inOrder
      · cases called
    · cases called
  | notifyMessageReceived | waitForDebugger | frontendMessageArrived | sendMessageToFrontend _ =>
    obtain ⟨-, rfl⟩ := Program.guard_inv called
    exact inOrder

/-- Entries are processed once each and in the order in which they were posted.
A message that waits in the queue will be looked for. -/
theorem posted_processed_in_order {trace : List Action} {agent : Agent}
    (ran : (agentProgram multiByteToWideChar).run trace = some (.ok agent)) :
    agent.processed <+: agent.posted ∧
      agent.processed ++ agent.dispatch.remaining ++ agent.incomingMessageQueue = agent.posted ∧
      (agent.incomingMessageQueue ≠ [] →
        agent.dispatch ≠ .idle ∨ 0 < agent.pendingTasks ∨ 0 < agent.pendingInterrupts ∨
          0 < agent.toPostTask) := by
  have init : ({} : Agent).pump.InOrder := ⟨rfl, fun waiting => absurd rfl waiting⟩
  obtain ⟨order, woken⟩ : agent.pump.InOrder :=
    Program.run_invariant_always (fun agent : Agent => agent.pump.InOrder) init
      (fun _ _ _ inOrder called => call_inOrder inOrder called) ran
  refine ⟨⟨_, by rw [← List.append_assoc]; exact order⟩, order, fun waiting => ?_⟩
  rcases woken waiting with continues | pending
  · left
    intro idle
    have shape : agent.pump.dispatch = .idle := idle
    rw [shape] at continues
    exact continues
  · exact .inr pending

end

theorem posted_processed_two_entries :
    ∃ agent : Agent, agent.processed.length = 1 ∧ agent.posted.length = 2 ∧
      agent.processed <+: agent.posted := by
  obtain ⟨agent, ran, processed, posted⟩ : ∃ agent,
      (agentProgram asciiToWideChar).run
        [.startSession 0, .postTask, .runTask, .swapBehindLock, .messageReceived 0 [0x7B],
          .nextEntry] = some (.ok agent) ∧ agent.processed.length = 1 ∧
        agent.posted.length = 2 := ⟨_, rfl, rfl, rfl⟩
  exact ⟨agent, processed, posted, (posted_processed_in_order ran).1⟩

/-- Between the append and the posting of the task a message waits with nothing
pending yet. -/
theorem appended_before_task_posted :
    ∃ agent : Agent, (agentProgram asciiToWideChar).run [.startSession 0] = some (.ok agent) ∧
      agent.incomingMessageQueue ≠ [] ∧ agent.dispatch = .idle ∧ agent.pendingTasks = 0 ∧
      agent.pendingInterrupts = 0 :=
  ⟨_, rfl, by decide, rfl, rfl, rfl⟩

end V8Jsi.AgentDispatch
