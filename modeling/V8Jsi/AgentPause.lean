import V8Jsi.AgentQueue

set_option autoImplicit false

/- A paused program: `runMessageLoopOnPause` of inspector_agent.cpp around the message
pump of the agent. V8 calls it wherever JavaScript runs, also inside an entry that
`DispatchMessages` is processing. -/
namespace V8Jsi.AgentPause

open AgentDispatch (Agent Entry Failure Dispatch)
open SocketServer (tagConnect tagDisconnect)
open Runs

/-- Where the JS thread stands in the loop of `runMessageLoopOnPause`: at its
condition, in `WaitForFrontendMessage`, or in `DispatchMessages`. -/
inductive Loop
  | outside
  | testing
  | waiting
  | dispatching
  deriving DecidableEq, Repr

/-- What an iteration of the loop found when it began. -/
structure Begun where
  processed : List Entry := []
  queue : List Entry := []
  quits : List Entry := []
  deriving DecidableEq, Repr

/-- `quits` records the resume commands for which V8 called
`quitMessageLoopOnPause`. -/
structure Inspector where
  agent : Agent := {}
  runningNestedLoop : Bool := false
  loop : Loop := .outside
  quits : List Entry := []
  begun : Begun := {}
  deriving DecidableEq, Repr

inductive Action
  | agent (action : AgentDispatch.Action)
  | runMessageLoopOnPause
  | testWaitingForResume
  | frontendMessageReceived
  | dispatchReturned
  deriving DecidableEq, Repr

/-- Actions of the socket thread and of other threads that post messages. -/
def isPosting : AgentDispatch.Action → Bool
  | .startSession _ | .messageReceived _ _ | .endSession _ | .postTask | .requestInterrupt
  | .notifyMessageReceived => true
  | .runTask | .runInterrupt | .dispatchOnPause | .waitForDebugger | .frontendMessageArrived
  | .dispatchAtStartup | .pauseOnStart | .swapBehindLock | .nextEntry | .finishEntry
  | .leaveDispatch | .sendMessageToFrontend _ => false

/-- The JS thread takes steps of the agent outside the loop, or while the
`DispatchMessages` that the loop called has not returned. -/
def Inspector.runsAgent (inspector : Inspector) : Bool :=
  match inspector.loop with
  | .outside => true
  | .testing | .waiting => false
  | .dispatching => decide (inspector.agent.dispatch ≠ .idle)

section

variable (multiByteToWideChar : List UInt8 → Option (List UInt16)) (resumes : Entry → Bool)

/-- A paused program is resumed by the entries in `resumes`. -/
def afterAgent (inspector : Inspector) (action : AgentDispatch.Action) (agent : Agent) :
    Inspector :=
  match action, inspector.agent.dispatch, inspector.loop with
  | .nextEntry, .batch (entry :: _), .dispatching =>
      if resumes entry then
        { inspector with
          agent := agent.quitMessageLoopOnPause
          quits := inspector.quits ++ [entry] }
      else { inspector with agent }
  | _, _, _ => { inspector with agent }

/-- The pause itself is `runMessageLoopOnPause` here and not `dispatchOnPause`. -/
def callAgent (inspector : Inspector) (action : AgentDispatch.Action) :
    Option (Except Failure Inspector) :=
  if (isPosting action || inspector.runsAgent) ∧ action ≠ .dispatchOnPause then
    (AgentDispatch.call multiByteToWideChar inspector.agent action).map
      (Except.map (afterAgent resumes inspector action))
  else none

def runMessageLoopOnPause (inspector : Inspector) : Inspector :=
  let inspector := { inspector with agent := { inspector.agent with waitingForResume := true } }
  if inspector.runningNestedLoop then inspector
  else { inspector with runningNestedLoop := true, loop := .testing }

/-- The condition of the loop, and what follows the loop. -/
def testWaitingForResume (inspector : Inspector) : Inspector :=
  if inspector.agent.waitingForResume then
    { inspector with
      loop := .waiting
      begun := ⟨inspector.agent.processed, inspector.agent.incomingMessageQueue, inspector.quits⟩ }
  else
    { inspector with
      agent := { inspector.agent with waitingForResume := false }
      runningNestedLoop := false
      loop := .outside }

/-- `WaitForFrontendMessage` has returned and `DispatchMessages` is called, which
returns at once while an outer call is dispatching. -/
def dispatchMessages (inspector : Inspector) : Inspector :=
  if inspector.agent.dispatch = .idle then
    { inspector with agent := inspector.agent.dispatchMessages, loop := .dispatching }
  else { inspector with loop := .testing }

def call (inspector : Inspector) : Action → Option (Except Failure Inspector)
  | .agent action => callAgent multiByteToWideChar resumes inspector action
  | .runMessageLoopOnPause =>
      if inspector.runsAgent ∧ inspector.agent.inScript then
        some (.ok (runMessageLoopOnPause inspector))
      else none
  | .testWaitingForResume =>
      if inspector.loop = .testing then some (.ok (testWaitingForResume inspector)) else none
  | .frontendMessageReceived =>
      if inspector.loop = .waiting ∧ inspector.agent.incomingMessageQueue ≠ [] then
        some (.ok (dispatchMessages inspector))
      else none
  | .dispatchReturned =>
      if inspector.loop = .dispatching ∧ inspector.agent.dispatch = .idle then
        some (.ok { inspector with loop := .testing })
      else none

def pauseProgram : Program Inspector Action Failure where
  start := {}
  call := call multiByteToWideChar resumes

/-- The iteration has processed what was queued when it began, and every resume
command in it has led to `quitMessageLoopOnPause`. -/
def Completed (inspector : Inspector) : Prop :=
  ∃ later, inspector.agent.processed =
      inspector.begun.processed ++ (inspector.begun.queue ++ later) ∧
    inspector.quits = inspector.begun.quits ++ (inspector.begun.queue ++ later).filter resumes

/-- Every iteration that ends is completed, and none loses the process. -/
def Controllable (before : Inspector) (_ : Action) : Except Failure Inspector → Prop
  | .ok after => before.loop = .waiting ∨ before.loop = .dispatching →
      after.loop = .testing → Completed resumes after
  | .error _ => before.loop ≠ .dispatching

end

/-- A session connects to an accepting agent, disconnects from a connected one, and
sends while there is a session. -/
def Fitting (agent : Agent) (entry : Entry) : Prop :=
  if AgentDispatch.tagOf entry.message = tagConnect then agent.state = .kAccepting
  else if AgentDispatch.tagOf entry.message = tagDisconnect then agent.state = .kConnected
  else agent.session = true

instance (agent : Agent) (entry : Entry) : Decidable (Fitting agent entry) :=
  inferInstanceAs (Decidable (ite _ _ _))

/-- The entry that `DispatchMessages` takes next is fitting. -/
def NextFitting (agent : Agent) : Prop :=
  ∀ entry ∈ agent.dispatch.remaining.head?, Fitting agent entry

/-- The loop does not find entries waiting while an outer `DispatchMessages` is in
progress, and those it dispatches fit the state of the agent. -/
def DispatchesAfresh (inspector : Inspector) : Action → Prop
  | .frontendMessageReceived =>
      inspector.agent.dispatch = .idle ∨ inspector.begun.queue = []
  | .agent .nextEntry => inspector.loop = .dispatching → NextFitting inspector.agent
  | .agent _ | .runMessageLoopOnPause | .testWaitingForResume | .dispatchReturned => True

/-! ## What a step of the agent moves -/

/-- The queue, the position in `DispatchMessages` and the processed entries before
and after a step of the agent. -/
inductive Moved (action : AgentDispatch.Action) (before after : Agent) : Prop
  | posts (more : List Entry) (other : action ≠ .nextEntry)
      (queue : after.incomingMessageQueue = before.incomingMessageQueue ++ more)
      (dispatch : after.dispatch = before.dispatch)
      (processed : after.processed = before.processed)
  | starts (idle : before.dispatch = .idle)
      (queue : after.incomingMessageQueue = before.incomingMessageQueue)
      (dispatch : after.dispatch = .swapping)
      (processed : after.processed = before.processed)
  | swaps (swapping : before.dispatch = .swapping)
      (queue : after.incomingMessageQueue = [])
      (dispatch : after.dispatch = if before.incomingMessageQueue = [] then .leaving
        else .batch before.incomingMessageQueue)
      (processed : after.processed = before.processed)
  | takes (entry : Entry) (rest : List Entry) (next : action = .nextEntry)
      (batch : before.dispatch = .batch (entry :: rest))
      (queue : after.incomingMessageQueue = before.incomingMessageQueue)
      (dispatch : after.dispatch = .processing entry rest)
      (processed : after.processed = before.processed ++ [entry])
  | again (batch : before.dispatch = .batch [])
      (queue : after.incomingMessageQueue = before.incomingMessageQueue)
      (dispatch : after.dispatch = .swapping)
      (processed : after.processed = before.processed)
  | finishes (entry : Entry) (rest : List Entry)
      (processing : before.dispatch = .processing entry rest)
      (queue : after.incomingMessageQueue = before.incomingMessageQueue)
      (dispatch : after.dispatch = .batch rest)
      (processed : after.processed = before.processed)
  | leaves (leaving : before.dispatch = .leaving)
      (queue : after.incomingMessageQueue = before.incomingMessageQueue)
      (dispatch : after.dispatch = .idle)
      (processed : after.processed = before.processed)

theorem Moved.still {action : AgentDispatch.Action} {before after : Agent}
    (other : action ≠ .nextEntry)
    (queue : after.incomingMessageQueue = before.incomingMessageQueue)
    (dispatch : after.dispatch = before.dispatch)
    (processed : after.processed = before.processed) : Moved action before after :=
  .posts [] other (by rw [queue, List.append_nil]) dispatch processed

section

variable {multiByteToWideChar : List UInt8 → Option (List UInt16)}

theorem postIncomingMessage_posts (agent : Agent) (sessionId : Nat) (message : List UInt8)
    (origin : AgentDispatch.Origin) :
    ∃ more, (AgentDispatch.postIncomingMessage multiByteToWideChar agent sessionId message
        origin).incomingMessageQueue = agent.incomingMessageQueue ++ more ∧
      (AgentDispatch.postIncomingMessage multiByteToWideChar agent sessionId message
        origin).dispatch = agent.dispatch ∧
      (AgentDispatch.postIncomingMessage multiByteToWideChar agent sessionId message
        origin).processed = agent.processed := by
  unfold AgentDispatch.postIncomingMessage
  split
  · exact ⟨[], by simp, rfl, rfl⟩
  · rename_i units _
    refine ⟨[⟨sessionId, units, origin⟩], ?_, ?_, ?_⟩
    all_goals
      unfold Agent.appendMessage
      dsimp only
      split <;> rfl

/-- Posting threads only append to the queue. -/
theorem posting_moved {agent next : Agent} {action : AgentDispatch.Action}
    (posting : isPosting action = true)
    (called : AgentDispatch.call multiByteToWideChar agent action = some (.ok next)) :
    ∃ more, next.incomingMessageQueue = agent.incomingMessageQueue ++ more ∧
      next.dispatch = agent.dispatch ∧ next.processed = agent.processed := by
  cases action with
  | startSession sessionId =>
    obtain ⟨-, rfl⟩ := Program.guard_inv called
    exact postIncomingMessage_posts _ _ _ _
  | messageReceived sessionId message =>
    obtain ⟨-, rfl⟩ := Program.guard_inv called
    exact postIncomingMessage_posts _ _ _ _
  | endSession sessionId =>
    obtain ⟨-, rfl⟩ := Program.guard_inv called
    exact postIncomingMessage_posts _ _ _ _
  | postTask | requestInterrupt | notifyMessageReceived =>
    obtain ⟨-, rfl⟩ := Program.guard_inv called
    exact ⟨[], by simp, rfl, rfl⟩
  | runTask | runInterrupt | dispatchOnPause | waitForDebugger | frontendMessageArrived
  | dispatchAtStartup | pauseOnStart | swapBehindLock | nextEntry | finishEntry | leaveDispatch
  | sendMessageToFrontend _ => cases posting

theorem dispatchMessages_moved {action : AgentDispatch.Action} {agent woken : Agent}
    (other : action ≠ .nextEntry)
    (queue : woken.incomingMessageQueue = agent.incomingMessageQueue)
    (dispatch : woken.dispatch = agent.dispatch) (processed : woken.processed = agent.processed) :
    Moved action agent woken.dispatchMessages := by
  unfold Agent.dispatchMessages
  split
  · rename_i idle
    exact .starts (dispatch.symm.trans idle) queue rfl processed
  · exact .still other queue dispatch processed

theorem nextEntry_moved {agent next : Agent}
    (called : AgentDispatch.call multiByteToWideChar agent .nextEntry = some (.ok next)) :
    Moved .nextEntry agent next := by
  simp only [AgentDispatch.call] at called
  split at called
  · rename_i entry rest batch
    have pump := AgentDispatch.processEntry_pump (Option.some.inj called)
    exact .takes entry rest rfl batch (congrArg AgentDispatch.Pump.queue pump)
      (congrArg AgentDispatch.Pump.dispatch pump) (congrArg AgentDispatch.Pump.processed pump)
  · rename_i batch
    obtain rfl := Except.ok.inj (Option.some.inj called)
    exact .again batch rfl rfl rfl
  all_goals cases called

/-- An entry that does not fit loses the process. -/
theorem processEntry_fitting (agent : Agent) (entry : Entry) :
    (∃ next, agent.processEntry entry = .ok next) ↔ Fitting agent entry := by
  unfold Agent.processEntry Fitting
  by_cases connect : AgentDispatch.tagOf entry.message = tagConnect
  · rw [if_pos connect, if_pos connect]
    by_cases accepting : agent.state = .kAccepting
    · simp [accepting]
    · simp [accepting]
  · rw [if_neg connect, if_neg connect]
    by_cases disconnect : AgentDispatch.tagOf entry.message = tagDisconnect
    · rw [if_pos disconnect, if_pos disconnect]
      by_cases connected : agent.state = .kConnected
      · simp [connected]
      · simp [connected]
    · rw [if_neg disconnect, if_neg disconnect]
      simp only [Agent.dispatchMessageFromFrontend]
      by_cases present : agent.session = true
      · simp [present]
      · simp [present]

/-- The process is lost with the next entry, or outside `DispatchMessages`. -/
theorem call_lost {agent : Agent} {action : AgentDispatch.Action} {reason : Failure}
    (called : AgentDispatch.call multiByteToWideChar agent action = some (.error reason)) :
    action = .nextEntry ∧ ¬ NextFitting agent ∨
      isPosting action = false ∧ agent.dispatch = .idle := by
  obtain ⟨entry, rest, rfl, batch, lost⟩ | ⟨rfl, -, idle, -⟩ := AgentDispatch.call_error_inv called
  · left
    refine ⟨rfl, fun fitting => ?_⟩
    have fits : Fitting agent entry := fitting entry (by simp [batch, Dispatch.remaining])
    obtain ⟨next, processed⟩ := (processEntry_fitting { agent with
      processed := agent.processed ++ [entry]
      dispatch := .processing entry rest } entry).mpr fits
    rw [processed] at lost
    cases lost
  · exact .inr ⟨rfl, idle⟩

/-- An entry that does not fit is lost when it is taken. -/
theorem nextEntry_lost {agent : Agent} {outcome : Except Failure Agent}
    (unfitting : ¬ NextFitting agent)
    (called : AgentDispatch.call multiByteToWideChar agent .nextEntry = some outcome) :
    ∃ reason, outcome = .error reason := by
  cases outcome with
  | error reason => exact ⟨reason, rfl⟩
  | ok next =>
    refine absurd ?_ unfitting
    intro entry first
    simp only [AgentDispatch.call] at called
    split at called
    · rename_i head rest batch
      rw [batch] at first
      obtain rfl := Option.some.inj first
      exact (processEntry_fitting { agent with
        processed := agent.processed ++ [head]
        dispatch := .processing head rest } head).mp ⟨next, Option.some.inj called⟩
    · rename_i batch
      rw [batch] at first
      cases first
    all_goals cases called

/-- Every step of the agent is one of these. -/
theorem call_moved {agent next : Agent} {action : AgentDispatch.Action}
    (called : AgentDispatch.call multiByteToWideChar agent action = some (.ok next)) :
    Moved action agent next := by
  by_cases posting : isPosting action = true
  · obtain ⟨more, queue, dispatch, processed⟩ := posting_moved posting called
    refine .posts more ?_ queue dispatch processed
    rintro rfl
    cases posting
  · cases action with
    | runTask | runInterrupt | dispatchOnPause | dispatchAtStartup =>
      obtain ⟨-, rfl⟩ := Program.guard_inv called
      exact dispatchMessages_moved (by simp) rfl rfl rfl
    | waitForDebugger | frontendMessageArrived | sendMessageToFrontend _ =>
      obtain ⟨-, rfl⟩ := Program.guard_inv called
      exact .still (by simp) rfl rfl rfl
    | pauseOnStart =>
      simp only [AgentDispatch.call] at called
      split at called
      · split at called
        · obtain rfl := Except.ok.inj (Option.some.inj called)
          exact .still (by simp) rfl rfl rfl
        · cases called
      · cases called
    | swapBehindLock =>
      simp only [AgentDispatch.call] at called
      split at called
      · rename_i swapping
        obtain rfl := Except.ok.inj (Option.some.inj called)
        exact .swaps swapping rfl (by simp [List.isEmpty_iff]) rfl
      all_goals cases called
    | nextEntry => exact nextEntry_moved called
    | finishEntry =>
      simp only [AgentDispatch.call] at called
      split at called
      · rename_i entry rest processing
        obtain rfl := Except.ok.inj (Option.some.inj called)
        exact .finishes entry rest processing rfl rfl rfl
      all_goals cases called
    | leaveDispatch =>
      simp only [AgentDispatch.call] at called
      split at called
      · rename_i leaving
        obtain rfl := Except.ok.inj (Option.some.inj called)
        exact .leaves leaving rfl rfl rfl
      all_goals cases called
    | startSession _ | messageReceived _ _ | endSession _ | postTask | requestInterrupt
    | notifyMessageReceived => exact absurd rfl posting

end

/-! ## The iteration -/

section

variable {multiByteToWideChar : List UInt8 → Option (List UInt16)} {resumes : Entry → Bool}

/-- In the iteration the entries in `done` were processed. Once `DispatchMessages`
has looked at the queue, the entries that were there are processed or in the
batch. -/
structure Progress (resumes : Entry → Bool) (inspector : Inspector) (done : List Entry) :
    Prop where
  processed : inspector.agent.processed = inspector.begun.processed ++ done
  quits : inspector.quits = inspector.begun.quits ++ done.filter resumes
  ahead : inspector.begun.queue <+:
    done ++ inspector.agent.dispatch.remaining ++ inspector.agent.incomingMessageQueue
  taken : inspector.agent.dispatch ≠ .swapping →
    inspector.begun.queue <+: done ++ inspector.agent.dispatch.remaining

structure Invariant (resumes : Entry → Bool) (inspector : Inspector) : Prop where
  nested : inspector.loop ≠ .outside → inspector.runningNestedLoop = true
  waits : inspector.loop = .waiting →
    inspector.begun.processed = inspector.agent.processed ∧
      inspector.begun.quits = inspector.quits ∧
      inspector.begun.queue <+: inspector.agent.incomingMessageQueue
  dispatches : inspector.loop = .dispatching → ∃ done, Progress resumes inspector done

theorem start_invariant : Invariant resumes (pauseProgram multiByteToWideChar resumes).start := by
  refine ⟨?_, ?_, ?_⟩
  · exact fun entered => absurd rfl entered
  · intro waiting
    cases waiting
  · intro dispatching
    cases dispatching

/-- Between iterations only the flag of the loop matters. -/
theorem Invariant.between {inspector : Inspector}
    (nested : inspector.loop ≠ .outside → inspector.runningNestedLoop = true)
    (moving : inspector.loop = .outside ∨ inspector.loop = .testing) :
    Invariant resumes inspector := by
  refine ⟨nested, ?_, ?_⟩
  · intro waiting
    rw [waiting] at moving
    rcases moving with impossible | impossible <;> cases impossible
  · intro dispatching
    rw [dispatching] at moving
    rcases moving with impossible | impossible <;> cases impossible

/-- Steps that process no entry. -/
theorem Progress.move {inspector : Inspector} {done : List Entry} {agent : Agent}
    (progress : Progress resumes inspector done)
    (processed : agent.processed = inspector.agent.processed)
    (ahead : inspector.agent.dispatch.remaining ++ inspector.agent.incomingMessageQueue <+:
      agent.dispatch.remaining ++ agent.incomingMessageQueue)
    (taken : agent.dispatch ≠ .swapping →
      inspector.begun.queue <+: done ++ agent.dispatch.remaining) :
    Progress resumes { inspector with agent } done := by
  refine ⟨processed.trans progress.processed, progress.quits, ?_, taken⟩
  have before := progress.ahead
  rw [List.append_assoc] at before ⊢
  exact before.trans ((List.prefix_append_right_inj done).mpr ahead)

theorem afterAgent_plain {inspector : Inspector} {action : AgentDispatch.Action} {agent : Agent}
    (other : ∀ entry rest, action = .nextEntry →
      inspector.agent.dispatch ≠ .batch (entry :: rest)) :
    afterAgent resumes inspector action agent = { inspector with agent } := by
  unfold afterAgent
  split
  · rename_i entry rest batch _
    exact absurd batch (other entry rest rfl)
  · rfl

theorem afterAgent_loop (resumes : Entry → Bool) (inspector : Inspector)
    (action : AgentDispatch.Action) (agent : Agent) :
    (afterAgent resumes inspector action agent).loop = inspector.loop ∧
      (afterAgent resumes inspector action agent).runningNestedLoop =
        inspector.runningNestedLoop ∧
      (afterAgent resumes inspector action agent).begun = inspector.begun := by
  unfold afterAgent
  split
  · split <;> exact ⟨rfl, rfl, rfl⟩
  · exact ⟨rfl, rfl, rfl⟩

/-- One entry more is processed. -/
theorem Progress.take {inspector : Inspector} {done : List Entry} {agent : Agent} {entry : Entry}
    {rest : List Entry} (progress : Progress resumes inspector done)
    (dispatching : inspector.loop = .dispatching)
    (batch : inspector.agent.dispatch = .batch (entry :: rest))
    (queue : agent.incomingMessageQueue = inspector.agent.incomingMessageQueue)
    (dispatch : agent.dispatch = .processing entry rest)
    (processed : agent.processed = inspector.agent.processed ++ [entry]) :
    Progress resumes (afterAgent resumes inspector .nextEntry agent) (done ++ [entry]) := by
  have ahead := progress.ahead
  have taken := progress.taken (by simp [batch])
  rw [batch] at ahead taken
  have unfolded : afterAgent resumes inspector .nextEntry agent =
      if resumes entry then
        { inspector with
          agent := agent.quitMessageLoopOnPause
          quits := inspector.quits ++ [entry] }
      else { inspector with agent } := by
    simp [afterAgent, batch, dispatching]
  rw [unfolded]
  by_cases resuming : resumes entry = true
  · rw [ite_cond_eq_true _ _ (eq_true resuming)]
    refine ⟨?_, ?_, ?_, ?_⟩
    · simp [Agent.quitMessageLoopOnPause, processed, progress.processed]
    · simp [progress.quits, resuming]
    · simpa [Agent.quitMessageLoopOnPause, dispatch, queue, Dispatch.remaining] using ahead
    · intro _
      simpa [Agent.quitMessageLoopOnPause, dispatch, Dispatch.remaining] using taken
  · rw [ite_cond_eq_false _ _ (eq_false resuming)]
    refine ⟨?_, ?_, ?_, ?_⟩
    · simp [processed, progress.processed]
    · simp [progress.quits, resuming]
    · simpa [dispatch, queue, Dispatch.remaining] using ahead
    · intro _
      simpa [dispatch, Dispatch.remaining] using taken

/-- The queue grows while everything else stays. -/
theorem Progress.post {inspector : Inspector} {done more : List Entry} {agent : Agent}
    (progress : Progress resumes inspector done)
    (queue : agent.incomingMessageQueue = inspector.agent.incomingMessageQueue ++ more)
    (dispatch : agent.dispatch = inspector.agent.dispatch)
    (processed : agent.processed = inspector.agent.processed) :
    Progress resumes { inspector with agent } done := by
  apply progress.move processed
  · rw [dispatch, queue, ← List.append_assoc]
    exact List.prefix_append _ _
  · rw [dispatch]
    exact progress.taken

/-- Whatever the agent does inside the `DispatchMessages` of the loop. -/
theorem Progress.step {inspector : Inspector} {done : List Entry} {agent : Agent}
    {action : AgentDispatch.Action} (progress : Progress resumes inspector done)
    (dispatching : inspector.loop = .dispatching) (busy : inspector.agent.dispatch ≠ .idle)
    (called : AgentDispatch.call multiByteToWideChar inspector.agent action = some (.ok agent)) :
    ∃ done, Progress resumes (afterAgent resumes inspector action agent) done := by
  cases call_moved called with
  | posts more other queue dispatch processed =>
    rw [afterAgent_plain fun _ _ next => absurd next other]
    exact ⟨done, progress.post queue dispatch processed⟩
  | starts idle _ _ _ => exact absurd idle busy
  | takes entry rest next batch queue dispatch processed =>
    subst next
    exact ⟨_, progress.take dispatching batch queue dispatch processed⟩
  | swaps swapping queue dispatch processed =>
    rw [afterAgent_plain (by simp [swapping])]
    have ahead := progress.ahead
    rw [swapping] at ahead
    have remaining : agent.dispatch.remaining = inspector.agent.incomingMessageQueue := by
      rw [dispatch]
      by_cases empty : inspector.agent.incomingMessageQueue = []
      · simp [empty, Dispatch.remaining]
      · simp [empty, Dispatch.remaining]
    refine ⟨done, progress.move processed ?_ ?_⟩
    · rw [swapping, remaining, queue]
      simp [Dispatch.remaining]
    · intro _
      rw [remaining]
      simpa [Dispatch.remaining] using ahead
  | again batch queue dispatch processed =>
    rw [afterAgent_plain (by simp [batch])]
    refine ⟨done, progress.move processed ?_ (absurd dispatch)⟩
    rw [batch, dispatch, queue]
    exact List.prefix_rfl
  | finishes entry rest processing queue dispatch processed =>
    rw [afterAgent_plain (by simp [processing])]
    have taken := progress.taken (by simp [processing])
    rw [processing] at taken
    refine ⟨done, progress.move processed ?_ ?_⟩
    · rw [processing, dispatch, queue]
      exact List.prefix_rfl
    · intro _
      rw [dispatch]
      exact taken
  | leaves leaving queue dispatch processed =>
    rw [afterAgent_plain (by simp [leaving])]
    have taken := progress.taken (by simp [leaving])
    rw [leaving] at taken
    refine ⟨done, progress.move processed ?_ ?_⟩
    · rw [leaving, dispatch, queue]
      exact List.prefix_rfl
    · intro _
      rw [dispatch]
      exact taken

/-- When `DispatchMessages` has returned, the iteration is complete. -/
theorem Progress.completed {inspector : Inspector} {done : List Entry}
    (progress : Progress resumes inspector done) (returned : inspector.agent.dispatch = .idle) :
    Completed resumes { inspector with loop := .testing } := by
  have taken := progress.taken (by simp [returned])
  rw [returned] at taken
  obtain ⟨later, whole⟩ := taken
  have exact' : done = inspector.begun.queue ++ later := by
    simpa [Dispatch.remaining] using whole.symm
  refine ⟨later, ?_, ?_⟩
  · rw [← exact']
    exact progress.processed
  · rw [← exact']
    exact progress.quits

/-! ## Steps -/

/-- A step of the agent keeps the invariant of the loop. -/
theorem afterAgent_invariant {inspector : Inspector} {action : AgentDispatch.Action}
    {agent : Agent} (inv : Invariant resumes inspector)
    (turn : (isPosting action || inspector.runsAgent) = true)
    (called : AgentDispatch.call multiByteToWideChar inspector.agent action = some (.ok agent)) :
    Invariant resumes (afterAgent resumes inspector action agent) := by
  obtain ⟨loop, nested, begun⟩ := afterAgent_loop resumes inspector action agent
  refine ⟨by rw [loop, nested]; exact inv.nested, ?_, ?_⟩
  · intro waiting
    rw [loop] at waiting
    have posting : isPosting action = true := by
      simpa [Inspector.runsAgent, waiting] using turn
    obtain ⟨more, queue, dispatch, processed⟩ := posting_moved posting called
    have plain : afterAgent resumes inspector action agent = { inspector with agent } := by
      apply afterAgent_plain
      intro _ _ next
      rw [next] at posting
      cases posting
    obtain ⟨sameProcessed, sameQuits, ahead⟩ := inv.waits waiting
    rw [plain]
    refine ⟨sameProcessed.trans processed.symm, sameQuits, ?_⟩
    exact ahead.trans (by rw [queue]; exact List.prefix_append _ _)
  · intro dispatching
    rw [loop] at dispatching
    obtain ⟨done, progress⟩ := inv.dispatches dispatching
    by_cases busy : inspector.agent.dispatch = .idle
    · have posting : isPosting action = true := by
        simpa [Inspector.runsAgent, dispatching, busy] using turn
      obtain ⟨more, queue, dispatch, processed⟩ := posting_moved posting called
      rw [afterAgent_plain (by simp [busy])]
      exact ⟨done, progress.post queue dispatch processed⟩
    · exact progress.step dispatching busy called

theorem callAgent_kept {inspector : Inspector} {action : AgentDispatch.Action}
    {outcome : Except Failure Inspector} (inv : Invariant resumes inspector)
    (admitted : DispatchesAfresh inspector (.agent action))
    (called : callAgent multiByteToWideChar resumes inspector action = some outcome) :
    Controllable resumes inspector (.agent action) outcome ∧
      ∀ next, outcome = .ok next → Invariant resumes next := by
  simp only [callAgent, Option.ite_none_right_eq_some, Option.map_eq_some_iff] at called
  obtain ⟨⟨turn, -⟩, result, called, rfl⟩ := called
  cases result with
  | error reason =>
    constructor
    · intro dispatching
      rcases call_lost called with ⟨rfl, unfitting⟩ | ⟨own, idle⟩
      · exact unfitting (admitted dispatching)
      · simp [Inspector.runsAgent, own, dispatching, idle] at turn
    · simp [Except.map]
  | ok agent =>
    obtain ⟨loop, -, -⟩ := afterAgent_loop resumes inspector action agent
    constructor
    · intro iterating ended
      rw [loop] at ended
      rw [ended] at iterating
      rcases iterating with impossible | impossible <;> cases impossible
    · intro next same
      obtain rfl := Except.ok.inj same
      exact afterAgent_invariant inv turn called

theorem callAgent_refused {inspector : Inspector} {action : AgentDispatch.Action}
    {outcome : Except Failure Inspector}
    (refused : ¬ DispatchesAfresh inspector (.agent action))
    (called : callAgent multiByteToWideChar resumes inspector action = some outcome) :
    ¬ Controllable resumes inspector (.agent action) outcome := by
  simp only [callAgent, Option.ite_none_right_eq_some, Option.map_eq_some_iff] at called
  obtain ⟨-, result, called, rfl⟩ := called
  cases action with
  | nextEntry =>
    obtain ⟨dispatching, unfitting⟩ := Classical.not_imp.mp refused
    obtain ⟨reason, rfl⟩ := nextEntry_lost unfitting called
    exact fun survives => survives dispatching
  | startSession _ | messageReceived _ _ | endSession _ | postTask | requestInterrupt
  | notifyMessageReceived | runTask | runInterrupt | dispatchOnPause | waitForDebugger
  | frontendMessageArrived | dispatchAtStartup | pauseOnStart | swapBehindLock | finishEntry
  | leaveDispatch | sendMessageToFrontend _ => exact absurd trivial refused

theorem runMessageLoopOnPause_kept {inspector : Inspector} (inv : Invariant resumes inspector) :
    Controllable resumes inspector .runMessageLoopOnPause
        (.ok (runMessageLoopOnPause inspector)) ∧
      Invariant resumes (runMessageLoopOnPause inspector) := by
  by_cases nested : inspector.runningNestedLoop = true
  · have guarded : runMessageLoopOnPause inspector =
        { inspector with agent := { inspector.agent with waitingForResume := true } } := by
      simp [runMessageLoopOnPause, nested]
    rw [guarded]
    constructor
    · intro iterating ended
      change inspector.loop = .testing at ended
      rw [ended] at iterating
      rcases iterating with impossible | impossible <;> cases impossible
    · refine ⟨inv.nested, inv.waits, fun dispatching => ?_⟩
      obtain ⟨done, progress⟩ := inv.dispatches dispatching
      exact ⟨done, progress.processed, progress.quits, progress.ahead, progress.taken⟩
  · have outside : inspector.loop = .outside := by
      by_contra entered
      exact nested (inv.nested entered)
    have entered : (runMessageLoopOnPause inspector).loop = .testing ∧
        (runMessageLoopOnPause inspector).runningNestedLoop = true := by
      simp [runMessageLoopOnPause, nested]
    constructor
    · intro iterating
      rw [outside] at iterating
      rcases iterating with impossible | impossible <;> cases impossible
    · exact .between (fun _ => entered.2) (.inr entered.1)

theorem testWaitingForResume_kept {inspector : Inspector} (inv : Invariant resumes inspector)
    (testing : inspector.loop = .testing) :
    Controllable resumes inspector .testWaitingForResume
        (.ok (testWaitingForResume inspector)) ∧
      Invariant resumes (testWaitingForResume inspector) := by
  constructor
  · intro iterating
    rw [testing] at iterating
    rcases iterating with impossible | impossible <;> cases impossible
  · unfold testWaitingForResume
    split
    · refine ⟨fun _ => inv.nested (by simp [testing]), fun _ => ?_, fun impossible => ?_⟩
      · exact ⟨rfl, rfl, List.prefix_rfl⟩
      · cases impossible
    · exact .between (fun entered => absurd rfl entered) (.inl rfl)

/-- The loop calls `DispatchMessages` from the outside. -/
theorem dispatchMessages_idle {inspector : Inspector} (inv : Invariant resumes inspector)
    (waiting : inspector.loop = .waiting) (idle : inspector.agent.dispatch = .idle) :
    Controllable resumes inspector .frontendMessageReceived (.ok (dispatchMessages inspector)) ∧
      Invariant resumes (dispatchMessages inspector) := by
  have started : dispatchMessages inspector = { inspector with
      agent := { inspector.agent with dispatch := .swapping }, loop := .dispatching } := by
    simp [dispatchMessages, Agent.dispatchMessages, idle]
  rw [started]
  constructor
  · intro _ impossible
    cases impossible
  · refine ⟨fun _ => inv.nested (by simp [waiting]), fun impossible => ?_, fun _ => ?_⟩
    · cases impossible
    · obtain ⟨processed, quits, ahead⟩ := inv.waits waiting
      refine ⟨[], ?_, ?_, ?_, fun swapping => absurd rfl swapping⟩
      · simp [processed]
      · simp [quits]
      · simpa [Dispatch.remaining] using ahead

/-- Where no entry was processed none was waiting. -/
theorem Completed.nothing {inspector : Inspector} (completed : Completed resumes inspector)
    (same : inspector.agent.processed = inspector.begun.processed) :
    inspector.begun.queue = [] := by
  obtain ⟨later, processed, -⟩ := completed
  have none : inspector.begun.queue ++ later = [] := by
    simpa [same] using processed
  exact (List.append_eq_nil_iff.mp none).1

/-- A nested `DispatchMessages` returns at once. -/
theorem dispatchMessages_nested {inspector : Inspector} (inv : Invariant resumes inspector)
    (waiting : inspector.loop = .waiting) (busy : inspector.agent.dispatch ≠ .idle) :
    dispatchMessages inspector = { inspector with loop := .testing } ∧
      Invariant resumes (dispatchMessages inspector) ∧
      (Completed resumes (dispatchMessages inspector) ↔ inspector.begun.queue = []) := by
  have returned : dispatchMessages inspector = { inspector with loop := .testing } := by
    simp [dispatchMessages, busy]
  obtain ⟨processed, quits, -⟩ := inv.waits waiting
  rw [returned]
  refine ⟨rfl, .between (fun _ => inv.nested (by simp [waiting])) (.inr rfl), ?_, ?_⟩
  · intro completed
    exact completed.nothing processed.symm
  · intro empty
    exact ⟨[], by simp [empty, processed], by simp [empty, quits]⟩

theorem call_kept (inspector : Inspector) (action : Action) (outcome : Except Failure Inspector)
    (inv : Invariant resumes inspector) (admitted : DispatchesAfresh inspector action)
    (called : call multiByteToWideChar resumes inspector action = some outcome) :
    Controllable resumes inspector action outcome ∧
      ∀ next, outcome = .ok next → Invariant resumes next := by
  have settled : ∀ next, Controllable resumes inspector action (.ok next) ∧
      Invariant resumes next → outcome = .ok next →
      Controllable resumes inspector action outcome ∧
        ∀ next, outcome = .ok next → Invariant resumes next := by
    rintro next ⟨controllable, held⟩ rfl
    refine ⟨controllable, fun other same => ?_⟩
    obtain rfl := Except.ok.inj same
    exact held
  cases action with
  | agent action => exact callAgent_kept inv admitted called
  | runMessageLoopOnPause =>
    simp only [call, Option.ite_none_right_eq_some, Option.some.injEq] at called
    obtain ⟨-, rfl⟩ := called
    exact settled _ (runMessageLoopOnPause_kept inv) rfl
  | testWaitingForResume =>
    simp only [call, Option.ite_none_right_eq_some, Option.some.injEq] at called
    obtain ⟨testing, rfl⟩ := called
    exact settled _ (testWaitingForResume_kept inv testing) rfl
  | frontendMessageReceived =>
    simp only [call, Option.ite_none_right_eq_some, Option.some.injEq] at called
    obtain ⟨⟨waiting, -⟩, rfl⟩ := called
    by_cases idle : inspector.agent.dispatch = .idle
    · exact settled _ (dispatchMessages_idle inv waiting idle) rfl
    · obtain ⟨-, held, completed⟩ := dispatchMessages_nested inv waiting idle
      have empty := admitted.resolve_left idle
      exact settled _ ⟨fun _ _ => completed.mpr empty, held⟩ rfl
  | dispatchReturned =>
    simp only [call, Option.ite_none_right_eq_some, Option.some.injEq] at called
    obtain ⟨⟨dispatching, idle⟩, rfl⟩ := called
    obtain ⟨done, progress⟩ := inv.dispatches dispatching
    refine settled _ ⟨fun _ _ => progress.completed idle, ?_⟩ rfl
    exact .between (fun _ => inv.nested (by simp [dispatching])) (.inr rfl)

theorem call_refused (inspector : Inspector) (action : Action)
    (outcome : Except Failure Inspector) (inv : Invariant resumes inspector)
    (refused : ¬ DispatchesAfresh inspector action)
    (called : call multiByteToWideChar resumes inspector action = some outcome) :
    ¬ Controllable resumes inspector action outcome := by
  cases action with
  | frontendMessageReceived =>
    simp only [call, Option.ite_none_right_eq_some, Option.some.injEq] at called
    obtain ⟨⟨waiting, -⟩, rfl⟩ := called
    obtain ⟨busy, queued⟩ := not_or.mp refused
    obtain ⟨returned, -, completed⟩ := dispatchMessages_nested inv waiting busy
    intro controllable
    apply queued
    apply completed.mp
    exact controllable (.inl waiting) (by rw [returned])
  | agent action => exact callAgent_refused refused called
  | runMessageLoopOnPause | testWaitingForResume | dispatchReturned =>
    exact absurd trivial refused

/-! ## The end of an iteration -/

/-- The JS thread can bring the iteration to its end, unless an entry loses the
process. -/
def CanEnd (multiByteToWideChar : List UInt8 → Option (List UInt16)) (resumes : Entry → Bool)
    (inspector : Inspector) : Prop :=
  ∃ rest outcome, (pauseProgram multiByteToWideChar resumes).exec (.ok inspector) rest =
      some outcome ∧ ∀ last, outcome = .ok last → last.loop = .testing

theorem CanEnd.before {inspector : Inspector} (action : Action)
    {outcome : Except Failure Inspector}
    (called : call multiByteToWideChar resumes inspector action = some outcome)
    (later : ∀ next, outcome = .ok next → CanEnd multiByteToWideChar resumes next) :
    CanEnd multiByteToWideChar resumes inspector := by
  cases outcome with
  | error reason =>
    refine ⟨[action], .error reason, ?_, by simp⟩
    simp [pauseProgram, called]
  | ok next =>
    obtain ⟨rest, final, ran, ended⟩ := later next rfl
    refine ⟨action :: rest, final, ?_, ended⟩
    rw [Program.exec_ok_cons]
    simpa [pauseProgram, called] using ran

/-- A step of the agent inside the `DispatchMessages` of the loop. -/
theorem CanEnd.agent {inspector : Inspector} (action : AgentDispatch.Action)
    {result : Except Failure Agent} (dispatching : inspector.loop = .dispatching)
    (busy : inspector.agent.dispatch ≠ .idle) (own : action ≠ .dispatchOnPause)
    (called : AgentDispatch.call multiByteToWideChar inspector.agent action = some result)
    (later : ∀ agent, result = .ok agent →
      CanEnd multiByteToWideChar resumes (afterAgent resumes inspector action agent)) :
    CanEnd multiByteToWideChar resumes inspector := by
  have stepped : call multiByteToWideChar resumes inspector (.agent action) =
      some (result.map (afterAgent resumes inspector action)) := by
    simp [call, callAgent, Inspector.runsAgent, dispatching, busy, own, called]
  apply CanEnd.before (.agent action) stepped
  · intro next same
    cases result with
    | error reason => cases same
    | ok agent =>
      obtain rfl := Except.ok.inj same
      exact later agent rfl

theorem idle_canEnd {inspector : Inspector} (dispatching : inspector.loop = .dispatching)
    (idle : inspector.agent.dispatch = .idle) : CanEnd multiByteToWideChar resumes inspector := by
  refine ⟨[.dispatchReturned], .ok { inspector with loop := .testing }, ?_, ?_⟩
  · simp [pauseProgram, call, dispatching, idle]
  · intro last same
    obtain rfl := Except.ok.inj same
    rfl

theorem leaving_canEnd {inspector : Inspector} (dispatching : inspector.loop = .dispatching)
    (leaving : inspector.agent.dispatch = .leaving) :
    CanEnd multiByteToWideChar resumes inspector := by
  apply CanEnd.agent .leaveDispatch dispatching (by simp [leaving]) (by simp)
    (by simp only [AgentDispatch.call, leaving]; rfl)
  intro agent same
  obtain rfl := Except.ok.inj same
  rw [afterAgent_plain (by simp)]
  exact idle_canEnd dispatching rfl

theorem afterAgent_agent (resumes : Entry → Bool) (inspector : Inspector)
    (action : AgentDispatch.Action) (agent : Agent) :
    (afterAgent resumes inspector action agent).agent.dispatch = agent.dispatch ∧
      (afterAgent resumes inspector action agent).agent.incomingMessageQueue =
        agent.incomingMessageQueue := by
  unfold afterAgent
  split
  · split <;> exact ⟨rfl, rfl⟩
  · exact ⟨rfl, rfl⟩

theorem processing_canEnd {inspector : Inspector} {entry : Entry} {rest : List Entry}
    (dispatching : inspector.loop = .dispatching)
    (processing : inspector.agent.dispatch = .processing entry rest)
    (later : ∀ next : Inspector, next.loop = .dispatching → next.agent.dispatch = .batch rest →
      next.agent.incomingMessageQueue = inspector.agent.incomingMessageQueue →
      CanEnd multiByteToWideChar resumes next) :
    CanEnd multiByteToWideChar resumes inspector := by
  apply CanEnd.agent .finishEntry dispatching (by simp [processing]) (by simp)
    (by simp only [AgentDispatch.call, processing]; rfl)
  intro agent same
  obtain rfl := Except.ok.inj same
  rw [afterAgent_plain (by simp)]
  exact later _ dispatching rfl rfl

/-- The batch is worked off, up to the next look at the queue. -/
theorem batch_canEnd (rest : List Entry) : ∀ inspector : Inspector,
    inspector.loop = .dispatching → inspector.agent.dispatch = .batch rest →
    (∀ next : Inspector, next.loop = .dispatching → next.agent.dispatch = .swapping →
      next.agent.incomingMessageQueue = inspector.agent.incomingMessageQueue →
      CanEnd multiByteToWideChar resumes next) →
    CanEnd multiByteToWideChar resumes inspector := by
  induction rest with
  | nil =>
    intro inspector dispatching batch later
    apply CanEnd.agent .nextEntry dispatching (by simp [batch]) (by simp)
      (by simp only [AgentDispatch.call, batch]; rfl)
    intro agent same
    obtain rfl := Except.ok.inj same
    rw [afterAgent_plain (by simp [batch])]
    exact later _ dispatching rfl rfl
  | cons entry rest ih =>
    intro inspector dispatching batch later
    have called : AgentDispatch.call multiByteToWideChar inspector.agent .nextEntry =
        some (({ inspector.agent with
          processed := inspector.agent.processed ++ [entry]
          dispatch := .processing entry rest }).processEntry entry) := by
      simp only [AgentDispatch.call, batch]
    apply CanEnd.agent .nextEntry dispatching (by simp [batch]) (by simp) called
    intro agent same
    have pump := AgentDispatch.processEntry_pump same
    obtain ⟨loop, -, -⟩ := afterAgent_loop resumes inspector .nextEntry agent
    obtain ⟨dispatch, queue⟩ := afterAgent_agent resumes inspector .nextEntry agent
    have processing : (afterAgent resumes inspector .nextEntry agent).agent.dispatch =
        .processing entry rest :=
      dispatch.trans (congrArg AgentDispatch.Pump.dispatch pump)
    apply processing_canEnd (loop.trans dispatching) processing
    intro next again batch' queue'
    apply ih next again batch'
    intro last swapping dispatch' queue''
    apply later last swapping dispatch'
    exact queue''.trans (queue'.trans (queue.trans (congrArg AgentDispatch.Pump.queue pump)))

/-- Every position in the `DispatchMessages` of the loop. -/
theorem dispatching_canEnd {inspector : Inspector} (dispatching : inspector.loop = .dispatching) :
    CanEnd multiByteToWideChar resumes inspector := by
  have emptied : ∀ next : Inspector, next.loop = .dispatching →
      next.agent.dispatch = .swapping → next.agent.incomingMessageQueue = [] →
      CanEnd multiByteToWideChar resumes next := by
    intro next again swapping empty
    apply CanEnd.agent .swapBehindLock again (by simp [swapping]) (by simp)
      (by simp only [AgentDispatch.call, swapping]; rfl)
    intro agent same
    obtain rfl := Except.ok.inj same
    rw [afterAgent_plain (by simp)]
    exact leaving_canEnd again (by simp [empty])
  have swapped : ∀ next : Inspector, next.loop = .dispatching →
      next.agent.dispatch = .swapping → CanEnd multiByteToWideChar resumes next := by
    intro next again swapping
    by_cases empty : next.agent.incomingMessageQueue = []
    · exact emptied next again swapping empty
    · apply CanEnd.agent .swapBehindLock again (by simp [swapping]) (by simp)
        (by simp only [AgentDispatch.call, swapping]; rfl)
      intro agent same
      obtain rfl := Except.ok.inj same
      rw [afterAgent_plain (by simp)]
      apply batch_canEnd next.agent.incomingMessageQueue
      · exact again
      · simp [empty]
      · exact fun last looping found drained => emptied last looping found drained
  cases position : inspector.agent.dispatch with
  | idle => exact idle_canEnd dispatching position
  | swapping => exact swapped inspector dispatching position
  | batch rest =>
    exact batch_canEnd rest inspector dispatching position
      fun next again swapping _ => swapped next again swapping
  | processing entry rest =>
    apply processing_canEnd dispatching position
    intro next again batch _
    exact batch_canEnd rest next again batch fun last looping swapping _ =>
      swapped last looping swapping
  | leaving => exact leaving_canEnd dispatching position

/-- An iteration that has found a message can end, whatever state it is in. -/
theorem iteration_canEnd {inspector : Inspector}
    (iterating : inspector.loop = .waiting ∧ inspector.agent.incomingMessageQueue ≠ [] ∨
      inspector.loop = .dispatching) :
    CanEnd multiByteToWideChar resumes inspector := by
  rcases iterating with ⟨waiting, arrived⟩ | dispatching
  · have called : call multiByteToWideChar resumes inspector .frontendMessageReceived =
        some (.ok (dispatchMessages inspector)) := by
      simp [call, waiting, arrived]
    apply CanEnd.before .frontendMessageReceived called
    intro next same
    obtain rfl := Except.ok.inj same
    by_cases idle : inspector.agent.dispatch = .idle
    · apply dispatching_canEnd
      simp [dispatchMessages, idle]
    · refine ⟨[], .ok (dispatchMessages inspector), Program.exec_nil _, ?_⟩
      intro last same
      obtain rfl := Except.ok.inj same
      simp [dispatchMessages, idle]
  · exact dispatching_canEnd dispatching

/-- Along every run the iterations of the loop are complete as long as, and only as
long as, the loop is not entered with entries waiting from inside a dispatch and the
entries fit the state of the agent; and an iteration that found a message can always
end. -/
theorem pause_controllable_iff (multiByteToWideChar : List UInt8 → Option (List UInt16))
    (resumes : Entry → Bool) (trace : List Action) (outcome : Except Failure Inspector)
    (ran : (pauseProgram multiByteToWideChar resumes).run trace = some outcome) :
    ((pauseProgram multiByteToWideChar resumes).Along (Controllable resumes)
        (pauseProgram multiByteToWideChar resumes).start trace ↔
      (pauseProgram multiByteToWideChar resumes).Meets DispatchesAfresh
        (pauseProgram multiByteToWideChar resumes).start trace) ∧
    ∀ inspector, outcome = .ok inspector →
      inspector.loop = .waiting ∧ inspector.agent.incomingMessageQueue ≠ [] ∨
        inspector.loop = .dispatching →
      CanEnd multiByteToWideChar resumes inspector := by
  constructor
  · exact Program.along_iff_meets (Invariant resumes) call_kept call_refused trace
      (pauseProgram multiByteToWideChar resumes).start outcome start_invariant ran
  · intro inspector _ iterating
    exact iteration_canEnd iterating

end

instance (agent : Agent) : Decidable (NextFitting agent) :=
  inferInstanceAs (Decidable (∀ entry ∈ agent.dispatch.remaining.head?, Fitting agent entry))

instance (inspector : Inspector) (action : Action) :
    Decidable (DispatchesAfresh inspector action) :=
  match action with
  | .frontendMessageReceived =>
      inferInstanceAs (Decidable (inspector.agent.dispatch = .idle ∨ inspector.begun.queue = []))
  | .agent .nextEntry =>
      inferInstanceAs (Decidable (inspector.loop = .dispatching → NextFitting inspector.agent))
  | .agent (.startSession _) | .agent (.messageReceived _ _) | .agent (.endSession _)
  | .agent .postTask | .agent .requestInterrupt | .agent .notifyMessageReceived
  | .agent .runTask | .agent .runInterrupt | .agent .dispatchOnPause | .agent .waitForDebugger
  | .agent .frontendMessageArrived | .agent .dispatchAtStartup | .agent .pauseOnStart
  | .agent .swapBehindLock | .agent .finishEntry | .agent .leaveDispatch
  | .agent (.sendMessageToFrontend _) | .runMessageLoopOnPause | .testWaitingForResume
  | .dispatchReturned => .isTrue trivial

/-- A message that stands for a resume command. -/
def resumeCommand (entry : Entry) : Bool := entry.message == [0x7B]

/-- The program pauses outside a dispatch, with a resume command in the queue. -/
def plainPause : List Action :=
  [.agent (.startSession 0), .agent .postTask, .agent (.messageReceived 0 [0x7B]),
    .runMessageLoopOnPause, .testWaitingForResume, .frontendMessageReceived,
    .agent .swapBehindLock, .agent .nextEntry, .agent .finishEntry, .agent .nextEntry,
    .agent .finishEntry, .agent .nextEntry, .agent .swapBehindLock, .agent .leaveDispatch,
    .dispatchReturned]

theorem plain_pause_controllable :
    (pauseProgram InspectorUtils.asciiToWideChar resumeCommand).Along (Controllable resumeCommand)
      (pauseProgram InspectorUtils.asciiToWideChar resumeCommand).start plainPause := by
  apply (pause_controllable_iff InspectorUtils.asciiToWideChar resumeCommand plainPause _
    rfl).1.mpr
  decide

/-- The program pauses in an entry that is being dispatched, and a resume command
arrives then. -/
def nestedPause : List Action :=
  [.agent (.startSession 0), .agent .postTask, .agent (.messageReceived 0 [0x41]),
    .agent .runTask, .agent .swapBehindLock, .agent .nextEntry, .agent .finishEntry,
    .agent .nextEntry, .runMessageLoopOnPause, .agent (.messageReceived 0 [0x7B]),
    .testWaitingForResume]

/-- The nested call returns at once and the command stays in the queue. -/
theorem nested_pause_not_controllable :
    ¬ (pauseProgram InspectorUtils.asciiToWideChar resumeCommand).Along
      (Controllable resumeCommand)
      (pauseProgram InspectorUtils.asciiToWideChar resumeCommand).start
      (nestedPause ++ [.frontendMessageReceived]) := by
  intro along
  have controllable : _ → _ → Completed resumeCommand _ :=
    along nestedPause .frontendMessageReceived [] _ (.ok _) rfl rfl rfl
  exact absurd ((controllable (.inl rfl) rfl).nothing (by decide)) (by decide)

end V8Jsi.AgentPause
