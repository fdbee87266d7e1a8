import V8Jsi.Lib.Runs
import V8Jsi.SocketServer
import V8Jsi.Utf16

set_option autoImplicit false

/- The message pump of `AgentImpl` in inspector_agent.cpp. Several threads may be
inside `PostIncomingMessage`; the JS thread runs `DispatchMessages`, one step per
action. Steps inside the inspector are where the JS thread may come back to
`DispatchMessages` and where the channel may write. -/
namespace V8Jsi.AgentDispatch

open Runs InspectorUtils
open SocketServer (tagConnect tagDisconnect)

inductive State
  | kNew
  | kAccepting
  | kConnected
  | kDone
  | kError
  deriving DecidableEq, Repr

/-- The delegate function that posted an entry. The code does not keep it. -/
inductive Origin
  | startSession
  | messageReceived
  | endSession
  deriving DecidableEq, Repr

/-- A pair of the message queue, with its origin. -/
structure Entry where
  sessionId : Nat
  message : List UInt16
  origin : Origin
  deriving DecidableEq, Repr

/-- How an entry loses the process. -/
inductive Failure
  | checkFailed (expected : State)
  | nullSessionAtDispatch
  | nullSessionAtPause
  deriving DecidableEq, Repr

/-- Where the JS thread stands in `DispatchMessages`; `dispatching_messages_` is
set unless it is idle. A batch holds the entries of `tasks` that remain. -/
inductive Dispatch
  | idle
  | swapping
  | batch (rest : List Entry)
  | processing (entry : Entry) (rest : List Entry)
  | leaving
  deriving DecidableEq, Repr

/-- Where the JS thread stands in `waitForDebugger`. -/
inductive Startup
  | none
  | waiting
  | looping
  deriving DecidableEq, Repr

/-- A message of the channel, with the entry that was being processed. -/
structure Sent where
  during : Option Entry
  sessionId : Nat
  message : List UInt16
  deriving DecidableEq, Repr

/-- The members of the agent, the tasks and interrupts on their way, and how many
`PostIncomingMessage` calls stand before each of their later steps. The last
fields record the run. -/
structure Agent where
  state : State := .kAccepting
  sessionId : Nat := 0
  session : Bool := false
  shuttingDown : Bool := false
  waitingForFrontend : Bool := true
  waitingForResume : Bool := false
  incomingMessageQueue : List Entry := []
  dispatch : Dispatch := .idle
  startup : Startup := .none
  pendingTasks : Nat := 0
  pendingInterrupts : Nat := 0
  toPostTask : Nat := 0
  toRequestInterrupt : Nat := 0
  toNotify : Nat := 0
  attached : List Nat := []
  everAttached : List Nat := []
  posted : List Entry := []
  processed : List Entry := []
  dispatched : List (Entry × Nat) := []
  sent : List Sent := []
  deriving DecidableEq, Repr

inductive Action
  | startSession (sessionId : Nat)
  | messageReceived (sessionId : Nat) (message : List UInt8)
  | endSession (sessionId : Nat)
  | postTask
  | requestInterrupt
  | notifyMessageReceived
  | runTask
  | runInterrupt
  | dispatchOnPause
  | waitForDebugger
  | frontendMessageArrived
  | dispatchAtStartup
  | pauseOnStart
  | swapBehindLock
  | nextEntry
  | finishEntry
  | leaveDispatch
  | sendMessageToFrontend (message : List UInt16)
  deriving DecidableEq, Repr

/-! ## Entries -/

/-- The comparison with the two tags, which only strings of their lengths reach. -/
def tagOf (message : List UInt16) : List UInt8 :=
  if message.length = tagConnect.length ∨ message.length = tagDisconnect.length then
    utf16toUTF8 message
  else []

/-- "Runtime.runIfWaitingForDebugger" -/
def runIfWaitingForDebugger : List UInt8 :=
  [0x52, 0x75, 0x6E, 0x74, 0x69, 0x6D, 0x65, 0x2E, 0x72, 0x75, 0x6E, 0x49, 0x66, 0x57, 0x61, 0x69,
    0x74, 0x69, 0x6E, 0x67, 0x46, 0x6F, 0x72, 0x44, 0x65, 0x62, 0x75, 0x67, 0x67, 0x65, 0x72]

namespace Agent

def connectFrontend (agent : Agent) : Agent := { agent with session := true }

def disconnectFrontend (agent : Agent) : Agent := { agent with session := false }

def quitMessageLoopOnPause (agent : Agent) : Agent := { agent with waitingForResume := false }

def dispatchMessageFromFrontend (agent : Agent) (entry : Entry) : Except Failure Agent :=
  let waitingForFrontend := agent.waitingForFrontend &&
    decide (runIfWaitingForDebugger <:+: utf16toUTF8 entry.message)
  if agent.session then
    .ok { agent with
      waitingForFrontend
      dispatched := agent.dispatched ++ [(entry, agent.sessionId)] }
  else .error .nullSessionAtDispatch

/-- The body of the loop over `tasks`. -/
def processEntry (agent : Agent) (entry : Entry) : Except Failure Agent :=
  if tagOf entry.message = tagConnect then
    if agent.state = .kAccepting then
      .ok { agent with sessionId := entry.sessionId, state := .kConnected }.connectFrontend
    else .error (.checkFailed .kAccepting)
  else if tagOf entry.message = tagDisconnect then
    if agent.state = .kConnected then
      let state := if agent.shuttingDown then State.kDone else .kAccepting
      .ok { agent with state }.quitMessageLoopOnPause.disconnectFrontend
    else .error (.checkFailed .kConnected)
  else agent.dispatchMessageFromFrontend entry

/-- The head of `DispatchMessages`: a call from inside a dispatch returns at once. -/
def dispatchMessages (agent : Agent) : Agent :=
  if agent.dispatch = .idle then { agent with dispatch := .swapping } else agent

/-- Appending is one locked section. Whoever finds the queue empty posts the
task, requests the interrupt and notifies; the others only notify. -/
def appendMessage (agent : Agent) (entry : Entry) : Agent :=
  let appended := { agent with
    incomingMessageQueue := agent.incomingMessageQueue ++ [entry]
    posted := agent.posted ++ [entry] }
  if agent.incomingMessageQueue.isEmpty then
    { appended with toPostTask := agent.toPostTask + 1 }
  else { appended with toNotify := agent.toNotify + 1 }

/-- The JS thread is in JavaScript or inspector code, where tasks, interrupts and
nested message loops can run. -/
def inScript (agent : Agent) : Bool :=
  match agent.dispatch with
  | .idle => agent.startup == .none
  | .processing _ _ => true
  | .swapping | .batch _ | .leaving => false

def currentEntry (agent : Agent) : Option Entry :=
  match agent.dispatch with
  | .processing entry _ => some entry
  | .idle | .swapping | .batch _ | .leaving => none

/-- `Write` with the outgoing queue empty, as it is whenever the channel writes. -/
def write (agent : Agent) (message : List UInt16) : Agent :=
  { agent with sent := agent.sent ++ [⟨agent.currentEntry, agent.sessionId, message⟩] }

end Agent

section

variable (multiByteToWideChar : List UInt8 → Option (List UInt16))

/-- A text that cannot be converted makes the call throw before it appends. -/
def postIncomingMessage (agent : Agent) (sessionId : Nat) (message : List UInt8)
    (origin : Origin) : Agent :=
  match utf8ToUtf16 multiByteToWideChar message with
  | .error _ => agent
  | .ok units => agent.appendMessage ⟨sessionId, units, origin⟩

/-- Every socket attaches once, and sends and detaches while it is attached. -/
def call (agent : Agent) : Action → Option (Except Failure Agent)
  | .startSession sessionId =>
      if sessionId ∉ agent.everAttached then
        some (.ok (postIncomingMessage multiByteToWideChar { agent with
          attached := sessionId :: agent.attached
          everAttached := sessionId :: agent.everAttached } sessionId tagConnect .startSession))
      else none
  | .messageReceived sessionId message =>
      if sessionId ∈ agent.attached then
        some (.ok (postIncomingMessage multiByteToWideChar agent sessionId message
          .messageReceived))
      else none
  | .endSession sessionId =>
      if sessionId ∈ agent.attached then
        some (.ok (postIncomingMessage multiByteToWideChar
          { agent with attached := agent.attached.erase sessionId } sessionId tagDisconnect
          .endSession))
      else none
  | .postTask =>
      if 0 < agent.toPostTask then
        some (.ok { agent with
          toPostTask := agent.toPostTask - 1
          pendingTasks := agent.pendingTasks + 1
          toRequestInterrupt := agent.toRequestInterrupt + 1 })
      else none
  | .requestInterrupt =>
      if 0 < agent.toRequestInterrupt then
        some (.ok { agent with
          toRequestInterrupt := agent.toRequestInterrupt - 1
          pendingInterrupts := agent.pendingInterrupts + 1
          toNotify := agent.toNotify + 1 })
      else none
  | .notifyMessageReceived =>
      if 0 < agent.toNotify then some (.ok { agent with toNotify := agent.toNotify - 1 })
      else none
  | .runTask =>
      if agent.inScript ∧ 0 < agent.pendingTasks then
        some (.ok { agent with pendingTasks := agent.pendingTasks - 1 }.dispatchMessages)
      else none
  | .runInterrupt =>
      if agent.inScript ∧ 0 < agent.pendingInterrupts then
        some (.ok { agent with pendingInterrupts := agent.pendingInterrupts - 1 }.dispatchMessages)
      else none
  | .dispatchOnPause =>
      if agent.inScript then
        some (.ok { agent with waitingForResume := true }.dispatchMessages)
      else none
  | .waitForDebugger =>
      if agent.dispatch = .idle ∧ agent.startup = .none then
        some (.ok { agent with startup := .waiting })
      else none
  | .frontendMessageArrived =>
      -- `WaitForFrontendMessage` has returned. The state `kError` is never set,
      -- so that `Stop` is not called here.
      if agent.startup = .waiting ∧ agent.incomingMessageQueue ≠ [] then
        some (.ok { agent with state := .kAccepting, startup := .looping })
      else none
  | .dispatchAtStartup =>
      if agent.startup = .looping ∧ agent.dispatch = .idle ∧ agent.waitingForFrontend then
        some (.ok agent.dispatchMessages)
      else none
  | .pauseOnStart =>
      if agent.startup = .looping ∧ agent.dispatch = .idle ∧ !agent.waitingForFrontend then
        some (if agent.session then .ok { agent with startup := .none }
          else .error .nullSessionAtPause)
      else none
  | .swapBehindLock =>
      match agent.dispatch with
      | .swapping =>
          let dispatch :=
            if agent.incomingMessageQueue.isEmpty then Dispatch.leaving
            else .batch agent.incomingMessageQueue
          some (.ok { agent with incomingMessageQueue := [], dispatch })
      | .idle | .batch _ | .processing _ _ | .leaving => none
  | .nextEntry =>
      match agent.dispatch with
      | .batch (entry :: rest) =>
          some (({ agent with
            processed := agent.processed ++ [entry]
            dispatch := .processing entry rest }).processEntry entry)
      | .batch [] => some (.ok { agent with dispatch := .swapping })
      | .idle | .swapping | .processing _ _ | .leaving => none
  | .finishEntry =>
      match agent.dispatch with
      | .processing _ rest => some (.ok { agent with dispatch := .batch rest })
      | .idle | .swapping | .batch _ | .leaving => none
  | .leaveDispatch =>
      match agent.dispatch with
      | .leaving => some (.ok { agent with dispatch := .idle })
      | .idle | .swapping | .batch _ | .processing _ _ => none
  | .sendMessageToFrontend message =>
      if agent.inScript ∧ agent.session then some (.ok (agent.write message)) else none

/-- The agent as `Start` leaves it. -/
def agentProgram : Program Agent Action Failure where
  start := {}
  call := call multiByteToWideChar

variable {multiByteToWideChar}

/-- The process is lost with the next entry of a batch, or at the pause with which the
start-up ends. -/
theorem call_error_inv {agent : Agent} {action : Action} {reason : Failure}
    (called : call multiByteToWideChar agent action = some (.error reason)) :
    (∃ entry rest, action = .nextEntry ∧ agent.dispatch = .batch (entry :: rest) ∧
      { agent with
        processed := agent.processed ++ [entry]
        dispatch := .processing entry rest }.processEntry entry = .error reason) ∨
    action = .pauseOnStart ∧ agent.startup = .looping ∧ agent.dispatch = .idle ∧
      agent.waitingForFrontend = false ∧ agent.session = false ∧
      reason = .nullSessionAtPause := by
  cases action with
  | nextEntry =>
    left
    simp only [call] at called
    split at called
    · rename_i entry rest batch
      exact ⟨entry, rest, rfl, batch, Option.some.inj called⟩
    all_goals cases called
  | pauseOnStart =>
    right
    obtain ⟨⟨looping, idle, passed⟩, taken⟩ := Option.ite_none_right_eq_some.mp called
    split at taken
    · cases taken
    · rename_i absent
      exact ⟨rfl, looping, idle, by simpa using passed, by simpa using absent,
        (Except.error.inj (Option.some.inj taken)).symm⟩
  | startSession _ | messageReceived _ _ | endSession _ | postTask | requestInterrupt
  | notifyMessageReceived | runTask | runInterrupt | dispatchOnPause | waitForDebugger
  | frontendMessageArrived | dispatchAtStartup | sendMessageToFrontend _ =>
    obtain ⟨-, impossible⟩ := Option.ite_none_right_eq_some.mp called
    cases impossible
  | swapBehindLock | finishEntry | leaveDispatch =>
    simp only [call] at called
    split at called
    all_goals cases called

end

end V8Jsi.AgentDispatch
