import Mathlib.Data.List.AList
import V8Jsi.Lib.Runs

set_option autoImplicit false

/- `InspectorSocketServer` and the `InspectorAgentDelegate` it owns. Strings are
byte lists, and an agent is named by a number. Session ids come from a counter
that is taken not to overflow. -/
namespace V8Jsi.SocketServer

open Runs

/-- How a call can end the process. A null `delegate_` is dereferenced in a call
for a session that is still connected, or in any other call. -/
inductive Fault
  | nullDelegate (connected : Bool)
  | nullSession
  | nullAgent
  | checkFailed
  deriving DecidableEq, Repr

def tagConnect : List UInt8 := [0x23, 0x63, 0x6F, 0x6E, 0x6E, 0x65, 0x63, 0x74]
def tagDisconnect : List UInt8 := [0x23, 0x64, 0x69, 0x73] ++ tagConnect.drop 1

/-- One call of `AgentImpl::PostIncomingMessage`. -/
structure Post where
  agent : Nat
  sessionId : Nat
  message : List UInt8
  deriving DecidableEq, Repr

structure InspectorAgentDelegate where
  targetsMap : AList fun _ : List UInt8 => Nat := ∅
  sessionTargetsMap : AList fun _ : Nat => Nat := ∅
  posts : List Post := []

namespace InspectorAgentDelegate

def postIncomingMessage (delegate : InspectorAgentDelegate) (agent sessionId : Nat)
    (message : List UInt8) : InspectorAgentDelegate :=
  { delegate with posts := delegate.posts ++ [⟨agent, sessionId, message⟩] }

/-- `emplace` keeps the entry of a session that has one. -/
def startSession (delegate : InspectorAgentDelegate) (sessionId : Nat) (targetId : List UInt8) :
    Except Fault InspectorAgentDelegate :=
  match delegate.targetsMap.lookup targetId with
  | none => .error .nullAgent
  | some agent =>
      let entered := match delegate.sessionTargetsMap.lookup sessionId with
        | none => delegate.sessionTargetsMap.insert sessionId agent
        | some _ => delegate.sessionTargetsMap
      .ok ({ delegate with sessionTargetsMap := entered }.postIncomingMessage agent sessionId
        tagConnect)

/-- `session_targets_map_[session_id]` is null for a session without a target. -/
def postToTarget (delegate : InspectorAgentDelegate) (sessionId : Nat) (message : List UInt8) :
    Except Fault InspectorAgentDelegate :=
  match delegate.sessionTargetsMap.lookup sessionId with
  | none => .error .nullAgent
  | some agent => .ok (delegate.postIncomingMessage agent sessionId message)

def messageReceived (delegate : InspectorAgentDelegate) (sessionId : Nat)
    (message : List UInt8) : Except Fault InspectorAgentDelegate :=
  delegate.postToTarget sessionId message

def endSession (delegate : InspectorAgentDelegate) (sessionId : Nat) :
    Except Fault InspectorAgentDelegate :=
  delegate.postToTarget sessionId tagDisconnect

def getTargetIds (delegate : InspectorAgentDelegate) : List (List UInt8) :=
  delegate.targetsMap.keys

def addTarget (delegate : InspectorAgentDelegate) (targetId : List UInt8) (agent : Nat) :
    InspectorAgentDelegate :=
  match delegate.targetsMap.lookup targetId with
  | none => { delegate with targetsMap := delegate.targetsMap.insert targetId agent }
  | some _ => delegate

def removeTarget (delegate : InspectorAgentDelegate) (targetId : List UInt8) :
    InspectorAgentDelegate :=
  { delegate with targetsMap := delegate.targetsMap.erase targetId }

def hasTargets (delegate : InspectorAgentDelegate) : Bool := !delegate.targetsMap.entries.isEmpty

end InspectorAgentDelegate

/-! ## Paths of GET requests -/

def toLower (c : UInt8) : UInt8 := if 0x41 ≤ c ∧ c ≤ 0x5A then c + 0x20 else c

/-- Characters of a C string: past the end stands the terminator. -/
def charAt (string : List UInt8) (i : Nat) : UInt8 := string[i]?.getD 0

def stringEqualNoCaseN (a b : List UInt8) : Nat → Nat → Bool
  | _, 0 => true
  | i, length + 1 =>
      if toLower (charAt a i) ≠ toLower (charAt b i) then false
      else if charAt a i = 0 then true
      else stringEqualNoCaseN a b (i + 1) length

def matchPathSegment (path expected : List UInt8) : Option (List UInt8) :=
  let len := expected.length
  if stringEqualNoCaseN path expected 0 len then
    if charAt path len = 0x2F ∨ charAt path len = 0x3F then some (path.drop (len + 1))
    else if charAt path len = 0 then some (path.drop len)
    else none
  else none

def jsonSegment : List UInt8 := [0x2F, 0x6A, 0x73, 0x6F, 0x6E]
def listSegment : List UInt8 := [0x6C, 0x69, 0x73, 0x74]
def protocolSegment : List UInt8 := [0x70, 0x72, 0x6F, 0x74, 0x6F, 0x63, 0x6F, 0x6C]
def versionSegment : List UInt8 := [0x76, 0x65, 0x72, 0x73, 0x69, 0x6F, 0x6E]

inductive Response
  | list
  | protocol
  | version
  deriving DecidableEq, Repr

/-- Which response `HandleGetRequest` sends, if any. -/
def responseFor (path : List UInt8) : Option Response := do
  let command ← matchPathSegment path jsonSegment
  if (matchPathSegment command listSegment).isSome ∨ charAt command 0 = 0 then some .list
  else if (matchPathSegment command protocolSegment).isSome then some .protocol
  else if (matchPathSegment command versionSegment).isSome then some .version
  else none

/-! ## The server -/

inductive ServerState
  | kNew
  | kRunning
  | kStopping
  | kStopped
  deriving DecidableEq, Repr

/-- `connectedSessions` gives each open session the id of its target, which is
empty until the session is attached. -/
structure InspectorSocketServer where
  delegate : Option InspectorAgentDelegate := some {}
  nextSessionId : Nat := 0
  state : ServerState := .kNew
  connectedSessions : AList fun _ : Nat => List UInt8 := ∅

namespace InspectorSocketServer

def session (server : InspectorSocketServer) (sessionId : Nat) : Bool :=
  (server.connectedSessions.lookup sessionId).isSome

/-- A member call on `*delegate_` while `sessionId` is served. -/
def useDelegate (server : InspectorSocketServer) (sessionId : Nat) :
    Except Fault InspectorAgentDelegate :=
  match server.delegate with
  | none => .error (.nullDelegate (server.session sessionId))
  | some delegate => .ok delegate

def start (server : InspectorSocketServer) : Except Fault InspectorSocketServer :=
  if server.state = .kStopped then .error .checkFailed
  else .ok { server with state := .kRunning }

def stop (server : InspectorSocketServer) : Except Fault InspectorSocketServer :=
  if server.state = .kStopped then .ok server
  else if server.state ≠ .kRunning then .error .checkFailed
  else .ok { server with state := .kStopped, delegate := none }

def accept (server : InspectorSocketServer) : InspectorSocketServer :=
  { server with
    nextSessionId := server.nextSessionId + 1
    connectedSessions := server.connectedSessions.insert server.nextSessionId [] }

/-- The list response asks the delegate for every target. -/
def handleGetRequest (server : InspectorSocketServer) (sessionId : Nat) (path : List UInt8) :
    Except Fault InspectorSocketServer :=
  if !server.session sessionId then .error .nullSession
  else
    match responseFor path with
    | some .list => do
        let _ ← server.useDelegate sessionId
        return server
    | some .protocol | some .version | none => .ok server

def targetExists (server : InspectorSocketServer) (id : List UInt8) : Bool :=
  server.delegate.any fun delegate => id ∈ delegate.getTargetIds

def sessionStarted (server : InspectorSocketServer) (sessionId : Nat) (targetId : List UInt8) :
    Except Fault InspectorSocketServer := do
  let delegate ← server.useDelegate sessionId
  if targetId ∉ delegate.getTargetIds then
    if server.session sessionId then return server else throw .nullSession
  else if !server.session sessionId then throw .nullSession
  else
    let started ← delegate.startSession sessionId targetId
    return { server with
      delegate := some started
      connectedSessions := server.connectedSessions.insert sessionId targetId }

def messageReceived (server : InspectorSocketServer) (sessionId : Nat) (message : List UInt8) :
    Except Fault InspectorSocketServer := do
  let delegate ← server.useDelegate sessionId
  let posted ← delegate.messageReceived sessionId message
  return { server with delegate := some posted }

/-- The end of `SessionTerminated`, after an attached session was reported. -/
def eraseSession (server : InspectorSocketServer) (sessionId : Nat) : InspectorSocketServer :=
  let erased := { server with connectedSessions := server.connectedSessions.erase sessionId }
  if erased.connectedSessions.entries.isEmpty ∧ erased.state = .kStopped then
    { erased with delegate := none }
  else erased

def sessionTerminated (server : InspectorSocketServer) (sessionId : Nat) :
    Except Fault InspectorSocketServer :=
  match server.connectedSessions.lookup sessionId with
  | none => .ok server
  | some targetId =>
      if targetId ≠ [] then do
        let delegate ← server.useDelegate sessionId
        let ended ← delegate.endSession sessionId
        return { server with delegate := some ended }.eraseSession sessionId
      else .ok (server.eraseSession sessionId)

/-- `AddTarget` and `RemoveTarget` serve no session. -/
def updateTargets (server : InspectorSocketServer)
    (update : InspectorAgentDelegate → InspectorAgentDelegate) :
    Except Fault InspectorSocketServer :=
  match server.delegate with
  | none => .error (.nullDelegate false)
  | some delegate => .ok { server with delegate := some (update delegate) }

def addTarget (server : InspectorSocketServer) (targetId : List UInt8) (agent : Nat) :
    Except Fault InspectorSocketServer :=
  server.updateTargets (·.addTarget targetId agent)

def removeTarget (server : InspectorSocketServer) (targetId : List UInt8) :
    Except Fault InspectorSocketServer :=
  server.updateTargets (·.removeTarget targetId)

def hasTargets (server : InspectorSocketServer) : Except Fault Bool :=
  match server.delegate with
  | none => .error (.nullDelegate false)
  | some delegate => .ok delegate.hasTargets

end InspectorSocketServer

inductive Action
  | accept
  | handleGetRequest (sessionId : Nat) (path : List UInt8)
  | sessionStarted (sessionId : Nat) (targetId : List UInt8)
  | messageReceived (sessionId : Nat) (message : List UInt8)
  | sessionTerminated (sessionId : Nat)
  | addTarget (targetId : List UInt8) (agent : Nat)
  | removeTarget (targetId : List UInt8)
  | stop
  deriving DecidableEq, Repr

def call (server : InspectorSocketServer) : Action → Except Fault InspectorSocketServer
  | .accept => .ok server.accept
  | .handleGetRequest sessionId path => server.handleGetRequest sessionId path
  | .sessionStarted sessionId targetId => server.sessionStarted sessionId targetId
  | .messageReceived sessionId message => server.messageReceived sessionId message
  | .sessionTerminated sessionId => server.sessionTerminated sessionId
  | .addTarget targetId agent => server.addTarget targetId agent
  | .removeTarget targetId => server.removeTarget targetId
  | .stop => server.stop

/-- A server as `getServer` hands it out: it has been started. Every call may be
made at any time. -/
def inspectorSocketServer : Program InspectorSocketServer Action Fault where
  start := { state := .kRunning }
  call server action := some (call server action)

example : InspectorSocketServer.start {} = .ok inspectorSocketServer.start := rfl

/-! ## The delegate while sessions are connected -/

def InspectorSocketServer.Empty (server : InspectorSocketServer) : Prop :=
  server.connectedSessions.entries = []

instance (server : InspectorSocketServer) : Decidable server.Empty :=
  inferInstanceAs (Decidable (server.connectedSessions.entries = []))

/-- What the server promises its sessions: a connected session finds a delegate,
and after `Stop` the delegate goes no later than the last session. -/
def Guarded : Except Fault InspectorSocketServer → Prop
  | .ok server => (¬ server.Empty → server.delegate.isSome) ∧
      (server.state = .kStopped → server.Empty → server.delegate = none)
  | .error fault => fault ≠ .nullDelegate true

/-- `Stop` finds no session connected, and no connection is accepted after it. -/
def Orderly (server : InspectorSocketServer) : Action → Prop
  | .stop => server.state = .kRunning → server.Empty
  | .accept => server.state ≠ .kStopped
  | .handleGetRequest _ _ | .sessionStarted _ _ | .messageReceived _ _ | .sessionTerminated _
  | .addTarget _ _ | .removeTarget _ => True

instance (server : InspectorSocketServer) : ∀ action, Decidable (Orderly server action)
  | .stop => inferInstanceAs (Decidable (_ → _))
  | .accept => inferInstanceAs (Decidable (¬ _))
  | .handleGetRequest _ _ | .sessionStarted _ _ | .messageReceived _ _ | .sessionTerminated _
  | .addTarget _ _ | .removeTarget _ => isTrue trivial

/-- The server runs and has its delegate, or it is stopped and left alone. -/
inductive Lifetime (server : InspectorSocketServer) : Prop
  | running (state : server.state = .kRunning) (delegate : server.delegate.isSome)
  | stopped (state : server.state = .kStopped) (delegate : server.delegate = none)
      (empty : server.Empty)

theorem Lifetime.guarded {server : InspectorSocketServer} (lifetime : Lifetime server) :
    Guarded (.ok server) := by
  cases lifetime with
  | running state delegate =>
    refine ⟨fun _ => delegate, fun stopped => ?_⟩
    rw [state] at stopped
    cases stopped
  | stopped state delegate empty => exact ⟨fun occupied => absurd empty occupied, fun _ _ => delegate⟩

theorem session_of_empty {server : InspectorSocketServer} (empty : server.Empty)
    (sessionId : Nat) : server.connectedSessions.lookup sessionId = none := by
  unfold InspectorSocketServer.Empty at empty
  rw [AList.lookup, empty, List.dlookup_nil]

/-- An outcome the calls may have: lost for another reason than the delegate, or
a server in order. -/
def Kept (outcome : Except Fault InspectorSocketServer) : Prop :=
  (∃ fault, outcome = .error fault ∧ fault ≠ .nullDelegate true) ∨
    ∃ server, outcome = .ok server ∧ Lifetime server

theorem Kept.safe {outcome : Except Fault InspectorSocketServer} (kept : Kept outcome) :
    Guarded outcome ∧ ∀ next, outcome = .ok next → Lifetime next := by
  rcases kept with ⟨fault, rfl, other⟩ | ⟨server, rfl, lifetime⟩
  · exact ⟨other, fun _ impossible => by cases impossible⟩
  · refine ⟨lifetime.guarded, ?_⟩
    rintro next ⟨⟩
    exact lifetime

theorem postToTarget_kept {delegate : InspectorAgentDelegate} {sessionId : Nat}
    {message : List UInt8} {finish : InspectorAgentDelegate → InspectorSocketServer}
    (finished : ∀ delegate, Lifetime (finish delegate)) :
    Kept (delegate.postToTarget sessionId message >>= fun posted => .ok (finish posted)) := by
  unfold InspectorAgentDelegate.postToTarget
  split
  · exact .inl ⟨.nullAgent, rfl, by decide⟩
  · exact .inr ⟨_, rfl, finished _⟩

theorem startSession_kept {delegate : InspectorAgentDelegate} {sessionId : Nat}
    {targetId : List UInt8} {finish : InspectorAgentDelegate → InspectorSocketServer}
    (finished : ∀ delegate, Lifetime (finish delegate)) :
    Kept (delegate.startSession sessionId targetId >>= fun started => .ok (finish started)) := by
  unfold InspectorAgentDelegate.startSession
  split
  · exact .inl ⟨.nullAgent, rfl, by decide⟩
  · exact .inr ⟨_, rfl, finished _⟩

theorem eraseSession_running {server : InspectorSocketServer} (sessionId : Nat)
    (state : server.state = .kRunning) (delegate : server.delegate.isSome) :
    Lifetime (server.eraseSession sessionId) := by
  unfold InspectorSocketServer.eraseSession
  simp only
  split
  · rename_i stopped
    rw [state] at stopped
    cases stopped.2
  · exact .running state delegate

theorem call_running {server : InspectorSocketServer} {action : Action}
    {delegate : InspectorAgentDelegate} (state : server.state = .kRunning)
    (present : server.delegate = some delegate) (orderly : Orderly server action) :
    Kept (call server action) := by
  have alive : Lifetime server := .running state (by rw [present]; rfl)
  have used : ∀ sessionId, server.useDelegate sessionId = .ok delegate := by
    intro sessionId
    simp only [InspectorSocketServer.useDelegate, present]
  cases action with
  | accept => exact .inr ⟨_, rfl, .running state (by simp [InspectorSocketServer.accept, present])⟩
  | handleGetRequest sessionId path =>
    simp only [call, InspectorSocketServer.handleGetRequest, used]
    split
    · exact .inl ⟨.nullSession, rfl, by decide⟩
    · split
      · exact .inr ⟨server, rfl, alive⟩
      all_goals exact .inr ⟨server, rfl, alive⟩
  | sessionStarted sessionId targetId =>
    simp only [call, InspectorSocketServer.sessionStarted, used]
    change Kept (if targetId ∉ delegate.getTargetIds then _ else _)
    split
    · split
      · exact .inr ⟨server, rfl, alive⟩
      · exact .inl ⟨.nullSession, rfl, by decide⟩
    · split
      · exact .inl ⟨.nullSession, rfl, by decide⟩
      · exact startSession_kept fun _ => .running state rfl
  | messageReceived sessionId message =>
    simp only [call, InspectorSocketServer.messageReceived, used]
    exact postToTarget_kept fun _ => .running state rfl
  | sessionTerminated sessionId =>
    simp only [call, InspectorSocketServer.sessionTerminated, used]
    split
    · exact .inr ⟨server, rfl, alive⟩
    · split
      · exact postToTarget_kept fun _ => eraseSession_running sessionId state rfl
      · exact .inr ⟨_, rfl, eraseSession_running sessionId state (by rw [present]; rfl)⟩
  | addTarget targetId agent =>
    simp only [call, InspectorSocketServer.addTarget, InspectorSocketServer.updateTargets, present]
    exact .inr ⟨_, rfl, .running state rfl⟩
  | removeTarget targetId =>
    simp only [call, InspectorSocketServer.removeTarget, InspectorSocketServer.updateTargets,
      present]
    exact .inr ⟨_, rfl, .running state rfl⟩
  | stop =>
    simp only [call, InspectorSocketServer.stop, state, reduceCtorEq, ↓reduceIte, ne_eq,
      not_true_eq_false]
    exact .inr ⟨_, rfl, .stopped rfl rfl (orderly state)⟩

/-- Whoever still calls a stopped server does so for no connected session. -/
theorem call_stopped {server : InspectorSocketServer} {action : Action}
    (state : server.state = .kStopped) (absent : server.delegate = none) (empty : server.Empty)
    (orderly : Orderly server action) : Kept (call server action) := by
  have alone : Lifetime server := .stopped state absent empty
  have gone : ∀ sessionId, server.session sessionId = false := by
    intro sessionId
    simp only [InspectorSocketServer.session, session_of_empty empty, Option.isSome_none]
  have refused : ∀ sessionId, server.useDelegate sessionId = .error (.nullDelegate false) := by
    intro sessionId
    simp only [InspectorSocketServer.useDelegate, absent, gone]
  cases action with
  | accept => exact absurd state orderly
  | handleGetRequest sessionId path =>
    simp only [call, InspectorSocketServer.handleGetRequest, gone]
    exact .inl ⟨.nullSession, rfl, by decide⟩
  | sessionStarted sessionId targetId =>
    simp only [call, InspectorSocketServer.sessionStarted, refused]
    exact .inl ⟨.nullDelegate false, rfl, by decide⟩
  | messageReceived sessionId message =>
    simp only [call, InspectorSocketServer.messageReceived, refused]
    exact .inl ⟨.nullDelegate false, rfl, by decide⟩
  | sessionTerminated sessionId =>
    simp only [call, InspectorSocketServer.sessionTerminated, session_of_empty empty]
    exact .inr ⟨server, rfl, alone⟩
  | addTarget targetId agent =>
    simp only [call, InspectorSocketServer.addTarget, InspectorSocketServer.updateTargets, absent]
    exact .inl ⟨.nullDelegate false, rfl, by decide⟩
  | removeTarget targetId =>
    simp only [call, InspectorSocketServer.removeTarget, InspectorSocketServer.updateTargets,
      absent]
    exact .inl ⟨.nullDelegate false, rfl, by decide⟩
  | stop =>
    simp only [call, InspectorSocketServer.stop, state, ↓reduceIte]
    exact .inr ⟨server, rfl, alone⟩

theorem call_kept {server : InspectorSocketServer} {action : Action} (lifetime : Lifetime server)
    (orderly : Orderly server action) : Kept (call server action) := by
  cases lifetime with
  | running state present =>
    obtain ⟨delegate, present⟩ := Option.isSome_iff_exists.mp present
    exact call_running state present orderly
  | stopped state absent empty => exact call_stopped state absent empty orderly

/-- A disorderly `Stop` or `Accept` leaves a connected session without delegate. -/
theorem call_disorderly {server : InspectorSocketServer} {action : Action}
    (lifetime : Lifetime server) (disorderly : ¬ Orderly server action) :
    ¬ Guarded (call server action) := by
  cases action with
  | stop =>
    obtain ⟨state, occupied⟩ : server.state = .kRunning ∧ ¬ server.Empty := by
      simpa only [Orderly, Classical.not_imp] using disorderly
    simp only [call, InspectorSocketServer.stop, state, reduceCtorEq, ↓reduceIte, ne_eq,
      not_true_eq_false]
    intro guarded
    exact absurd (guarded.1 occupied) (by simp)
  | accept =>
    have state : server.state = .kStopped := by simpa only [Orderly, not_not] using disorderly
    have absent : server.delegate = none := by
      cases lifetime with
      | running running _ =>
        rw [running] at state
        cases state
      | stopped _ absent _ => exact absent
    intro guarded
    have occupied : ¬ server.accept.Empty := by
      simp [InspectorSocketServer.Empty, InspectorSocketServer.accept, AList.entries_insert]
    have found := guarded.1 occupied
    simp [InspectorSocketServer.accept, absent] at found
  | handleGetRequest _ _ | sessionStarted _ _ | messageReceived _ _ | sessionTerminated _
  | addTarget _ _ | removeTarget _ => exact absurd trivial disorderly

/-- Along a whole run the sessions keep their delegate exactly when the server is
stopped and entered in the right order. -/
theorem guarded_iff_orderly (trace : List Action) (outcome : Except Fault InspectorSocketServer)
    (ran : inspectorSocketServer.run trace = some outcome) :
    inspectorSocketServer.SafeAlong Guarded inspectorSocketServer.start trace ↔
      inspectorSocketServer.Meets Orderly inspectorSocketServer.start trace := by
  refine Program.safeAlong_iff_meets Lifetime (fun _ => Lifetime.guarded) ?_ ?_ trace _
    outcome (.running rfl rfl) ran
  · intro server action reached lifetime orderly called
    obtain rfl := Option.some.inj called
    exact (call_kept lifetime orderly).safe
  · intro server action reached lifetime disorderly called
    obtain rfl := Option.some.inj called
    exact call_disorderly lifetime disorderly

theorem guarded_attach_detach_stop :
    inspectorSocketServer.SafeAlong Guarded inspectorSocketServer.start
      [.addTarget [0x61] 0, .accept, .sessionStarted 0 [0x61], .messageReceived 0 [0x7B],
        .sessionTerminated 0, .removeTarget [0x61], .stop] := by
  apply (guarded_iff_orderly _ _ rfl).mpr
  decide

/-- `Stop` with a session attached, then the end of that session. -/
theorem stop_strands_session :
    inspectorSocketServer.run
        [.addTarget [0x61] 0, .accept, .sessionStarted 0 [0x61], .stop, .sessionTerminated 0] =
      some (.error (.nullDelegate true)) ∧
    ∃ server, inspectorSocketServer.run
        [.addTarget [0x61] 0, .accept, .sessionStarted 0 [0x61], .stop] = some (.ok server) ∧
      ¬ server.Empty ∧ server.delegate = none :=
  ⟨rfl, _, rfl, by decide, rfl⟩

end V8Jsi.SocketServer
