import V8Jsi.Lib.Outcome
import V8Jsi.SocketServer

set_option autoImplicit false

/- What the calls of the read handlers do to a running server: each session that is
attached has its target, and the target of a session that is gone has been told. -/
namespace V8Jsi.SocketServer

open Outcome

/-- The last message that was sent for a session. -/
def lastPost (delegate : InspectorAgentDelegate) (session : Nat) : Option Post :=
  (delegate.posts.filter (·.sessionId == session)).getLast?

/-- A running server whose attached sessions have a target, and which has told the
targets of the sessions that are gone. -/
structure Serving (server : InspectorSocketServer) (delegate : InspectorAgentDelegate) :
    Prop where
  present : server.delegate = some delegate
  state : server.state = .kRunning
  targets : ∀ targetId ∈ delegate.getTargetIds, targetId ≠ []
  started : ∀ session, server.session session = true → session < server.nextSessionId
  entered : ∀ session agent, delegate.sessionTargetsMap.lookup session = some agent →
    session < server.nextSessionId
  attached : ∀ session targetId, server.connectedSessions.lookup session = some targetId →
    targetId ≠ [] → ∃ agent, delegate.sessionTargetsMap.lookup session = some agent
  unattached : ∀ session, server.connectedSessions.lookup session = some [] →
    delegate.sessionTargetsMap.lookup session = none
  reported : ∀ session agent, delegate.sessionTargetsMap.lookup session = some agent →
    server.session session = false →
    lastPost delegate session = some ⟨agent, session, tagDisconnect⟩

section

variable {server : InspectorSocketServer} {delegate : InspectorAgentDelegate}
  {session agent : Nat} {targetId message : List UInt8}

theorem lastPost_post_self :
    lastPost (delegate.postIncomingMessage agent session message) session =
      some ⟨agent, session, message⟩ := by
  simp [lastPost, InspectorAgentDelegate.postIncomingMessage]

theorem lastPost_post_other {other : Nat} (different : other ≠ session) :
    lastPost (delegate.postIncomingMessage agent session message) other =
      lastPost delegate other := by
  simp [lastPost, InspectorAgentDelegate.postIncomingMessage, Ne.symm different]

theorem session_true (found : server.connectedSessions.lookup session = some targetId) :
    server.session session = true := by
  rw [InspectorSocketServer.session, found, Option.isSome_some]

theorem useDelegate_serving (serving : Serving server delegate) (session : Nat) :
    server.useDelegate session = .ok delegate := by
  rw [InspectorSocketServer.useDelegate, serving.present]

/-- A message for a session that is there. -/
theorem Serving.post (serving : Serving server delegate)
    (here : server.session session = true) (agent : Nat) (message : List UInt8) :
    Serving { server with delegate := some (delegate.postIncomingMessage agent session message) }
      (delegate.postIncomingMessage agent session message) := by
  refine { serving with present := rfl, reported := ?_ }
  intro other entered found gone
  have different : other ≠ session := by
    rintro rfl
    cases gone.symm.trans here
  rw [lastPost_post_other different]
  exact serving.reported other entered found gone

theorem messageReceived_serving (serving : Serving server delegate)
    (found : server.connectedSessions.lookup session = some targetId) (named : targetId ≠ [])
    (message : List UInt8) :
    ∃ after delegate', server.messageReceived session message = .ok after ∧
      Serving after delegate' ∧ after.connectedSessions = server.connectedSessions ∧
      after.nextSessionId = server.nextSessionId := by
  obtain ⟨agent, entered⟩ := serving.attached session targetId found named
  refine ⟨_, _, ?_, serving.post (session_true found) agent message, rfl, rfl⟩
  simp only [InspectorSocketServer.messageReceived, useDelegate_serving serving,
    InspectorAgentDelegate.messageReceived, InspectorAgentDelegate.postToTarget, entered, ok_bind,
    pure_ok]

theorem eraseSession_serving (serving : Serving server delegate) :
    server.eraseSession session =
      { server with connectedSessions := server.connectedSessions.erase session } := by
  simp only [InspectorSocketServer.eraseSession, serving.state, reduceCtorEq, and_false,
    ↓reduceIte]

/-- A session goes once its target has been told. -/
theorem Serving.erase (serving : Serving server delegate)
    (told : ∀ agent, delegate.sessionTargetsMap.lookup session = some agent →
      lastPost delegate session = some ⟨agent, session, tagDisconnect⟩) :
    Serving { server with connectedSessions := server.connectedSessions.erase session }
      delegate := by
  have kept : ∀ {other targetId},
      (server.connectedSessions.erase session).lookup other = some targetId →
      server.connectedSessions.lookup other = some targetId := by
    intro other targetId found
    by_cases same : other = session
    · rw [same, AList.lookup_erase] at found
      cases found
    · rwa [AList.lookup_erase_ne same] at found
  refine { serving with started := ?_, attached := ?_, unattached := ?_, reported := ?_ }
  · intro other here
    obtain ⟨targetId, found⟩ := Option.isSome_iff_exists.mp here
    exact serving.started other (session_true (kept found))
  · exact fun other targetId found => serving.attached other targetId (kept found)
  · exact fun other found => serving.unattached other (kept found)
  · intro other agent entered gone
    by_cases same : other = session
    · subst same
      exact told agent entered
    · apply serving.reported other agent entered
      rwa [InspectorSocketServer.session, AList.lookup_erase_ne same] at gone

theorem sessionTerminated_serving (serving : Serving server delegate)
    (here : server.session session = true) :
    ∃ after delegate', server.sessionTerminated session = .ok after ∧ Serving after delegate' ∧
      after.connectedSessions = server.connectedSessions.erase session ∧
      after.nextSessionId = server.nextSessionId := by
  obtain ⟨targetId, found⟩ := Option.isSome_iff_exists.mp here
  by_cases named : targetId = []
  · subst named
    have alone := serving.unattached session found
    refine ⟨_, delegate, ?_, serving.erase ?_, rfl, rfl⟩
    · simp only [InspectorSocketServer.sessionTerminated, found, ne_eq, not_true_eq_false,
        ↓reduceIte, eraseSession_serving serving]
    · intro agent entered
      rw [alone] at entered
      cases entered
  · obtain ⟨agent, entered⟩ := serving.attached session targetId found named
    have posted := serving.post here agent tagDisconnect
    refine ⟨_, _, ?_, posted.erase ?_, rfl, rfl⟩
    · simp only [InspectorSocketServer.sessionTerminated, found, ne_eq, named, not_false_eq_true,
        ↓reduceIte, useDelegate_serving serving, InspectorAgentDelegate.endSession,
        InspectorAgentDelegate.postToTarget, entered, ok_bind, pure_ok,
        eraseSession_serving posted]
    · intro other entered'
      obtain rfl : agent = other := Option.some.inj (entered.symm.trans entered')
      exact lastPost_post_self

theorem handleGetRequest_serving (serving : Serving server delegate)
    (here : server.session session = true) (path : List UInt8) :
    server.handleGetRequest session path = .ok server := by
  simp only [InspectorSocketServer.handleGetRequest, here, Bool.not_true, Bool.false_eq_true,
    ↓reduceIte, useDelegate_serving serving]
  split <;> rfl

/-- `emplace` of a session that is about to be started. -/
def InspectorAgentDelegate.enter (delegate : InspectorAgentDelegate) (session agent : Nat) :
    InspectorAgentDelegate :=
  { delegate with
    sessionTargetsMap := match delegate.sessionTargetsMap.lookup session with
      | none => delegate.sessionTargetsMap.insert session agent
      | some _ => delegate.sessionTargetsMap }

theorem startSession_target (session : Nat)
    (target : delegate.targetsMap.lookup targetId = some agent) :
    delegate.startSession session targetId =
      .ok ((delegate.enter session agent).postIncomingMessage agent session tagConnect) := by
  unfold InspectorAgentDelegate.startSession
  split
  · rename_i missing
    rw [missing] at target
    cases target
  · rename_i found
    rw [found] at target
    cases target
    rfl

theorem enter_lookup_self :
    ∃ entered, (delegate.enter session agent).sessionTargetsMap.lookup session = some entered := by
  unfold InspectorAgentDelegate.enter
  split
  · exact ⟨agent, AList.lookup_insert _⟩
  · exact ⟨_, by assumption⟩

theorem enter_lookup_other {other : Nat} (different : other ≠ session) :
    (delegate.enter session agent).sessionTargetsMap.lookup other =
      delegate.sessionTargetsMap.lookup other := by
  unfold InspectorAgentDelegate.enter
  split
  · exact AList.lookup_insert_ne different
  · rfl

theorem Serving.enter (serving : Serving server delegate)
    (here : server.session session = true) (named : targetId ≠ []) (agent : Nat) :
    Serving { server with
        delegate := some (delegate.enter session agent)
        connectedSessions := server.connectedSessions.insert session targetId }
      (delegate.enter session agent) := by
  have connected : ∀ other, other ≠ session →
      (server.connectedSessions.insert session targetId).lookup other =
        server.connectedSessions.lookup other := fun other different =>
    AList.lookup_insert_ne different
  refine ⟨rfl, serving.state, serving.targets, ?_, ?_, ?_, ?_, ?_⟩
  · intro other present
    by_cases same : other = session
    · rw [same]
      exact serving.started session here
    · rw [InspectorSocketServer.session, connected other same] at present
      exact serving.started other present
  · intro other target found
    by_cases same : other = session
    · rw [same]
      exact serving.started session here
    · exact serving.entered other target ((enter_lookup_other same).symm.trans found)
  · intro other target found
    by_cases same : other = session
    · rw [same]
      exact fun _ => enter_lookup_self
    · rw [enter_lookup_other same]
      exact serving.attached other target ((connected other same).symm.trans found)
  · intro other found
    by_cases same : other = session
    · rw [same, AList.lookup_insert] at found
      exact absurd (Option.some.inj found) named
    · rw [enter_lookup_other same]
      exact serving.unattached other ((connected other same).symm.trans found)
  · intro other target found gone
    by_cases same : other = session
    · rw [same, InspectorSocketServer.session, AList.lookup_insert] at gone
      cases gone
    · rw [InspectorSocketServer.session, connected other same] at gone
      exact serving.reported other target ((enter_lookup_other same).symm.trans found) gone

theorem sessionStarted_serving (serving : Serving server delegate)
    (here : server.session session = true) (targetId : List UInt8) :
    ∃ after delegate', server.sessionStarted session targetId = .ok after ∧
      Serving after delegate' ∧ after.nextSessionId = server.nextSessionId ∧
      after.connectedSessions = if targetId ∈ delegate.getTargetIds then
        server.connectedSessions.insert session targetId else server.connectedSessions := by
  by_cases exists' : targetId ∈ delegate.getTargetIds
  · have member : targetId ∈ delegate.targetsMap := AList.mem_keys.mpr exists'
    obtain ⟨agent, target⟩ := Option.isSome_iff_exists.mp (AList.lookup_isSome.mpr member)
    have entered := serving.enter here (serving.targets targetId exists') agent
    have posted := entered.post (session_true (AList.lookup_insert _)) agent tagConnect
    refine ⟨_, _, ?_, posted, rfl, by rw [ite_cond_eq_true _ _ (eq_true exists')]⟩
    have starts := startSession_target session target
    simp only [InspectorSocketServer.sessionStarted, useDelegate_serving serving, ok_bind, exists',
      not_true_eq_false, ↓reduceIte, here, Bool.not_true, Bool.false_eq_true, starts, pure_ok]
  · refine ⟨server, delegate, ?_, serving, rfl, by rw [ite_cond_eq_false _ _ (eq_false exists')]⟩
    simp only [InspectorSocketServer.sessionStarted, useDelegate_serving serving, ok_bind, exists',
      not_false_eq_true, ↓reduceIte, here, pure_ok]

theorem accept_serving (serving : Serving server delegate) : Serving server.accept delegate := by
  have fresh : delegate.sessionTargetsMap.lookup server.nextSessionId = none := by
    cases entered : delegate.sessionTargetsMap.lookup server.nextSessionId with
    | none => rfl
    | some agent => exact absurd (serving.entered _ agent entered) (Nat.lt_irrefl _)
  have connected : ∀ other, other ≠ server.nextSessionId →
      server.accept.connectedSessions.lookup other = server.connectedSessions.lookup other :=
    fun other different => AList.lookup_insert_ne different
  have self : server.accept.connectedSessions.lookup server.nextSessionId = some [] :=
    AList.lookup_insert _
  refine ⟨serving.present, serving.state, serving.targets, ?_, ?_, ?_, ?_, ?_⟩
  · intro other here
    by_cases same : other = server.nextSessionId
    · rw [same]
      exact Nat.lt_succ_self _
    · rw [InspectorSocketServer.session, connected other same] at here
      exact Nat.lt_succ_of_lt (serving.started other here)
  · exact fun other agent found => Nat.lt_succ_of_lt (serving.entered other agent found)
  · intro other target found named
    by_cases same : other = server.nextSessionId
    · rw [same, self] at found
      exact absurd (Option.some.inj found).symm named
    · exact serving.attached other target ((connected other same).symm.trans found) named
  · intro other found
    by_cases same : other = server.nextSessionId
    · rw [same]
      exact fresh
    · exact serving.unattached other ((connected other same).symm.trans found)
  · intro other agent entered gone
    by_cases same : other = server.nextSessionId
    · rw [same, fresh] at entered
      cases entered
    · rw [InspectorSocketServer.session, connected other same] at gone
      exact serving.reported other agent entered gone

theorem Serving.retarget (serving : Serving server delegate)
    (targetsMap : AList fun _ : List UInt8 => Nat) (named : ∀ id ∈ targetsMap.keys, id ≠ []) :
    Serving { server with delegate := some { delegate with targetsMap } }
      { delegate with targetsMap } :=
  { serving with present := rfl, targets := named }

theorem addTarget_serving (serving : Serving server delegate) (named : targetId ≠ []) :
    ∃ after delegate', server.addTarget targetId agent = .ok after ∧ Serving after delegate' ∧
      after.connectedSessions = server.connectedSessions ∧
      after.nextSessionId = server.nextSessionId := by
  simp only [InspectorSocketServer.addTarget, InspectorSocketServer.updateTargets,
    serving.present, InspectorAgentDelegate.addTarget]
  split
  · refine ⟨_, _, rfl, serving.retarget _ ?_, rfl, rfl⟩
    intro id inside
    rcases (AList.mem_insert _).mp (AList.mem_keys.mpr inside) with rfl | before
    · exact named
    · exact serving.targets id (AList.mem_keys.mp before)
  · exact ⟨_, _, rfl, serving.retarget _ serving.targets, rfl, rfl⟩

theorem removeTarget_serving (serving : Serving server delegate) :
    ∃ after delegate', server.removeTarget targetId = .ok after ∧ Serving after delegate' ∧
      after.connectedSessions = server.connectedSessions ∧
      after.nextSessionId = server.nextSessionId := by
  simp only [InspectorSocketServer.removeTarget, InspectorSocketServer.updateTargets,
    serving.present, InspectorAgentDelegate.removeTarget]
  refine ⟨_, _, rfl, serving.retarget _ ?_, rfl, rfl⟩
  intro id inside
  have before := (AList.mem_erase.mp (AList.mem_keys.mpr inside)).2
  exact serving.targets id (AList.mem_keys.mp before)

end

end V8Jsi.SocketServer
