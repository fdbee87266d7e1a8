import V8Jsi.AgentRegistryView
import V8Jsi.Lib.Outcome

set_option autoImplicit false

namespace V8Jsi.AgentRegistry

open AgentDispatch (State)
open Runs SocketServer

/-! ## The calls -/

section

variable {registry : Registry} {agent server : Nat} {impl after : AgentImpl}
  {held : InspectorSocketServer}

theorem view_agents (found : registry.agents[agent]? = some impl) :
    registry.view.agents agent = some impl.standing :=
  congrArg (Option.map AgentImpl.standing) found

theorem view_targets (found : registry.servers[server]? = some held) :
    registry.view.targets server = liveTargets held := by
  change registry.targets server = liveTargets held
  rw [Registry.targets, found, Option.bind_some]

theorem put_view (found : registry.agents[agent]? = some impl) :
    (registry.put agent after).view = registry.view.put agent after.standing := by
  have inside := (List.getElem?_eq_some_iff.mp found).1
  have agents : (registry.put agent after).view.agents =
      (registry.view.put agent after.standing).agents := by
    funext other
    rw [View.put_agents]
    by_cases same : other = agent
    · rw [if_pos same, same]
      exact view_agents (List.getElem?_set_self inside)
    · rw [if_neg same]
      exact congrArg (Option.map AgentImpl.standing) (List.getElem?_set_ne (Ne.symm same))
  exact congrArg (fun agents => { registry.view with agents }) agents

theorem putServer_view (found : registry.servers[server]? = some held)
    (changed : InspectorSocketServer) :
    (registry.putServer server changed).view =
      registry.view.putTargets server (liveTargets changed) := by
  have inside := (List.getElem?_eq_some_iff.mp found).1
  have targets : (registry.putServer server changed).targets =
      (registry.view.putTargets server (liveTargets changed)).targets := by
    funext other
    rw [View.putTargets_targets, Registry.targets, Registry.putServer]
    by_cases same : other = server
    · rw [if_pos same, same, List.getElem?_set_self inside, Option.bind_some]
    · rw [if_neg same, List.getElem?_set_ne (Ne.symm same)]
      rfl
  have made : (registry.putServer server changed).servers.length = registry.servers.length :=
    List.length_set
  rw [Registry.view, targets, made]
  rfl

theorem putBoth_view (found : registry.agents[agent]? = some impl)
    (there : registry.servers[server]? = some held) (changed : InspectorSocketServer) :
    ((registry.putServer server changed).put agent after).view =
      (registry.view.putTargets server (liveTargets changed)).put agent after.standing := by
  have kept : (registry.putServer server changed).agents[agent]? = some impl := found
  rw [put_view kept, putServer_view there]

/-- A server that keeps its target map. -/
theorem putServer_same (found : registry.servers[server]? = some held)
    {changed : InspectorSocketServer} (same : liveTargets changed = liveTargets held) :
    (registry.putServer server changed).view = registry.view := by
  rw [putServer_view found, same, ← view_targets found, View.putTargets, Function.update_eq_self]

theorem post_view (registry : Registry) (post : Post) : (registry.post post).view = registry.view := by
  have agents : (registry.post post).view.agents = registry.view.agents := by
    funext other
    change (registry.agents.modify _ _)[other]?.map _ = registry.agents[other]?.map _
    rw [List.getElem?_modify, Option.map_eq_map, Option.map_map]
    congr 1
    funext impl
    change AgentImpl.standing _ = _
    split <;> rfl
  exact congrArg (fun agents => { registry.view with agents }) agents

theorem foldl_post_view (posts : List Post) :
    ∀ registry : Registry, (posts.foldl Registry.post registry).view = registry.view := by
  induction posts with
  | nil => exact fun _ => rfl
  | cons post rest ih => exact fun registry => (ih _).trans (post_view registry post)

theorem newServer_view (registry : Registry) (port : Nat) :
    (registry.newServer port).1.view = registry.view.newServer port := by
  have targets : (registry.newServer port).1.targets = (registry.view.newServer port).targets := by
    funext other
    rw [View.newServer_targets, Registry.targets, Registry.newServer]
    by_cases fresh : other = registry.servers.length
    · rw [fresh, List.getElem?_concat_length]
      exact (if_pos rfl).symm
    · rw [if_neg (show other ≠ registry.view.made from fresh)]
      by_cases inside : other < registry.servers.length
      · rw [List.getElem?_append_left inside]
        rfl
      · have outside : registry.servers.length + 1 ≤ other := by omega
        rw [List.getElem?_eq_none (by simpa using outside)]
        change none = registry.targets other
        rw [Registry.targets, List.getElem?_eq_none (by omega)]
        rfl
  have made : (registry.newServer port).1.servers.length = registry.servers.length + 1 := by
    simp [Registry.newServer]
  rw [Registry.view, targets, made]
  rfl

theorem create_view (registry : Registry) (impl : AgentImpl) :
    { registry with agents := registry.agents ++ [impl] }.view =
      registry.view.put registry.agents.length impl.standing := by
  have agents : { registry with agents := registry.agents ++ [impl] }.view.agents =
      (registry.view.put registry.agents.length impl.standing).agents := by
    funext other
    change (registry.agents ++ [impl])[other]?.map _ = _
    rw [View.put_agents, List.getElem?_append]
    split
    · rw [if_neg (by omega)]
      rfl
    · by_cases last : other = registry.agents.length
      · rw [if_pos last, last, Nat.sub_self]
        rfl
      · rw [if_neg last, List.getElem?_eq_none (by simp; omega)]
        change none = registry.agents[other]?.map _
        rw [List.getElem?_eq_none (by omega)]
        rfl
  exact congrArg (fun agents => { registry.view with agents }) agents

/-- What a call may come to. -/
def Keeps (outcome : Except Loss Registry) : Prop :=
  (∃ loss, outcome = .error loss ∧ loss ≠ .server (.nullDelegate false)) ∨
    ∃ next, outcome = .ok next ∧ next.view.Sound

theorem Keeps.ok {next : Registry} (sound : next.view.Sound) : Keeps (.ok next) :=
  .inr ⟨next, rfl, sound⟩

theorem liveTargets_inv {map : AList fun _ : List UInt8 => Nat}
    (live : liveTargets held = some map) :
    held.state = .kRunning ∧ ∃ delegate, held.delegate = some delegate ∧
      delegate.targetsMap = map := by
  unfold liveTargets at live
  split at live
  · exact ⟨by assumption, Option.map_eq_some_iff.mp live⟩
  · cases live

theorem withServer_inv {phase : Phase}
    {step : AgentImpl → Nat → InspectorSocketServer → Except Loss Registry}
    {outcome : Except Loss Registry}
    (called : registry.withServer agent phase step = some outcome) :
    ∃ impl server held, registry.agents[agent]? = some impl ∧ impl.server = some server ∧
      registry.servers[server]? = some held ∧ impl.phase = phase ∧
      outcome = step impl server held := by
  simp only [Registry.withServer, Option.bind_eq_some_iff, Option.ite_none_right_eq_some] at called
  obtain ⟨impl, found, server, holds, held, there, standing, same⟩ := called
  exact ⟨impl, server, held, found, holds, there, standing, (Option.some.inj same).symm⟩

theorem create_inv {port : Nat} {targetId : List UInt8} {outcome : Except Loss Registry}
    (called : call registry (.create port targetId) = some outcome) :
    registry.agents.all (·.targetId != targetId) = true ∧
      outcome = .ok { registry with agents := registry.agents ++ [{ port, targetId }] } := by
  simp only [call, Option.ite_none_right_eq_some, Option.some.injEq] at called
  exact ⟨called.1, called.2.symm⟩

theorem start_inv {expired : Bool} {outcome : Except Loss Registry}
    (called : call registry (.start agent expired) = some outcome) :
    ∃ impl, registry.agents[agent]? = some impl ∧ impl.phase = .idle ∧
      (impl.isStarted = true ∧ outcome = .ok registry ∨
        impl.isStarted = false ∧ outcome = .ok (registry.start agent impl expired)) := by
  simp only [call, Option.bind_eq_some_iff] at called
  obtain ⟨impl, found, called⟩ := called
  split at called
  · cases called
  · rename_i guard
    rw [not_or, not_not] at guard
    refine ⟨impl, found, guard.1, ?_⟩
    split at called
    · rename_i started
      exact .inl ⟨started, (Option.some.inj called).symm⟩
    · rename_i unstarted
      exact .inr ⟨Bool.eq_false_iff.mpr unstarted, (Option.some.inj called).symm⟩

theorem stop_inv {outcome : Except Loss Registry}
    (called : call registry (.stop agent) = some outcome) :
    ∃ impl, registry.agents[agent]? = some impl ∧ impl.phase = .idle ∧
      (impl.isStarted = true ∧ outcome = .ok (registry.stop agent impl) ∨
        impl.isStarted = false ∧ outcome = .ok registry) := by
  simp only [call, Option.bind_eq_some_iff] at called
  obtain ⟨impl, found, called⟩ := called
  split at called
  · cases called
  · rename_i idle
    refine ⟨impl, found, not_not.mp idle, ?_⟩
    split at called
    · rename_i started
      exact .inl ⟨started, (Option.some.inj called).symm⟩
    · rename_i unstarted
      exact .inr ⟨Bool.eq_false_iff.mpr unstarted, (Option.some.inj called).symm⟩

theorem fatalException_inv {outcome : Except Loss Registry}
    (called : call registry (.fatalException agent) = some outcome) :
    ∃ impl, registry.agents[agent]? = some impl ∧ impl.phase = .idle ∧
      (impl.state = .kConnected ∧ outcome = .ok (registry.put agent
          { impl with shuttingDown := true, phase := .fatalException }) ∨
        impl.state ≠ .kConnected ∧ outcome = .ok registry) := by
  simp only [call, Option.bind_eq_some_iff] at called
  obtain ⟨impl, found, called⟩ := called
  split at called
  · cases called
  · rename_i idle
    refine ⟨impl, found, not_not.mp idle, ?_⟩
    split at called
    · rename_i connected
      exact .inl ⟨connected, (Option.some.inj called).symm⟩
    · rename_i apart
      exact .inr ⟨apart, (Option.some.inj called).symm⟩

theorem leaveMessageLoop_inv {outcome : Except Loss Registry}
    (called : call registry (.leaveMessageLoop agent) = some outcome) :
    ∃ impl, registry.agents[agent]? = some impl ∧
      (impl.phase = .disconnecting ∧ outcome = .ok (registry.put agent
          { impl with state := .kDone, phase := .removingTarget }) ∨
        impl.phase = .fatalException ∧ outcome = .ok (registry.put agent
          { impl with phase := .idle })) := by
  simp only [call, Option.bind_eq_some_iff] at called
  obtain ⟨impl, found, called⟩ := called
  refine ⟨impl, found, ?_⟩
  split at called
  · rename_i disconnecting
    exact .inl ⟨disconnecting, (Option.some.inj called).symm⟩
  · rename_i fatal
    exact .inr ⟨fatal, (Option.some.inj called).symm⟩
  all_goals cases called

theorem removeServer_inv {outcome : Except Loss Registry}
    (called : call registry (.removeServer agent) = some outcome) :
    ∃ impl, registry.agents[agent]? = some impl ∧ impl.phase = .removingServer ∧
      outcome = .ok ({ registry with
        serverOf := Function.update registry.serverOf impl.port none }.put agent
          { impl with phase := .idle }) := by
  simp only [call, Option.bind_eq_some_iff, Option.ite_none_right_eq_some,
    Option.some.injEq] at called
  obtain ⟨impl, found, removing, same⟩ := called
  exact ⟨impl, found, removing, same.symm⟩

theorem dispatchMessage_inv {outcome : Except Loss Registry}
    (called : call registry (.dispatchMessage agent) = some outcome) :
    ∃ impl sessionId message rest, registry.agents[agent]? = some impl ∧
      impl.incomingMessageQueue = (sessionId, message) :: rest ∧ impl.dispatches = true ∧
      outcome = ({ impl with incomingMessageQueue := rest }.processMessage sessionId message).map
        (registry.put agent) := by
  simp only [call, Option.bind_eq_some_iff] at called
  obtain ⟨impl, found, called⟩ := called
  split at called
  · rename_i sessionId message rest queue
    simp only [Option.ite_none_right_eq_some, Option.some.injEq] at called
    exact ⟨impl, sessionId, message, rest, found, queue, called.1, called.2.symm⟩
  · cases called

/-- A message connects an agent that accepts, disconnects a connected one, or is
for the inspector. -/
theorem processMessage_inv {sessionId : Nat} {message : List UInt8}
    {outcome : Except Loss AgentImpl} (processed : impl.processMessage sessionId message = outcome) :
    (∃ expected, outcome = .error (.checkFailed expected)) ∨
      impl.state = .kAccepting ∧ outcome = .ok { impl with sessionId, state := .kConnected } ∨
      message = tagDisconnect ∧ impl.state = .kConnected ∧ outcome = .ok { impl with
        state := if impl.shuttingDown then .kDone else .kAccepting } ∨
      outcome = .ok impl := by
  unfold AgentImpl.processMessage at processed
  split at processed
  · split at processed
    · rename_i accepting
      exact .inr (.inl ⟨accepting, processed.symm⟩)
    · exact .inl ⟨_, processed.symm⟩
  · split at processed
    · rename_i disconnects
      split at processed
      · rename_i connected
        exact .inr (.inr (.inl ⟨disconnects, connected, processed.symm⟩))
      · exact .inl ⟨_, processed.symm⟩
    · exact .inr (.inr (.inr processed.symm))

/-- A call of the server thread that leaves the target map alone. -/
theorem serve_keeps {call : InspectorSocketServer → Except SocketServer.Fault InspectorSocketServer}
    (kept : ∀ before after, call before = .ok after → liveTargets after = liveTargets before)
    {outcome : Except Loss Registry} (sound : registry.view.Sound)
    (called : registry.serve server call = some outcome) : Keeps outcome := by
  simp only [Registry.serve, Option.map_eq_some_iff] at called
  obtain ⟨held, there, rfl⟩ := called
  cases result : call held with
  | error fault => exact .inl ⟨.session fault, rfl, nofun⟩
  | ok changed =>
    apply Keeps.ok
    rw [foldl_post_view, putServer_same there (kept held changed result)]
    exact sound

theorem eraseSession_liveTargets (held : InspectorSocketServer) (sessionId : Nat) :
    liveTargets (held.eraseSession sessionId) = liveTargets held := by
  unfold InspectorSocketServer.eraseSession liveTargets
  simp only
  split
  · rename_i stopped
    simp [stopped.2]
  · rfl

theorem useDelegate_inv {sessionId : Nat} {delegate : InspectorAgentDelegate}
    (used : held.useDelegate sessionId = .ok delegate) : held.delegate = some delegate := by
  unfold InspectorSocketServer.useDelegate at used
  split at used
  · cases used
  · rename_i found present
    rw [present, Except.ok.inj used]

theorem sessionStarted_inv {changed : InspectorSocketServer} {sessionId : Nat}
    {targetId : List UInt8} (started : held.sessionStarted sessionId targetId = .ok changed) :
    changed = held ∨ ∃ delegate entered, held.delegate = some delegate ∧
      delegate.startSession sessionId targetId = .ok entered ∧
      changed = { held with
        delegate := some entered
        connectedSessions := held.connectedSessions.insert sessionId targetId } := by
  obtain ⟨delegate, used, started⟩ := Outcome.bind_ok_inv started
  split at started
  · split at started
    · exact .inl (Except.ok.inj started).symm
    · cases started
  · split at started
    · cases started
    · obtain ⟨entered, begun, same⟩ := Outcome.bind_ok_inv started
      exact .inr ⟨delegate, entered, useDelegate_inv used, begun, (Except.ok.inj same).symm⟩

theorem sessionTerminated_inv {changed : InspectorSocketServer} {sessionId : Nat}
    (ended : held.sessionTerminated sessionId = .ok changed) :
    changed = held ∨ changed = held.eraseSession sessionId ∨
      ∃ delegate told, held.delegate = some delegate ∧ delegate.endSession sessionId = .ok told ∧
        changed = { held with delegate := some told }.eraseSession sessionId := by
  unfold InspectorSocketServer.sessionTerminated at ended
  split at ended
  · exact .inl (Except.ok.inj ended).symm
  · split at ended
    · obtain ⟨delegate, used, ended⟩ := Outcome.bind_ok_inv ended
      obtain ⟨told, posted, same⟩ := Outcome.bind_ok_inv ended
      exact .inr (.inr ⟨delegate, told, useDelegate_inv used, posted, (Except.ok.inj same).symm⟩)
    · exact .inr (.inl (Except.ok.inj ended).symm)

theorem postToTarget_inv {delegate told : InspectorAgentDelegate} {sessionId : Nat}
    {message : List UInt8} (posted : delegate.postToTarget sessionId message = .ok told) :
    ∃ agent, delegate.sessionTargetsMap.lookup sessionId = some agent ∧
      told = delegate.postIncomingMessage agent sessionId message := by
  unfold InspectorAgentDelegate.postToTarget at posted
  split at posted
  · cases posted
  · rename_i agent found
    exact ⟨agent, found, (Except.ok.inj posted).symm⟩

theorem startSession_targets {delegate entered : InspectorAgentDelegate} {sessionId : Nat}
    {targetId : List UInt8} (begun : delegate.startSession sessionId targetId = .ok entered) :
    entered.targetsMap = delegate.targetsMap := by
  unfold InspectorAgentDelegate.startSession at begun
  split at begun
  · cases begun
  · cases begun
    rfl

theorem liveTargets_congr {changed : InspectorSocketServer}
    {delegate told : InspectorAgentDelegate} (present : held.delegate = some delegate)
    (state : changed.state = held.state) (there : changed.delegate = some told)
    (same : told.targetsMap = delegate.targetsMap) : liveTargets changed = liveTargets held := by
  simp only [liveTargets, state, present, there, Option.map_some, same]

theorem sessionStarted_liveTargets {changed : InspectorSocketServer} {sessionId : Nat}
    {targetId : List UInt8} (started : held.sessionStarted sessionId targetId = .ok changed) :
    liveTargets changed = liveTargets held := by
  obtain rfl | ⟨delegate, entered, present, begun, rfl⟩ := sessionStarted_inv started
  · rfl
  · exact liveTargets_congr present rfl rfl (startSession_targets begun)

theorem sessionTerminated_liveTargets {changed : InspectorSocketServer} {sessionId : Nat}
    (ended : held.sessionTerminated sessionId = .ok changed) :
    liveTargets changed = liveTargets held := by
  obtain rfl | rfl | ⟨delegate, told, present, posted, rfl⟩ := sessionTerminated_inv ended
  · rfl
  · exact eraseSession_liveTargets held sessionId
  · obtain ⟨agent, -, rfl⟩ := postToTarget_inv posted
    rw [eraseSession_liveTargets]
    exact liveTargets_congr present rfl rfl rfl

theorem noneAt_view {phase : Phase} (none : registry.noneAt server phase = true) :
    ∀ j c, registry.view.agents j = some c → c.server = some server → c.phase ≠ phase := by
  intro j c found holds
  obtain ⟨impl, there, rfl⟩ := Option.map_eq_some_iff.mp found
  have absent := List.all_eq_true.mp none impl (List.mem_of_getElem? there)
  have held : impl.server = some server := holds
  rw [held, bne_self_eq_false, Bool.false_or, bne_iff_ne] at absent
  exact absent

/-- Inside `Start`, and inside `Stop` once it is past the message loop, the agent is
not started. -/
theorem unstarted_of (sound : registry.view.Sound) (found : registry.agents[agent]? = some impl)
    (inside : impl.phase ≠ .idle ∧ impl.phase ≠ .fatalException ∧ impl.phase ≠ .disconnecting) :
    impl.isStarted = false :=
  sound.stopped agent _ (view_agents found) inside.1 inside.2.1 inside.2.2

/-- The phases in which an agent has no step of its server before it. -/
def Phase.settles : Phase → Bool
  | .idle | .fatalException | .disconnecting | .removingTarget => true
  | .addingTarget | .testingTargets | .stoppingServer | .removingServer => false

theorem settles_ne {phase other : Phase} (settles : phase.settles = true)
    (unsettled : other.settles = false) : phase ≠ other := by
  rintro rfl
  cases settles.symm.trans unsettled

theorem settles_cases {phase : Phase} (settles : phase.settles = true) :
    (phase = .idle ∨ phase = .fatalException ∨ phase = .disconnecting) ∨
      phase = .removingTarget := by
  cases phase with
  | idle | fatalException | disconnecting | removingTarget => simp
  | addingTarget | testingTargets | stoppingServer | removingServer => cases settles

theorem settles_of_dispatches (dispatches : impl.dispatches = true) :
    impl.phase.settles = true := by
  unfold AgentImpl.dispatches at dispatches
  split at dispatches
  · rename_i idle
    rw [idle]
    rfl
  · rename_i fatal
    rw [fatal]
    rfl
  · rename_i disconnecting
    rw [disconnecting]
    rfl
  all_goals cases dispatches

/-- An agent of the registry goes on with the server it has. -/
theorem move_keeps (sound : registry.view.Sound) (found : registry.agents[agent]? = some impl)
    (port : after.port = impl.port) (targetId : after.targetId = impl.targetId)
    (holds : after.server = impl.server)
    (occupies : after.standing.occupies = impl.standing.occupies)
    (before : impl.phase.settles = true) (settles : after.phase.settles = true)
    (stopped : after.phase = .removingTarget → after.isStarted = false) :
    Keeps (.ok (registry.put agent after)) := by
  apply Keeps.ok
  rw [put_view found]
  apply sound.move (view_agents found) ⟨port, targetId, holds⟩ occupies
  · rintro (adding | testing)
    · exact absurd adding (settles_ne settles rfl)
    · exact absurd testing (settles_ne settles rfl)
  · intro stopping
    exact absurd stopping (settles_ne settles rfl)
  · intro idle fatal disconnecting
    exact stopped ((settles_cases settles).resolve_left fun elsewhere =>
      elsewhere.elim idle fun loop => loop.elim fatal disconnecting)
  · intro removing
    exact absurd removing (settles_ne before rfl)

theorem create_keeps (sound : registry.view.Sound) {port : Nat} {targetId : List UInt8}
    (unused : registry.agents.all (·.targetId != targetId) = true) :
    Keeps (.ok { registry with agents := registry.agents ++ [{ port, targetId }] }) := by
  apply Keeps.ok
  rw [create_view]
  apply sound.create _ _ rfl rfl rfl
  · exact congrArg (Option.map AgentImpl.standing) (List.getElem?_eq_none (Nat.le_refl _))
  · intro j c found
    obtain ⟨impl, there, rfl⟩ := Option.map_eq_some_iff.mp found
    have different := List.all_eq_true.mp unused impl (List.mem_of_getElem? there)
    simpa [AgentImpl.standing] using different

theorem start_keeps (sound : registry.view.Sound) {expired : Bool}
    (found : registry.agents[agent]? = some impl) (idle : impl.phase = .idle)
    (unstarted : impl.isStarted = false)
    (steady : (registry.serverOf impl.port).all (fun server =>
      registry.noneAt server .stoppingServer && registry.noneAt server .removingServer) = true) :
    Keeps (.ok (registry.start agent impl expired)) := by
  apply Keeps.ok
  -- A new server has no agent yet.
  have made : ((registry.newServer impl.port).1.put agent { impl with
      server := some registry.servers.length, phase := .addingTarget }).view.Sound := by
    have fresh := sound.newServer impl.port
    have there : (registry.newServer impl.port).1.agents[agent]? = some impl := found
    rw [← newServer_view] at fresh
    rw [put_view there]
    apply fresh.take (view_agents there) idle unstarted
    · rw [newServer_view, View.newServer_targets]
      exact if_pos rfl
    · intro j c other holds
      have before := sound.held j c _ other holds
      exact absurd before (Nat.lt_irrefl _)
    · rw [newServer_view, View.newServer_serverOf]
      exact if_pos rfl
  cases named : registry.serverOf impl.port with
  | none =>
    simp only [Registry.start, Registry.getServer, named]
    exact made
  | some server =>
    cases expired with
    | true =>
      simp only [Registry.start, Registry.getServer, named, ↓reduceIte]
      exact made
    | false =>
      simp only [Registry.start, Registry.getServer, named, Bool.false_eq_true, ↓reduceIte]
      rw [named, Option.all_some, Bool.and_eq_true] at steady
      rw [put_view found]
      obtain ⟨map, live⟩ | ⟨j, c, other, removing, holds⟩ := sound.running impl.port server named
      · exact sound.take (view_agents found) idle unstarted live (noneAt_view steady.1) named
      · exact absurd removing (noneAt_view steady.2 j c other holds)

theorem addTarget_keeps (sound : registry.view.Sound) (found : registry.agents[agent]? = some impl)
    (holds : impl.server = some server) (there : registry.servers[server]? = some held)
    (adding : impl.phase = .addingTarget) :
    Keeps (do
      let changed ← (held.addTarget impl.targetId agent).mapError .server
      return (registry.putServer server changed).put agent
        { impl with state := .kAccepting, phase := .idle }) := by
  obtain ⟨other, map, uses, live⟩ := sound.wanted agent _ (view_agents found) (.inl adding)
  obtain rfl : server = other := Option.some.inj (holds.symm.trans uses)
  have unsettled : impl.standing.occupies = false := by
    rw [Standing.occupies, show impl.standing.phase = .addingTarget from adding]
  have absent : map.lookup impl.targetId = none := by
    cases entry : map.lookup impl.targetId with
    | none => rfl
    | some j =>
      obtain ⟨c, that, named, -, occupies⟩ := sound.member server map _ j live entry
      obtain rfl := sound.distinct j agent c _ that (view_agents found) named
      obtain rfl := Option.some.inj ((view_agents found).symm.trans that)
      rw [unsettled] at occupies
      cases occupies
  have steady : ∀ j c, registry.view.agents j = some c → c.server = some server →
      c.phase ≠ .stoppingServer := by
    intro j c that uses stopping
    exact (sound.emptied j c server map that stopping uses live).2 agent _ (view_agents found)
      holds adding
  obtain ⟨running, delegate, present, rfl⟩ := liveTargets_inv ((view_targets there).symm.trans live)
  have added : held.addTarget impl.targetId agent = .ok { held with
      delegate := some { delegate with
        targetsMap := delegate.targetsMap.insert impl.targetId agent } } := by
    simp only [InspectorSocketServer.addTarget, InspectorSocketServer.updateTargets, present,
      InspectorAgentDelegate.addTarget]
    split
    · rfl
    · rename_i entry
      rw [absent] at entry
      cases entry
  rw [added]
  apply Keeps.ok
  rw [putBoth_view found there]
  simp only [liveTargets, running, ↓reduceIte, Option.map_some]
  apply sound.retarget (view_agents found) ?_ holds live ?_ ?_ steady
  · simp [AgentImpl.standing]
  · simp [AgentImpl.standing]
  · intro removing
    cases adding.symm.trans removing
  · simp [AgentImpl.standing]
  · exact ⟨rfl, rfl, rfl⟩
  · exact AList.lookup_insert _
  · intro id different
    exact AList.lookup_insert_ne different

theorem removeTarget_keeps (sound : registry.view.Sound)
    (found : registry.agents[agent]? = some impl) (holds : impl.server = some server)
    (there : registry.servers[server]? = some held) (removing : impl.phase = .removingTarget) :
    Keeps (do
      let changed ← (held.removeTarget impl.targetId).mapError .server
      return (registry.putServer server changed).put agent
        { impl with phase := .testingTargets }) := by
  have unstarted : impl.isStarted = false := unstarted_of sound found (by rw [removing]; decide)
  have occupies : impl.standing.occupies = true := by
    rw [Standing.occupies, show impl.standing.phase = .removingTarget from removing]
  obtain ⟨other, map, uses, live, entry⟩ := sound.present agent _ (view_agents found) occupies
  obtain rfl : server = other := Option.some.inj (holds.symm.trans uses)
  have steady : ∀ j c, registry.view.agents j = some c → c.server = some server →
      c.phase ≠ .stoppingServer := by
    intro j c that uses stopping
    rw [(sound.emptied j c server map that stopping uses live).1] at entry
    cases entry
  obtain ⟨running, delegate, present, rfl⟩ := liveTargets_inv ((view_targets there).symm.trans live)
  have removed : held.removeTarget impl.targetId = .ok { held with
      delegate := some (delegate.removeTarget impl.targetId) } := by
    simp only [InspectorSocketServer.removeTarget, InspectorSocketServer.updateTargets, present]
  rw [removed]
  apply Keeps.ok
  rw [putBoth_view found there]
  simp only [liveTargets, running, ↓reduceIte, Option.map_some]
  apply sound.retarget (view_agents found) ?_ holds live ?_ ?_ steady
  · simp [AgentImpl.standing]
  · exact fun _ _ _ => unstarted
  · intro other
    cases removing.symm.trans other
  · simp [AgentImpl.standing]
  · exact ⟨rfl, rfl, rfl⟩
  · exact AList.lookup_erase _ _
  · intro id different
    exact AList.lookup_erase_ne different

theorem hasTargets_keeps (sound : registry.view.Sound)
    (found : registry.agents[agent]? = some impl) (holds : impl.server = some server)
    (there : registry.servers[server]? = some held) (testing : impl.phase = .testingTargets)
    (unwanted : (registry.targets server).any (!·.entries.isEmpty) = true ∨
      registry.noneAt server .addingTarget = true) :
    Keeps (do
      let has ← held.hasTargets.mapError .server
      return registry.put agent
        { impl with phase := if has then .idle else .stoppingServer }) := by
  obtain ⟨other, map, uses, live⟩ := sound.wanted agent _ (view_agents found) (.inr testing)
  obtain rfl : server = other := Option.some.inj (holds.symm.trans uses)
  have unstarted : impl.isStarted = false := unstarted_of sound found (by rw [testing]; decide)
  obtain ⟨-, delegate, present, rfl⟩ := liveTargets_inv ((view_targets there).symm.trans live)
  simp only [InspectorSocketServer.hasTargets, present]
  apply Keeps.ok
  rw [put_view found]
  cases has : delegate.hasTargets with
  | true =>
    apply sound.move (view_agents found) ?_
    rotate_right
    · exact ⟨rfl, rfl, rfl⟩
    · simp only [Standing.occupies, AgentImpl.standing, testing, ↓reduceIte]
      exact unstarted
    · simp [AgentImpl.standing]
    · simp [AgentImpl.standing]
    · exact fun _ _ _ => unstarted
    · intro removing
      cases testing.symm.trans removing
  | false =>
    have empty : delegate.targetsMap.entries = [] := by
      simpa [InspectorAgentDelegate.hasTargets] using has
    have alone : registry.noneAt server .addingTarget = true := by
      refine unwanted.resolve_left ?_
      rw [show registry.targets server = _ from live, Option.any_some, empty]
      simp
    apply sound.move (view_agents found) ?_
    rotate_right
    · exact ⟨rfl, rfl, rfl⟩
    · simp only [Standing.occupies, AgentImpl.standing, testing, Bool.false_eq_true, ↓reduceIte]
    · simp [AgentImpl.standing]
    · intro _ s map uses there
      obtain rfl : server = s := Option.some.inj (holds.symm.trans uses)
      obtain rfl := Option.some.inj (live.symm.trans there)
      refine ⟨fun id => ?_, noneAt_view alone⟩
      rw [AList.lookup, empty, List.dlookup_nil]
    · exact fun _ _ _ => unstarted
    · intro removing
      cases testing.symm.trans removing

theorem stopServer_keeps (sound : registry.view.Sound)
    (found : registry.agents[agent]? = some impl) (holds : impl.server = some server)
    (there : registry.servers[server]? = some held) (stopping : impl.phase = .stoppingServer)
    (tested : registry.noneAt server .testingTargets = true) :
    Keeps (do
      let changed ← held.stop.mapError .server
      return (registry.putServer server changed).put agent
        { impl with phase := .removingServer }) := by
  have unstarted : impl.isStarted = false := unstarted_of sound found (by rw [stopping]; decide)
  -- A server that is stopped already has no live targets either.
  have stops : ∀ changed : InspectorSocketServer, changed.state = .kStopped →
      ((registry.putServer server changed).put agent
        { impl with phase := .removingServer }).view.Sound := by
    intro changed stopped
    have dead : liveTargets changed = none := by
      rw [liveTargets, stopped, if_neg (by decide)]
    rw [putBoth_view found there, dead]
    exact sound.stopServer (view_agents found) ⟨rfl, rfl, rfl⟩ stopping holds (noneAt_view tested)
      rfl unstarted
  unfold InspectorSocketServer.stop
  split
  · exact .ok (stops held (by assumption))
  · split
    · exact .inl ⟨.server .checkFailed, rfl, nofun⟩
    · exact .ok (stops _ rfl)

theorem removeServer_keeps (sound : registry.view.Sound)
    (found : registry.agents[agent]? = some impl) (removing : impl.phase = .removingServer) :
    Keeps (.ok ({ registry with
      serverOf := Function.update registry.serverOf impl.port none }.put agent
        { impl with phase := .idle })) := by
  have unstarted : impl.isStarted = false := unstarted_of sound found (by rw [removing]; decide)
  apply Keeps.ok
  have kept : ({ registry with serverOf := Function.update registry.serverOf impl.port none } :
    Registry).agents[agent]? = some impl := found
  rw [put_view kept]
  apply (sound.forget impl.port).move (view_agents found) ?_
  rotate_right
  · exact ⟨rfl, rfl, rfl⟩
  · simp only [Standing.occupies, AgentImpl.standing, removing]
    exact unstarted
  · simp [AgentImpl.standing]
  · simp [AgentImpl.standing]
  · exact fun _ _ _ => unstarted
  · exact fun _ => .inr (Function.update_self ..)

theorem leaveMessageLoop_keeps {outcome : Except Loss Registry} (sound : registry.view.Sound)
    (called : call registry (.leaveMessageLoop agent) = some outcome) : Keeps outcome := by
  obtain ⟨impl, found, ⟨disconnecting, rfl⟩ | ⟨fatal, rfl⟩⟩ := leaveMessageLoop_inv called
  · refine move_keeps sound found rfl rfl rfl ?_ ?_ ?_ ?_
    · simp only [Standing.occupies, AgentImpl.standing, disconnecting]
    · rw [disconnecting]
      rfl
    · rfl
    · exact fun _ => rfl
  · refine move_keeps sound found rfl rfl rfl ?_ ?_ ?_ ?_
    · simp only [Standing.occupies, AgentImpl.standing, fatal]
      rfl
    · rw [fatal]
      rfl
    · rfl
    · intro removing
      cases removing

theorem stop_keeps (sound : registry.view.Sound) (found : registry.agents[agent]? = some impl)
    (idle : impl.phase = .idle) (started : impl.isStarted = true) :
    Keeps (.ok (registry.stop agent impl)) := by
  have occupies : impl.standing.occupies = true := by
    rw [Standing.occupies, show impl.standing.phase = .idle from idle]
    exact started
  unfold Registry.stop
  split
  · refine move_keeps sound found rfl rfl rfl ?_ ?_ ?_ ?_
    · rw [occupies]
      rfl
    · rw [idle]
      rfl
    · rfl
    · intro removing
      cases removing
  · refine move_keeps sound found rfl rfl rfl ?_ ?_ ?_ ?_
    · rw [occupies]
      rfl
    · rw [idle]
      rfl
    · rfl
    · exact fun _ => rfl

theorem fatalException_keeps (sound : registry.view.Sound)
    (found : registry.agents[agent]? = some impl) (idle : impl.phase = .idle) :
    Keeps (.ok (registry.put agent
      { impl with shuttingDown := true, phase := .fatalException })) := by
  refine move_keeps sound found rfl rfl rfl ?_ ?_ ?_ ?_
  · simp only [Standing.occupies, AgentImpl.standing, idle]
    rfl
  · rw [idle]
    rfl
  · rfl
  · intro removing
    cases removing

/-- A message moves the agent between `kAccepting` and `kConnected`, or to `kDone`
while `Stop` waits for it. -/
theorem processMessage_standing {sessionId : Nat} {message : List UInt8}
    (calm : impl.phase = .disconnecting ∨ impl.shuttingDown = false ∨ message ≠ tagDisconnect)
    (processed : impl.processMessage sessionId message = .ok after) :
    after.port = impl.port ∧ after.targetId = impl.targetId ∧ after.server = impl.server ∧
      after.phase = impl.phase ∧ after.standing.occupies = impl.standing.occupies := by
  obtain ⟨_, ⟨⟩⟩ | ⟨accepting, ⟨⟩⟩ | ⟨disconnects, connected, ⟨⟩⟩ | ⟨⟨⟩⟩ :=
    processMessage_inv processed
  · refine ⟨rfl, rfl, rfl, rfl, ?_⟩
    simp [Standing.occupies, AgentImpl.standing, AgentImpl.isStarted, accepting]
  · refine ⟨rfl, rfl, rfl, rfl, ?_⟩
    obtain disconnecting | running | other := calm
    · simp [Standing.occupies, AgentImpl.standing, disconnecting]
    · simp [Standing.occupies, AgentImpl.standing, AgentImpl.isStarted, connected, running]
    · exact absurd disconnects other
  · exact ⟨rfl, rfl, rfl, rfl, rfl⟩

theorem dispatchMessage_keeps {outcome : Except Loss Registry} (sound : registry.view.Sound)
    (calm : undisturbed registry (.dispatchMessage agent) = true)
    (called : call registry (.dispatchMessage agent) = some outcome) : Keeps outcome := by
  obtain ⟨impl, sessionId, message, rest, found, queue, dispatches, rfl⟩ :=
    dispatchMessage_inv called
  simp only [undisturbed, found, Option.all_some, queue, List.head?_cons, Bool.or_eq_true,
    beq_iff_eq, Bool.not_eq_true', bne_iff_ne, ne_eq, or_assoc] at calm
  cases processed : ({ impl with incomingMessageQueue := rest } : AgentImpl).processMessage
      sessionId message with
  | error loss =>
    obtain ⟨expected, ⟨⟩⟩ | ⟨-, ⟨⟩⟩ | ⟨-, -, ⟨⟩⟩ | ⟨⟨⟩⟩ := processMessage_inv processed
    refine .inl ⟨.checkFailed expected, rfl, ?_⟩
    rintro ⟨⟩
  | ok changed =>
    have kept : ({ impl with incomingMessageQueue := rest } : AgentImpl).phase = .disconnecting ∨
        impl.shuttingDown = false ∨ message ≠ tagDisconnect := calm
    obtain ⟨port, targetId, holds, phase, occupies⟩ := processMessage_standing kept processed
    have here := settles_of_dispatches dispatches
    apply move_keeps sound found port targetId holds occupies here
    · rw [phase]
      exact here
    · intro removing
      rw [AgentImpl.dispatches, phase.symm.trans removing] at dispatches
      cases dispatches

theorem call_keeps {action : Action} {outcome : Except Loss Registry}
    (sound : registry.view.Sound) (calm : undisturbed registry action = true)
    (called : call registry action = some outcome) : Keeps outcome := by
  cases action with
  | create port targetId =>
    obtain ⟨unused, rfl⟩ := create_inv called
    exact create_keeps sound unused
  | start agent expired =>
    obtain ⟨impl, found, idle, ⟨-, rfl⟩ | ⟨unstarted, rfl⟩⟩ := start_inv called
    · exact .ok sound
    · simp only [undisturbed, found, Option.all_some, unstarted, Bool.false_or] at calm
      exact start_keeps sound found idle unstarted calm
  | addTarget agent =>
    obtain ⟨impl, server, held, found, holds, there, adding, rfl⟩ := withServer_inv called
    exact addTarget_keeps sound found holds there adding
  | stop agent =>
    obtain ⟨impl, found, idle, ⟨started, rfl⟩ | ⟨-, rfl⟩⟩ := stop_inv called
    · exact stop_keeps sound found idle started
    · exact .ok sound
  | fatalException agent =>
    obtain ⟨impl, found, idle, ⟨-, rfl⟩ | ⟨-, rfl⟩⟩ := fatalException_inv called
    · exact fatalException_keeps sound found idle
    · exact .ok sound
  | leaveMessageLoop agent => exact leaveMessageLoop_keeps sound called
  | removeTarget agent =>
    obtain ⟨impl, server, held, found, holds, there, removing, rfl⟩ := withServer_inv called
    exact removeTarget_keeps sound found holds there removing
  | hasTargets agent =>
    obtain ⟨impl, server, held, found, holds, there, testing, rfl⟩ := withServer_inv called
    simp only [undisturbed, found, holds, Option.all_some, Bool.or_eq_true] at calm
    exact hasTargets_keeps sound found holds there testing calm
  | stopServer agent =>
    obtain ⟨impl, server, held, found, holds, there, stopping, rfl⟩ := withServer_inv called
    simp only [undisturbed, found, holds, Option.all_some] at calm
    exact stopServer_keeps sound found holds there stopping calm
  | removeServer agent =>
    obtain ⟨impl, found, removing, rfl⟩ := removeServer_inv called
    exact removeServer_keeps sound found removing
  | dispatchMessage agent => exact dispatchMessage_keeps sound calm called
  | accept server =>
    refine serve_keeps ?_ sound called
    rintro before changed ⟨⟩
    rfl
  | sessionStarted server sessionId targetId =>
    exact serve_keeps (fun _ _ => sessionStarted_liveTargets) sound called
  | sessionTerminated server sessionId =>
    exact serve_keeps (fun _ _ => sessionTerminated_liveTargets) sound called

end

theorem coherent_of_sound {registry : Registry} (sound : registry.view.Sound) :
    Coherent (.ok registry) := by
  intro agent impl found settled
  have occupies : impl.standing.occupies = impl.isStarted := by
    obtain idle | fatal := settled
    · rw [Standing.occupies, show impl.standing.phase = .idle from idle]
      rfl
    · rw [Standing.occupies, show impl.standing.phase = .fatalException from fatal]
      rfl
  constructor
  · rintro ⟨server, map, live, entry⟩
    obtain ⟨standing, there, -, -, occupied⟩ := sound.member server map _ agent live entry
    obtain rfl := Option.some.inj ((view_agents found).symm.trans there)
    exact occupies.symm.trans occupied
  · intro started
    obtain ⟨server, map, -, live, entry⟩ :=
      sound.present agent _ (view_agents found) (occupies.trans started)
    exact ⟨server, map, live, entry⟩

theorem start_sound : serverCollection.start.view.Sound := by
  constructor <;> intros <;> contradiction

/-- Registration follows the state of every agent in the runs where no server is
handed out or tested while it is being stopped, and `shutting_down_` is not left
over when a disconnect is handled. -/
theorem registered_iff_started {trace : List Action}
    (calm : serverCollection.Meets (fun registry action => undisturbed registry action = true)
      serverCollection.start trace) :
    serverCollection.SafeAlong Coherent serverCollection.start trace := by
  intro front back outcome split ran
  rw [split] at calm
  refine (Program.exec_invariant (fun registry : Registry => registry.view.Sound)
    (fun registry => coherent_of_sound) ?_ front _ outcome start_sound calm.of_append ran).1
  intro registry action outcome sound calm called
  obtain ⟨loss, rfl, other⟩ | ⟨next, rfl, kept⟩ := call_keeps sound calm called
  · exact ⟨other, nofun⟩
  · refine ⟨coherent_of_sound kept, ?_⟩
    rintro after ⟨⟩
    exact kept

/-- Two agents share a port. One serves a frontend, stops and starts again while the
other keeps the server. -/
def sharedPort : List Action :=
  [.create 9229 [0x61], .create 9229 [0x62], .start 0 false, .start 1 false, .addTarget 1,
    .addTarget 0, .accept 0, .sessionStarted 0 0 [0x61], .dispatchMessage 0, .sessionTerminated 0 0,
    .dispatchMessage 0, .stop 0, .removeTarget 0, .hasTargets 0, .start 0 false, .addTarget 0]

theorem sharedPort_registered :
    serverCollection.SafeAlong Coherent serverCollection.start sharedPort ∧
      (serverCollection.run sharedPort).isSome = true :=
  ⟨registered_iff_started (by decide), rfl⟩

/-- An agent is stopped while a frontend is connected, is started again and serves
another frontend. -/
def restarted : List Action :=
  [.create 9229 [0x61], .start 0 false, .addTarget 0, .accept 0, .sessionStarted 0 0 [0x61],
    .dispatchMessage 0, .stop 0, .sessionTerminated 0 0, .dispatchMessage 0, .leaveMessageLoop 0,
    .removeTarget 0, .hasTargets 0, .stopServer 0, .removeServer 0, .start 0 false, .addTarget 0,
    .accept 1, .sessionStarted 1 0 [0x61], .dispatchMessage 0, .sessionTerminated 1 0,
    .dispatchMessage 0]

/-- A second agent starts between the test of the first for targets and the stop of
the server. -/
def handedOut : List Action :=
  [.create 9229 [0x61], .create 9229 [0x62], .start 0 false, .addTarget 0, .stop 0,
    .removeTarget 0, .hasTargets 0, .start 1 false, .addTarget 1, .stopServer 0, .removeServer 0]

/-- The restarted agent is `kDone` in the target map of a running server, and the
second agent is `kAccepting` on a server that is stopped. -/
theorem registration_lost :
    ¬ serverCollection.SafeAlong Coherent serverCollection.start restarted ∧
      ¬ serverCollection.SafeAlong Coherent serverCollection.start handedOut := by
  constructor
  · intro along
    have coherent := along restarted [] _ (List.append_nil _).symm rfl
    have registered := coherent 0 _ rfl (.inl rfl)
    exact absurd (registered.mp ⟨1, _, rfl, rfl⟩) (by decide)
  · intro along
    have coherent := along handedOut [] _ (List.append_nil _).symm rfl
    obtain ⟨server, map, live, entry⟩ := (coherent 1 _ rfl (.inl rfl)).mpr rfl
    cases server with
    | zero => cases live
    | succ other => cases live

end V8Jsi.AgentRegistry
