import V8Jsi.AgentRegistration

set_option autoImplicit false

/- How long an `AgentImpl` lives, and the tasks and interrupts that refer to it by a
plain reference. It is shared by the `Agent` of the runtimes of its isolate and by
the target and session maps of the servers. -/
namespace V8Jsi.AgentLifetime

open AgentRegistry Runs SocketServer

/-- The live runtimes of the isolate of an agent, what the isolate and the task
runner have pending for it, and how many `PostIncomingMessage` calls stand before
each of their later steps. -/
structure Life where
  runtimes : Nat := 0
  isolate : Bool := true
  pendingTasks : Nat := 0
  pendingInterrupts : Nat := 0
  toPostTask : Nat := 0
  toRequestInterrupt : Nat := 0
  deriving DecidableEq, Repr

structure Process where
  registry : Registry := {}
  lives : List Life := []

inductive Loss
  | registry (loss : AgentRegistry.Loss)
  | destroyedAgent
  | disposedIsolate
  deriving DecidableEq, Repr

/-- The steps of `AgentRegistry`, messages of a frontend, the later steps of
`PostIncomingMessage`, what the host runs, and the runtimes of an isolate. -/
inductive Action
  | registry (action : AgentRegistry.Action)
  | messageReceived (server sessionId : Nat) (message : List UInt8)
  | postTask (agent : Nat)
  | requestInterrupt (agent : Nat)
  | runTask (agent : Nat)
  | runInterrupt (agent : Nat)
  | createRuntime (agent : Nat)
  | destroyRuntime (agent : Nat)
  | disposeIsolate (agent : Nat)
  deriving DecidableEq, Repr

/-- A target map or a session map of the server holds the agent. -/
def heldBy (agent : Nat) (server : InspectorSocketServer) : Bool :=
  server.delegate.any fun delegate =>
    delegate.targetsMap.entries.any (·.2 == agent) ||
      delegate.sessionTargetsMap.entries.any (·.2 == agent)

def held (registry : Registry) (agent : Nat) : Bool := registry.servers.any (heldBy agent)

namespace Process

def life (process : Process) (agent : Nat) : Life := process.lives[agent]?.getD {}

/-- The `AgentImpl` has not been destroyed. -/
def alive (process : Process) (agent : Nat) : Bool :=
  0 < (process.life agent).runtimes || held process.registry agent

def pending (process : Process) (agent : Nat) : Bool :=
  0 < (process.life agent).pendingTasks || 0 < (process.life agent).pendingInterrupts

def update (process : Process) (agent : Nat) (change : Life → Life) : Process :=
  { process with lives := process.lives.modify agent change }

end Process

/-- The agent on whose thread a step of the registry runs, if it is one. -/
def threadOf : AgentRegistry.Action → Option Nat
  | .start agent _ | .addTarget agent | .stop agent | .fatalException agent
  | .leaveMessageLoop agent | .removeTarget agent | .hasTargets agent | .stopServer agent
  | .removeServer agent | .dispatchMessage agent => some agent
  | .create _ _ | .accept _ | .sessionStarted _ _ _ | .sessionTerminated _ _ => none

def queueOf (registry : Registry) (agent : Nat) : List (Nat × List UInt8) :=
  registry.agents[agent]?.elim [] (·.incomingMessageQueue)

/-- Whoever appends to an empty queue goes on to post a task and to request an
interrupt. -/
def wake (before after : Registry) (lives : List Life) : List Life :=
  lives.mapIdx fun agent life =>
    if (queueOf before agent).isEmpty && !(queueOf after agent).isEmpty then
      { life with toPostTask := life.toPostTask + 1 }
    else life

/-- The first runtime of an isolate makes its agent. -/
def livesAfter (lives : List Life) : AgentRegistry.Action → List Life
  | .create _ _ => lives ++ [{ runtimes := 1 }]
  | .start _ _ | .addTarget _ | .stop _ | .fatalException _ | .leaveMessageLoop _
  | .removeTarget _ | .hasTargets _ | .stopServer _ | .removeServer _ | .dispatchMessage _
  | .accept _ | .sessionStarted _ _ _ | .sessionTerminated _ _ => lives

def Process.follow (process : Process) (lives : List Life)
    (outcome : Except AgentRegistry.Loss Registry) : Except Loss Process := do
  let after ← outcome.mapError .registry
  return { registry := after, lives := wake process.registry after lives }

/-- A step with a life of the process. -/
def Process.step (process : Process) (agent : Nat) (guard : Life → Bool)
    (change : Life → Life) : Option (Except Loss Process) :=
  if guard (process.life agent) then some (.ok (process.update agent change)) else none

/-- The steps of an agent run while it has a runtime. `~Agent` stops a started
agent before the last runtime lets go of it; the isolate is disposed after that. -/
def call (process : Process) : Action → Option (Except Loss Process)
  | .registry action =>
      if (threadOf action).all fun agent => 0 < (process.life agent).runtimes then
        (AgentRegistry.call process.registry action).map
          (process.follow (livesAfter process.lives action))
      else none
  | .messageReceived server sessionId message =>
      (process.registry.serve server (·.messageReceived sessionId message)).map
        (process.follow process.lives)
  | .postTask agent =>
      if (process.life agent).toPostTask = 0 then none
      else if !process.alive agent then some (.error .destroyedAgent)
      else if !(process.life agent).isolate then some (.error .disposedIsolate)
      else some (.ok (process.update agent fun life => { life with
        toPostTask := life.toPostTask - 1
        pendingTasks := life.pendingTasks + 1
        toRequestInterrupt := life.toRequestInterrupt + 1 }))
  | .requestInterrupt agent =>
      if (process.life agent).toRequestInterrupt = 0 then none
      else if !process.alive agent then some (.error .destroyedAgent)
      else if !(process.life agent).isolate then some (.error .disposedIsolate)
      else some (.ok (process.update agent fun life => { life with
        toRequestInterrupt := life.toRequestInterrupt - 1
        pendingInterrupts := life.pendingInterrupts + 1 }))
  | .runTask agent =>
      if (process.life agent).pendingTasks = 0 then none
      else if !process.alive agent then some (.error .destroyedAgent)
      else some (.ok (process.update agent fun life => { life with
        pendingTasks := life.pendingTasks - 1 }))
  | .runInterrupt agent =>
      if (process.life agent).pendingInterrupts = 0 ∨ (process.life agent).runtimes = 0 then none
      else some (.ok (process.update agent fun life => { life with
        pendingInterrupts := life.pendingInterrupts - 1 }))
  | .createRuntime agent =>
      process.step agent (0 < ·.runtimes) fun life => { life with runtimes := life.runtimes + 1 }
  | .destroyRuntime agent =>
      process.registry.agents[agent]?.bind fun impl =>
        process.step agent (fun life => impl.phase == .idle && (1 < life.runtimes ||
            life.runtimes == 1 && !impl.isStarted)) fun life =>
          { life with runtimes := life.runtimes - 1 }
  | .disposeIsolate agent =>
      process.step agent (fun life => life.runtimes == 0 && life.isolate) fun life =>
        { life with isolate := false, pendingInterrupts := 0 }

def agentProcess : Program Process Action Loss where
  start := {}
  call := call

/-- What is pending refers to an agent that is there. -/
def NoneOutlives : Except Loss Process → Prop
  | .error loss => loss ≠ .destroyedAgent
  | .ok process => ∀ agent, process.pending agent = true → process.alive agent = true

/-- The last runtime of an agent goes while a server still holds the agent or
nothing is pending for it; a server is stopped while nothing is pending for an
agent that only this server holds; and `PostIncomingMessage` goes on with an agent
that is there. -/
def released (process : Process) : Action → Bool
  | .destroyRuntime agent => (process.life agent).runtimes != 1 ||
      held process.registry agent || !process.pending agent
  | .registry (.stopServer stopping) =>
      process.registry.agents[stopping]?.all fun impl => impl.server.all fun server =>
        (List.range process.lives.length).all fun agent => !process.pending agent ||
          0 < (process.life agent).runtimes ||
          process.registry.servers.zipIdx.any fun (held, index) =>
            index != server && heldBy agent held
  | .postTask agent | .requestInterrupt agent => process.alive agent
  | .registry _ | .messageReceived _ _ _ | .runTask _ | .runInterrupt _ | .createRuntime _
  | .disposeIsolate _ => true

/-! ## What servers hold -/

section

variable {server changed : InspectorSocketServer} {agent : Nat}

theorem entries_any_iff {α : Type} [DecidableEq α] (map : AList fun _ : α => Nat) (agent : Nat) :
    map.entries.any (·.2 == agent) = true ↔ ∃ key, map.lookup key = some agent := by
  rw [List.any_eq_true]
  constructor
  · rintro ⟨⟨key, value⟩, inside, same⟩
    obtain rfl : value = agent := by simpa using same
    exact ⟨key, AList.mem_lookup_iff.mpr inside⟩
  · rintro ⟨key, found⟩
    exact ⟨⟨key, agent⟩, AList.mem_lookup_iff.mp found, by simp⟩

theorem heldBy_iff : heldBy agent server = true ↔ ∃ delegate, server.delegate = some delegate ∧
    ((∃ id, delegate.targetsMap.lookup id = some agent) ∨
      ∃ session, delegate.sessionTargetsMap.lookup session = some agent) := by
  simp only [heldBy, Option.any_eq_true, Bool.or_eq_true, entries_any_iff]

/-- A server runs, or it is stopped and has no delegate. -/
def InOrder (server : InspectorSocketServer) : Prop :=
  server.state = .kRunning ∨ server.state = .kStopped ∧ server.delegate = none

/-- A call that keeps the target map and forgets no agent. -/
structure Serves (server changed : InspectorSocketServer) : Prop where
  inOrder : InOrder changed
  targets : ∀ delegate, changed.delegate = some delegate →
    ∃ before, server.delegate = some before ∧ delegate.targetsMap = before.targetsMap
  holds : ∀ agent, heldBy agent server = true → heldBy agent changed = true

theorem Serves.of_same (inOrder : InOrder server) (state : changed.state = server.state)
    (delegate : changed.delegate = server.delegate) : Serves server changed where
  inOrder := by
    rw [InOrder, state, delegate]
    exact inOrder
  targets after there := ⟨after, delegate.symm.trans there, rfl⟩
  holds agent held := by
    rw [heldBy, delegate]
    exact held

/-- The delegate of a running server is replaced by one with the same targets. -/
theorem Serves.of_delegate {before after : InspectorAgentDelegate} (inOrder : InOrder server)
    (present : server.delegate = some before) (state : changed.state = server.state)
    (delegate : changed.delegate = some after) (targets : after.targetsMap = before.targetsMap)
    (sessions : ∀ session agent, before.sessionTargetsMap.lookup session = some agent →
      after.sessionTargetsMap.lookup session = some agent) : Serves server changed where
  inOrder := by
    obtain running | ⟨-, gone⟩ := inOrder
    · exact .inl (state.trans running)
    · rw [present] at gone
      cases gone
  targets other there := by
    obtain rfl : after = other := Option.some.inj (delegate.symm.trans there)
    exact ⟨before, present, targets⟩
  holds agent held := by
    obtain ⟨other, there, entered⟩ := heldBy_iff.mp held
    obtain rfl : before = other := Option.some.inj (present.symm.trans there)
    refine heldBy_iff.mpr ⟨after, delegate, ?_⟩
    rw [targets]
    exact entered.imp_right fun ⟨session, found⟩ => ⟨session, sessions session agent found⟩

theorem accept_serves (inOrder : InOrder server) : Serves server server.accept :=
  .of_same inOrder rfl rfl

theorem startSession_sessions {delegate after : InspectorAgentDelegate} {sessionId : Nat}
    {targetId : List UInt8} (started : delegate.startSession sessionId targetId = .ok after) :
    ∀ session agent, delegate.sessionTargetsMap.lookup session = some agent →
      after.sessionTargetsMap.lookup session = some agent := by
  unfold InspectorAgentDelegate.startSession at started
  split at started
  · cases started
  · cases started
    intro session agent found
    dsimp only [InspectorAgentDelegate.postIncomingMessage]
    split
    · rename_i absent
      have different : session ≠ sessionId := by
        rintro rfl
        rw [absent] at found
        cases found
      rw [AList.lookup_insert_ne different]
      exact found
    · exact found

theorem sessionStarted_serves {sessionId : Nat} {targetId : List UInt8} (inOrder : InOrder server)
    (started : server.sessionStarted sessionId targetId = .ok changed) :
    Serves server changed := by
  obtain rfl | ⟨delegate, entered, present, begun, rfl⟩ := sessionStarted_inv started
  · exact .of_same inOrder rfl rfl
  · exact .of_delegate inOrder present rfl rfl (startSession_targets begun)
      (startSession_sessions begun)

theorem postToTarget_serves {delegate after : InspectorAgentDelegate} {sessionId : Nat}
    {message : List UInt8} (inOrder : InOrder server) (present : server.delegate = some delegate)
    (posted : delegate.postToTarget sessionId message = .ok after)
    (state : changed.state = server.state) (there : changed.delegate = some after) :
    Serves server changed := by
  obtain ⟨agent, -, rfl⟩ := postToTarget_inv posted
  exact .of_delegate inOrder present state there rfl fun _ _ found => found

theorem messageReceived_serves {sessionId : Nat} {message : List UInt8} (inOrder : InOrder server)
    (received : server.messageReceived sessionId message = .ok changed) :
    Serves server changed := by
  obtain ⟨delegate, used, received⟩ := Outcome.bind_ok_inv received
  obtain ⟨after, posted, same⟩ := Outcome.bind_ok_inv received
  obtain rfl := Except.ok.inj same
  exact postToTarget_serves inOrder (useDelegate_inv used) posted rfl rfl

/-- The delegate that the end of the last session resets is gone already. -/
theorem eraseSession_serves (inOrder : InOrder server) (sessionId : Nat) :
    Serves server (server.eraseSession sessionId) := by
  unfold InspectorSocketServer.eraseSession
  simp only
  split
  · rename_i last
    have stopped : server.state = .kStopped := last.2
    refine .of_same inOrder rfl ?_
    obtain running | ⟨-, gone⟩ := inOrder
    · rw [running] at stopped
      cases stopped
    · exact gone.symm
  · exact .of_same inOrder rfl rfl

theorem Serves.trans {middle : InspectorSocketServer} (first : Serves server middle)
    (second : Serves middle changed) : Serves server changed where
  inOrder := second.inOrder
  targets after there := by
    obtain ⟨between, present, same⟩ := second.targets after there
    obtain ⟨before, earlier, also⟩ := first.targets between present
    exact ⟨before, earlier, same.trans also⟩
  holds agent held := second.holds agent (first.holds agent held)

theorem sessionTerminated_serves {sessionId : Nat} (inOrder : InOrder server)
    (ended : server.sessionTerminated sessionId = .ok changed) : Serves server changed := by
  obtain rfl | rfl | ⟨delegate, after, present, posted, rfl⟩ := sessionTerminated_inv ended
  · exact .of_same inOrder rfl rfl
  · exact eraseSession_serves inOrder sessionId
  · have told : Serves server { server with delegate := some after } :=
      postToTarget_serves inOrder present posted rfl rfl
    exact told.trans (eraseSession_serves told.inOrder sessionId)

end

/-! ## The registry -/

def idOf (registry : Registry) (agent : Nat) : Option (List UInt8) :=
  registry.agents[agent]?.map (·.targetId)

/-- The servers are in order, and a target map finds an agent under its own id. -/
structure Kept (registry : Registry) : Prop where
  inOrder : ∀ server ∈ registry.servers, InOrder server
  keyed : ∀ server ∈ registry.servers, ∀ delegate, server.delegate = some delegate →
    ∀ id agent, delegate.targetsMap.lookup id = some agent → idOf registry agent = some id
  distinct : ∀ first second id, idOf registry first = some id → idOf registry second = some id →
    first = second

section

variable {registry next : Registry} {agent server : Nat} {impl after : AgentImpl}
  {before changed : InspectorSocketServer}

theorem idOf_put (found : registry.agents[agent]? = some impl)
    (same : after.targetId = impl.targetId) (other : Nat) :
    idOf (registry.put agent after) other = idOf registry other := by
  have inside := (List.getElem?_eq_some_iff.mp found).1
  change (registry.agents.set agent after)[other]?.map _ = registry.agents[other]?.map _
  by_cases here : other = agent
  · rw [here, List.getElem?_set_self inside, found, Option.map_some, Option.map_some, same]
  · rw [List.getElem?_set_ne (Ne.symm here)]

theorem idOf_post (registry : Registry) (post : Post) (other : Nat) :
    idOf (registry.post post) other = idOf registry other := by
  change (registry.agents.modify _ _)[other]?.map _ = registry.agents[other]?.map _
  rw [List.getElem?_modify, Option.map_eq_map, Option.map_map]
  congr 1
  funext impl
  change AgentImpl.targetId _ = _
  split <;> rfl

/-- The agents keep their ids. -/
theorem Kept.of_same (kept : Kept registry) (servers : next.servers = registry.servers)
    (same : ∀ other, idOf next other = idOf registry other) : Kept next where
  inOrder := by
    rw [servers]
    exact kept.inOrder
  keyed := by
    intro server there delegate present id agent found
    rw [same]
    rw [servers] at there
    exact kept.keyed server there delegate present id agent found
  distinct := by
    intro first second id one two
    rw [same] at one two
    exact kept.distinct first second id one two

theorem Kept.put (kept : Kept registry) (found : registry.agents[agent]? = some impl)
    (same : after.targetId = impl.targetId) : Kept (registry.put agent after) :=
  kept.of_same rfl (idOf_put found same)

theorem Kept.posts (posts : List Post) : ∀ {registry : Registry}, Kept registry →
    Kept (posts.foldl Registry.post registry) ∧
      (posts.foldl Registry.post registry).servers = registry.servers := by
  induction posts with
  | nil => exact fun kept => ⟨kept, rfl⟩
  | cons post rest ih =>
    intro registry kept
    have posted : Kept (registry.post post) := kept.of_same rfl (idOf_post registry post)
    obtain ⟨later, servers⟩ := ih posted
    exact ⟨later, servers⟩

/-- One server changes. -/
theorem Kept.putServer (kept : Kept registry) (inOrder : InOrder changed)
    (keyed : ∀ delegate, changed.delegate = some delegate → ∀ id agent,
      delegate.targetsMap.lookup id = some agent → idOf registry agent = some id) :
    Kept (registry.putServer server changed) where
  inOrder other there := by
    obtain old | rfl := List.mem_or_eq_of_mem_set there
    · exact kept.inOrder other old
    · exact inOrder
  keyed other there := by
    obtain old | rfl := List.mem_or_eq_of_mem_set there
    · exact kept.keyed other old
    · exact keyed
  distinct := kept.distinct

/-- The other servers hold what they held. -/
theorem held_putServer (there : registry.servers[server]? = some before)
    (holds : heldBy agent before = true → heldBy agent changed = true)
    (here : held registry agent = true) : held (registry.putServer server changed) agent = true := by
  obtain ⟨inside, same⟩ := List.getElem?_eq_some_iff.mp there
  obtain ⟨other, member, keeps⟩ := List.any_eq_true.mp here
  obtain ⟨index, bound, rfl⟩ := List.getElem_of_mem member
  apply List.any_eq_true.mpr
  by_cases equal : index = server
  · subst equal
    rw [same] at keeps
    exact ⟨changed, List.mem_set inside changed, holds keeps⟩
  · refine ⟨registry.servers[index], ?_, keeps⟩
    apply List.mem_of_getElem?
    rw [show (registry.putServer server changed).servers = registry.servers.set server changed from
      rfl, List.getElem?_set_ne (Ne.symm equal), List.getElem?_eq_getElem bound]

theorem serve_kept {call : InspectorSocketServer → Except SocketServer.Fault InspectorSocketServer}
    (serves : ∀ before changed, InOrder before → call before = .ok changed → Serves before changed)
    (kept : Kept registry) (called : registry.serve server call = some (.ok next)) :
    Kept next ∧ ∀ agent, held registry agent = true → held next agent = true := by
  simp only [Registry.serve, Option.map_eq_some_iff] at called
  obtain ⟨before, there, called⟩ := called
  obtain ⟨changed, result, same⟩ := Outcome.bind_ok_inv called
  have member := List.mem_of_getElem? there
  have served : Serves before changed := by
    apply serves before changed (kept.inOrder before member)
    cases outcome : call before with
    | error fault =>
      rw [outcome] at result
      cases result
    | ok other =>
      rw [outcome] at result
      cases result
      rfl
  have changedKept : Kept (registry.putServer server changed) := by
    apply kept.putServer served.inOrder
    intro delegate present id agent found
    obtain ⟨earlier, was, targets⟩ := served.targets delegate present
    rw [targets] at found
    exact kept.keyed before member earlier was id agent found
  cases same
  obtain ⟨posted, servers⟩ := changedKept.posts (newPosts before changed)
  refine ⟨posted, fun agent here => ?_⟩
  rw [held, servers]
  exact held_putServer there (served.holds agent) here

theorem newServer_kept (kept : Kept registry) (port : Nat) : Kept (registry.newServer port).1 where
  inOrder other there := by
    obtain old | rfl := List.mem_append.mp there |>.imp_right List.mem_singleton.mp
    · exact kept.inOrder other old
    · exact .inl rfl
  keyed other there delegate present id agent found := by
    obtain old | rfl := List.mem_append.mp there |>.imp_right List.mem_singleton.mp
    · exact kept.keyed other old delegate present id agent found
    · cases present
      cases found
  distinct := kept.distinct

theorem held_append (more : List InspectorSocketServer)
    (servers : next.servers = registry.servers ++ more) (here : held registry agent = true) :
    held next agent = true := by
  rw [held, servers, List.any_append, Bool.or_eq_true]
  exact .inl here

theorem getServer_kept (kept : Kept registry) (port : Nat) (expired : Bool) :
    Kept (registry.getServer port expired).1 ∧
      (registry.getServer port expired).1.agents = registry.agents ∧
      ∃ more, (registry.getServer port expired).1.servers = registry.servers ++ more := by
  unfold Registry.getServer
  split
  · split
    · exact ⟨newServer_kept kept port, rfl, _, rfl⟩
    · exact ⟨kept, rfl, [], (List.append_nil _).symm⟩
  · exact ⟨newServer_kept kept port, rfl, _, rfl⟩

theorem create_kept (kept : Kept registry) {port : Nat} {targetId : List UInt8}
    (unused : registry.agents.all (·.targetId != targetId) = true) :
    Kept { registry with agents := registry.agents ++ [{ port, targetId }] } := by
  have old : ∀ {agent id}, idOf registry agent = some id →
      idOf { registry with agents := registry.agents ++ [{ port, targetId }] } agent = some id := by
    intro agent id found
    obtain ⟨impl, there, same⟩ := Option.map_eq_some_iff.mp found
    have inside := (List.getElem?_eq_some_iff.mp there).1
    change (registry.agents ++ [_])[agent]?.map _ = some id
    rw [List.getElem?_append_left inside, there, Option.map_some, same]
  have cases' : ∀ {agent id}, idOf { registry with
      agents := registry.agents ++ [{ port, targetId }] } agent = some id →
      idOf registry agent = some id ∨ agent = registry.agents.length ∧ id = targetId := by
    intro agent id found
    obtain ⟨impl, there, same⟩ := Option.map_eq_some_iff.mp found
    change (registry.agents ++ [_])[agent]? = some impl at there
    rw [List.getElem?_append] at there
    split at there
    · exact .inl (Option.map_eq_some_iff.mpr ⟨impl, there, same⟩)
    · obtain ⟨last, here⟩ := List.getElem?_eq_some_iff.mp there
      have single : agent - registry.agents.length = 0 := by simpa using last
      have end' : agent = registry.agents.length := by omega
      subst end'
      simp only [Nat.sub_self, List.getElem_cons_zero] at here
      rw [← here] at same
      exact .inr ⟨rfl, same.symm⟩
  have fresh : ∀ {agent}, idOf registry agent ≠ some targetId := by
    intro agent found
    obtain ⟨impl, there, same⟩ := Option.map_eq_some_iff.mp found
    have different := List.all_eq_true.mp unused impl (List.mem_of_getElem? there)
    simp [same] at different
  refine ⟨kept.inOrder, ?_, ?_⟩
  · intro server there delegate present id agent found
    exact old (kept.keyed server there delegate present id agent found)
  · intro first second id one two
    obtain former | ⟨rfl, rfl⟩ := cases' one
    · obtain latter | ⟨-, rfl⟩ := cases' two
      · exact kept.distinct first second id former latter
      · exact absurd former fresh
    · obtain latter | ⟨rfl, -⟩ := cases' two
      · exact absurd latter fresh
      · rfl

theorem mapError_ok_inv {α : Type} {outcome : Except SocketServer.Fault α} {value : α}
    {wrap : SocketServer.Fault → AgentRegistry.Loss} (mapped : outcome.mapError wrap = .ok value) :
    outcome = .ok value := by
  cases outcome with
  | error fault => cases mapped
  | ok other =>
    cases mapped
    rfl

/-- A server with a delegate runs, whatever the delegate's maps. -/
theorem Kept.inOrder_retarget {delegate : InspectorAgentDelegate} (kept : Kept registry)
    (there : registry.servers[server]? = some before) (present : before.delegate = some delegate)
    (new : InspectorAgentDelegate) : InOrder { before with delegate := some new } := by
  obtain running | ⟨-, gone⟩ := kept.inOrder before (List.mem_of_getElem? there)
  · exact .inl running
  · rw [present] at gone
    cases gone

/-- A new map of targets that keeps the entries of an agent keeps the agent held. -/
theorem held_retarget {delegate new : InspectorAgentDelegate} {other : Nat}
    (there : registry.servers[server]? = some before) (present : before.delegate = some delegate)
    (sessions : new.sessionTargetsMap = delegate.sessionTargetsMap)
    (entries : ∀ id, delegate.targetsMap.lookup id = some other →
      new.targetsMap.lookup id = some other)
    (here : held registry other = true) :
    held (registry.putServer server { before with delegate := some new }) other = true := by
  refine held_putServer there ?_ here
  intro holds
  obtain ⟨earlier, was, entered⟩ := heldBy_iff.mp holds
  obtain rfl : delegate = earlier := Option.some.inj (present.symm.trans was)
  refine heldBy_iff.mpr ⟨_, rfl, ?_⟩
  rw [sessions]
  exact entered.imp_left fun ⟨id, entry⟩ => ⟨id, entries id entry⟩

theorem addTarget_kept (kept : Kept registry) (found : registry.agents[agent]? = some impl)
    (there : registry.servers[server]? = some before) (after : AgentImpl)
    (added : before.addTarget impl.targetId agent = .ok changed)
    (same : after.targetId = impl.targetId) :
    Kept ((registry.putServer server changed).put agent after) ∧
      ∀ other, held registry other = true →
        held ((registry.putServer server changed).put agent after) other = true := by
  have member := List.mem_of_getElem? there
  have mine : idOf registry agent = some impl.targetId := by rw [idOf, found, Option.map_some]
  unfold InspectorSocketServer.addTarget InspectorSocketServer.updateTargets at added
  split at added
  · cases added
  · rename_i delegate present
    cases added
    -- The entry is new, or the one that was there stays.
    have targets : (delegate.addTarget impl.targetId agent).sessionTargetsMap =
          delegate.sessionTargetsMap ∧
        (∀ id other, delegate.targetsMap.lookup id = some other →
          (delegate.addTarget impl.targetId agent).targetsMap.lookup id = some other) ∧
        ∀ id other, (delegate.addTarget impl.targetId agent).targetsMap.lookup id = some other →
          idOf registry other = some id := by
      have keyed := kept.keyed before member delegate present
      unfold InspectorAgentDelegate.addTarget
      split
      · rename_i absent
        refine ⟨rfl, fun id other entry => ?_, fun id other entry => ?_⟩
        · rw [AList.lookup_insert_ne]
          · exact entry
          · rintro rfl
            rw [absent] at entry
            cases entry
        · by_cases own : id = impl.targetId
          · subst own
            rw [AList.lookup_insert] at entry
            cases entry
            exact mine
          · rw [AList.lookup_insert_ne own] at entry
            exact keyed id other entry
      · exact ⟨rfl, fun _ _ entry => entry, keyed⟩
    obtain ⟨sessions, entries, keyed⟩ := targets
    constructor
    · refine Kept.put (kept.putServer (kept.inOrder_retarget there present _) ?_) found same
      rintro other ⟨⟩
      exact keyed
    · intro other here
      exact held_retarget there present sessions (fun id entry => entries id other entry) here

/-- Only the agent itself loses its entry. -/
theorem removeTarget_kept (kept : Kept registry) (found : registry.agents[agent]? = some impl)
    (there : registry.servers[server]? = some before) (after : AgentImpl)
    (removed : before.removeTarget impl.targetId = .ok changed)
    (same : after.targetId = impl.targetId) :
    Kept ((registry.putServer server changed).put agent after) ∧
      ∀ other, other ≠ agent → held registry other = true →
        held ((registry.putServer server changed).put agent after) other = true := by
  have member := List.mem_of_getElem? there
  have mine : idOf registry agent = some impl.targetId := by rw [idOf, found, Option.map_some]
  unfold InspectorSocketServer.removeTarget InspectorSocketServer.updateTargets at removed
  split at removed
  · cases removed
  · rename_i delegate present
    cases removed
    have keyed := kept.keyed before member delegate present
    constructor
    · refine Kept.put (kept.putServer (kept.inOrder_retarget there present _) ?_) found same
      rintro other ⟨⟩ id j entry
      change (delegate.targetsMap.erase impl.targetId).lookup id = some j at entry
      have own : id ≠ impl.targetId := by
        rintro rfl
        rw [AList.lookup_erase] at entry
        cases entry
      rw [AList.lookup_erase_ne own] at entry
      exact keyed id j entry
    · intro other different here
      refine held_retarget there present rfl ?_ here
      intro id entry
      change (delegate.targetsMap.erase impl.targetId).lookup id = some other
      rw [AList.lookup_erase_ne]
      · exact entry
      · rintro rfl
        exact different (kept.distinct other agent _ (keyed _ other entry) mine)

/-- `Stop` of a server takes its delegate away. -/
theorem stopServer_inv {outcome : Except AgentRegistry.Loss Registry} (kept : Kept registry)
    (called : AgentRegistry.call registry (.stopServer agent) = some outcome) :
    ∃ impl server stopped next, registry.agents[agent]? = some impl ∧
      impl.server = some server ∧ outcome = .ok next ∧ stopped.delegate = none ∧
      next.servers = registry.servers.set server stopped ∧ Kept next := by
  obtain ⟨impl, server, before, found, holds, there, -, rfl⟩ := withServer_inv called
  have stops : ∃ stopped, before.stop = .ok stopped ∧ stopped.delegate = none ∧
      InOrder stopped := by
    obtain running | ⟨stopped, gone⟩ := kept.inOrder before (List.mem_of_getElem? there)
    · refine ⟨{ before with state := .kStopped, delegate := none }, ?_, rfl, .inr ⟨rfl, rfl⟩⟩
      simp [InspectorSocketServer.stop, running]
    · refine ⟨before, ?_, gone, .inr ⟨stopped, gone⟩⟩
      simp [InspectorSocketServer.stop, stopped]
  obtain ⟨stopped, result, gone, inOrder⟩ := stops
  refine ⟨impl, server, stopped, _, found, holds, by rw [result]; rfl, gone, rfl, ?_⟩
  refine Kept.put (kept.putServer inOrder ?_) found rfl
  intro delegate present
  rw [gone] at present
  cases present

/-- Every other step keeps the agents that servers hold, `RemoveTarget` those but
its own. -/
theorem call_kept {action : AgentRegistry.Action} (kept : Kept registry)
    (other : ∀ stopping, action ≠ .stopServer stopping)
    (called : AgentRegistry.call registry action = some (.ok next)) :
    Kept next ∧ ∀ agent, action ≠ .removeTarget agent → held registry agent = true →
      held next agent = true := by
  have unchanged : ∀ {agent impl after}, registry.agents[agent]? = some impl →
      registry.put agent after = next → after.targetId = impl.targetId →
      Kept next ∧ ∀ agent, action ≠ .removeTarget agent → held registry agent = true →
        held next agent = true := by
    rintro agent impl after found rfl same
    exact ⟨kept.put found same, fun _ _ here => here⟩
  cases action with
  | create port targetId =>
    obtain ⟨unused, ⟨⟩⟩ := create_inv called
    exact ⟨create_kept kept unused, fun _ _ here => here⟩
  | start agent expired =>
    obtain ⟨impl, found, -, ⟨-, ⟨⟩⟩ | ⟨-, ⟨⟩⟩⟩ := start_inv called
    · exact ⟨kept, fun _ _ here => here⟩
    · obtain ⟨got, agents, more, servers⟩ := getServer_kept kept impl.port expired
      constructor
      · apply got.put
        · rw [agents]
          exact found
        · rfl
      · exact fun other _ here => held_append more servers here
  | addTarget agent =>
    obtain ⟨impl, server, before, found, -, there, -, result⟩ := withServer_inv called
    obtain ⟨changed, mapped, same⟩ := Outcome.bind_ok_inv result.symm
    cases same
    obtain ⟨added, holds⟩ := addTarget_kept kept found there
      { impl with state := .kAccepting, phase := .idle } (mapError_ok_inv mapped) rfl
    exact ⟨added, fun other _ here => holds other here⟩
  | stop agent =>
    obtain ⟨impl, found, -, ⟨-, same⟩ | ⟨-, ⟨⟩⟩⟩ := stop_inv called
    · have stopped := (Except.ok.inj same).symm
      unfold Registry.stop at stopped
      split at stopped
      · exact unchanged found stopped rfl
      · exact unchanged found stopped rfl
    · exact ⟨kept, fun _ _ here => here⟩
  | fatalException agent =>
    obtain ⟨impl, found, -, ⟨-, same⟩ | ⟨-, ⟨⟩⟩⟩ := fatalException_inv called
    · exact unchanged found (Except.ok.inj same).symm rfl
    · exact ⟨kept, fun _ _ here => here⟩
  | leaveMessageLoop agent =>
    obtain ⟨impl, found, ⟨-, same⟩ | ⟨-, same⟩⟩ := leaveMessageLoop_inv called
    · exact unchanged found (Except.ok.inj same).symm rfl
    · exact unchanged found (Except.ok.inj same).symm rfl
  | removeTarget agent =>
    obtain ⟨impl, server, before, found, -, there, -, result⟩ := withServer_inv called
    obtain ⟨changed, mapped, same⟩ := Outcome.bind_ok_inv result.symm
    cases same
    obtain ⟨removed, holds⟩ := removeTarget_kept kept found there
      { impl with phase := .testingTargets } (mapError_ok_inv mapped) rfl
    refine ⟨removed, fun other different here => holds other ?_ here⟩
    rintro rfl
    exact different rfl
  | hasTargets agent =>
    obtain ⟨impl, server, before, found, -, -, -, result⟩ := withServer_inv called
    obtain ⟨has, -, same⟩ := Outcome.bind_ok_inv result.symm
    exact unchanged found (Except.ok.inj same) rfl
  | stopServer agent => exact absurd rfl (other agent)
  | removeServer agent =>
    obtain ⟨impl, found, -, ⟨⟩⟩ := removeServer_inv called
    refine ⟨Kept.put ?_ found rfl, fun _ _ here => here⟩
    exact kept.of_same rfl fun _ => rfl
  | dispatchMessage agent =>
    obtain ⟨impl, sessionId, message, rest, found, -, -, result⟩ := dispatchMessage_inv called
    cases processed : ({ impl with incomingMessageQueue := rest } : AgentImpl).processMessage
        sessionId message with
    | error loss =>
      rw [processed] at result
      cases result
    | ok after =>
      rw [processed] at result
      refine unchanged found (Except.ok.inj result).symm ?_
      obtain ⟨_, ⟨⟩⟩ | ⟨-, ⟨⟩⟩ | ⟨-, -, ⟨⟩⟩ | ⟨⟨⟩⟩ := processMessage_inv processed
      · rfl
      · rfl
      · rfl
  | accept server =>
    obtain ⟨served, holds⟩ := serve_kept (fun before changed inOrder accepted => by
      cases accepted
      exact accept_serves inOrder) kept called
    exact ⟨served, fun other _ here => holds other here⟩
  | sessionStarted server sessionId targetId =>
    obtain ⟨served, holds⟩ := serve_kept (fun _ _ => sessionStarted_serves) kept called
    exact ⟨served, fun other _ here => holds other here⟩
  | sessionTerminated server sessionId =>
    obtain ⟨served, holds⟩ := serve_kept (fun _ _ => sessionTerminated_serves) kept called
    exact ⟨served, fun other _ here => holds other here⟩

end

end V8Jsi.AgentLifetime
