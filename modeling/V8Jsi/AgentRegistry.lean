import V8Jsi.AgentDispatch

set_option autoImplicit false

/- The agents of a process, the servers they share and the `ServerCollection` that
names the server of each port. `Start` and `Stop` of an agent run on its own
thread, one step per action; the server threads start and end sessions at any
time. -/
namespace V8Jsi.AgentRegistry

open AgentDispatch (State)
open Runs SocketServer

/-- Where the thread of an agent stands. The `Stop` of a connected agent waits in
`runMessageLoopOnPause`, and so does `FatalException`. -/
inductive Phase
  | idle
  | fatalException
  | addingTarget
  | disconnecting
  | removingTarget
  | testingTargets
  | stoppingServer
  | removingServer
  deriving DecidableEq, Repr

/-- `server_` is the position of a server among all that were made. -/
structure AgentImpl where
  port : Nat
  targetId : List UInt8
  state : State := .kNew
  shuttingDown : Bool := false
  server : Option Nat := none
  sessionId : Nat := 0
  incomingMessageQueue : List (Nat × List UInt8) := []
  phase : Phase := .idle
  deriving DecidableEq, Repr

/-- `servers` are all servers that were made, and `serverOf` is `servers_`. -/
structure Registry where
  agents : List AgentImpl := []
  servers : List InspectorSocketServer := []
  serverOf : Nat → Option Nat := fun _ => none

/-- A call on a server ends the process on the thread of an agent, or on the thread
of the server. -/
inductive Loss
  | checkFailed (expected : State)
  | server (fault : SocketServer.Fault)
  | session (fault : SocketServer.Fault)
  deriving DecidableEq, Repr

/-- `expired` says that the weak pointer of the port has lost its server. -/
inductive Action
  | create (port : Nat) (targetId : List UInt8)
  | start (agent : Nat) (expired : Bool)
  | addTarget (agent : Nat)
  | stop (agent : Nat)
  | fatalException (agent : Nat)
  | leaveMessageLoop (agent : Nat)
  | removeTarget (agent : Nat)
  | hasTargets (agent : Nat)
  | stopServer (agent : Nat)
  | removeServer (agent : Nat)
  | dispatchMessage (agent : Nat)
  | accept (server : Nat)
  | sessionStarted (server sessionId : Nat) (targetId : List UInt8)
  | sessionTerminated (server sessionId : Nat)
  deriving DecidableEq, Repr

namespace AgentImpl

def isStarted (agent : AgentImpl) : Bool :=
  agent.state == .kAccepting || agent.state == .kConnected

/-- The thread handles messages between calls and in a message loop. -/
def dispatches (agent : AgentImpl) : Bool :=
  match agent.phase with
  | .idle | .fatalException | .disconnecting => true
  | .addingTarget | .removingTarget | .testingTargets | .stoppingServer | .removingServer => false

/-- The body of the loop of `DispatchMessages`. Other messages are handed to the
inspector. -/
def processMessage (agent : AgentImpl) (sessionId : Nat) (message : List UInt8) :
    Except Loss AgentImpl :=
  if message = tagConnect then
    if agent.state = .kAccepting then .ok { agent with sessionId, state := .kConnected }
    else .error (.checkFailed .kAccepting)
  else if message = tagDisconnect then
    if agent.state = .kConnected then
      .ok { agent with state := if agent.shuttingDown then .kDone else .kAccepting }
    else .error (.checkFailed .kConnected)
  else .ok agent

end AgentImpl

/-- The messages a call of the server has posted. -/
def newPosts (before after : InspectorSocketServer) : List Post :=
  (after.delegate.elim [] (·.posts)).drop (before.delegate.elim [] (·.posts)).length

namespace Registry

def put (registry : Registry) (agent : Nat) (after : AgentImpl) : Registry :=
  { registry with agents := registry.agents.set agent after }

def putServer (registry : Registry) (server : Nat) (after : InspectorSocketServer) : Registry :=
  { registry with servers := registry.servers.set server after }

/-- `PostIncomingMessage` of the agent of a target. -/
def post (registry : Registry) (post : Post) : Registry :=
  { registry with agents := registry.agents.modify post.agent fun agent =>
      { agent with
        incomingMessageQueue := agent.incomingMessageQueue ++ [(post.sessionId, post.message)] } }

/-- A call of the server thread, and the messages it posts. -/
def serve (registry : Registry) (server : Nat)
    (call : InspectorSocketServer → Except SocketServer.Fault InspectorSocketServer) :
    Option (Except Loss Registry) :=
  registry.servers[server]?.map fun before => do
    let after ← (call before).mapError .session
    return (newPosts before after).foldl post (registry.putServer server after)

def newServer (registry : Registry) (port : Nat) : Registry × Nat :=
  ({ registry with
    servers := registry.servers ++ [{ state := .kRunning }]
    serverOf := Function.update registry.serverOf port (some registry.servers.length) },
    registry.servers.length)

/-- `getServer`: the server of the port if it is still there, else a new one. -/
def getServer (registry : Registry) (port : Nat) (expired : Bool) : Registry × Nat :=
  match registry.serverOf port with
  | some server => if expired then registry.newServer port else (registry, server)
  | none => registry.newServer port

/-- No agent keeps the server of the port alive. -/
def mayExpire (registry : Registry) (port : Nat) : Bool :=
  (registry.serverOf port).all fun server =>
    registry.agents.all fun agent => agent.server != some server

/-- A step of a call of an agent that goes on with the server of the agent. -/
def withServer (registry : Registry) (agent : Nat) (phase : Phase)
    (step : AgentImpl → Nat → InspectorSocketServer → Except Loss Registry) :
    Option (Except Loss Registry) :=
  registry.agents[agent]?.bind fun impl => impl.server.bind fun server =>
    registry.servers[server]?.bind fun held =>
      if impl.phase = phase then some (step impl server held) else none

def start (registry : Registry) (agent : Nat) (impl : AgentImpl) (expired : Bool) : Registry :=
  let (found, server) := registry.getServer impl.port expired
  found.put agent { impl with server := some server, phase := .addingTarget }

/-- A connected agent asks the server to close its session, and waits. -/
def stop (registry : Registry) (agent : Nat) (impl : AgentImpl) : Registry :=
  if impl.state = .kConnected then
    registry.put agent { impl with shuttingDown := true, phase := .disconnecting }
  else registry.put agent { impl with state := .kDone, phase := .removingTarget }

end Registry

/-- Target ids come from `GenerateID` and are taken to be distinct. -/
def call (registry : Registry) : Action → Option (Except Loss Registry)
  | .create port targetId =>
      if registry.agents.all (·.targetId != targetId) then
        some (.ok { registry with agents := registry.agents ++ [{ port, targetId }] })
      else none
  | .start agent expired =>
      registry.agents[agent]?.bind fun impl =>
        if impl.phase ≠ .idle ∨ expired && !registry.mayExpire impl.port then none
        else if impl.isStarted then some (.ok registry)
        else some (.ok (registry.start agent impl expired))
  | .addTarget agent =>
      registry.withServer agent .addingTarget fun impl server held => do
        let after ← (held.addTarget impl.targetId agent).mapError .server
        return (registry.putServer server after).put agent
          { impl with state := .kAccepting, phase := .idle }
  | .stop agent =>
      registry.agents[agent]?.bind fun impl =>
        if impl.phase ≠ .idle then none
        else if impl.isStarted then some (.ok (registry.stop agent impl))
        else some (.ok registry)
  | .fatalException agent =>
      registry.agents[agent]?.bind fun impl =>
        if impl.phase ≠ .idle then none
        else if impl.state = .kConnected then
          some (.ok (registry.put agent { impl with shuttingDown := true, phase := .fatalException }))
        else some (.ok registry)
  | .leaveMessageLoop agent =>
      registry.agents[agent]?.bind fun impl =>
        match impl.phase with
        | .disconnecting =>
            some (.ok (registry.put agent { impl with state := .kDone, phase := .removingTarget }))
        | .fatalException => some (.ok (registry.put agent { impl with phase := .idle }))
        | .idle | .addingTarget | .removingTarget | .testingTargets | .stoppingServer
        | .removingServer => none
  | .removeTarget agent =>
      registry.withServer agent .removingTarget fun impl server held => do
        let after ← (held.removeTarget impl.targetId).mapError .server
        return (registry.putServer server after).put agent { impl with phase := .testingTargets }
  | .hasTargets agent =>
      registry.withServer agent .testingTargets fun impl _ held => do
        let has ← held.hasTargets.mapError .server
        return registry.put agent { impl with phase := if has then .idle else .stoppingServer }
  | .stopServer agent =>
      registry.withServer agent .stoppingServer fun impl server held => do
        let after ← held.stop.mapError .server
        return (registry.putServer server after).put agent { impl with phase := .removingServer }
  | .removeServer agent =>
      registry.agents[agent]?.bind fun impl =>
        if impl.phase = .removingServer then
          some (.ok ({ registry with
            serverOf := Function.update registry.serverOf impl.port none }.put agent
              { impl with phase := .idle }))
        else none
  | .dispatchMessage agent =>
      registry.agents[agent]?.bind fun impl =>
        match impl.incomingMessageQueue with
        | (sessionId, message) :: rest =>
            if impl.dispatches then
              some (({ impl with incomingMessageQueue := rest }.processMessage sessionId message).map
                (registry.put agent))
            else none
        | [] => none
  | .accept server => registry.serve server fun held => .ok held.accept
  | .sessionStarted server sessionId targetId =>
      registry.serve server (·.sessionStarted sessionId targetId)
  | .sessionTerminated server sessionId => registry.serve server (·.sessionTerminated sessionId)

def serverCollection : Program Registry Action Loss where
  start := {}
  call := call

/-! ## Registration -/

/-- The target map of a running server that has its delegate. -/
def liveTargets (server : InspectorSocketServer) : Option (AList fun _ : List UInt8 => Nat) :=
  if server.state = .kRunning then server.delegate.map (·.targetsMap) else none

namespace Registry

def targets (registry : Registry) (server : Nat) : Option (AList fun _ : List UInt8 => Nat) :=
  registry.servers[server]?.bind liveTargets

def Registered (registry : Registry) (agent : Nat) (targetId : List UInt8) : Prop :=
  ∃ server map, registry.targets server = some map ∧ map.lookup targetId = some agent

/-- No agent stands at this phase with this server. -/
def noneAt (registry : Registry) (server : Nat) (phase : Phase) : Bool :=
  registry.agents.all fun agent => agent.server != some server || agent.phase != phase

end Registry

/-- No `Start` and no `Stop` is in progress. -/
def AgentImpl.Settled (agent : AgentImpl) : Prop :=
  agent.phase = .idle ∨ agent.phase = .fatalException

/-- A settled agent is registered exactly when it is started, and no call of an
agent meets a server whose delegate is gone. -/
def Coherent : Except Loss Registry → Prop
  | .error loss => loss ≠ .server (.nullDelegate false)
  | .ok registry => ∀ agent impl, registry.agents[agent]? = some impl → impl.Settled →
      (registry.Registered agent impl.targetId ↔ impl.isStarted = true)

/-- The server that is handed out is not being stopped; a server that is found
without targets is not wanted by a `Start`; a server is stopped when no other
`Stop` still has to test it; and outside `Stop` a disconnect is handled while
`shutting_down_` is not set. -/
def undisturbed (registry : Registry) : Action → Bool
  | .start agent _ =>
      registry.agents[agent]?.all fun impl => impl.isStarted ||
        (registry.serverOf impl.port).all fun server =>
          registry.noneAt server .stoppingServer && registry.noneAt server .removingServer
  | .hasTargets agent =>
      registry.agents[agent]?.all fun impl => impl.server.all fun server =>
        (registry.targets server).any (!·.entries.isEmpty) || registry.noneAt server .addingTarget
  | .stopServer agent =>
      registry.agents[agent]?.all fun impl => impl.server.all fun server =>
        registry.noneAt server .testingTargets
  | .dispatchMessage agent =>
      registry.agents[agent]?.all fun impl => impl.phase == .disconnecting || !impl.shuttingDown ||
        (impl.incomingMessageQueue.head?.all (·.2 != tagDisconnect))
  | .create _ _ | .addTarget _ | .stop _ | .fatalException _ | .leaveMessageLoop _
  | .removeTarget _ | .removeServer _ | .accept _ | .sessionStarted _ _ _
  | .sessionTerminated _ _ => true

end V8Jsi.AgentRegistry
