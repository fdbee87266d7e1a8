import V8Jsi.HttpHandler
import V8Jsi.Utf16
import V8Jsi.WsHandler

set_option autoImplicit false

/- The connections of a running `InspectorSocketServer`: the read loop of
inspector_tcp.cpp, the protocol handler it calls back, and the session that the
end of the connection takes out of the server. Connection `i` serves session `i`.
Only `io_context::run` calls handlers, one at a time. -/
namespace V8Jsi.Connection

open InspectorSocket InspectorUtils Runs SocketServer

/-- How an `async_read_some` completes. -/
inductive ReadResult
  | data (bytes : List UInt8)
  | eof
  | operationAborted
  | failed
  deriving DecidableEq, Repr

inductive ReadLoop
  | outstanding
  | handling (result : ReadResult)
  | ended
  deriving DecidableEq, Repr

/-- The parser of an `HttpHandler` has seen the reads in `received`. -/
inductive ProtocolHandler
  | http (handler : HttpHandler) (received : List (List UInt8))
  | ws (handler : WsHandler)

structure TcpConnection where
  handler : ProtocolHandler := .http {} []
  readLoop : ReadLoop := .outstanding
  isOpen : Bool := true

/-- `running` says that `io_context::run` has not been left. -/
structure Network where
  server : InspectorSocketServer := { state := .kRunning }
  connections : List TcpConnection := []
  running : Bool := true

/-- What ends the process. A callback of a deleted holder or handler has no defined
behaviour, as little as the memory faults of the decoder. -/
inductive Loss
  | aborted
  | deletedHolder
  | deletedHandler
  | memory (fault : WsFrame.MemoryFault)
  | server (fault : SocketServer.Fault)
  deriving DecidableEq, Repr

/-- `PostIncomingMessage` returns from the texts that can be converted. -/
def converts (multiByteToWideChar : List UInt8 → Option (List UInt16)) (text : List UInt8) :
    Bool := (utf8ToUtf16 multiByteToWideChar text).isOk

namespace Network

def busy (network : Network) : Bool :=
  network.connections.any fun connection => match connection.readLoop with
    | .handling _ => true
    | .outstanding | .ended => false

def put (network : Network) (session : Nat) (connection : TcpConnection) : Network :=
  { network with connections := network.connections.set session connection }

def serve (network : Network) (server : Except SocketServer.Fault InspectorSocketServer) :
    Except Loss Network := do
  let server ← server.mapError .server
  return { network with server }

/-- `OnEof` resets `tcp_`: the holder closes the socket, and its delegate ends the
session. -/
def onEof (network : Network) (session : Nat) : Except Loss Network :=
  network.serve (network.server.sessionTerminated session)

/-- The loop of `HttpHandler::OnData` over the events of one read. The result says
that the connection was upgraded; the handler of the loop is deleted then. -/
def handleEvents (session : Nat) :
    List HttpEvent → Network → Except Loss (Network × Bool)
  | [], network => .ok (network, false)
  | event :: rest, network =>
      if !isAllowedHost event.host || !event.isGET then .ok (network, false)
      else if !event.upgrade then do
        let network ← network.serve (network.server.handleGetRequest session event.path)
        handleEvents session rest network
      else if event.wsKey.isEmpty then .ok (network, false)
      else do
        let id := event.path.drop 1
        let after ← network.serve (network.server.sessionStarted session id)
        if !network.server.targetExists id then handleEvents session rest after
        else if rest.isEmpty then return (after, true)
        else throw .deletedHandler

def handleWsEvent (session : Nat) (network : Network) : Event → Except Loss Network
  | .onWsFrame payload => network.serve (network.server.messageReceived session payload)
  | .writeRaw _ => .ok network
  | .onEof => network.onEof session

section

variable (multiByteToWideChar : List UInt8 → Option (List UInt16))
variable (llhttp : List (List UInt8) → List UInt8 → List ParserCallback)

/-- `OnDataReceivedCb` with data, and the next `read_loop_async`. An exception of
the delegate leaves the handler before that, and then `io_context::run`. -/
def onData (network : Network) (session : Nat) (connection : TcpConnection)
    (bytes : List UInt8) : Except Loss Network :=
  match connection.handler with
  | .http handler received => do
      let (handler, events) := handler.execute (llhttp received bytes)
      let (network, upgraded) ← handleEvents session events network
      return network.put session { connection with
        handler := if upgraded then .ws {} else .http handler (received ++ [bytes])
        readLoop := .outstanding }
  | .ws handler => do
      let (result, after) := InspectorSocket.onData (converts multiByteToWideChar)
        { handler with events := [] } bytes
      let network ← after.events.foldlM (handleWsEvent session) network
      match result with
      | .ok () => return network.put session { connection with
          handler := .ws after
          readLoop := .outstanding
          isOpen := after.tcp }
      | .error .thrown => return { network.put session { connection with
          handler := .ws after
          readLoop := .ended } with running := false }
      | .error (.fault fault) => throw (.memory fault)

/-- The completion handler of `read_loop_async`. -/
def handle (network : Network) (session : Nat) (connection : TcpConnection) :
    ReadResult → Except Loss Network
  | .data bytes =>
      if network.server.session session then
        network.onData multiByteToWideChar llhttp session connection bytes
      else .error .deletedHolder
  | .eof =>
      if network.server.session session then do
        let network ← network.onEof session
        return network.put session { connection with readLoop := .ended, isOpen := false }
      else .error .deletedHolder
  | .operationAborted => .error .aborted
  | .failed => .ok (network.put session { connection with readLoop := .ended })

end

/-- An empty message comes up in `do_write`: the socket is closed under the read
that is outstanding, and the read callback is told of the end. -/
def writeEmpty (network : Network) (session : Nat) (connection : TcpConnection) :
    Except Loss Network := do
  let network ← network.onEof session
  return network.put session { connection with isOpen := false }

end Network

inductive Action
  | addTarget (targetId : List UInt8) (agent : Nat)
  | removeTarget (targetId : List UInt8)
  | accept
  | complete (session : Nat) (result : ReadResult)
  | handle (session : Nat)
  | writeEmpty (session : Nat)
  deriving DecidableEq, Repr

/-- A read on an open socket brings data, its end or an error. On a closed socket
it fails or is aborted. -/
def ReadResult.possible (isOpen : Bool) : ReadResult → Bool
  | .data bytes => isOpen && 0 < bytes.length && bytes.length ≤ 8192
  | .eof => isOpen
  | .operationAborted => !isOpen
  | .failed => true

/-- Target ids come from `GenerateID` and are not empty. An empty message is sent
to a session that the server has. -/
def call (multiByteToWideChar : List UInt8 → Option (List UInt16))
    (llhttp : List (List UInt8) → List UInt8 → List ParserCallback) (network : Network) :
    Action → Option (Except Loss Network)
  | .addTarget targetId agent =>
      if targetId ≠ [] then some (network.serve (network.server.addTarget targetId agent))
      else none
  | .removeTarget targetId => some (network.serve (network.server.removeTarget targetId))
  | .accept =>
      if network.running && !network.busy then
        some (.ok { network with
          server := network.server.accept
          connections := network.connections ++ [{}] })
      else none
  | .complete session result =>
      network.connections[session]?.bind fun connection =>
        if network.running && !network.busy && connection.readLoop == .outstanding &&
            result.possible connection.isOpen then
          some (.ok (network.put session { connection with readLoop := .handling result }))
        else none
  | .handle session =>
      network.connections[session]?.bind fun connection =>
        match connection.readLoop with
        | .handling result =>
            some (network.handle multiByteToWideChar llhttp session connection result)
        | .outstanding | .ended => none
  | .writeEmpty session =>
      network.connections[session]?.bind fun connection =>
        if network.server.session session then some (network.writeEmpty session connection)
        else none

def inspectorNetwork (multiByteToWideChar : List UInt8 → Option (List UInt16))
    (llhttp : List (List UInt8) → List UInt8 → List ParserCallback) :
    Program Network Action Loss where
  start := {}
  call := call multiByteToWideChar llhttp

end V8Jsi.Connection
