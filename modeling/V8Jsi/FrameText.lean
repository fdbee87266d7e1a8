import V8Jsi.Lib.Unicode
import V8Jsi.ReadLoop

set_option autoImplicit false

/- What the text of one frame does to the event loop that all connections share:
the conversion in `PostIncomingMessage` throws, and nothing between it and
`tcp_server::run` catches. -/
namespace V8Jsi.Connection

open InspectorSocket InspectorUtils Outcome SocketServer Unicode WsFrame

/-- With `MB_ERR_INVALID_CHARS` the conversion fails exactly on bytes that are no
text, and it returns 0 only when it fails. -/
structure RefusesIllFormed (multiByteToWideChar : List UInt8 → Option (List UInt16)) : Prop where
  refuses : ∀ utf8, utf8 ≠ [] → (multiByteToWideChar utf8 = none ↔ ¬ WellFormed utf8)
  units : ∀ utf8, utf8 ≠ [] → multiByteToWideChar utf8 ≠ some []

theorem refusesIllFormed_transcode : RefusesIllFormed transcode where
  refuses utf8 _ := by
    rw [Option.eq_none_iff_forall_ne_some]
    constructor
    · rintro none ⟨text, rfl⟩
      exact none _ (transcode_utf8Encode text)
    · intro broken units result
      exact broken (wellFormed_of_transcode result)
  units utf8 present result := by
    obtain ⟨text, rfl⟩ := wellFormed_of_transcode result
    rw [transcode_utf8Encode, Option.some_inj] at result
    have some : text ≠ [] := by
      rintro rfl
      exact present rfl
    exact utf16Encode_ne_nil some result

/-- The session was started for a target, which the delegate has entered. -/
def Attached (server : InspectorSocketServer) (session : Nat) : Prop :=
  server.session session = true ∧ ∃ delegate agent, server.delegate = some delegate ∧
    delegate.sessionTargetsMap.lookup session = some agent

/-- The handler of the read returns and reads on, and the event loop goes on with
the other connections as they were. -/
def KeepsServing (network : Network) (session : Nat) (outcome : Except Loss Network) : Prop :=
  ∃ after, outcome = .ok after ∧ after.running = true ∧
    (∃ connection, after.connections[session]? = some connection ∧
      connection.readLoop = .outstanding) ∧
    ∀ other, other ≠ session → after.connections[other]? = network.connections[other]?

section

variable {multiByteToWideChar : List UInt8 → Option (List UInt16)}

theorem converts_iff (strict : RefusesIllFormed multiByteToWideChar) (text : List UInt8) :
    converts multiByteToWideChar text = true ↔ text.length ≤ intMax ∧ WellFormed text := by
  unfold converts utf8ToUtf16
  by_cases empty : text.length = 0
  · rw [if_pos empty]
    refine iff_of_true rfl ⟨by omega, [], ?_⟩
    rw [List.length_eq_zero_iff.mp empty]
    rfl
  · have present : text ≠ [] := fun none => empty (List.length_eq_zero_iff.mpr none)
    rw [if_neg empty]
    by_cases long : text.length > intMax
    · rw [if_pos long]
      refine iff_of_false nofun ?_
      rintro ⟨short, -⟩
      omega
    · rw [if_neg long]
      have refuses := strict.refuses text present
      have units := strict.units text present
      cases result : multiByteToWideChar text with
      | none => exact iff_of_false nofun fun fits => refuses.mp result fits.2
      | some utf16 =>
        cases utf16 with
        | nil => exact absurd result units
        | cons unit rest =>
          refine iff_of_true rfl ⟨by omega, ?_⟩
          by_contra broken
          rw [refuses.mpr broken] at result
          cases result

theorem messageReceived_attached {server : InspectorSocketServer} {session : Nat}
    (attached : Attached server session) (message : List UInt8) :
    ∃ after, server.messageReceived session message = .ok after := by
  obtain ⟨-, delegate, agent, present, entered⟩ := attached
  refine ⟨{ server with delegate := some (delegate.postIncomingMessage agent session message) }, ?_⟩
  simp only [InspectorSocketServer.messageReceived, InspectorSocketServer.useDelegate, present,
    InspectorAgentDelegate.messageReceived, InspectorAgentDelegate.postToTarget, entered, ok_bind,
    pure_ok]

/-- One complete frame is one message; the handler returns from it when the delegate
does. -/
theorem onData_frame (returns : List UInt8 → Bool) (handler : WsHandler) (frame : ClientFrame) :
    InspectorSocket.onData returns handler frame.encode =
      (if returns frame.payload = true then .ok () else .error .thrown,
        handler.emit (.onWsFrame frame.payload)) := by
  have small : (frame.encode ++ []).length < 2 ^ 64 := by
    have bounded := frame.bounded
    have longest : headerLength frame.payload.length ≤ 10 := by
      unfold headerLength
      split
      · omega
      · split <;> omega
    rw [List.append_nil, frame.encode_length, encodedLength]
    omega
  by_cases returned : returns frame.payload = true
  · have taken := onDataLoop_encode returns frame.encode.length handler frame [] small returned
    rw [List.append_nil] at taken
    rw [InspectorSocket.onData, taken, if_pos rfl, if_pos returned]
  · have threw := onDataLoop_encode_thrown returns frame.encode.length handler frame [] small
      (Bool.eq_false_iff.mpr returned)
    rw [List.append_nil] at threw
    rw [InspectorSocket.onData, threw, if_neg returned]

end

section

variable (multiByteToWideChar : List UInt8 → Option (List UInt16))
variable (llhttp : List (List UInt8) → List UInt8 → List ParserCallback)
variable (network : Network) (session : Nat) (connection : TcpConnection) (handler : WsHandler)
variable (frame : ClientFrame)

/-- A text frame on an attached session: the event loop is left exactly when the
text cannot be converted. -/
theorem handle_frame (upgraded : connection.handler = .ws handler)
    (attached : Attached network.server session) :
    ∃ after that, network.handle multiByteToWideChar llhttp session connection
        (.data frame.encode) = .ok after ∧
      after.running = (network.running && converts multiByteToWideChar frame.payload) ∧
      after.connections = network.connections.set session that ∧
      that.readLoop =
        if converts multiByteToWideChar frame.payload = true then .outstanding else .ended := by
  obtain ⟨server, received⟩ := messageReceived_attached attached frame.payload
  have handed := onData_frame (converts multiByteToWideChar) { handler with events := [] } frame
  have served : ([.onWsFrame frame.payload] : List Event).foldlM
      (Network.handleWsEvent session) network = .ok { network with server } := by
    rw [List.foldlM_cons, Network.handleWsEvent, received, serve_ok, ok_bind]
    rfl
  simp only [Network.handle, attached.1, ↓reduceIte, Network.onData, upgraded, handed, emit_events,
    List.nil_append, served, ok_bind]
  by_cases returned : converts multiByteToWideChar frame.payload = true
  · rw [if_pos returned, if_pos returned, returned]
    exact ⟨_, _, rfl, (Bool.and_true _).symm, rfl, rfl⟩
  · rw [if_neg returned, if_neg returned, Bool.eq_false_iff.mpr returned]
    exact ⟨_, _, rfl, (Bool.and_false _).symm, rfl, rfl⟩

/-- The server outlives a text frame exactly when its text is well-formed UTF-8 of
a length that fits an `int`. -/
theorem keepsServing_iff_wellFormed (strict : RefusesIllFormed multiByteToWideChar)
    (found : network.connections[session]? = some connection) (running : network.running = true)
    (upgraded : connection.handler = .ws handler) (attached : Attached network.server session) :
    KeepsServing network session (network.handle multiByteToWideChar llhttp session connection
        (.data frame.encode)) ↔
      frame.payload.length ≤ intMax ∧ WellFormed frame.payload := by
  obtain ⟨after, that, handled, still, connections, readLoop⟩ :=
    handle_frame multiByteToWideChar llhttp network session connection handler frame upgraded
      attached
  rw [← converts_iff strict]
  constructor
  · rintro ⟨other, same, serves, -⟩
    rw [handled] at same
    cases same
    rw [still, running, Bool.true_and] at serves
    exact serves
  · intro returned
    rw [if_pos returned] at readLoop
    refine ⟨after, handled, by rw [still, running, returned]; rfl, ⟨that, ?_, readLoop⟩, ?_⟩
    · rw [connections, List.getElem?_set_self (List.getElem?_eq_some_iff.mp found).1]
    · intro other different
      rw [connections, List.getElem?_set_ne (Ne.symm different)]

end

/-- A target and a connection that was upgraded for it. -/
def upgradedServer : InspectorSocketServer where
  state := .kRunning
  delegate := some {
    targetsMap := AList.insert [0x61] 0 ∅
    sessionTargetsMap := AList.insert 0 0 ∅
    posts := [⟨0, 0, tagConnect⟩] }
  connectedSessions := AList.insert 0 [0x61] ∅
  nextSessionId := 1

/-- The read of an upgraded connection has brought this frame. -/
def frameNetwork (frame : ClientFrame) : Network where
  server := upgradedServer
  connections := [{ handler := .ws {}, readLoop := .handling (.data frame.encode) }]

theorem keepsServing_letter :
    (inspectorNetwork transcode upgradeParser).run
        [.addTarget [0x61] 0, .accept, .complete 0 (.data upgradeRequest), .handle 0,
          .complete 0 (.data letterFrame.encode)] = some (.ok (frameNetwork letterFrame)) ∧
      KeepsServing (frameNetwork letterFrame) 0 ((frameNetwork letterFrame).handle transcode
        upgradeParser 0 { handler := .ws {}, readLoop := .handling (.data letterFrame.encode) }
        (.data letterFrame.encode)) :=
  ⟨rfl, (keepsServing_iff_wellFormed transcode upgradeParser (frameNetwork letterFrame) 0 _ {}
    letterFrame refusesIllFormed_transcode rfl rfl rfl ⟨rfl, _, _, rfl, rfl⟩).mpr
      ⟨by decide, ['A'], rfl⟩⟩

/-- The single byte FF on an attached session ends the event loop, after which the
server accepts no connection. -/
theorem broken_text_ends_run :
    RefusesIllFormed transcode ∧ Attached (frameNetwork brokenFrame).server 0 ∧
      (inspectorNetwork transcode upgradeParser).run
        [.addTarget [0x61] 0, .accept, .complete 0 (.data upgradeRequest), .handle 0,
          .complete 0 (.data brokenFrame.encode)] = some (.ok (frameNetwork brokenFrame)) ∧
      ¬ KeepsServing (frameNetwork brokenFrame) 0 ((frameNetwork brokenFrame).handle transcode
        upgradeParser 0 { handler := .ws {}, readLoop := .handling (.data brokenFrame.encode) }
        (.data brokenFrame.encode)) ∧
      (inspectorNetwork transcode upgradeParser).run
        [.addTarget [0x61] 0, .accept, .complete 0 (.data upgradeRequest), .handle 0,
          .complete 0 (.data brokenFrame.encode), .handle 0, .accept] = none := by
  refine ⟨refusesIllFormed_transcode, ⟨rfl, _, _, rfl, rfl⟩, rfl, ?_, rfl⟩
  rintro ⟨after, handled, running, -⟩
  cases handled
  cases running

end V8Jsi.Connection
