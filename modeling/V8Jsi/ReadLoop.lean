import V8Jsi.Connection
import V8Jsi.ServerSessions

set_option autoImplicit false

namespace V8Jsi.Connection

open InspectorSocket InspectorUtils Outcome Runs SocketServer WsFrame

/-! ## The frames of one read -/

/-- The texts at the front of the data, up to the first frame that the decoder does
not take for a whole text frame. -/
def textFramesLoop : Nat → List UInt8 → List (List UInt8)
  | 0, _ => []
  | fuel + 1, data =>
      match decodeFrameHybi17 data true with
      | .error _ => []
      | .ok decoded =>
          if decoded.result = .frameOk ∧ decoded.compressed = false then
            decoded.output ::
              if decoded.bytesConsumed ≤ data.length then
                textFramesLoop fuel (data.drop decoded.bytesConsumed)
              else []
          else []

def textFrames (data : List UInt8) : List (List UInt8) := textFramesLoop (data.length + 1) data

/-- What a read makes the handler do: it hands on frames and answers, and at most
as the last thing it takes the end path. -/
inductive Handed (events : List Event) (result : Except Stop Unit) : Prop
  | going (stays : Event.onEof ∉ events)
  | ended (front : List Event) (last : events = front ++ [.onEof]) (stays : Event.onEof ∉ front)
      (returned : result = .ok ())

theorem Handed.cons {event : Event} {events : List Event} {result : Except Stop Unit}
    (handed : Handed events result) (other : event ≠ .onEof) :
    Handed (event :: events) result := by
  cases handed with
  | going stays =>
    apply Handed.going
    rw [List.mem_cons, not_or]
    exact ⟨Ne.symm other, stays⟩
  | ended front last stays returned =>
    refine .ended (event :: front) (by rw [last, List.cons_append]) ?_ returned
    rw [List.mem_cons, not_or]
    exact ⟨Ne.symm other, stays⟩

theorem invoke_handed (handler : WsHandler) (callback : Callback) :
    ∃ events, (handler.invoke callback).events = handler.events ++ events ∧
      Handed events (.ok ()) := by
  cases callback with
  | onEof => exact ⟨[.onEof], rfl, .ended [] rfl (by simp) rfl⟩
  | waitForCloseReply => exact ⟨[], (List.append_nil _).symm, .going (by simp)⟩
  | closeFrameReceived => exact ⟨[.writeRaw closeFrame], rfl, .going (by simp)⟩

section

variable (returns : List UInt8 → Bool)

/-- The loop throws exactly at a text that the delegate refuses. -/
theorem onDataLoop_handed (fuel : Nat) : ∀ handler data,
    ∃ events, (onDataLoop returns fuel handler data).2.events = handler.events ++ events ∧
      Handed events (onDataLoop returns fuel handler data).1 ∧
      ((onDataLoop returns fuel handler data).1 = .error .thrown ↔
        ∃ text ∈ textFramesLoop fuel data, returns text = false) := by
  induction fuel with
  | zero =>
    intro handler data
    exact ⟨[], (List.append_nil _).symm, .going (by simp), by simp [onDataLoop, textFramesLoop]⟩
  | succ fuel ih =>
    intro handler data
    have round := onDataLoop_round returns fuel handler data
    generalize onDataLoop returns (fuel + 1) handler data = outcome at round ⊢
    cases round with
    | faulted fault decode =>
      simp only [textFramesLoop, decode]
      exact ⟨[], (List.append_nil _).symm, .going (by simp), by simp⟩
    | refused decoded decode bad =>
      have other : ¬ (decoded.result = .frameOk ∧ decoded.compressed = false) := by
        rintro ⟨taken, plain⟩
        simp [taken, plain] at bad
      simp only [textFramesLoop, decode, other, ↓reduceIte]
      exact ⟨[.onEof], rfl, .ended [] rfl (by simp) rfl, by simp⟩
    | waits decoded decode plain result =>
      simp only [textFramesLoop, decode, result, reduceCtorEq, false_and, ↓reduceIte]
      exact ⟨[], (List.append_nil _).symm, .going (by simp), by simp⟩
    | closed decoded decode plain result =>
      obtain ⟨events, appended, handed⟩ := invoke_handed handler handler.onCloseReceived
      simp only [textFramesLoop, decode, result, reduceCtorEq, false_and, ↓reduceIte]
      exact ⟨events, appended, handed, by simp⟩
    | thrown decoded decode plain result threw =>
      simp only [textFramesLoop, decode, result, plain, and_self, ↓reduceIte]
      exact ⟨[.onWsFrame decoded.output], rfl, .going (by simp), by simp [threw]⟩
    | overrun decoded decode plain result returned beyond =>
      simp only [textFramesLoop, decode, result, plain, and_self, ↓reduceIte, Nat.not_le.mpr beyond]
      exact ⟨[.onWsFrame decoded.output], rfl, .going (by simp), by simp [returned]⟩
    | next decoded decode plain result returned inside =>
      obtain ⟨events, appended, handed, thrown⟩ :=
        ih (handler.emit (.onWsFrame decoded.output)) (data.drop decoded.bytesConsumed)
      simp only [textFramesLoop, decode, result, plain, and_self, ↓reduceIte, inside]
      refine ⟨.onWsFrame decoded.output :: events, ?_, handed.cons (by simp), ?_⟩
      · rw [appended, emit_events, List.append_assoc, List.singleton_append]
      · rw [thrown]
        simp [returned]

end

/-! ## The connections -/

/-- A session that is there has a read loop that goes on, and an upgraded one is
attached to a target. -/
def Fine (server : InspectorSocketServer) (session : Nat) (connection : TcpConnection) : Prop :=
  ∀ targetId, server.connectedSessions.lookup session = some targetId →
    connection.readLoop ≠ .ended ∧
      ∀ handler, connection.handler = .ws handler → targetId ≠ []

structure Sound (network : Network) : Prop where
  serving : ∃ delegate, Serving network.server delegate
  counted : network.server.nextSessionId = network.connections.length
  fine : ∀ session connection, network.connections[session]? = some connection →
    Fine network.server session connection

/-- No session waits for a read loop that has ended, and the target of a session
whose read loop has ended was told so. A process that is lost has no sessions. -/
def NoStuck : Except Loss Network → Prop
  | .error _ => True
  | .ok network =>
      (∀ session, network.server.session session = true →
        ∃ connection, network.connections[session]? = some connection ∧
          connection.readLoop ≠ .ended) ∧
      ∀ session connection, network.connections[session]? = some connection →
        connection.readLoop = .ended → network.server.session session = false ∧
          ∀ delegate ∈ network.server.delegate, ∀ agent ∈ delegate.sessionTargetsMap.lookup session,
            lastPost delegate session = some ⟨agent, session, tagDisconnect⟩

theorem Sound.noStuck {network : Network} (sound : Sound network) : NoStuck (.ok network) := by
  obtain ⟨delegate, serving⟩ := sound.serving
  constructor
  · intro session here
    have inside : session < network.connections.length := by
      rw [← sound.counted]
      exact serving.started session here
    obtain ⟨targetId, found⟩ := Option.isSome_iff_exists.mp here
    have connection := List.getElem?_eq_getElem inside
    exact ⟨_, connection, (sound.fine session _ connection targetId found).1⟩
  · intro session connection found ended
    have gone : network.server.session session = false := by
      cases lookup : network.server.connectedSessions.lookup session with
      | none => rw [InspectorSocketServer.session, lookup, Option.isSome_none]
      | some targetId => exact absurd ended (sound.fine session connection found targetId lookup).1
    refine ⟨gone, fun other present agent entered => ?_⟩
    obtain rfl : delegate = other := Option.some.inj (serving.present.symm.trans present)
    exact serving.reported session agent entered gone

section

variable {network : Network} {delegate : InspectorAgentDelegate} {session : Nat}
  {targetId : List UInt8} {connection : TcpConnection}

/-- A step that changes the server for one session and the connection of that
session. -/
theorem Sound.put {server : InspectorSocketServer} {after : TcpConnection} (sound : Sound network)
    (serving : Serving server delegate)
    (next : server.nextSessionId = network.server.nextSessionId)
    (others : ∀ other, other ≠ session → server.connectedSessions.lookup other =
      network.server.connectedSessions.lookup other)
    (fine : Fine server session after) (running : Bool) :
    Sound { server, connections := network.connections.set session after, running } where
  serving := ⟨delegate, serving⟩
  counted := by rw [next, sound.counted, List.length_set]
  fine other that found targetId present := by
    by_cases same : other = session
    · subst same
      rw [List.getElem?_set_self'] at found
      obtain ⟨_, _, rfl⟩ := Option.map_eq_some_iff.mp found
      exact fine targetId present
    · rw [List.getElem?_set_ne (Ne.symm same)] at found
      rw [others other same] at present
      exact sound.fine other that found targetId present

theorem serve_ok (network : Network) (server : InspectorSocketServer) :
    network.serve (.ok server) = .ok { network with server } := rfl

theorem onEof_serving (serving : Serving network.server delegate)
    (here : network.server.session session = true) :
    ∃ server delegate', network.onEof session = .ok { network with server } ∧
      Serving server delegate' ∧
      server.connectedSessions = network.server.connectedSessions.erase session ∧
      server.nextSessionId = network.server.nextSessionId := by
  obtain ⟨server, delegate', terminated, serving', erased, next⟩ :=
    sessionTerminated_serving serving here
  refine ⟨server, delegate', ?_, serving', erased, next⟩
  rw [Network.onEof, terminated, serve_ok]

/-- What requests do: only the session they are made for changes, and it stays. -/
structure Requested (network after : Network) (session : Nat) (upgraded : Bool) : Prop where
  serving : ∃ delegate, Serving after.server delegate
  connections : after.connections = network.connections
  next : after.server.nextSessionId = network.server.nextSessionId
  others : ∀ other, other ≠ session → after.server.connectedSessions.lookup other =
    network.server.connectedSessions.lookup other
  here : ∃ targetId, after.server.connectedSessions.lookup session = some targetId ∧
    (upgraded = true → targetId ≠ [])

theorem Requested.refl (serving : Serving network.server delegate)
    (here : network.server.session session = true) : Requested network network session false where
  serving := ⟨delegate, serving⟩
  connections := rfl
  next := rfl
  others _ _ := rfl
  here := by
    obtain ⟨targetId, found⟩ := Option.isSome_iff_exists.mp here
    exact ⟨targetId, found, nofun⟩

theorem handleEvents_requested (events : List HttpEvent) :
    ∀ {network after : Network} {delegate : InspectorAgentDelegate} {upgraded : Bool},
    Serving network.server delegate → network.server.session session = true →
    Network.handleEvents session events network = .ok (after, upgraded) →
    Requested network after session upgraded := by
  induction events with
  | nil =>
    intro network after delegate upgraded serving here handled
    cases handled
    exact .refl serving here
  | cons event rest ih =>
    intro network after delegate upgraded serving here handled
    simp only [Network.handleEvents] at handled
    split at handled
    · cases handled
      exact .refl serving here
    · split at handled
      · rw [handleGetRequest_serving serving here, serve_ok, ok_bind] at handled
        exact ih serving here handled
      · split at handled
        · cases handled
          exact .refl serving here
        · obtain ⟨server, delegate', started, serving', next, connected⟩ :=
            sessionStarted_serving serving here (event.path.drop 1)
          rw [started, serve_ok, ok_bind] at handled
          by_cases exists' : event.path.drop 1 ∈ delegate.getTargetIds
          · rw [ite_cond_eq_true _ _ (eq_true exists')] at connected
            simp only [InspectorSocketServer.targetExists, serving.present, Option.any_some, exists',
              decide_true, Bool.not_true, Bool.false_eq_true, ↓reduceIte] at handled
            split at handled
            · cases handled
              refine ⟨⟨delegate', serving'⟩, rfl, next, fun other different => ?_, ?_⟩
              · rw [connected, AList.lookup_insert_ne different]
              · refine ⟨event.path.drop 1, ?_, fun _ => serving.targets _ exists'⟩
                rw [connected, AList.lookup_insert]
            · cases handled
          · rw [ite_cond_eq_false _ _ (eq_false exists')] at connected
            simp only [InspectorSocketServer.targetExists, serving.present, Option.any_some, exists',
              decide_false, Bool.not_false, ↓reduceIte] at handled
            have here' : server.session session = true := by
              rw [InspectorSocketServer.session, connected]
              exact here
            have later := ih (show Serving (Network.mk server _ _).server delegate' from serving')
              here' handled
            refine ⟨later.serving, later.connections, later.next.trans next, ?_, later.here⟩
            intro other different
            rw [later.others other different, connected]

/-- Frames and answers post messages and leave the sessions alone. -/
theorem handleWsEvents_serving (events : List Event) (named : targetId ≠ []) :
    ∀ {network : Network} {delegate : InspectorAgentDelegate}, Event.onEof ∉ events →
    Serving network.server delegate →
    network.server.connectedSessions.lookup session = some targetId →
    ∃ server delegate', events.foldlM (Network.handleWsEvent session) network =
        .ok { network with server } ∧
      Serving server delegate' ∧ server.connectedSessions = network.server.connectedSessions ∧
      server.nextSessionId = network.server.nextSessionId := by
  induction events with
  | nil =>
    intro network delegate _ serving _
    exact ⟨network.server, delegate, rfl, serving, rfl, rfl⟩
  | cons event rest ih =>
    intro network delegate stays serving found
    rw [List.mem_cons, not_or] at stays
    cases event with
    | onEof => exact absurd rfl stays.1
    | writeRaw buffer =>
      rw [List.foldlM_cons, Network.handleWsEvent, ok_bind]
      exact ih stays.2 serving found
    | onWsFrame payload =>
      obtain ⟨middle, delegate', received, serving', connected, next⟩ :=
        messageReceived_serving serving found named payload
      obtain ⟨server, final, handled, serving'', connected', next'⟩ :=
        ih stays.2 (show Serving (Network.mk middle network.connections network.running).server _
          from serving') (by rw [connected]; exact found)
      refine ⟨server, final, ?_, serving'', connected'.trans connected, next'.trans next⟩
      rw [List.foldlM_cons, Network.handleWsEvent, received, serve_ok, ok_bind]
      exact handled

theorem fine_of_gone {server : InspectorSocketServer}
    (gone : server.connectedSessions.lookup session = none) : Fine server session connection := by
  intro targetId found
  rw [gone] at found
  cases found

/-- The end of a session, with whatever becomes of its connection. -/
theorem Sound.terminate {server : InspectorSocketServer} (sound : Sound network)
    (serving : Serving server delegate)
    (erased : server.connectedSessions = network.server.connectedSessions.erase session)
    (next : server.nextSessionId = network.server.nextSessionId) (after : TcpConnection)
    (running : Bool) :
    Sound { server, connections := network.connections.set session after, running } := by
  apply sound.put serving next
  · intro other different
    rw [erased, AList.lookup_erase_ne different]
  · apply fine_of_gone
    rw [erased, AList.lookup_erase]

end

/-! ## Whole runs -/

section

variable (multiByteToWideChar : List UInt8 → Option (List UInt16))
variable (llhttp : List (List UInt8) → List UInt8 → List ParserCallback)

def benignRead (handler : ProtocolHandler) : ReadResult → Bool
  | .failed => false
  | .data bytes => match handler with
      | .ws _ => (textFrames bytes).all (converts multiByteToWideChar)
      | .http _ _ => true
  | .eof | .operationAborted => true

/-- While its session is there, a read does not fail otherwise than by the end of
the stream, and the texts it brings can be converted. -/
def benign (network : Network) : Action → Bool
  | .handle session => network.connections[session]?.all fun connection =>
      !network.server.session session || match connection.readLoop with
        | .handling result => benignRead multiByteToWideChar connection.handler result
        | .outstanding | .ended => true
  | .addTarget _ _ | .removeTarget _ | .accept | .complete _ _ | .writeEmpty _ => true

variable {multiByteToWideChar llhttp} {network next : Network} {session : Nat}
  {connection : TcpConnection} {bytes : List UInt8}

theorem onData_http (sound : Sound network) (here : network.server.session session = true)
    {handler : HttpHandler} {received : List (List UInt8)}
    (http : connection.handler = .http handler received)
    (handled : network.onData multiByteToWideChar llhttp session connection bytes = .ok next) :
    Sound next := by
  obtain ⟨delegate, serving⟩ := sound.serving
  simp only [Network.onData, http] at handled
  obtain ⟨⟨after, upgraded⟩, requests, handled⟩ := bind_ok_inv handled
  have requested := handleEvents_requested _ serving here requests
  obtain ⟨delegate', serving'⟩ := requested.serving
  obtain ⟨targetId, found, named⟩ := requested.here
  cases handled
  rw [Network.put, requested.connections]
  apply sound.put serving' requested.next requested.others
  intro other present
  obtain rfl : targetId = other := Option.some.inj (found.symm.trans present)
  refine ⟨nofun, fun ws upgrade => named ?_⟩
  cases upgraded with
  | false => cases upgrade
  | true => rfl

theorem onData_ws (sound : Sound network)
    (attached : network.connections[session]? = some connection)
    (here : network.server.session session = true) {handler : WsHandler}
    (ws : connection.handler = .ws handler)
    (texts : (textFrames bytes).all (converts multiByteToWideChar) = true)
    (handled : network.onData multiByteToWideChar llhttp session connection bytes = .ok next) :
    Sound next := by
  obtain ⟨delegate, serving⟩ := sound.serving
  obtain ⟨targetId, found⟩ := Option.isSome_iff_exists.mp here
  have named := (sound.fine session connection attached targetId found).2 handler ws
  obtain ⟨events, appended, handed, thrown⟩ := onDataLoop_handed
    (converts multiByteToWideChar) (bytes.length + 1) { handler with events := [] } bytes
  simp only [Network.onData, ws, InspectorSocket.onData] at handled
  rw [appended, List.nil_append] at handled
  cases handed with
  | going stays =>
    obtain ⟨server, delegate', posted, serving', connected, counted⟩ :=
      handleWsEvents_serving events named stays serving found
    rw [posted, ok_bind] at handled
    split at handled
    · cases handled
      apply sound.put serving' counted
      · intro other _
        rw [connected]
      · intro other present
        rw [connected, found] at present
        obtain rfl := Option.some.inj present
        refine ⟨?_, fun _ _ => named⟩
        intro ended
        cases ended
    · rename_i threw
      obtain ⟨text, inside, refused⟩ := thrown.mp threw
      have converted := List.all_eq_true.mp texts text inside
      rw [refused] at converted
      cases converted
    · cases handled
  | ended front last stays returned =>
    obtain ⟨middle, _, posted, serving', connected, counted⟩ :=
      handleWsEvents_serving front named stays serving found
    have here' : middle.session session = true := by
      rw [InspectorSocketServer.session, connected]
      exact here
    obtain ⟨server, _, closes, serving'', erased, counted'⟩ := onEof_serving
      (show Serving (Network.mk middle network.connections network.running).server _ from serving')
      here'
    rw [last, List.foldlM_append, posted, ok_bind, List.foldlM_cons, Network.handleWsEvent, closes,
      returned] at handled
    cases handled
    exact sound.terminate serving'' (by rw [erased, connected]) (counted'.trans counted) _ _

theorem handle_sound {result : ReadResult} (sound : Sound network)
    (attached : network.connections[session]? = some connection)
    (kept : network.server.session session = true →
      benignRead multiByteToWideChar connection.handler result = true)
    (handled : network.handle multiByteToWideChar llhttp session connection result = .ok next) :
    Sound next := by
  obtain ⟨delegate, serving⟩ := sound.serving
  cases result with
  | data bytes =>
    simp only [Network.handle] at handled
    split at handled
    · rename_i here
      have texts := kept here
      cases protocol : connection.handler with
      | http handler received => exact onData_http sound here protocol handled
      | ws handler =>
        rw [protocol] at texts
        exact onData_ws sound attached here protocol texts handled
    · cases handled
  | eof =>
    simp only [Network.handle] at handled
    split at handled
    · rename_i here
      obtain ⟨server, _, closes, serving', erased, counted⟩ := onEof_serving serving here
      rw [closes, ok_bind] at handled
      cases handled
      exact sound.terminate serving' erased counted _ _
    · cases handled
  | operationAborted => cases handled
  | failed =>
    have gone : network.server.connectedSessions.lookup session = none := by
      cases found : network.server.connectedSessions.lookup session with
      | none => rfl
      | some targetId => cases kept (session_true found)
    cases handled
    exact sound.put serving rfl (fun _ _ => rfl) (fine_of_gone gone) _

/-- A failed read, or a text that cannot be converted, leaves the session behind. -/
theorem handle_refused {result : ReadResult} (sound : Sound network)
    (attached : network.connections[session]? = some connection)
    (here : network.server.session session = true)
    (refused : benignRead multiByteToWideChar connection.handler result = false) :
    ¬ NoStuck (network.handle multiByteToWideChar llhttp session connection result) := by
  obtain ⟨delegate, serving⟩ := sound.serving
  obtain ⟨targetId, found⟩ := Option.isSome_iff_exists.mp here
  have inside : session < network.connections.length := (List.getElem?_eq_some_iff.mp attached).1
  -- The read loop of a session that is still there has ended.
  have stuck : ∀ {server : InspectorSocketServer} {after : TcpConnection} {running : Bool},
      server.session session = true → after.readLoop = .ended →
      ¬ NoStuck (.ok { server, connections := network.connections.set session after, running }) := by
    intro server after running present ended noStuck
    obtain ⟨that, found, goes⟩ := noStuck.1 session present
    rw [List.getElem?_set_self inside] at found
    obtain rfl := Option.some.inj found
    exact goes ended
  cases result with
  | failed => exact stuck here rfl
  | eof => cases refused
  | operationAborted => cases refused
  | data bytes =>
    cases protocol : connection.handler with
    | http handler received =>
      rw [protocol] at refused
      cases refused
    | ws handler =>
      rw [protocol, benignRead, List.all_eq_false] at refused
      obtain ⟨text, member, unconverted⟩ := refused
      have named := (sound.fine session connection attached targetId found).2 handler protocol
      obtain ⟨events, appended, handed, thrown⟩ := onDataLoop_handed
        (converts multiByteToWideChar) (bytes.length + 1) { handler with events := [] } bytes
      have threw := thrown.mpr ⟨text, member, Bool.eq_false_iff.mpr unconverted⟩
      have stays : Event.onEof ∉ events := by
        cases handed with
        | going stays => exact stays
        | ended front last stays returned =>
          rw [threw] at returned
          cases returned
      obtain ⟨server, _, posted, _, connected, _⟩ :=
        handleWsEvents_serving events named stays serving found
      simp only [Network.handle, here, ↓reduceIte, Network.onData, protocol,
        InspectorSocket.onData]
      rw [appended, List.nil_append, posted, ok_bind, threw]
      have present : server.session session = true := by
        rw [InspectorSocketServer.session, connected]
        exact here
      exact stuck present rfl

theorem serve_sound {server : InspectorSocketServer} {delegate : InspectorAgentDelegate}
    (sound : Sound network) (serving : Serving server delegate)
    (connected : server.connectedSessions = network.server.connectedSessions)
    (counted : server.nextSessionId = network.server.nextSessionId) :
    Sound { network with server } where
  serving := ⟨delegate, serving⟩
  counted := counted.trans sound.counted
  fine session connection attached targetId found := by
    rw [connected] at found
    exact sound.fine session connection attached targetId found

theorem accept_sound (sound : Sound network) :
    Sound { network with
      server := network.server.accept
      connections := network.connections ++ [{}] } := by
  obtain ⟨delegate, serving⟩ := sound.serving
  refine ⟨⟨delegate, accept_serving serving⟩, ?_, ?_⟩
  · rw [List.length_append, ← sound.counted]
    rfl
  · intro session connection attached targetId found
    by_cases fresh : session = network.server.nextSessionId
    · rw [fresh, sound.counted, List.getElem?_concat_length] at attached
      obtain rfl := Option.some.inj attached
      exact ⟨nofun, nofun⟩
    · have before : network.server.connectedSessions.lookup session = some targetId :=
        (AList.lookup_insert_ne fresh).symm.trans found
      have inside : session < network.connections.length := by
        rw [← sound.counted]
        exact serving.started session (session_true before)
      rw [List.getElem?_append_left inside] at attached
      exact sound.fine session connection attached targetId before

theorem call_sound {action : Action} {outcome : Except Loss Network} (sound : Sound network)
    (kept : benign multiByteToWideChar network action = true)
    (called : call multiByteToWideChar llhttp network action = some outcome) :
    ∀ next, outcome = .ok next → Sound next := by
  obtain ⟨delegate, serving⟩ := sound.serving
  cases action with
  | addTarget targetId agent =>
    simp only [call, Option.ite_none_right_eq_some] at called
    obtain ⟨named, same⟩ := called
    obtain ⟨server, _, added, serving', connected, counted⟩ := addTarget_serving serving named
    rw [added, serve_ok] at same
    cases same
    rintro next ⟨⟩
    exact serve_sound sound serving' connected counted
  | removeTarget targetId =>
    obtain ⟨server, _, removed, serving', connected, counted⟩ := removeTarget_serving serving
    rw [call, removed, serve_ok] at called
    cases called
    rintro next ⟨⟩
    exact serve_sound sound serving' connected counted
  | accept =>
    simp only [call, Option.ite_none_right_eq_some] at called
    cases called.2
    rintro next ⟨⟩
    exact accept_sound sound
  | complete session result =>
    simp only [call, Option.bind_eq_some_iff, Option.ite_none_right_eq_some] at called
    obtain ⟨connection, attached, -, same⟩ := called
    cases same
    rintro next ⟨⟩
    apply sound.put serving rfl (fun _ _ => rfl)
    intro targetId found
    refine ⟨?_, (sound.fine session connection attached targetId found).2⟩
    intro ended
    cases ended
  | handle session =>
    simp only [call, Option.bind_eq_some_iff] at called
    obtain ⟨connection, attached, handled⟩ := called
    split at handled
    · rename_i result waiting
      cases handled
      intro next done
      refine handle_sound sound attached (fun here => ?_) done
      simpa [benign, attached, here, waiting] using kept
    · cases handled
    · cases handled
  | writeEmpty session =>
    simp only [call, Option.bind_eq_some_iff, Option.ite_none_right_eq_some] at called
    obtain ⟨connection, attached, here, same⟩ := called
    obtain ⟨server, _, closes, serving', erased, counted⟩ := onEof_serving serving here
    rw [Network.writeEmpty, closes, ok_bind] at same
    cases same
    rintro next ⟨⟩
    exact sound.terminate serving' erased counted _ _

theorem call_stuck {action : Action} {outcome : Except Loss Network} (sound : Sound network)
    (refused : ¬ benign multiByteToWideChar network action = true)
    (called : call multiByteToWideChar llhttp network action = some outcome) :
    ¬ NoStuck outcome := by
  cases action with
  | handle session =>
    simp only [call, Option.bind_eq_some_iff] at called
    obtain ⟨connection, attached, handled⟩ := called
    split at handled
    · rename_i result waiting
      cases handled
      simp only [benign, attached, Option.all_some, waiting, Bool.or_eq_true, Bool.not_eq_true',
        not_or, Bool.not_eq_false, Bool.not_eq_true] at refused
      exact handle_refused sound attached refused.1 refused.2
    · cases handled
    · cases handled
  | addTarget _ _ | removeTarget _ | accept | complete _ _ | writeEmpty _ =>
    exact absurd rfl refused

theorem sound_start : Sound (inspectorNetwork multiByteToWideChar llhttp).start := by
  refine ⟨⟨{}, ?_⟩, rfl, ?_⟩
  · constructor
    · rfl
    · rfl
    · exact fun _ inside => absurd inside List.not_mem_nil
    · intro session here
      cases here
    · intro session agent entered
      cases entered
    · intro session targetId found
      cases found
    · intro session found
      cases found
    · intro session agent entered
      cases entered
  · intro session connection attached
    cases attached

end

/-- Along a whole run no session gets stuck exactly when no read fails under a
session, and every text that a session sends can be converted. -/
theorem noStuck_iff_benign (multiByteToWideChar : List UInt8 → Option (List UInt16))
    (llhttp : List (List UInt8) → List UInt8 → List ParserCallback) (trace : List Action)
    (outcome : Except Loss Network)
    (ran : (inspectorNetwork multiByteToWideChar llhttp).run trace = some outcome) :
    (inspectorNetwork multiByteToWideChar llhttp).SafeAlong NoStuck
        (inspectorNetwork multiByteToWideChar llhttp).start trace ↔
      (inspectorNetwork multiByteToWideChar llhttp).Meets
        (fun state action => benign multiByteToWideChar state action = true)
        (inspectorNetwork multiByteToWideChar llhttp).start trace := by
  apply Program.safeAlong_iff_meets Sound
  · exact fun _ sound => sound.noStuck
  · intro state action reached sound kept called
    have sounds := call_sound sound kept called
    refine ⟨?_, sounds⟩
    cases reached with
    | error loss => trivial
    | ok next => exact (sounds next rfl).noStuck
  · exact fun _ _ _ sound refused called => call_stuck sound refused called
  · exact sound_start
  · exact ran

/-- GET /a with the headers of an upgrade and the key "k". -/
def upgradeRequest : List UInt8 := [
    0x47, 0x45, 0x54, 0x20, 0x2F, 0x61, 0x20, 0x48, 0x54, 0x54, 0x50, 0x2F, 0x31, 0x2E, 0x31,
    0x0D, 0x0A, 0x55, 0x70, 0x67, 0x72, 0x61, 0x64, 0x65, 0x3A, 0x20, 0x61, 0x0D, 0x0A, 0x43,
    0x6F, 0x6E, 0x6E, 0x65, 0x63, 0x74, 0x69, 0x6F, 0x6E, 0x3A, 0x20, 0x75, 0x70, 0x67, 0x72,
    0x61, 0x64, 0x65, 0x0D, 0x0A, 0x53, 0x65, 0x63, 0x2D, 0x57, 0x65, 0x62, 0x53, 0x6F, 0x63,
    0x6B, 0x65, 0x74, 0x2D, 0x4B, 0x65, 0x79, 0x3A, 0x20, 0x6B, 0x0D, 0x0A, 0x0D, 0x0A]

def upgradeCallbacks : List ParserCallback := [
  .onPath [0x2F, 0x61],
  .onHeaderField [0x55, 0x70, 0x67, 0x72, 0x61, 0x64, 0x65],
  .onHeaderValue [0x61],
  .onHeaderField [0x43, 0x6F, 0x6E, 0x6E, 0x65, 0x63, 0x74, 0x69, 0x6F, 0x6E],
  .onHeaderValue [0x75, 0x70, 0x67, 0x72, 0x61, 0x64, 0x65],
  .onHeaderField secWebSocketKey,
  .onHeaderValue [0x6B],
  .onMessageComplete true true]

/-- What the parser makes of a connection that starts with this request. -/
def upgradeParser : List (List UInt8) → List UInt8 → List ParserCallback
  | [], bytes => if bytes = upgradeRequest then upgradeCallbacks else []
  | _ :: _, _ => []

/-- The text of the single byte FF, which no character starts with. -/
def brokenFrame : ClientFrame where
  maskingKey := letterFrame.maskingKey
  payload := [0xFF]
  bounded := letterFrame.bounded

theorem noStuck_upgrade_frame_eof :
    (inspectorNetwork asciiToWideChar upgradeParser).SafeAlong NoStuck
      (inspectorNetwork asciiToWideChar upgradeParser).start
      [.addTarget [0x61] 0, .accept, .complete 0 (.data upgradeRequest), .handle 0,
        .complete 0 (.data letterFrame.encode), .handle 0, .complete 0 .eof, .handle 0] :=
  (noStuck_iff_benign _ _ _ _ rfl).mpr (by decide)

/-- The connection of an attached session is reset, or it brings a text that cannot
be converted. -/
theorem failed_read_strands_session :
    ¬ (inspectorNetwork asciiToWideChar upgradeParser).SafeAlong NoStuck
      (inspectorNetwork asciiToWideChar upgradeParser).start
      [.addTarget [0x61] 0, .accept, .complete 0 (.data upgradeRequest), .handle 0,
        .complete 0 .failed, .handle 0] ∧
    ¬ (inspectorNetwork asciiToWideChar upgradeParser).SafeAlong NoStuck
      (inspectorNetwork asciiToWideChar upgradeParser).start
      [.addTarget [0x61] 0, .accept, .complete 0 (.data upgradeRequest), .handle 0,
        .complete 0 (.data brokenFrame.encode), .handle 0] := by
  constructor
  · intro along
    obtain ⟨connection, found, goes⟩ := (along _ [] _ (List.append_nil _).symm rfl).1 0 rfl
    cases found
    exact goes rfl
  · intro along
    obtain ⟨connection, found, goes⟩ := (along _ [] _ (List.append_nil _).symm rfl).1 0 rfl
    cases found
    exact goes rfl

end V8Jsi.Connection
