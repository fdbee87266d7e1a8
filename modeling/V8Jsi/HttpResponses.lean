import V8Jsi.Connection
import V8Jsi.HttpRequests
import V8Jsi.Lib.Http
import V8Jsi.Sha1Digest
import V8Jsi.TargetList

set_option autoImplicit false

/- What a connection that is not upgraded writes: `SendHttpResponse` and the functions over it in
inspector_socket_server.cpp, `HttpHandler` of inspector_socket.cpp. A declined request does not end
the connection, whose closing there is commented out. -/
namespace V8Jsi.HttpResponses

open InspectorSocket InspectorUtils Outcome TargetList
open SocketServer (InspectorAgentDelegate InspectorSocketServer responseFor)

inductive Fault
  | readOutside
  | deletedHandler
  | encode (fault : EncodeFault)
  deriving DecidableEq, Repr

/-! ## The writes -/

def headersFront : List UInt8 :=
  bytes "HTTP/1.0 200 OK\r\nContent-Type: application/json; charset=UTF-8\r\n" ++
    bytes "Cache-Control: no-cache\r\nContent-Length: "

def headersBack : List UInt8 := bytes "\r\n\r\n"

/-- What `snprintf` puts into `size` characters. It returns the length of the whole text. -/
def snprintf (size : Nat) (text : List UInt8) : List UInt8 × Nat :=
  (text.take (size - 1) ++ [0], text.length)

/-- The format has the three characters of its conversion and the zero, and `header` has 20 more. -/
def sendHttpResponse (response : List UInt8) : Except Fault (List (List UInt8)) :=
  let text := headersFront ++ Decimal.decimal response.length ++ headersBack
  let (header, headerLen) :=
    snprintf (headersFront.length + 3 + headersBack.length + 1 + 20) text
  if header.length < headerLen then .error .readOutside
  else .ok [header.take headerLen, response]

def versionJson : List UInt8 :=
  mapToString [("Browser", bytes "node.js v12.0.0"), ("Protocol-Version", bytes "1.1")]

/-- The body of `SendProtocolJson`. -/
def protocolJson : List UInt8 := bytes "TBD"

def handshakeFailedResponse : List UInt8 :=
  bytes "HTTP/1.0 400 Bad Request\r\nContent-Type: text/html; charset=UTF-8\r\n\r\n" ++
    bytes "WebSockets request was expected\r\n"

def acceptWsPrefix : List UInt8 :=
  bytes "HTTP/1.1 101 Switching Protocols\r\nUpgrade: websocket\r\n" ++
    bytes "Connection: Upgrade\r\nSec-WebSocket-Accept: "

def acceptWsSuffix : List UInt8 := bytes "\r\n\r\n"

/-- The characters of a buffer after the writes to it. -/
def filled (buffer : Nat → UInt8) (writes : Writes) : Nat → UInt8 :=
  writes.foldl (fun buffer write => Function.update buffer write.1 write.2) buffer

/-- What the stack holds where `AcceptUpgrade` puts its buffer and its context. -/
structure Stack where
  acceptString : Nat → UInt8
  context : Fin 64 → UInt8

def acceptUpgrade (stack : Stack) (acceptKey : List UInt8) : Except Fault (List UInt8) := do
  let writes ← (Sha1.generateAcceptString stack.context acceptKey).mapError .encode
  let acceptString := (List.range 28).map (filled stack.acceptString writes)
  return acceptWsPrefix ++ acceptString ++ acceptWsSuffix

/-- What the targets and their titles are at one read, the port that the connection was accepted
with, and what the parser makes of the read. An upgrade is no failure. -/
structure Read where
  delegate : InspectorAgentDelegate
  getTitle : Nat → List UInt8
  serverPort : UInt16
  stack : Stack
  failed : Bool
  callbacks : List ParserCallback

def handleGetRequest (read : Read) (host path : List UInt8) : Except Fault (List (List UInt8)) :=
  match responseFor path with
  | some .list =>
      sendHttpResponse (sendListResponse read.delegate read.getTitle host read.serverPort)
  | some .protocol => sendHttpResponse protocolJson
  | some .version => sendHttpResponse versionJson
  | none => .ok [handshakeFailedResponse]

/-- `TargetExists` at the read. -/
def Read.targetExists (read : Read) (id : List UInt8) : Bool :=
  read.delegate.getTargetIds.contains id

theorem Read.targetExists_iff (read : Read) (id : List UInt8) :
    read.targetExists id = true ↔ id ∈ read.delegate.getTargetIds := List.contains_iff_mem

/-- The loop of `OnData` over the events: what is written, and whether the connection is upgraded.
With the upgrade the handler of the loop is deleted. -/
def handleEvents (read : Read) : List HttpEvent → Except Fault (List (List UInt8) × Bool)
  | [] => .ok ([], false)
  | event :: rest =>
      if !isAllowedHost event.host || !event.isGET then .ok ([handshakeFailedResponse], false)
      else if !event.upgrade then do
        let writes ← handleGetRequest read event.host event.path
        let (more, upgraded) ← handleEvents read rest
        return (writes ++ more, upgraded)
      else if event.wsKey.isEmpty then .ok ([handshakeFailedResponse], false)
      else if !read.targetExists (event.path.drop 1) then do
        let (more, upgraded) ← handleEvents read rest
        return (handshakeFailedResponse :: more, upgraded)
      else if rest ≠ [] then .error .deletedHandler
      else do
        let reply ← acceptUpgrade read.stack event.wsKey
        return ([reply], true)

/-- `OnData` of one read after the other, until the connection is upgraded. -/
def onReads (handler : HttpHandler) : List Read → Except Fault (List (List UInt8) × Bool)
  | [] => .ok ([], false)
  | read :: rest => do
      let (handler, events) := handler.execute read.callbacks
      let (writes, upgraded) ← handleEvents read events
      let writes := (if read.failed then [handshakeFailedResponse] else []) ++ writes
      if upgraded then return (writes, true)
      let (more, upgraded) ← onReads handler rest
      return (writes ++ more, upgraded)

/-! ## The replies -/

inductive Reply
  | json (body : List UInt8)
  | declined
  | accepted (wsKey : List UInt8)
  deriving DecidableEq, Repr

def Reply.isAccepted : Reply → Bool
  | .accepted _ => true
  | .json _ | .declined => false

/-- The elements up to the first at which it stops, that one included. -/
def upTo {α : Type} (stops : α → Bool) : List α → List α
  | [] => []
  | first :: rest => first :: if stops first then [] else upTo stops rest

/-- The events of the read behind this one are not served. -/
def refuses (event : HttpEvent) : Bool :=
  !isAllowedHost event.host || !event.isGET || event.upgrade && event.wsKey.isEmpty

def replyTo (read : Read) (event : HttpEvent) : Reply :=
  if refuses event then .declined
  else if event.upgrade then
    if read.targetExists (event.path.drop 1) then .accepted event.wsKey else .declined
  else
    match responseFor event.path with
    | some .list => .json (sendListResponse read.delegate read.getTitle event.host read.serverPort)
    | some .protocol => .json protocolJson
    | some .version => .json versionJson
    | none => .declined

def repliesTo (read : Read) (events : List HttpEvent) : List Reply :=
  (if read.failed then [.declined] else []) ++ (upTo refuses events).map (replyTo read)

/-- The replies to the reads that a handler gets. -/
def repliesFrom (handler : HttpHandler) (reads : List Read) : List Reply :=
  let events := (handler.executeAll (reads.map (·.callbacks))).2
  upTo Reply.isAccepted ((reads.zip events).flatMap fun (read, events) => repliesTo read events)

def Reply.response : Reply → Http.Response
  | .json body => {
      version := bytes "HTTP/1.0"
      status := bytes "200"
      reason := bytes "OK"
      fields := [⟨bytes "Content-Type", bytes "application/json; charset=UTF-8"⟩,
        ⟨bytes "Cache-Control", bytes "no-cache"⟩,
        ⟨bytes "Content-Length", Decimal.decimal body.length⟩]
      body }
  | .declined => {
      version := bytes "HTTP/1.0"
      status := bytes "400"
      reason := bytes "Bad Request"
      fields := [⟨bytes "Content-Type", bytes "text/html; charset=UTF-8"⟩]
      body := bytes "WebSockets request was expected\r\n" }
  | .accepted wsKey => {
      version := bytes "HTTP/1.1"
      status := bytes "101"
      reason := bytes "Switching Protocols"
      fields := [⟨bytes "Upgrade", bytes "websocket"⟩, ⟨bytes "Connection", bytes "Upgrade"⟩,
        ⟨bytes "Sec-WebSocket-Accept", Base64.encode (Fips180.sha1 (wsKey ++ Sha1.wsMagic))⟩]
      body := [] }

def Reply.render (reply : Reply) : List UInt8 := reply.response.render

/-! ## One write -/

theorem length_decimal {number : Nat} (small : number < 2 ^ 64) :
    (Decimal.decimal number).length ≤ 20 := by
  rw [Decimal.decimal, List.length_map]
  exact (Nat.length_toDigits_le_iff (by decide) (by decide)).mpr (by omega)

theorem sendHttpResponse_ok {response : List UInt8} (small : response.length < 2 ^ 64) :
    sendHttpResponse response =
      .ok [headersFront ++ Decimal.decimal response.length ++ headersBack, response] := by
  have digits := length_decimal small
  have fits : (headersFront ++ Decimal.decimal response.length ++ headersBack).length ≤
      headersFront.length + 3 + headersBack.length + 1 + 20 - 1 := by
    simp only [List.length_append]
    omega
  rw [sendHttpResponse]
  generalize headersFront ++ Decimal.decimal response.length ++ headersBack = text at fits ⊢
  dsimp only [snprintf]
  rw [List.take_of_length_le fits, List.take_left, if_neg (by simp)]

theorem filled_outside (chars : List UInt8) : ∀ (start : Nat) (buffer : Nat → UInt8) (i : Nat),
    i < start → filled buffer (placed start chars) i = buffer i := by
  induction chars with
  | nil =>
    intro start buffer i _
    rfl
  | cons char rest ih =>
    intro start buffer i before
    have later := ih (start + 1) (Function.update buffer start char) i (by omega)
    rw [Function.update_of_ne (by omega)] at later
    exact later

theorem filled_inside (chars : List UInt8) : ∀ (start : Nat) (buffer : Nat → UInt8),
    (List.range' start chars.length).map (filled buffer (placed start chars)) = chars := by
  induction chars with
  | nil =>
    intro start buffer
    rfl
  | cons char rest ih =>
    intro start buffer
    have first := filled_outside rest (start + 1) (Function.update buffer start char) start
      (Nat.lt_succ_self start)
    rw [Function.update_self] at first
    have others := ih (start + 1) (Function.update buffer start char)
    rw [List.length_cons, List.range'_succ, List.map_cons]
    exact congrArg₂ List.cons first others

theorem acceptUpgrade_ok (stack : Stack) (acceptKey : List UInt8) :
    acceptUpgrade stack acceptKey =
      .ok (acceptWsPrefix ++ Base64.encode (Fips180.sha1 (acceptKey ++ Sha1.wsMagic)) ++
        acceptWsSuffix) := by
  have chars := filled_inside (Base64.encode (Fips180.sha1 (acceptKey ++ Sha1.wsMagic))) 0
    stack.acceptString
  rw [Sha1.length_acceptString, ← List.range_eq_range'] at chars
  rw [acceptUpgrade, Sha1.generateAcceptString_placed, mapError_ok, ok_bind, chars]
  rfl

theorem render_json (body : List UInt8) :
    (Reply.json body).render =
      headersFront ++ Decimal.decimal body.length ++ headersBack ++ body := by
  have front : headersFront = bytes "HTTP/1.0" ++ Http.space :: bytes "200" ++ Http.space ::
      bytes "OK" ++ Http.cr :: Http.lf :: (Http.Field.render
        ⟨bytes "Content-Type", bytes "application/json; charset=UTF-8"⟩ ++
        Http.Field.render ⟨bytes "Cache-Control", bytes "no-cache"⟩) ++
      bytes "Content-Length" ++ [Http.colon, Http.space] := by decide +kernel
  have back : headersBack = [Http.cr, Http.lf, Http.cr, Http.lf] := by decide +kernel
  rw [front, back]
  simp [Reply.render, Reply.response, Http.Response.render, Http.Response.statusLine,
    Http.Field.render]

theorem render_declined : Reply.declined.render = handshakeFailedResponse := by decide +kernel

theorem render_accepted (wsKey : List UInt8) :
    (Reply.accepted wsKey).render =
      acceptWsPrefix ++ Base64.encode (Fips180.sha1 (wsKey ++ Sha1.wsMagic)) ++
        acceptWsSuffix := by
  have front : acceptWsPrefix = bytes "HTTP/1.1" ++ Http.space :: bytes "101" ++ Http.space ::
      bytes "Switching Protocols" ++ Http.cr :: Http.lf :: (Http.Field.render
        ⟨bytes "Upgrade", bytes "websocket"⟩ ++
        Http.Field.render ⟨bytes "Connection", bytes "Upgrade"⟩) ++
      bytes "Sec-WebSocket-Accept" ++ [Http.colon, Http.space] := by decide +kernel
  have back : acceptWsSuffix = [Http.cr, Http.lf, Http.cr, Http.lf] := by decide +kernel
  rw [front, back]
  simp [Reply.render, Reply.response, Http.Response.render, Http.Response.statusLine,
    Http.Field.render]

/-! ## The replies of a read -/

section

variable {α : Type} {stops : α → Bool}

theorem upTo_append_of_any {front : List α} (stopped : front.any stops = true) (back : List α) :
    upTo stops (front ++ back) = upTo stops front := by
  induction front with
  | nil => cases stopped
  | cons first rest ih =>
    rw [List.cons_append, upTo, upTo]
    by_cases here : stops first = true
    · rw [if_pos here, if_pos here]
    · rw [if_neg here, if_neg here, ih (by simpa [here] using stopped)]

theorem upTo_append_of_none {front : List α} (passed : front.any stops = false) (back : List α) :
    upTo stops (front ++ back) = front ++ upTo stops back := by
  induction front with
  | nil => rfl
  | cons first rest ih =>
    obtain ⟨here, others⟩ : stops first = false ∧ rest.any stops = false := by
      simpa using passed
    rw [List.cons_append, upTo, here, if_neg (by simp), ih others, List.cons_append]

/-- Nothing stands behind an element at which it stops. -/
def StopsLast (stops : α → Bool) (list : List α) : Prop := upTo stops list = list

theorem upTo_stopsLast (list : List α) : StopsLast stops (upTo stops list) := by
  induction list with
  | nil => rfl
  | cons first rest ih =>
    rw [upTo, StopsLast, upTo]
    by_cases here : stops first = true
    · rw [if_pos here, if_pos here]
    · rw [if_neg here, if_neg here, ih]

theorem StopsLast.tail {first : α} {rest : List α} (last : StopsLast stops (first :: rest)) :
    StopsLast stops rest ∧ (stops first = true → rest = []) := by
  rw [StopsLast, upTo, List.cons.injEq] at last
  by_cases here : stops first = true
  · rw [if_pos here] at last
    rw [← last.2]
    exact ⟨rfl, fun _ => rfl⟩
  · rw [if_neg here] at last
    exact ⟨last.2, fun stopped => absurd stopped here⟩

end

/-- The parser stops a read behind a request for an upgrade. -/
def PausesOnUpgrade (events : List HttpEvent) : Prop :=
  ∀ event ∈ events.dropLast, event.upgrade = false

theorem PausesOnUpgrade.tail {event : HttpEvent} {rest : List HttpEvent}
    (pauses : PausesOnUpgrade (event :: rest)) :
    PausesOnUpgrade rest ∧ (event.upgrade = true → rest = []) := by
  cases rest with
  | nil => exact ⟨fun _ inside => absurd inside List.not_mem_nil, fun _ => rfl⟩
  | cons next more =>
    refine ⟨fun other inside => pauses other (List.mem_cons_of_mem _ inside), fun upgrade => ?_⟩
    rw [pauses event List.mem_cons_self] at upgrade
    cases upgrade

/-- The body of a response has a length of type `size_t`. -/
def Reply.Fits : Reply → Prop
  | .json body => body.length < 2 ^ 64
  | .declined | .accepted _ => True

/-- The replies are written, and the last of them tells whether the connection is upgraded. -/
def Writes (outcome : Except Fault (List (List UInt8) × Bool)) (replies : List Reply) : Prop :=
  ∃ writes, outcome = .ok (writes, replies.any Reply.isAccepted) ∧
    writes.flatten = replies.flatMap Reply.render

theorem Writes.cons {reply : Reply} {written : List (List UInt8)} {replies : List Reply}
    {rest : Except Fault (List (List UInt8) × Bool)} (plain : reply.isAccepted = false)
    (rendered : written.flatten = reply.render) (writes : Writes rest replies) :
    Writes (do
      let (more, upgraded) ← rest
      return (written ++ more, upgraded)) (reply :: replies) := by
  obtain ⟨more, rfl, flat⟩ := writes
  refine ⟨written ++ more, ?_, ?_⟩
  · simp [plain]
  · rw [List.flatten_append, rendered, flat, List.flatMap_cons]

/-- A GET request that is allowed is answered with the reply for its path. -/
theorem handleGetRequest_writes (read : Read) (event : HttpEvent)
    (allowed : refuses event = false) (plain : event.upgrade = false)
    (fits : (replyTo read event).Fits) :
    ∃ written, handleGetRequest read event.host event.path = .ok written ∧
      written.flatten = (replyTo read event).render ∧
      (replyTo read event).isAccepted = false := by
  rw [replyTo, allowed, plain, if_neg Bool.false_ne_true, if_neg Bool.false_ne_true] at fits ⊢
  rw [handleGetRequest]
  cases found : responseFor event.path with
  | none => exact ⟨_, rfl, by rw [render_declined]; simp, rfl⟩
  | some response =>
    rw [found] at fits
    cases response with
    | list => exact ⟨_, sendHttpResponse_ok fits, by rw [render_json]; simp, rfl⟩
    | protocol => exact ⟨_, sendHttpResponse_ok fits, by rw [render_json]; simp, rfl⟩
    | version => exact ⟨_, sendHttpResponse_ok fits, by rw [render_json]; simp, rfl⟩

theorem writes_declined : Writes (.ok ([handshakeFailedResponse], false)) [.declined] :=
  ⟨_, rfl, by simp [render_declined]⟩

/-- Only a request for an upgrade is accepted, and it is the last of its read. -/
theorem served_stopsLast (read : Read) (events : List HttpEvent)
    (pauses : PausesOnUpgrade events) :
    StopsLast Reply.isAccepted ((upTo refuses events).map (replyTo read)) := by
  induction events with
  | nil => rfl
  | cons event rest ih =>
    obtain ⟨pausesLater, last⟩ := pauses.tail
    by_cases refused : refuses event = true
    · rw [upTo, if_pos refused, List.map_cons, List.map_nil, StopsLast, upTo]
      split <;> rfl
    · rw [upTo, if_neg refused, List.map_cons, StopsLast, upTo]
      by_cases upgrade : event.upgrade = true
      · obtain rfl := last upgrade
        split <;> rfl
      · have unaccepted : (replyTo read event).isAccepted = false := by
          rw [replyTo, if_neg refused, if_neg upgrade]
          split <;> rfl
        rw [unaccepted, if_neg Bool.false_ne_true, ih pausesLater]

theorem handleEvents_writes (read : Read) (events : List HttpEvent)
    (pauses : PausesOnUpgrade events)
    (fits : ∀ reply ∈ (upTo refuses events).map (replyTo read), reply.Fits) :
    Writes (handleEvents read events) ((upTo refuses events).map (replyTo read)) := by
  induction events with
  | nil => exact ⟨[], rfl, rfl⟩
  | cons event rest ih =>
    obtain ⟨pausesLater, last⟩ := pauses.tail
    by_cases refused : refuses event = true
    · have declined : replyTo read event = .declined := by rw [replyTo, if_pos refused]
      rw [upTo, if_pos refused, List.map_cons, declined, List.map_nil, handleEvents]
      split
      · exact writes_declined
      · rename_i served
        have upgrade : event.upgrade = true ∧ event.wsKey.isEmpty = true := by
          simpa [refuses, served] using refused
        rw [if_neg (by simp [upgrade.1]), if_pos upgrade.2]
        exact writes_declined
    · have allowed : refuses event = false := Bool.eq_false_iff.mpr refused
      have split := allowed
      rw [refuses, Bool.or_eq_false_iff] at split
      rw [upTo, if_neg refused, List.map_cons] at fits ⊢
      have writes := ih pausesLater
        fun reply inside => fits reply (List.mem_cons_of_mem _ inside)
      rw [handleEvents, if_neg (by simp [split.1])]
      by_cases upgrade : event.upgrade = true
      · obtain rfl := last upgrade
        have key : event.wsKey.isEmpty = false := by simpa [upgrade] using split.2
        rw [if_neg (by simp [upgrade]), if_neg (by simp [key])]
        cases target : read.targetExists (event.path.drop 1) with
        | true =>
          have accepted : replyTo read event = .accepted event.wsKey := by
            rw [replyTo, if_neg refused, if_pos upgrade, if_pos target]
          rw [if_neg (by decide), if_neg (not_not.mpr rfl), acceptUpgrade_ok, accepted]
          exact ⟨_, rfl, by simp [upTo, render_accepted]⟩
        | false =>
          have declined : replyTo read event = .declined := by
            rw [replyTo, if_neg refused, if_pos upgrade, if_neg (Bool.eq_false_iff.mp target)]
          have rendered : [handshakeFailedResponse].flatten = Reply.declined.render := by
            rw [render_declined, List.flatten_singleton]
          rw [if_pos (by decide), declined]
          exact writes.cons rfl rendered
      · have plain : event.upgrade = false := Bool.eq_false_iff.mpr upgrade
        obtain ⟨written, answered, rendered, unaccepted⟩ := handleGetRequest_writes read event
          allowed plain (fits _ List.mem_cons_self)
        rw [if_pos (by simp [plain]), answered, ok_bind]
        exact writes.cons unaccepted rendered

/-! ## The replies of a connection -/

theorem repliesTo_stopsLast (read : Read) (events : List HttpEvent)
    (pauses : PausesOnUpgrade events) : StopsLast Reply.isAccepted (repliesTo read events) := by
  have served := served_stopsLast read events pauses
  rw [repliesTo]
  cases read.failed with
  | false => exact served
  | true =>
    rw [if_pos rfl, List.singleton_append, StopsLast, upTo, served]
    rfl

/-- The later reads belong to the HTTP side only while the connection is not upgraded. -/
theorem repliesFrom_cons (handler : HttpHandler) (read : Read) (rest : List Read)
    (pauses : PausesOnUpgrade (handler.execute read.callbacks).2) :
    repliesFrom handler (read :: rest) =
      if (repliesTo read (handler.execute read.callbacks).2).any Reply.isAccepted then
        repliesTo read (handler.execute read.callbacks).2
      else repliesTo read (handler.execute read.callbacks).2 ++
        repliesFrom (handler.execute read.callbacks).1 rest := by
  have here := repliesTo_stopsLast read _ pauses
  have split : repliesFrom handler (read :: rest) = upTo Reply.isAccepted
      (repliesTo read (handler.execute read.callbacks).2 ++
        (rest.zip ((handler.execute read.callbacks).1.executeAll
          (rest.map (·.callbacks))).2).flatMap fun (read, events) => repliesTo read events) := rfl
  rw [split]
  cases accepted : (repliesTo read (handler.execute read.callbacks).2).any Reply.isAccepted with
  | true => rw [upTo_append_of_any accepted, here, if_pos rfl]
  | false =>
    rw [upTo_append_of_none accepted, if_neg Bool.false_ne_true]
    rfl

theorem onReads_writes (reads : List Read) : ∀ handler : HttpHandler,
    (∀ events ∈ (handler.executeAll (reads.map (·.callbacks))).2, PausesOnUpgrade events) →
    (∀ reply ∈ repliesFrom handler reads, reply.Fits) →
    Writes (onReads handler reads) (repliesFrom handler reads) := by
  induction reads with
  | nil =>
    intro handler _ _
    exact ⟨[], rfl, rfl⟩
  | cons read rest ih =>
    intro handler pauses fits
    have here : PausesOnUpgrade (handler.execute read.callbacks).2 :=
      pauses _ List.mem_cons_self
    have later : ∀ events ∈ ((handler.execute read.callbacks).1.executeAll
        (rest.map (·.callbacks))).2, PausesOnUpgrade events :=
      fun events inside => pauses events (List.mem_cons_of_mem _ inside)
    rw [repliesFrom_cons handler read rest here] at fits ⊢
    rw [onReads]
    generalize handler.execute read.callbacks = executed at here later fits ⊢
    obtain ⟨next, events⟩ := executed
    dsimp only at here later fits ⊢
    have front : ∀ reply ∈ repliesTo read events, reply.Fits := by
      intro reply inside
      apply fits
      split
      · exact inside
      · exact List.mem_append_left _ inside
    obtain ⟨written, handled, flat⟩ := handleEvents_writes read events here
      fun reply inside => front reply (List.mem_append_right _ inside)
    have failed : ((if read.failed then [handshakeFailedResponse] else []) ++ written).flatten =
        (repliesTo read events).flatMap Reply.render := by
      rw [repliesTo, List.flatMap_append, ← flat, List.flatten_append]
      cases read.failed <;> simp [render_declined]
    have accepts : (repliesTo read events).any Reply.isAccepted =
        ((upTo refuses events).map (replyTo read)).any Reply.isAccepted := by
      rw [repliesTo, List.any_append]
      cases read.failed <;> rfl
    rw [handled, ok_bind, ← accepts]
    cases accepted : (repliesTo read events).any Reply.isAccepted with
    | true =>
      simp only [if_true]
      exact ⟨_, by rw [accepted]; rfl, failed⟩
    | false =>
      simp only [accepted, Bool.false_eq_true, if_false] at fits ⊢
      obtain ⟨more, ran, rendered⟩ := ih next later
        fun reply inside => fits reply (List.mem_append_right _ inside)
      refine ⟨((if read.failed then [handshakeFailedResponse] else []) ++ written) ++ more, ?_, ?_⟩
      · simp [ran, accepted]
      · rw [List.flatten_append, failed, rendered, List.flatMap_append]

/-! ## The server behind the replies -/

theorem handleGetRequest_server {server after : InspectorSocketServer} {session : Nat}
    {path : List UInt8} (handled : server.handleGetRequest session path = .ok after) :
    after = server := by
  rw [InspectorSocketServer.handleGetRequest] at handled
  split at handled
  · cases handled
  · split at handled
    · obtain ⟨_, -, returned⟩ := bind_ok_inv handled
      exact (Except.ok.inj returned).symm
    all_goals exact (Except.ok.inj handled).symm

theorem sessionStarted_server {server after : InspectorSocketServer} {session : Nat}
    {id : List UInt8} {delegate : InspectorAgentDelegate} (here : server.delegate = some delegate)
    (other : id ∉ delegate.getTargetIds) (started : server.sessionStarted session id = .ok after) :
    after = server := by
  rw [InspectorSocketServer.sessionStarted, InspectorSocketServer.useDelegate, here] at started
  simp only [ok_bind, if_pos other] at started
  split at started
  · exact (Except.ok.inj started).symm
  · cases started

theorem serve_server {network after : Connection.Network}
    {server : Except SocketServer.Fault InspectorSocketServer}
    (served : network.serve server = .ok after) : server = .ok after.server := by
  rw [Connection.Network.serve] at served
  cases server with
  | error fault => cases served
  | ok server =>
    obtain rfl := Except.ok.inj served
    rfl

/-- Whenever the network serves the events of a read, they are answered, and the connection is
upgraded for the client when it is for the server. -/
theorem handleEvents_network (read : Read) (session : Nat) (events : List HttpEvent)
    (fits : ∀ reply ∈ (upTo refuses events).map (replyTo read), reply.Fits) :
    ∀ (network : Connection.Network) (result : Connection.Network × Bool),
      network.server.delegate = some read.delegate →
      Connection.Network.handleEvents session events network = .ok result →
      ∃ writes, handleEvents read events = .ok (writes, result.2) := by
  induction events with
  | nil =>
    intro network result _ handled
    obtain rfl := Except.ok.inj handled
    exact ⟨[], rfl⟩
  | cons event rest ih =>
    intro network result here handled
    rw [Connection.Network.handleEvents] at handled
    rw [handleEvents]
    by_cases closed : (!isAllowedHost event.host || !event.isGET) = true
    · rw [if_pos closed] at handled ⊢
      obtain rfl := Except.ok.inj handled
      exact ⟨_, rfl⟩
    rw [if_neg closed] at handled ⊢
    by_cases keyless : event.upgrade = true ∧ event.wsKey.isEmpty = true
    · rw [if_neg (by simp [keyless.1]), if_pos keyless.2] at handled ⊢
      obtain rfl := Except.ok.inj handled
      exact ⟨_, rfl⟩
    have allowed : refuses event = false := by
      rw [refuses, Bool.or_eq_false_iff]
      exact ⟨Bool.eq_false_iff.mpr closed, by simpa using keyless⟩
    rw [upTo, if_neg (by simp [allowed]), List.map_cons] at fits
    have later := ih fun reply inside => fits reply (List.mem_cons_of_mem _ inside)
    by_cases plain : event.upgrade = true
    · have key : ¬ event.wsKey.isEmpty = true := fun empty => keyless ⟨plain, empty⟩
      rw [if_neg (by simp [plain]), if_neg key] at handled ⊢
      obtain ⟨after, served, continued⟩ := bind_ok_inv handled
      have started := serve_server served
      have known : network.server.targetExists (event.path.drop 1) =
          read.targetExists (event.path.drop 1) := by
        rw [InspectorSocketServer.targetExists, here, Option.any_some, Read.targetExists,
          List.contains_eq_mem]
      rw [known] at continued
      cases target : read.targetExists (event.path.drop 1) with
      | true =>
        rw [target, if_neg (by decide)] at continued
        rw [if_neg (by decide)]
        split at continued
        · rename_i last
          obtain rfl := Except.ok.inj continued
          rw [if_neg (by simpa using last), acceptUpgrade_ok]
          exact ⟨_, rfl⟩
        · cases continued
      | false =>
        have other : event.path.drop 1 ∉ read.delegate.getTargetIds := fun inside =>
          Bool.eq_false_iff.mp target ((read.targetExists_iff _).mpr inside)
        rw [target, if_pos (by decide)] at continued
        obtain ⟨more, answered⟩ := later after result
          (by rw [sessionStarted_server here other started]; exact here) continued
        rw [if_pos (by decide), answered]
        exact ⟨_, rfl⟩
    · rw [if_pos (by simp [plain])] at handled ⊢
      obtain ⟨after, served, continued⟩ := bind_ok_inv handled
      obtain ⟨written, got, -, -⟩ := handleGetRequest_writes read event allowed
        (Bool.eq_false_iff.mpr plain) (fits _ List.mem_cons_self)
      obtain ⟨more, answered⟩ := later after result
        (by rw [handleGetRequest_server (serve_server served)]; exact here) continued
      rw [got, ok_bind, answered]
      exact ⟨_, rfl⟩

/-! ## The client -/

theorem alphabet_graphic : ∀ index < 64, Http.space < Base64.alphabet index := by decide

theorem encode_graphic (source : List UInt8) :
    ∀ byte ∈ Base64.encode source, Http.space < byte := by
  have pad : Http.space < Base64.pad := by decide
  fun_induction Base64.encode source with
  | case1 => exact fun _ inside => absurd inside List.not_mem_nil
  | case2 a =>
    have boundA := a.toNat_lt
    simp only [List.mem_cons, List.not_mem_nil, or_false]
    rintro byte (rfl | rfl | rfl | rfl)
    · exact alphabet_graphic _ (by omega)
    · exact alphabet_graphic _ (by omega)
    · exact pad
    · exact pad
  | case3 a b =>
    have boundA := a.toNat_lt
    have boundB := b.toNat_lt
    simp only [List.mem_cons, List.not_mem_nil, or_false]
    rintro byte (rfl | rfl | rfl | rfl)
    · exact alphabet_graphic _ (by omega)
    · exact alphabet_graphic _ (by omega)
    · exact alphabet_graphic _ (by omega)
    · exact pad
  | case4 a b c rest ih =>
    have boundA := a.toNat_lt
    have boundB := b.toNat_lt
    have boundC := c.toNat_lt
    simp only [List.mem_cons]
    rintro byte (rfl | rfl | rfl | rfl | later)
    · exact alphabet_graphic _ (by omega)
    · exact alphabet_graphic _ (by omega)
    · exact alphabet_graphic _ (by omega)
    · exact alphabet_graphic _ (by omega)
    · exact ih byte later

theorem contentType_plain {value : List UInt8}
    (here : value = bytes "application/json; charset=UTF-8" ∨
      value = bytes "text/html; charset=UTF-8") :
    (⟨bytes "Content-Type", value⟩ : Http.Field).Plain := by
  obtain rfl | rfl := here
  all_goals exact ⟨by decide +kernel, by decide +kernel, by decide +kernel, by decide +kernel,
    by decide +kernel⟩

theorem response_plain (reply : Reply) : reply.response.Plain := by
  cases reply with
  | json body =>
    refine ⟨show Http.space ∉ bytes "HTTP/1.0" by decide +kernel,
      show Http.space ∉ bytes "200" by decide +kernel,
      show Http.cr ∉ bytes "HTTP/1.0" ++ Http.space :: bytes "200" ++ Http.space :: bytes "OK" by
        decide +kernel, ?_⟩
    simp only [Reply.response, List.mem_cons, List.not_mem_nil, or_false]
    rintro field (rfl | rfl | rfl)
    · exact contentType_plain (.inl rfl)
    · exact Http.Field.plain_of_graphic (by decide +kernel) (by decide +kernel)
        (by decide +kernel)
    · refine Http.Field.plain_of_graphic (by decide +kernel) (by decide +kernel) ?_
      intro byte inside
      exact UInt8.lt_of_lt_of_le (show Http.space < 0x30 by decide)
        (Decimal.decimal_range _ byte inside).1
  | declined =>
    refine ⟨by decide +kernel, by decide +kernel, by decide +kernel, ?_⟩
    simp only [Reply.response, List.mem_cons, List.not_mem_nil, or_false]
    rintro field rfl
    exact contentType_plain (.inr rfl)
  | accepted wsKey =>
    refine ⟨show Http.space ∉ bytes "HTTP/1.1" by decide +kernel,
      show Http.space ∉ bytes "101" by decide +kernel,
      show Http.cr ∉ bytes "HTTP/1.1" ++ Http.space :: bytes "101" ++ Http.space ::
        bytes "Switching Protocols" by decide +kernel, ?_⟩
    simp only [Reply.response, List.mem_cons, List.not_mem_nil, or_false]
    rintro field (rfl | rfl | rfl)
    · exact Http.Field.plain_of_graphic (by decide +kernel) (by decide +kernel)
        (by decide +kernel)
    · exact Http.Field.plain_of_graphic (by decide +kernel) (by decide +kernel)
        (by decide +kernel)
    · exact Http.Field.plain_of_graphic (by decide +kernel) (by decide +kernel)
        (encode_graphic _)

theorem contentLength_json (body : List UInt8) :
    Http.contentLength (Reply.json body).response.fields = some (some body.length) := by
  have first : (bytes "Content-Type").map Http.lower ≠ Http.contentLengthName := by decide +kernel
  have second : (bytes "Cache-Control").map Http.lower ≠ Http.contentLengthName := by
    decide +kernel
  have third : (bytes "Content-Length").map Http.lower = Http.contentLengthName := by
    decide +kernel
  simp [Http.contentLength, Reply.response, List.find?, first, second, third,
    Http.number_decimal]

/-- The responses that a client reads. A declined request has no length and the connection stays
open, so that all that follows is part of its body. -/
def client : List Reply → List Http.Response
  | [] => []
  | .declined :: rest => [{ Reply.declined.response with
      body := Reply.declined.response.body ++ rest.flatMap Reply.render }]
  | .json body :: rest => (Reply.json body).response :: client rest
  | .accepted wsKey :: rest => (Reply.accepted wsKey).response :: client rest

theorem parseResponses_render (replies : List Reply) : ∀ fuel, replies.length ≤ fuel →
    StopsLast Reply.isAccepted replies →
    Http.parseResponses fuel (replies.flatMap Reply.render) = some (client replies, []) := by
  induction replies with
  | nil => exact fun fuel _ _ => Http.parseResponses_nil fuel
  | cons reply rest ih =>
    intro fuel enough stopsLast
    obtain ⟨fuel, rfl⟩ := Nat.exists_eq_add_one.mpr (Nat.lt_of_lt_of_le (Nat.succ_pos _) enough)
    obtain ⟨later, ends⟩ := stopsLast.tail
    have others := ih fuel (Nat.le_of_succ_le_succ enough) later
    have more := Http.render_ne_nil reply.response (rest.flatMap Reply.render)
    have read := Http.parseResponse_render (response_plain reply) (rest.flatMap Reply.render)
    rw [List.flatMap_cons, Reply.render, Http.parseResponses_cons more, read]
    cases reply with
    | json body =>
      have present : Http.bodiless (bytes "200") = false := by decide +kernel
      have stays : Http.switches (bytes "200") = false := by decide +kernel
      rw [show (Reply.json body).response.status = bytes "200" from rfl,
        show (Reply.json body).response.body = body from rfl,
        Http.takeBody_length present (contentLength_json body)]
      simp only [Option.map_some, Option.bind_eq_bind, Option.bind_some]
      rw [stays, if_neg Bool.false_ne_true, others]
      rfl
    | declined =>
      have present : Http.bodiless Reply.declined.response.status = false := by decide +kernel
      have stays : Http.switches Reply.declined.response.status = false := by decide +kernel
      have untold : Http.contentLength Reply.declined.response.fields = none := by decide +kernel
      rw [Http.takeBody_open present untold]
      simp only [Option.map_some, Option.bind_eq_bind, Option.bind_some, stays,
        Bool.false_eq_true, if_false, Http.parseResponses_nil]
      rfl
    | accepted wsKey =>
      obtain rfl := ends rfl
      have switches : Http.switches (bytes "101") = true := by decide +kernel
      have bodiless : Http.bodiless (bytes "101") = true := by decide +kernel
      rw [show (Reply.accepted wsKey).response.status = bytes "101" from rfl, Http.takeBody,
        if_pos bodiless]
      simp only [Option.map_some, Option.bind_eq_bind, Option.bind_some]
      rw [if_pos switches]
      rfl

/-- Whatever the requests, and however the reads cut them: a client reads the replies back one by
one, with the length of each body and the accept key right, up to the first that declines. -/
theorem replies_read (reads : List Read)
    (pauses : ∀ events ∈ (({} : HttpHandler).executeAll (reads.map (·.callbacks))).2,
      PausesOnUpgrade events)
    (fits : ∀ reply ∈ repliesFrom {} reads, reply.Fits) :
    ∃ writes, onReads {} reads = .ok (writes, (repliesFrom {} reads).any Reply.isAccepted) ∧
      Http.parseResponses (repliesFrom {} reads).length writes.flatten =
        some (client (repliesFrom {} reads), []) := by
  obtain ⟨writes, ran, flat⟩ := onReads_writes reads {} pauses fits
  refine ⟨writes, ran, ?_⟩
  rw [flat]
  exact parseResponses_render _ _ (Nat.le_refl _) (upTo_stopsLast _)

/-- The reads of a connection that asks for the version and then upgrades. -/
def versionThenUpgrade : List Read :=
  let read : Read := {
    delegate := InspectorAgentDelegate.addTarget {} (bytes "a") 0
    getTitle := fun _ => []
    serverPort := 9229
    stack := ⟨fun _ => 0, fun _ => 0⟩
    failed := false
    callbacks := [] }
  [{ read with callbacks := [.onPath (bytes "/json"), .onPath (bytes "/version"),
      .onMessageComplete false true] },
    { read with callbacks := [.onPath (bytes "/a"), .onHeaderField secWebSocketKey,
      .onHeaderValue (bytes "k"), .onMessageComplete true true] }]

theorem replies_read_upgrade :
    ∃ writes, onReads {} versionThenUpgrade = .ok (writes, true) ∧
      Http.parseResponses 2 writes.flatten =
        some ([(Reply.json versionJson).response, (Reply.accepted (bytes "k")).response], []) := by
  have replies : repliesFrom {} versionThenUpgrade =
      [.json versionJson, .accepted (bytes "k")] := by decide +kernel
  have read := replies_read versionThenUpgrade (by
      simp only [PausesOnUpgrade]
      decide +kernel) (by
    rw [replies]
    intro reply inside
    simp only [List.mem_cons, List.not_mem_nil, or_false] at inside
    rcases inside with rfl | rfl
    · exact show versionJson.length < 2 ^ 64 by decide +kernel
    · trivial)
  rw [replies] at read
  exact read

end V8Jsi.HttpResponses
