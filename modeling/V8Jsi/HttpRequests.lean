import V8Jsi.HttpHeaders

set_option autoImplicit false

/- Requests as the parser delivers them to `HttpHandler`, one behind the other on a
connection. Where llhttp cuts a path, a name or a value is up to the reads. -/
namespace V8Jsi.InspectorSocket

/-- A request. A header has at least one `OnHeaderValue`, and the request one
`OnMessageComplete`. -/
structure Request where
  pathPieces : List (List UInt8)
  headers : List Header
  upgrade : Bool
  isGET : Bool

/-- The header in one `OnHeaderField` and one `OnHeaderValue`. -/
def Header.whole (header : Header) : Header where
  namePieces := [header.name]
  valuePieces := [header.value]
  named := List.cons_ne_nil _ _
  valued := List.cons_ne_nil _ _

namespace Request

def callbacks (request : Request) : List ParserCallback :=
  request.pathPieces.map .onPath ++ request.headers.flatMap Header.callbacks ++
    [.onMessageComplete request.upgrade request.isGET]

/-- The request with its path, its names and its values in one piece each. -/
def whole (request : Request) : Request :=
  { request with
    pathPieces := [request.pathPieces.flatten]
    headers := request.headers.map Header.whole }

/-- The event of the request alone, each of its texts delivered at once. -/
def event (request : Request) : HttpEvent :=
  let handler := (({} : HttpHandler).onPath request.pathPieces.flatten).receive
    (request.headers.map Header.whole)
  { path := handler.path
    upgrade := request.upgrade
    isGET := request.isGET
    wsKey := handler.headerValue secWebSocketKey
    host := handler.headerValue hostHeader }

end Request

/-- One `OnData` after the other, and the events that each of them takes out. -/
def HttpHandler.executeAll (handler : HttpHandler) :
    List (List ParserCallback) → HttpHandler × List (List HttpEvent)
  | [] => (handler, [])
  | callbacks :: rest =>
      let (handler, events) := handler.execute callbacks
      let (last, more) := handler.executeAll rest
      (last, events :: more)

/-! ## One request -/

theorem onPath_pieces (pieces : List (List UInt8)) : ∀ handler : HttpHandler,
    (pieces.map ParserCallback.onPath).foldl HttpHandler.invoke handler =
      handler.onPath pieces.flatten := by
  induction pieces with
  | nil => intro handler; simp [HttpHandler.onPath]
  | cons piece rest ih =>
    intro handler
    rw [List.map_cons, List.foldl_cons, ih]
    simp [HttpHandler.invoke, HttpHandler.onPath]

/-- Headers leave the path and the events alone, and how they were cut is not seen. -/
theorem receive_eq (headers : List Header) : ∀ handler : HttpHandler, handler.NameStarts →
    (handler.receive headers).path = handler.path ∧
      (handler.receive headers).events = handler.events ∧
      handler.receive headers = handler.receive (headers.map Header.whole) := by
  induction headers with
  | nil => intro handler _; exact ⟨rfl, rfl, rfl⟩
  | cons header rest ih =>
    intro handler starts
    have same : header.callbacks.foldl HttpHandler.invoke handler =
        header.whole.callbacks.foldl HttpHandler.invoke handler := by
      have name : header.whole.name = header.name := by simp [Header.whole, Header.name]
      have value : header.whole.value = header.value := by simp [Header.whole, Header.value]
      rw [callbacks_header _ _ starts, callbacks_header _ _ starts, name, collect, collect, name,
        value]
    obtain ⟨path, events, cuts⟩ := ih (header.callbacks.foldl HttpHandler.invoke handler) (by
      rw [callbacks_header _ _ starts]
      exact Or.inl rfl)
    rw [receive_cons, path, events, cuts, List.map_cons, receive_cons, ← same,
      callbacks_header _ _ starts]
    exact ⟨rfl, rfl, rfl⟩

/-- A request at the start of a message adds its event, and the handler is at the start of
a message again. -/
theorem callbacks_request (request : Request) (earlier : List HttpEvent) :
    request.callbacks.foldl HttpHandler.invoke { events := earlier } =
      { events := earlier ++ [request.event] } := by
  have starts : ∀ events : List HttpEvent,
      (({ events := events } : HttpHandler).onPath request.pathPieces.flatten).NameStarts :=
    fun _ => Or.inr rfl
  obtain ⟨path, events, cuts⟩ := receive_eq request.headers _ (starts earlier)
  obtain ⟨alonePath, -, aloneCuts⟩ := receive_eq request.headers _ (starts [])
  have headers : ((({ events := earlier } : HttpHandler).onPath
      request.pathPieces.flatten).receive request.headers).headers =
      ((({} : HttpHandler).onPath request.pathPieces.flatten).receive
        (request.headers.map Header.whole)).headers := by
    rw [← aloneCuts, receive_headers _ _ (starts earlier), receive_headers _ _ (starts [])]
    rfl
  have value : ∀ name, ((({ events := earlier } : HttpHandler).onPath
      request.pathPieces.flatten).receive request.headers).headerValue name =
      ((({} : HttpHandler).onPath request.pathPieces.flatten).receive
        (request.headers.map Header.whole)).headerValue name := by
    intro name
    rw [HttpHandler.headerValue, headers]
    rfl
  rw [Request.callbacks, List.foldl_append, List.foldl_append, onPath_pieces]
  change (((({ events := earlier } : HttpHandler).onPath
    request.pathPieces.flatten).receive request.headers).onMessageComplete _ _) = _
  rw [HttpHandler.onMessageComplete, path, events, value, value, Request.event, ← aloneCuts,
    alonePath]
  rfl

/-! ## A connection -/

theorem callbacks_requests (requests : List Request) : ∀ earlier : List HttpEvent,
    (requests.flatMap Request.callbacks).foldl HttpHandler.invoke { events := earlier } =
      { events := earlier ++ requests.map Request.event } := by
  induction requests with
  | nil => intro earlier; simp
  | cons request rest ih =>
    intro earlier
    rw [List.flatMap_cons, List.foldl_append, callbacks_request, ih]
    simp

theorem event_whole (request : Request) : request.whole.event = request.event := by
  have twice : Header.whole ∘ Header.whole = Header.whole := by
    funext header
    simp [Header.whole, Header.name, Header.value]
  simp [Request.event, Request.whole, twice]

/-- A callback does not read the events. -/
theorem invoke_events (handler : HttpHandler) (earlier : List HttpEvent)
    (callback : ParserCallback) :
    ({ handler with events := earlier ++ handler.events } : HttpHandler).invoke callback =
      { handler.invoke callback with events := earlier ++ (handler.invoke callback).events } := by
  cases callback with
  | onPath text => rfl
  | onHeaderField text =>
    simp only [HttpHandler.invoke, HttpHandler.onHeaderField]
    split <;> rfl
  | onHeaderValue text => rfl
  | onMessageComplete upgrade isGET =>
    simp [HttpHandler.invoke, HttpHandler.onMessageComplete, HttpHandler.headerValue]

theorem foldl_invoke_events (callbacks : List ParserCallback) (earlier : List HttpEvent) :
    ∀ handler : HttpHandler, callbacks.foldl HttpHandler.invoke
        { handler with events := earlier ++ handler.events } =
      { callbacks.foldl HttpHandler.invoke handler with
        events := earlier ++ (callbacks.foldl HttpHandler.invoke handler).events } := by
  induction callbacks with
  | nil => intro handler; rfl
  | cons callback rest ih =>
    intro handler
    rw [List.foldl_cons, List.foldl_cons, invoke_events, ih]

/-- The reads together take out what one read of all callbacks would. -/
theorem executeAll_eq (reads : List (List ParserCallback)) : ∀ handler : HttpHandler,
    handler.events = [] →
    (handler.executeAll reads).1 =
        { reads.flatten.foldl HttpHandler.invoke handler with events := [] } ∧
      (handler.executeAll reads).2.flatten =
        (reads.flatten.foldl HttpHandler.invoke handler).events := by
  induction reads with
  | nil =>
    intro handler none
    obtain ⟨parsingValue, events, currentHeader, headers, path⟩ := handler
    cases none
    exact ⟨rfl, rfl⟩
  | cons callbacks rest ih =>
    intro handler none
    obtain ⟨last, more⟩ := ih (handler.execute callbacks).1 rfl
    have joined := foldl_invoke_events rest.flatten (handler.execute callbacks).2
      (handler.execute callbacks).1
    have after : ({ (handler.execute callbacks).1 with
        events := (handler.execute callbacks).2 ++ (handler.execute callbacks).1.events } :
          HttpHandler) = callbacks.foldl HttpHandler.invoke handler := by
      simp [HttpHandler.execute]
    rw [after] at joined
    rw [List.flatten_cons, List.foldl_append, joined]
    simp only [HttpHandler.executeAll, List.flatten_cons]
    exact ⟨last, congrArg _ more⟩

/-- Every request of a connection makes one event, with the path, the key and the host that
it has when each of its texts comes at once and nothing came before it. -/
theorem requests_reassembled (requests : List Request) (earlier : List HttpEvent)
    (reads : List (List ParserCallback))
    (cut : reads.flatten = requests.flatMap Request.callbacks) :
    (requests.flatMap Request.callbacks).foldl HttpHandler.invoke { events := earlier } =
        { events := earlier ++ requests.map Request.event } ∧
      ((requests.map Request.whole).flatMap Request.callbacks).foldl HttpHandler.invoke
          { events := earlier } =
        { events := earlier ++ requests.map Request.event } ∧
      (({} : HttpHandler).executeAll reads).1 = {} ∧
      (({} : HttpHandler).executeAll reads).2.flatten = requests.map Request.event := by
  obtain ⟨last, events⟩ := executeAll_eq reads {} rfl
  have all := callbacks_requests requests []
  refine ⟨callbacks_requests requests earlier, ?_, ?_, ?_⟩
  · rw [callbacks_requests, List.map_map]
    congr 2
    exact List.map_congr_left fun request _ => event_whole request
  · rw [last, cut, all]
  · rw [events, cut, all]
    rfl

/-- Two requests in two reads, cut inside the name of the first one's host. -/
theorem two_requests_reassembled :
    (({} : HttpHandler).executeAll
        [[.onPath [0x2F], .onPath [0x61], .onHeaderField [0x48, 0x6F]],
          [.onHeaderField [0x73, 0x74], .onHeaderValue [], .onHeaderValue [0x78],
            .onMessageComplete false true, .onPath [0x2F],
            .onMessageComplete false true]]).2.flatten =
      [{ path := [0x2F, 0x61], upgrade := false, isGET := true, wsKey := [], host := [0x78] },
        { path := [0x2F], upgrade := false, isGET := true, wsKey := [], host := [] }] := by
  exact (requests_reassembled
    [⟨[[0x2F], [0x61]], [⟨[[0x48, 0x6F], [0x73, 0x74]], [[], [0x78]], by simp, by simp⟩], false,
      true⟩, ⟨[[0x2F]], [], false, true⟩] [] _ (by rfl)).2.2.2.trans (by decide)

end V8Jsi.InspectorSocket
