import V8Jsi.SocketServer

set_option autoImplicit false

/- The HTTP side of a connection: `HttpHandler` of inspector_socket.cpp. The
parser itself is generated code of llhttp, and the handler sees only the callbacks
it makes. Strings are byte lists. -/
namespace V8Jsi.InspectorSocket

open SocketServer

def colon : UInt8 := 0x3A
def dot : UInt8 := 0x2E
def openBracket : UInt8 := 0x5B
def closeBracket : UInt8 := 0x5D

def rfind (string : List UInt8) (c : UInt8) : Option Nat :=
  (string.reverse.findIdx? (· == c)).map (string.length - 1 - ·)

def trimPort (host : List UInt8) : List UInt8 :=
  match rfind host colon with
  | none => host
  | some lastColonPos =>
      match rfind host closeBracket with
      | none => host.take lastColonPos
      | some bracket => if lastColonPos > bracket then host.take lastColonPos else host

def isDigit (c : UInt8) : Bool := 0x30 ≤ c && c ≤ 0x39

def countQuads : List UInt8 → Nat → Bool
  | [], quads => quads == 3
  | c :: rest, quads =>
      if c = dot then countQuads rest (quads + 1)
      else if !isDigit c then false
      else countQuads rest quads

def isIPAddress (host : List UInt8) : Bool :=
  if host.length ≥ 4 ∧ host.head? = some openBracket ∧ host.getLast? = some closeBracket then true
  else countQuads host 0

/-- Both arguments are C strings, which end at their first zero byte. -/
def stringEqualNoCase : List UInt8 → List UInt8 → Bool
  | [], b => charAt b 0 == 0
  | a :: as, b =>
      if a = 0 then charAt b 0 == 0
      else
        match b with
        | [] => false
        | b :: bs => b ≠ 0 && toLower a == toLower b && stringEqualNoCase as bs

def localhost : List UInt8 := [0x6C, 0x6F, 0x63, 0x61, 0x6C, 0x68, 0x6F, 0x73, 0x74]
def localhost6 : List UInt8 := localhost ++ [0x36]

def isAllowedHost (hostWithPort : List UInt8) : Bool :=
  let host := trimPort hostWithPort
  host.isEmpty || isIPAddress host || stringEqualNoCase host localhost ||
    stringEqualNoCase host localhost6

structure HttpEvent where
  path : List UInt8
  upgrade : Bool
  isGET : Bool
  wsKey : List UInt8
  host : List UInt8
  deriving DecidableEq, Repr

/-- The callbacks of the parser. The last one carries `parser->upgrade` and whether
the method is GET. -/
inductive ParserCallback
  | onPath (text : List UInt8)
  | onHeaderField (text : List UInt8)
  | onHeaderValue (text : List UInt8)
  | onMessageComplete (upgrade isGET : Bool)
  deriving DecidableEq, Repr

structure HttpHandler where
  parsingValue : Bool := false
  events : List HttpEvent := []
  currentHeader : List UInt8 := []
  headers : AList fun _ : List UInt8 => List UInt8 := ∅
  path : List UInt8 := []

/-- "Sec-WebSocket-Key" and "Host". -/
def secWebSocketKey : List UInt8 :=
  [0x53, 0x65, 0x63, 0x2D, 0x57, 0x65, 0x62, 0x53, 0x6F, 0x63, 0x6B, 0x65, 0x74, 0x2D, 0x4B,
    0x65, 0x79]
def hostHeader : List UInt8 := [0x48, 0x6F, 0x73, 0x74]

namespace HttpHandler

/-- The loop of `HeaderValue` over the map, with the value found so far. -/
def headerValueLoop (header : List UInt8) :
    List (Sigma fun _ : List UInt8 => List UInt8) → Option (List UInt8) → List UInt8
  | [], found => found.getD []
  | entry :: rest, found =>
      if stringEqualNoCaseN entry.1 header 0 header.length then
        match found with
        | some _ => []
        | none => headerValueLoop header rest (some entry.2)
      else headerValueLoop header rest found

def headerValue (handler : HttpHandler) (header : List UInt8) : List UInt8 :=
  headerValueLoop header handler.headers.entries none

def onPath (handler : HttpHandler) (text : List UInt8) : HttpHandler :=
  { handler with path := handler.path ++ text }

def onHeaderField (handler : HttpHandler) (text : List UInt8) : HttpHandler :=
  if handler.parsingValue then { handler with parsingValue := false, currentHeader := text }
  else { handler with currentHeader := handler.currentHeader ++ text }

def onHeaderValue (handler : HttpHandler) (text : List UInt8) : HttpHandler :=
  let value := (handler.headers.lookup handler.currentHeader).getD []
  { handler with
    parsingValue := true
    headers := handler.headers.insert handler.currentHeader (value ++ text) }

def onMessageComplete (handler : HttpHandler) (upgrade isGET : Bool) : HttpHandler where
  events := handler.events ++ [{
    path := handler.path
    upgrade, isGET
    wsKey := handler.headerValue secWebSocketKey
    host := handler.headerValue hostHeader }]

def invoke (handler : HttpHandler) : ParserCallback → HttpHandler
  | .onPath text => handler.onPath text
  | .onHeaderField text => handler.onHeaderField text
  | .onHeaderValue text => handler.onHeaderValue text
  | .onMessageComplete upgrade isGET => handler.onMessageComplete upgrade isGET

/-- `llhttp_execute` on one read, and the swap that takes the events out. -/
def execute (handler : HttpHandler) (callbacks : List ParserCallback) :
    HttpHandler × List HttpEvent :=
  let after := callbacks.foldl invoke handler
  ({ after with events := [] }, after.events)

end HttpHandler

end V8Jsi.InspectorSocket
