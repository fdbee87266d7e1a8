import V8Jsi.HttpHandler
import V8Jsi.Lib.Decimal
import V8Jsi.Lib.Json

set_option autoImplicit false

/- The list of targets that `InspectorSocketServer::SendListResponse` answers `/json/list`
with, and the titles that `AgentImpl` makes of the scripts it has loaded. The answer is
JSON that is put together by hand. -/
namespace V8Jsi.TargetList

open Unicode Json
open InspectorSocket (isAllowedHost openBracket closeBracket)
open SocketServer (InspectorAgentDelegate)

def bytes (string : String) : List UInt8 := utf8Encode string.toList

def escape (string : List UInt8) : List UInt8 :=
  string.map fun c => if c = quote ∨ c = backslash then 0x5F else c

def formatHostPort (host : List UInt8) (port : UInt16) : List UInt8 :=
  (if colon ∈ host then openBracket :: host ++ [closeBracket] else host) ++
    colon :: Decimal.decimal port.toNat

def formatAddress (host targetId : List UInt8) (includeProtocol : Bool) : List UInt8 :=
  (if includeProtocol then bytes "ws://" else []) ++ host ++ 0x2F :: targetId

/-- The loop of `MapToString`. -/
def namedValues (first : Bool) : List (String × List UInt8) → List UInt8
  | [] => []
  | (name, value) :: rest =>
      (if first then [] else bytes ",\n") ++ bytes "  \"" ++ bytes name ++ bytes "\": \"" ++
        value ++ bytes "\"" ++ namedValues false rest

def mapToString (object : List (String × List UInt8)) : List UInt8 :=
  bytes "\x7b\n" ++ namedValues true object ++ bytes "\n\x7d "

/-- The loop of `MapsToString`. -/
def objects (first : Bool) : List (List (String × List UInt8)) → List UInt8
  | [] => []
  | object :: rest =>
      (if first then [] else bytes ", ") ++ mapToString object ++ objects false rest

def mapsToString (array : List (List (String × List UInt8))) : List UInt8 :=
  bytes "[ " ++ objects true array ++ bytes "]\n\n"

def getFrontendURL (isCompat : Bool) (formattedAddress : List UInt8) : List UInt8 :=
  bytes "devtools://devtools/bundled/" ++ bytes (if isCompat then "inspector" else "node_app") ++
    bytes ".html?experiments=true&v8only=true&ws=" ++ formattedAddress

def getTargetUrl (id : List UInt8) : List UInt8 := bytes "file://" ++ id

/-- `ProtocolHandler::GetHost` is yet to be done. -/
def getHost : List UInt8 := []

def detectedHost (host : List UInt8) (serverPort : UInt16) : List UInt8 :=
  if host.isEmpty then formatHostPort getHost serverPort else host

/-- A `target_map`, in the order of its keys. -/
def targetMap (detectedHost id title : List UInt8) : List (String × List UInt8) :=
  [("description", bytes "node.js instance"),
   ("devtoolsFrontendUrl", getFrontendURL false (formatAddress detectedHost id false)),
   ("devtoolsFrontendUrlCompat", getFrontendURL true (formatAddress detectedHost id false)),
   ("faviconUrl", bytes "https://nodejs.org/static/favicon.ico"),
   ("id", id),
   ("title", escape title),
   ("type", bytes "node"),
   ("url", escape (getTargetUrl id)),
   ("webSocketDebuggerUrl", formatAddress detectedHost id true)]

/-- The ids of `GetTargetIds` with the titles of their agents. -/
def targets (delegate : InspectorAgentDelegate) (getTitle : Nat → List UInt8) :
    List (List UInt8 × List UInt8) :=
  delegate.targetsMap.entries.map fun entry => (entry.1, getTitle entry.2)

/-- The body of the answer. -/
def sendListResponse (delegate : InspectorAgentDelegate) (getTitle : Nat → List UInt8)
    (host : List UInt8) (serverPort : UInt16) : List UInt8 :=
  mapsToString ((targets delegate getTitle).map fun target =>
    targetMap (detectedHost host serverPort) target.1 target.2)

/-! ## Ids and titles -/

/-- `%04x` -/
def hexDigits (value : UInt16) : List UInt8 :=
  [value.toNat / 0x1000, value.toNat / 0x100 % 16, value.toNat / 0x10 % 16, value.toNat % 16].map
    fun digit => UInt8.ofNat (Nat.digitChar digit).toNat

/-- `GenerateID` for the random numbers it has drawn. -/
def generateID (buffer : Fin 8 → UInt16) : List UInt8 :=
  hexDigits (buffer 0) ++ hexDigits (buffer 1) ++ bytes "-" ++ hexDigits (buffer 2) ++ bytes "-" ++
    hexDigits (buffer 3 &&& 0x0FFF ||| 0x4000) ++ bytes "-" ++
    hexDigits (buffer 4 &&& 0x3FFF ||| 0x8000) ++ bytes "-" ++ hexDigits (buffer 5) ++
    hexDigits (buffer 6) ++ hexDigits (buffer 7)

/-- `std::string::npos` -/
def npos : Nat := 2 ^ 64 - 1

/-- `find_last_of("/\\", pos)` -/
def findLastOf (url : List UInt8) (pos : Nat) : Option Nat :=
  (List.range (min (pos + 1) url.length)).reverse.find? fun i =>
    url[i]? = some 0x2F || url[i]? = some backslash

/-- One before a position; before the first one stands `npos`. -/
def before (found : Nat) : Nat := if found = 0 then npos else found - 1

def newUrlSuffix (url : List UInt8) : List UInt8 :=
  match findLastOf url npos with
  | none => url
  | some found =>
      match findLastOf url (before found) with
      | none => bytes "..." ++ url
      | some found =>
          match findLastOf url (before found) with
          | none => bytes "..." ++ url
          | some found => bytes "..." ++ url.drop (found + 1)

structure AgentTitle where
  title : List UInt8 := []
  loadedUrls : List UInt8 := []
  deriving DecidableEq, Repr

namespace AgentTitle

def addContext (agent : AgentTitle) (contextName : List UInt8) : AgentTitle :=
  { agent with title := contextName }

def notifyLoadedUrl (agent : AgentTitle) (url : List UInt8) : AgentTitle :=
  let loadedUrls :=
    (if agent.loadedUrls.length > 0 then agent.loadedUrls ++ bytes ", " else agent.loadedUrls) ++
      newUrlSuffix url
  { title := bytes "V8JSI Host(" ++ loadedUrls ++ bytes ")", loadedUrls }

/-- A call that changes the title. -/
inductive Call
  | addContext (contextName : List UInt8)
  | notifyLoadedUrl (url : List UInt8)
  deriving DecidableEq, Repr

def call (agent : AgentTitle) : Call → AgentTitle
  | .addContext contextName => agent.addContext contextName
  | .notifyLoadedUrl url => agent.notifyLoadedUrl url

end AgentTitle

/-! ## What the list should say -/

/-- The strings that the object of a target should have. -/
def intended (host id title : List UInt8) : List (String × List UInt8) :=
  [("description", bytes "node.js instance"),
   ("devtoolsFrontendUrl",
    bytes "devtools://devtools/bundled/node_app.html?experiments=true&v8only=true&ws=" ++
      host ++ 0x2F :: id),
   ("devtoolsFrontendUrlCompat",
    bytes "devtools://devtools/bundled/inspector.html?experiments=true&v8only=true&ws=" ++
      host ++ 0x2F :: id),
   ("faviconUrl", bytes "https://nodejs.org/static/favicon.ico"),
   ("id", id),
   ("title", escape title),
   ("type", bytes "node"),
   ("url", bytes "file://" ++ id),
   ("webSocketDebuggerUrl", bytes "ws://" ++ host ++ 0x2F :: id)]

/-- The object has each of the strings under its name. -/
def Describes (host : List UInt8) (target : List UInt8 × List UInt8) (object : Value) : Prop :=
  ∀ field ∈ intended host target.1 target.2, ∃ units, transcode field.2 = some units ∧
    object.field (utf16Encode field.1.toList) = some (.string units)

/-- The body is a JSON array with one object for each target. -/
def ListsTargets (body host : List UInt8) (targets : List (List UInt8 × List UInt8)) : Prop :=
  ∃ listed elements, listed.Perm targets ∧ Derives (.value (.array elements)) body ∧
    List.Forall₂ (Describes host) listed elements

/-- Valid UTF-8 without quotes, backslashes and control characters. -/
def Printable (string : List UInt8) : Prop :=
  ∃ text, utf8Encode text = string ∧ ∀ char ∈ text, Plain char

/-! ## Printable strings -/

theorem Printable.nil : Printable [] := ⟨[], rfl, by simp⟩

theorem Printable.append {front back : List UInt8} (first : Printable front)
    (second : Printable back) : Printable (front ++ back) := by
  obtain ⟨left, rfl, leftPlain⟩ := first
  obtain ⟨right, rfl, rightPlain⟩ := second
  refine ⟨left ++ right, List.flatMap_append, ?_⟩
  intro char inside
  rcases List.mem_append.mp inside with here | here
  · exact leftPlain char here
  · exact rightPlain char here

/-- The characters of a constant are at hand, while its bytes have to be decoded. -/
theorem plainText_ofList {chars : List Char} (plain : plainText chars = true) :
    plainText (String.ofList chars).toList = true := by
  rw [String.toList_ofList]
  exact plain

theorem Printable.constant {chars : List Char} (plain : plainText chars = true) :
    Printable (bytes (String.ofList chars)) :=
  ⟨_, rfl, plain_of_plainText (plainText_ofList plain)⟩

/-- An ASCII byte that stands for itself. -/
def plainByte (byte : UInt8) : Bool :=
  0x20 ≤ byte && byte < 0x80 && byte ≠ quote && byte ≠ backslash

theorem plainByte_char {byte : UInt8} (plain : plainByte byte = true) {char : Char}
    (same : char.toNat = byte.toNat) : Plain char := by
  simp only [plainByte, Bool.and_eq_true, decide_eq_true_eq, ne_eq, UInt8.le_iff_toNat_le,
    UInt8.lt_iff_toNat_lt, ← UInt8.toNat_inj] at plain
  obtain ⟨⟨⟨least, most⟩, unquoted⟩, unescaped⟩ := plain
  rw [plain_iff, same]
  exact ⟨least, unquoted, unescaped⟩

theorem Printable.ascii {string : List UInt8} (plain : ∀ byte ∈ string, plainByte byte = true) :
    Printable string := by
  have small : ∀ byte ∈ string, byte < 0x80 := by
    intro byte inside
    have here := plain byte inside
    simp only [plainByte, Bool.and_eq_true, decide_eq_true_eq] at here
    exact here.1.1.2
  refine ⟨string.map fun byte => Char.ofNat byte.toNat, ?_, ?_⟩
  · clear plain
    induction string with
    | nil => rfl
    | cons byte rest ih =>
      rw [List.map_cons, utf8Encode_cons, utf8EncodeChar_ascii (small byte (.head _)),
        ih fun other inside => small other (.tail _ inside)]
      rfl
  · intro char inside
    obtain ⟨byte, here, rfl⟩ := List.mem_map.mp inside
    have below : byte.toNat < 0x80 := UInt8.lt_iff_toNat_lt.mp (small byte here)
    have valid : byte.toNat.isValidChar := .inl (by omega)
    apply plainByte_char (plain byte here)
    rw [Char.ofNat, dif_pos valid]
    rfl

/-- A string is printable when its parts around an ASCII byte are. -/
theorem printable_split {byte : UInt8} (plain : plainByte byte = true) (front back : List UInt8) :
    Printable (front ++ byte :: back) ↔ Printable front ∧ Printable back := by
  constructor
  · rintro ⟨text, whole, plainText⟩
    have ascii : byte < 0x80 := by
      simp only [plainByte, Bool.and_eq_true, decide_eq_true_eq] at plain
      exact plain.1.1.2
    obtain ⟨first, char, last, rfl, firstBytes, -, lastBytes⟩ :=
      utf8Encode_split ascii back text front whole
    exact ⟨⟨first, firstBytes, fun other inside => plainText other (by simp [inside])⟩,
      last, lastBytes, fun other inside => plainText other (by simp [inside])⟩
  · rintro ⟨first, second⟩
    have single : Printable [byte] := .ascii (by simpa using plain)
    exact first.append (single.append second)

theorem Printable.not_special {string : List UInt8} (printable : Printable string) :
    quote ∉ string ∧ backslash ∉ string ∧ ∀ byte ∈ string, 0x20 ≤ byte := by
  obtain ⟨text, rfl, plain⟩ := printable
  have char_of {byte : UInt8} (ascii : byte < 0x80) (inside : byte ∈ utf8Encode text) :
      ∃ char ∈ text, char.toNat = byte.toNat := by
    obtain ⟨char, here, member⟩ := List.mem_flatMap.mp inside
    exact ⟨char, here, (utf8EncodeChar_of_mem ascii member).2⟩
  refine ⟨fun inside => ?_, fun inside => ?_, fun byte inside => ?_⟩
  · obtain ⟨char, here, same⟩ := char_of (by decide) inside
    exact ((plain_iff char).mp (plain char here)).2.1 same
  · obtain ⟨char, here, same⟩ := char_of (by decide) inside
    exact ((plain_iff char).mp (plain char here)).2.2 same
  · by_contra control
    have small : byte < 0x20 := UInt8.not_le.mp control
    obtain ⟨char, here, same⟩ := char_of (UInt8.lt_trans small (by decide)) inside
    have visible := ((plain_iff char).mp (plain char here)).1
    rw [same] at visible
    exact control (UInt8.le_iff_toNat_le.mpr visible)

/-- There is nothing to replace in a printable string. -/
theorem Printable.escape {string : List UInt8} (printable : Printable string) :
    escape string = string := by
  obtain ⟨unquoted, unescaped, -⟩ := printable.not_special
  have kept : ∀ byte ∈ string, (if byte = quote ∨ byte = backslash then 0x5F else byte) = byte := by
    intro byte inside
    apply if_neg
    rintro (rfl | rfl)
    · exact unquoted inside
    · exact unescaped inside
  rw [TargetList.escape, List.map_congr_left kept, List.map_id']

theorem weight_escape (string : List UInt8) : weight (escape string) = weight string := by
  rw [escape, weight, List.countP_map, weight]
  congr 1
  funext byte
  rw [Function.comp_apply]
  split
  · rename_i replaced
    rcases replaced with rfl | rfl
    · rfl
    · rfl
  · rfl

/-! ## The printed text -/

/-- A name and a value as JSON has them. -/
def decoded (field : String × List UInt8) : List UInt16 × Value :=
  (utf16Encode field.1.toList, .string ((transcode field.2).getD []))

/-- Fields that can be printed as they are. -/
def AllPrintable (fields : List (String × List UInt8)) : Prop :=
  ∀ field ∈ fields, plainText field.1.toList = true ∧ Printable field.2

theorem Printable.derives {value : List UInt8} (printable : Printable value) :
    Derives (.value (.string ((transcode value).getD []))) (quote :: value ++ [quote]) := by
  obtain ⟨text, rfl, plain⟩ := printable
  rw [transcode_utf8Encode]
  exact .string (Content.of_plain plain)

/-- Spaces stand before the name and the value, and a line may end after it. -/
theorem member_derives {field : String × List UInt8} (plain : plainText field.1.toList = true)
    (printable : Printable field.2) {back : List UInt8} (space : back.all isSpace) :
    Derives (.member (decoded field).1 (decoded field).2)
      (bytes "\n  \"" ++ bytes field.1 ++ bytes "\": \"" ++ field.2 ++ bytes "\"" ++ back) := by
  have front : (bytes "\n  ").all isSpace = true := by decide
  have value := Derives.spaced (show [0x20].all isSpace = true from rfl) space printable.derives
  have whole := Derives.member front (Content.of_plain (plain_of_plainText plain))
    (show [].all isSpace = true from rfl) value
  have same : bytes "\n  " ++ (quote :: utf8Encode field.1.toList ++ [quote]) ++ [] ++
      colon :: ([0x20] ++ (quote :: field.2 ++ [quote]) ++ back) =
      bytes "\n  \"" ++ bytes field.1 ++ bytes "\": \"" ++ field.2 ++ bytes "\"" ++ back := by
    have opening : bytes "\n  \"" = bytes "\n  " ++ [quote] := rfl
    have middle : bytes "\": \"" = [quote, colon, 0x20, quote] := rfl
    have closing : bytes "\"" = [quote] := rfl
    have name : bytes field.1 = utf8Encode field.1.toList := rfl
    rw [opening, middle, closing, name]
    simp
  rw [same] at whole
  exact whole

theorem namedValues_false {fields : List (String × List UInt8)} (some : fields ≠ []) :
    namedValues false fields = comma :: bytes "\n" ++ namedValues true fields := by
  cases fields with
  | nil => exact absurd rfl some
  | cons field rest =>
    have separator : bytes ",\n" = comma :: bytes "\n" := rfl
    rw [namedValues, namedValues, separator]
    simp

theorem members_derive {fields : List (String × List UInt8)} (some : fields ≠ [])
    (printable : AllPrintable fields) :
    Derives (.members (fields.map decoded)) (bytes "\n" ++ namedValues true fields ++ bytes "\n") := by
  induction fields with
  | nil => exact absurd rfl some
  | cons field rest ih =>
    obtain ⟨plain, value⟩ := printable field (.head _)
    have opening : bytes "\n  \"" = bytes "\n" ++ bytes "  \"" := rfl
    by_cases last : rest = []
    · have member := Derives.lastMember
        (member_derives plain value (show (bytes "\n").all isSpace = true by decide))
      rw [last]
      rw [opening] at member
      simpa [namedValues] using member
    · have more := ih last fun other inside => printable other (.tail _ inside)
      have member := Derives.moreMembers
        (member_derives plain value (show [].all isSpace = true from rfl)) more
      rw [opening] at member
      rw [namedValues, namedValues_false last]
      simpa using member

theorem mapToString_derives {fields : List (String × List UInt8)} (some : fields ≠ [])
    (printable : AllPrintable fields) :
    Derives (.value (.object (fields.map decoded))) (mapToString fields) := by
  have whole := Derives.spaced (show [].all isSpace = true from rfl)
    (show [0x20].all isSpace = true from rfl) (Derives.object (members_derive some printable))
  have opening : bytes "\x7b\n" = 0x7B :: bytes "\n" := rfl
  have closing : bytes "\n\x7d " = bytes "\n" ++ [0x7D, 0x20] := rfl
  rw [mapToString, opening, closing]
  simpa using whole

theorem objects_false {array : List (List (String × List UInt8))} (some : array ≠ []) :
    objects false array = comma :: 0x20 :: objects true array := by
  cases array with
  | nil => exact absurd rfl some
  | cons object rest =>
    have separator : bytes ", " = [comma, 0x20] := rfl
    rw [objects, objects, separator]
    simp

theorem elements_derive {array : List (List (String × List UInt8))} (some : array ≠ [])
    (printable : ∀ object ∈ array, object ≠ [] ∧ AllPrintable object) :
    Derives (.elements (array.map fun object => .object (object.map decoded)))
      (0x20 :: objects true array) := by
  induction array with
  | nil => exact absurd rfl some
  | cons object rest ih =>
    obtain ⟨fields, plain⟩ := printable object (.head _)
    have first := Derives.spaced (show [0x20].all isSpace = true from rfl)
      (show [].all isSpace = true from rfl) (mapToString_derives fields plain)
    by_cases last : rest = []
    · have element := Derives.lastElement first
      rw [last]
      simpa [objects] using element
    · have more := ih last fun other inside => printable other (.tail _ inside)
      have element := Derives.moreElements first more
      rw [objects, objects_false last]
      simpa using element

/-- A text whose fields can be printed as they are is JSON. -/
theorem mapsToString_derives {array : List (List (String × List UInt8))}
    (printable : ∀ object ∈ array, object ≠ [] ∧ AllPrintable object) :
    Derives (.value (.array (array.map fun object => .object (object.map decoded))))
      (mapsToString array) := by
  have opening : bytes "[ " = [0x5B, 0x20] := rfl
  have closing : bytes "]\n\n" = 0x5D :: bytes "\n\n" := rfl
  have lines : (bytes "\n\n").all isSpace = true := by decide
  by_cases empty : array = []
  · have whole := Derives.spaced (show [].all isSpace = true from rfl) lines
      (Derives.emptyArray (show [0x20].all isSpace = true from rfl))
    rw [empty, mapsToString, opening, closing]
    simpa [objects] using whole
  · have whole := Derives.spaced (show [].all isSpace = true from rfl) lines
      (Derives.array (elements_derive empty printable))
    rw [mapsToString, opening, closing]
    simpa using whole

/-! ## Its weight -/

/-- A name and a value with the quotes, the colon and a comma. -/
def fieldWeight (field : String × List UInt8) : Nat := 6 + weight (bytes field.1) + weight field.2

theorem weight_namedValues (fields : List (String × List UInt8)) :
    weight (namedValues false fields) = (fields.map fieldWeight).sum := by
  induction fields with
  | nil => rfl
  | cons field rest ih =>
    have separator : weight (bytes ",\n") = 1 := by decide
    have opening : weight (bytes "  \"") = 1 := by decide
    have middle : weight (bytes "\": \"") = 3 := by decide
    have closing : weight (bytes "\"") = 1 := by decide
    rw [namedValues, List.map_cons, List.sum_cons, ← ih, fieldWeight]
    simp only [Bool.false_eq_true, if_false, weight_append, separator, opening, middle, closing]
    omega

theorem weight_mapToString {fields : List (String × List UInt8)} (some : fields ≠ []) :
    weight (mapToString fields) = 1 + (fields.map fieldWeight).sum := by
  have opening : weight (bytes "\x7b\n") = 1 := by decide
  have closing : weight (bytes "\n\x7d ") = 1 := by decide
  have line : weight (bytes "\n") = 0 := by decide
  have members := weight_namedValues fields
  rw [namedValues_false some, weight_append, weight_cons, line] at members
  rw [mapToString, weight_append, weight_append, opening, closing]
  have separator : (if isSpace comma then 0 else 1) = 1 := by decide
  omega

theorem weight_objects (array : List (List (String × List UInt8))) :
    weight (objects false array) = (array.map fun object => weight (mapToString object) + 1).sum := by
  induction array with
  | nil => rfl
  | cons object rest ih =>
    have separator : weight (bytes ", ") = 1 := by decide
    rw [objects, List.map_cons, List.sum_cons, ← ih]
    simp only [Bool.false_eq_true, if_false, weight_append, separator]
    omega

theorem weight_mapsToString {array : List (List (String × List UInt8))} (some : array ≠ []) :
    weight (mapsToString array) =
      1 + (array.map fun object => weight (mapToString object) + 1).sum := by
  have opening : weight (bytes "[ ") = 1 := by decide
  have closing : weight (bytes "]\n\n") = 1 := by decide
  have elements := weight_objects array
  rw [objects_false some, weight_cons, weight_cons] at elements
  rw [mapsToString, weight_append, weight_append, opening, closing]
  have separator : (if isSpace comma then 0 else 1) = 1 := by decide
  have blank : (if isSpace 0x20 then 0 else 1) = 0 := by decide
  omega

/-! ## The list of targets -/

/-- Sums that leave no room leave none for a term. -/
theorem le_of_sum_le {α : Type} {f g : α → Nat} {list : List α}
    (le : ∀ element ∈ list, f element ≤ g element)
    (tight : (list.map g).sum ≤ (list.map f).sum) : ∀ element ∈ list, g element ≤ f element := by
  intro element inside
  by_contra room
  have less := List.sum_lt_sum f g le ⟨element, inside, Nat.lt_of_not_le room⟩
  omega

theorem bytes_append (left right : String) : bytes (left ++ right) = bytes left ++ bytes right := by
  rw [bytes, String.toList_append, utf8Encode, List.flatMap_append]
  rfl

/-- The code escapes the URL of a target, and otherwise puts in what is intended. -/
theorem targetMap_eq (host id title : List UInt8) :
    targetMap host id title =
      (intended host id title).map fun field =>
        if field.1 = "url" then (field.1, escape field.2) else field := by
  have frontend (isCompat : Bool) : getFrontendURL isCompat (formatAddress host id false) =
      bytes (if isCompat then
        "devtools://devtools/bundled/inspector.html?experiments=true&v8only=true&ws="
        else "devtools://devtools/bundled/node_app.html?experiments=true&v8only=true&ws=") ++
        host ++ 0x2F :: id := by
    rw [getFrontendURL, formatAddress, ← bytes_append, ← bytes_append, List.append_assoc _ host]
    cases isCompat with
    | true => simp
    | false => simp
  rw [targetMap, frontend, frontend]
  simp [intended, formatAddress, getTargetUrl]

theorem weight_targetMap (host id title : List UInt8) :
    ((targetMap host id title).map fieldWeight).sum =
      ((intended host id title).map fieldWeight).sum := by
  have kept : ∀ field ∈ intended host id title,
      (fieldWeight ∘ fun field => if field.1 = "url" then (field.1, escape field.2) else field)
        field = fieldWeight field := by
    intro field _
    rw [Function.comp_apply]
    split
    · rw [fieldWeight, fieldWeight, weight_escape]
    · rfl
  rw [targetMap_eq, List.map_map, List.map_congr_left kept]

theorem weight_le_transcode {string : List UInt8} {units : List UInt16}
    (means : transcode string = some units) : weight string ≤ stringCost units := by
  obtain ⟨text, rfl⟩ := wellFormed_of_transcode means
  rw [transcode_utf8Encode] at means
  cases means
  exact weight_le_cost text

theorem printable_of_cheap {string : List UInt8} {units : List UInt16}
    (means : transcode string = some units) (cheap : stringCost units ≤ weight string) :
    Printable string := by
  obtain ⟨text, rfl⟩ := wellFormed_of_transcode means
  rw [transcode_utf8Encode] at means
  cases means
  exact ⟨text, rfl, plain_of_cost_le cheap⟩

theorem intended_names (host id title : List UInt8) :
    ((intended host id title).map fun field => utf16Encode field.1.toList).Nodup := by
  have names : ((intended host id title).map Prod.fst).Nodup := by
    simp [intended]
  have apart : Function.Injective fun name : String => utf16Encode name.toList := by
    intro left right same
    exact String.toList_injective (utf16Encode_injective same)
  have mapped := names.map apart
  rw [List.map_map] at mapped
  exact mapped

/-- An object that describes a target costs what the code prints for it, and more unless
every string can be printed as it is. -/
theorem Describes.cost {host : List UInt8} {target : List UInt8 × List UInt8} {object : Value}
    (describes : Describes host target object) :
    1 + ((targetMap host target.1 target.2).map fieldWeight).sum ≤ object.cost ∧
      (object.cost ≤ 1 + ((targetMap host target.1 target.2).map fieldWeight).sum →
        ∀ field ∈ intended host target.1 target.2, Printable field.2) := by
  have units : ∀ field ∈ intended host target.1 target.2,
      transcode field.2 = some ((transcode field.2).getD []) := by
    intro field inside
    obtain ⟨units, means, -⟩ := describes field inside
    rw [means]
    rfl
  have names : (((intended host target.1 target.2).map fun field =>
      (utf16Encode field.1.toList, (transcode field.2).getD [])).map Prod.fst).Nodup := by
    rw [List.map_map]
    exact intended_names host target.1 target.2
  have found : ∀ field ∈ (intended host target.1 target.2).map (fun field =>
      (utf16Encode field.1.toList, (transcode field.2).getD [])),
      object.field field.1 = some (.string field.2) := by
    intro pair listed
    obtain ⟨field, inside, rfl⟩ := List.mem_map.mp listed
    obtain ⟨units, means, here⟩ := describes field inside
    rw [here, means]
    rfl
  have cost := Value.cost_of_fields (by simp [intended]) names found
  rw [List.map_map] at cost
  have le : ∀ field ∈ intended host target.1 target.2, fieldWeight field ≤
      (fieldCost ∘ fun field => (utf16Encode field.1.toList, (transcode field.2).getD [])) field := by
    intro field inside
    have name : weight (bytes field.1) ≤ _ := weight_le_cost field.1.toList
    have value := weight_le_transcode (units field inside)
    exact Nat.add_le_add (Nat.add_le_add_left name 6) value
  rw [weight_targetMap]
  have total := List.sum_le_sum le
  refine ⟨by omega, fun cheap field inside => ?_⟩
  have tight := le_of_sum_le le (by omega) field inside
  have name : weight (bytes field.1) ≤ _ := weight_le_cost field.1.toList
  apply printable_of_cheap (units field inside)
  rw [Function.comp_apply, fieldCost, fieldWeight] at tight
  dsimp only at tight
  omega

theorem describes_tight {host : List UInt8} {listed : List (List UInt8 × List UInt8)}
    {elements : List Value} (describes : List.Forall₂ (Describes host) listed elements) :
    (listed.map fun target =>
        2 + ((targetMap host target.1 target.2).map fieldWeight).sum).sum ≤
      elementsCost elements ∧
      (elementsCost elements ≤ (listed.map fun target =>
          2 + ((targetMap host target.1 target.2).map fieldWeight).sum).sum →
        ∀ target ∈ listed, ∀ field ∈ intended host target.1 target.2, Printable field.2) := by
  induction describes with
  | nil => exact ⟨Nat.zero_le _, fun _ _ inside => absurd inside List.not_mem_nil⟩
  | cons first rest ih =>
    obtain ⟨least, cheap⟩ := first.cost
    obtain ⟨leastRest, cheapRest⟩ := ih
    rw [List.map_cons, List.sum_cons, elementsCost]
    refine ⟨by omega, fun tight target inside => ?_⟩
    rcases List.mem_cons.mp inside with rfl | member
    · exact cheap (by omega)
    · exact cheapRest (by omega) target member

/-- The strings of a target, other than constants, that its object is made of. -/
def PrintableTarget (target : List UInt8 × List UInt8) : Prop :=
  Printable target.1 ∧ Printable (escape target.2)

theorem intended_printable {host id title : List UInt8} (hostPrintable : Printable host)
    (idPrintable : Printable id) (titlePrintable : Printable (escape title)) :
    AllPrintable (intended host id title) := by
  have address : Printable (host ++ 0x2F :: id) :=
    (printable_split (by decide) host id).mpr ⟨hostPrintable, idPrintable⟩
  simp only [AllPrintable, intended, List.forall_mem_cons, List.append_assoc]
  refine ⟨⟨plainText_ofList (by decide), .constant (by decide)⟩,
    ⟨plainText_ofList (by decide), .append (.constant (by decide)) address⟩,
    ⟨plainText_ofList (by decide), .append (.constant (by decide)) address⟩,
    ⟨plainText_ofList (by decide), .constant (by decide)⟩,
    ⟨plainText_ofList (by decide), idPrintable⟩, ⟨plainText_ofList (by decide), titlePrintable⟩,
    ⟨plainText_ofList (by decide), .constant (by decide)⟩,
    ⟨plainText_ofList (by decide), .append (.constant (by decide)) idPrintable⟩,
    ⟨plainText_ofList (by decide), .append (.constant (by decide)) address⟩, by simp⟩

theorem targetMap_printable {host id title : List UInt8}
    (printable : AllPrintable (intended host id title)) :
    targetMap host id title = intended host id title := by
  have kept : ∀ field ∈ intended host id title,
      (if field.1 = "url" then (field.1, escape field.2) else field) = field := by
    intro field inside
    split
    · rw [(printable field inside).2.escape]
    · rfl
  rw [targetMap_eq, List.map_congr_left kept, List.map_id']

theorem describes_decoded {host : List UInt8} {target : List UInt8 × List UInt8}
    (printable : AllPrintable (intended host target.1 target.2)) :
    Describes host target (.object ((intended host target.1 target.2).map decoded)) := by
  intro field inside
  obtain ⟨text, encoded, -⟩ := (printable field inside).2
  have means : transcode field.2 = some (utf16Encode text) := by
    rw [← encoded, transcode_utf8Encode]
  refine ⟨_, means, Value.field_of_mem ?_ ?_⟩
  · rw [List.map_map]
    exact intended_names host target.1 target.2
  · refine List.mem_map.mpr ⟨field, inside, ?_⟩
    rw [decoded, means]
    rfl

/-- The list is as it should be when every string can be printed as it is. -/
theorem listsTargets_of_printable {host : List UInt8} {targets : List (List UInt8 × List UInt8)}
    (printable : targets = [] ∨ Printable host ∧ ∀ target ∈ targets, PrintableTarget target) :
    ListsTargets (mapsToString (targets.map fun target => targetMap host target.1 target.2)) host
      targets := by
  have fields : ∀ target ∈ targets, AllPrintable (intended host target.1 target.2) := by
    intro target inside
    rcases printable with rfl | ⟨hostPrintable, all⟩
    · cases inside
    · exact intended_printable hostPrintable (all target inside).1 (all target inside).2
  have same : targets.map (fun target => targetMap host target.1 target.2) =
      targets.map fun target => intended host target.1 target.2 :=
    List.map_congr_left fun target inside => targetMap_printable (fields target inside)
  rw [same]
  refine ⟨targets, _, .refl _, mapsToString_derives ?_, ?_⟩
  · intro object inside
    obtain ⟨target, listed, rfl⟩ := List.mem_map.mp inside
    exact ⟨by simp [intended], fields target listed⟩
  · rw [List.map_map, List.forall₂_map_right_iff, List.forall₂_same]
    intro target inside
    exact describes_decoded (fields target inside)

/-- A list that is as it should be has no room for strings that have to be escaped. -/
theorem ListsTargets.printable {host : List UInt8} {targets : List (List UInt8 × List UInt8)}
    (lists : ListsTargets (mapsToString (targets.map fun target =>
      targetMap host target.1 target.2)) host targets) :
    ∀ target ∈ targets, ∀ field ∈ intended host target.1 target.2, Printable field.2 := by
  obtain ⟨listed, elements, same, derives, describes⟩ := lists
  intro target inside
  have some : targets.map (fun target => targetMap host target.1 target.2) ≠ [] := by
    rw [ne_eq, List.map_eq_nil_iff]
    exact List.ne_nil_of_mem inside
  have room : 1 + elementsCost elements ≤ _ := derives.fits
  rw [weight_mapsToString some, List.map_map] at room
  have weights : (targets.map ((fun object => weight (mapToString object) + 1) ∘ fun target =>
      targetMap host target.1 target.2)) = targets.map fun target =>
      2 + ((targetMap host target.1 target.2).map fieldWeight).sum := by
    apply List.map_congr_left
    intro other _
    rw [Function.comp_apply, weight_mapToString (by simp [targetMap])]
    omega
  rw [weights, ← (same.map _).sum_eq] at room
  exact (describes_tight describes).2 (by omega) target (same.mem_iff.mpr inside)

theorem printable_decimal (port : UInt16) : Printable (Decimal.decimal port.toNat) := by
  apply Printable.ascii
  intro byte inside
  obtain ⟨least, most⟩ := Decimal.decimal_range port.toNat byte inside
  rw [UInt8.le_iff_toNat_le] at least most
  simp only [plainByte, Bool.and_eq_true, decide_eq_true_eq, ne_eq, UInt8.le_iff_toNat_le,
    UInt8.lt_iff_toNat_lt, ← UInt8.toNat_inj, quote, backslash]
  simp only [UInt8.reduceToNat] at least most ⊢
  omega

/-- The host that stands in for none can be printed. -/
theorem printable_detectedHost (host : List UInt8) (serverPort : UInt16) :
    Printable (detectedHost host serverPort) ↔ Printable host := by
  cases host with
  | nil =>
    have port : Printable (detectedHost [] serverPort) :=
      (printable_split (show plainByte colon = true by decide) [] _).mpr
        ⟨.nil, printable_decimal serverPort⟩
    exact ⟨fun _ => .nil, fun _ => port⟩
  | cons byte rest => rfl

theorem sendListResponse_printable {delegate : InspectorAgentDelegate}
    {getTitle : Nat → List UInt8} {host : List UInt8} {serverPort : UInt16}
    (lists : ListsTargets (sendListResponse delegate getTitle host serverPort)
      (detectedHost host serverPort) (targets delegate getTitle)) :
    targets delegate getTitle = [] ∨
      Printable host ∧ ∀ target ∈ targets delegate getTitle, PrintableTarget target := by
  have fields := lists.printable
  by_cases none : targets delegate getTitle = []
  · exact .inl none
  · refine .inr ⟨?_, fun target inside => ?_⟩
    · obtain ⟨target, inside⟩ := List.exists_mem_of_ne_nil _ none
      have address := fields target inside ("webSocketDebuggerUrl",
        bytes "ws://" ++ detectedHost host serverPort ++ 0x2F :: target.1) (by simp [intended])
      have opened := ((printable_split (by decide) _ _).mp address).1
      have protocol : bytes "ws://" = bytes "ws:/" ++ [0x2F] := rfl
      rw [protocol, List.append_assoc, List.singleton_append] at opened
      rw [← printable_detectedHost host serverPort]
      exact ((printable_split (by decide) _ _).mp opened).2
    · exact ⟨fields target inside ("id", target.1) (by simp [intended]),
        fields target inside ("title", escape target.2) (by simp [intended])⟩

theorem sendListResponse_lists {delegate : InspectorAgentDelegate} {getTitle : Nat → List UInt8}
    {host : List UInt8} (serverPort : UInt16)
    (printable : targets delegate getTitle = [] ∨
      Printable host ∧ ∀ target ∈ targets delegate getTitle, PrintableTarget target) :
    ListsTargets (sendListResponse delegate getTitle host serverPort)
      (detectedHost host serverPort) (targets delegate getTitle) := by
  rw [← printable_detectedHost host serverPort] at printable
  exact listsTargets_of_printable printable

/-- The answer is the intended list exactly when there are no targets, or the host of the
request and the ids and titles of the targets, with quotes and backslashes replaced in the
titles, are valid UTF-8 without quotes, backslashes and control characters. -/
theorem listsTargets_iff (delegate : InspectorAgentDelegate) (getTitle : Nat → List UInt8)
    (host : List UInt8) (serverPort : UInt16) :
    ListsTargets (sendListResponse delegate getTitle host serverPort)
        (detectedHost host serverPort) (targets delegate getTitle) ↔
      targets delegate getTitle = [] ∨
        Printable host ∧ ∀ target ∈ targets delegate getTitle, PrintableTarget target :=
  ⟨sendListResponse_printable, sendListResponse_lists serverPort⟩

/-- What llhttp takes as part of a header value. -/
def isHeaderByte (byte : UInt8) : Bool := byte = 0x09 || 0x20 ≤ byte && byte ≠ 0x7F && byte ≠ 0xFF

def oneTarget : InspectorAgentDelegate := InspectorAgentDelegate.addTarget {} (bytes "a1") 0

/-- The title after a script was loaded whose URL has a line break. -/
def brokenTitle : List UInt8 := (AgentTitle.notifyLoadedUrl {} (bytes "app\n.js")).title

/-- A quote behind the colon of a host, or a line break in the URL of a script, and the
answer is not the list. -/
theorem list_broken :
    (isAllowedHost (bytes "localhost:\"") = true ∧
        (bytes "localhost:\"").all isHeaderByte = true ∧
        ¬ ListsTargets (sendListResponse oneTarget (fun _ => []) (bytes "localhost:\"") 9229)
          (bytes "localhost:\"") (targets oneTarget fun _ => [])) ∧
      isAllowedHost (bytes "localhost") = true ∧
        ¬ ListsTargets (sendListResponse oneTarget (fun _ => brokenTitle) (bytes "localhost") 9229)
          (bytes "localhost") (targets oneTarget fun _ => brokenTitle) := by
  refine ⟨⟨by decide, by decide, fun lists => ?_⟩, by decide, fun lists => ?_⟩
  · rcases sendListResponse_printable lists with none | ⟨printable, -⟩
    · exact absurd none (by decide)
    · exact printable.not_special.1 (by decide)
  · rcases sendListResponse_printable lists with none | ⟨-, printable⟩
    · exact absurd none (by decide)
    · have title := (printable (bytes "a1", brokenTitle) (by decide)).2
      exact absurd (title.not_special.2.2 0x0A (by decide)) (by decide)

/-! ## Targets of agents -/

theorem printable_hexDigits (value : UInt16) : Printable (hexDigits value) := by
  have plain : ∀ digit < 16, plainByte (UInt8.ofNat (Nat.digitChar digit).toNat) = true := by decide
  have bound := value.toNat_lt
  apply Printable.ascii
  intro byte inside
  obtain ⟨digit, listed, rfl⟩ := List.mem_map.mp inside
  apply plain
  simp only [List.mem_cons, List.not_mem_nil, or_false] at listed
  omega

theorem printable_generateID (buffer : Fin 8 → UInt16) : Printable (generateID buffer) := by
  have dash : Printable (bytes "-") := .constant (by decide)
  have digits := printable_hexDigits
  exact (((((((((((digits _).append (digits _)).append dash).append (digits _)).append dash).append
    (digits _)).append dash).append (digits _)).append dash).append (digits _)).append
    (digits _)).append (digits _)

theorem escape_append (front back : List UInt8) :
    escape (front ++ back) = escape front ++ escape back := List.map_append

namespace AgentTitle

theorem printable_loadedUrls (agent : AgentTitle) (url : List UInt8) :
    Printable (escape (agent.notifyLoadedUrl url).loadedUrls) ↔
      Printable (escape agent.loadedUrls) ∧ Printable (escape (newUrlSuffix url)) := by
  have separator : escape (bytes ", ") = 0x2C :: [0x20] := rfl
  rw [notifyLoadedUrl]
  split
  · rw [escape_append, escape_append, separator, List.append_assoc, List.cons_append,
      printable_split (by decide)]
    have behind := printable_split (show plainByte 0x20 = true by decide) []
      (escape (newUrlSuffix url))
    rw [List.singleton_append, ← List.nil_append (0x20 :: escape (newUrlSuffix url)), behind]
    simp [Printable.nil]
  · rename_i empty
    have none : agent.loadedUrls = [] := List.eq_nil_of_length_eq_zero (by omega)
    rw [none, List.nil_append]
    exact ⟨fun printable => ⟨.nil, printable⟩, And.right⟩

theorem printable_title (agent : AgentTitle) (url : List UInt8) :
    Printable (escape (agent.notifyLoadedUrl url).title) ↔
      Printable (escape (agent.notifyLoadedUrl url).loadedUrls) := by
  have opening : escape (bytes "V8JSI Host(") = bytes "V8JSI Host" ++ [0x28] := rfl
  have closing : escape (bytes ")") = 0x29 :: [] := rfl
  have name : Printable (bytes "V8JSI Host") := .constant (by decide)
  rw [notifyLoadedUrl]
  rw [escape_append, escape_append, opening, closing, printable_split (by decide),
    List.append_assoc, List.singleton_append, printable_split (by decide)]
  exact ⟨fun printable => printable.1.2, fun printable => ⟨⟨name, printable⟩, .nil⟩⟩

def Call.url? : Call → Option (List UInt8)
  | .addContext _ => none
  | .notifyLoadedUrl url => some url

/-- The strings that stand in the title after the calls: the name of the context, or the
ends of all URLs, whichever came last. -/
def titleParts (calls : List Call) : List (List UInt8) :=
  match calls.getLast? with
  | none => []
  | some (.addContext contextName) => [contextName]
  | some (.notifyLoadedUrl _) => (calls.filterMap Call.url?).map newUrlSuffix

theorem printable_foldl (calls : List Call) : ∀ agent : AgentTitle,
    Printable (escape (calls.foldl call agent).loadedUrls) ↔
      Printable (escape agent.loadedUrls) ∧
        ∀ url ∈ calls.filterMap Call.url?, Printable (escape (newUrlSuffix url)) := by
  induction calls with
  | nil =>
    intro agent
    simp
  | cons first rest ih =>
    intro agent
    cases first with
    | addContext contextName => exact ih (agent.addContext contextName)
    | notifyLoadedUrl url =>
      have urls : (Call.notifyLoadedUrl url :: rest).filterMap Call.url? =
          url :: rest.filterMap Call.url? := rfl
      rw [List.foldl_cons, ih, call, printable_loadedUrls, urls, List.forall_mem_cons, and_assoc]

/-- The title of an agent can be printed when the strings in it can. -/
theorem printable_title_iff (calls : List Call) :
    Printable (escape (calls.foldl call {}).title) ↔
      ∀ part ∈ titleParts calls, Printable (escape part) := by
  rcases calls.eq_nil_or_concat with rfl | ⟨front, last, rfl⟩
  · exact ⟨fun _ part inside => absurd inside List.not_mem_nil, fun _ => .nil⟩
  · have all := printable_foldl (front ++ [last]) {}
    rw [List.concat_eq_append, titleParts, List.getLast?_concat]
    cases last with
    | addContext contextName =>
      rw [List.foldl_concat, List.forall_mem_singleton]
      rfl
    | notifyLoadedUrl url =>
      rw [List.foldl_concat, call] at all ⊢
      rw [printable_title, all, List.forall_mem_map]
      exact ⟨And.right, fun printable => ⟨.nil, printable⟩⟩

end AgentTitle

/-- For targets with generated ids the answer is the intended list exactly when the host of
the request and the strings in the titles of the agents can be printed. -/
theorem lists_agents_iff (delegate : InspectorAgentDelegate)
    (calls : Nat → List AgentTitle.Call) (host : List UInt8) (serverPort : UInt16)
    (generated : ∀ id ∈ delegate.getTargetIds, ∃ buffer, id = generateID buffer)
    (some : delegate.hasTargets = true) :
    ListsTargets (sendListResponse delegate
        (fun agent => ((calls agent).foldl AgentTitle.call {}).title) host serverPort)
        (detectedHost host serverPort)
        (targets delegate fun agent => ((calls agent).foldl AgentTitle.call {}).title) ↔
      Printable host ∧ ∀ entry ∈ delegate.targetsMap.entries,
        ∀ part ∈ AgentTitle.titleParts (calls entry.2), Printable (escape part) := by
  have titles (agent : Nat) := AgentTitle.printable_title_iff (calls agent)
  constructor
  · intro lists
    rcases sendListResponse_printable lists with none | ⟨hostPrintable, all⟩
    · rw [targets, List.map_eq_nil_iff] at none
      rw [InspectorAgentDelegate.hasTargets, none] at some
      cases some
    · refine ⟨hostPrintable, fun entry inside => (titles entry.2).mp ?_⟩
      exact (all _ (List.mem_map_of_mem inside)).2
  · rintro ⟨hostPrintable, all⟩
    refine sendListResponse_lists serverPort (.inr ⟨hostPrintable, fun target inside => ?_⟩)
    obtain ⟨entry, listed, rfl⟩ := List.mem_map.mp inside
    refine ⟨?_, (titles entry.2).mpr (all entry listed)⟩
    obtain ⟨buffer, same⟩ := generated entry.1 (List.mem_map_of_mem listed)
    show Printable entry.1
    rw [same]
    exact printable_generateID buffer

end V8Jsi.TargetList
