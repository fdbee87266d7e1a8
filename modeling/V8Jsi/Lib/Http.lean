import Mathlib.Data.List.DropRight
import Mathlib.Data.List.TakeWhile
import V8Jsi.Lib.Decimal

set_option autoImplicit false

/- Responses of HTTP/1.1 as a client reads them off a connection (RFC 7230): a status line, header
fields, and a body whose end the status or the field `Content-Length` tells, or else the end of the
connection. -/
namespace Http

def cr : UInt8 := 0x0D
def lf : UInt8 := 0x0A
def space : UInt8 := 0x20
def colon : UInt8 := 0x3A

def isBlank (byte : UInt8) : Bool := byte = space || byte = 0x09

/-- "content-length" -/
def contentLengthName : List UInt8 :=
  [0x63, 0x6F, 0x6E, 0x74, 0x65, 0x6E, 0x74, 0x2D, 0x6C, 0x65, 0x6E, 0x67, 0x74, 0x68]

structure Field where
  name : List UInt8
  value : List UInt8
  deriving DecidableEq, Repr

structure Response where
  version : List UInt8
  status : List UInt8
  reason : List UInt8
  fields : List Field
  body : List UInt8
  deriving DecidableEq, Repr

/-! ## Writing -/

def Field.render (field : Field) : List UInt8 :=
  field.name ++ colon :: space :: field.value ++ [cr, lf]

def Response.statusLine (response : Response) : List UInt8 :=
  response.version ++ space :: response.status ++ space :: response.reason

def Response.render (response : Response) : List UInt8 :=
  response.statusLine ++ cr :: lf :: response.fields.flatMap Field.render ++ cr :: lf ::
    response.body

/-! ## Reading -/

/-- The line up to the first CRLF, and what follows it. -/
def takeLine : List UInt8 → Option (List UInt8 × List UInt8)
  | [] => none
  | byte :: rest =>
      if byte = cr ∧ rest.head? = some lf then some ([], rest.tail)
      else (takeLine rest).map fun (line, rest) => (byte :: line, rest)

/-- What stands before the first `byte`, and what follows it. -/
def cut (byte : UInt8) (line : List UInt8) : Option (List UInt8 × List UInt8) :=
  match line.dropWhile (· ≠ byte) with
  | [] => none
  | _ :: rest => some (line.takeWhile (· ≠ byte), rest)

/-- Blanks around the value are not part of it. -/
def parseField (line : List UInt8) : Option Field := do
  let (name, value) ← cut colon line
  return ⟨name, (value.dropWhile isBlank).rdropWhile isBlank⟩

def parseFields : Nat → List UInt8 → Option (List Field × List UInt8)
  | 0, _ => none
  | fuel + 1, bytes => do
      let (line, rest) ← takeLine bytes
      if line = [] then return ([], rest)
      let field ← parseField line
      let (fields, rest) ← parseFields fuel rest
      return (field :: fields, rest)

def lower (byte : UInt8) : UInt8 := if 0x41 ≤ byte ∧ byte ≤ 0x5A then byte + 0x20 else byte

def number (digits : List UInt8) : Option Nat :=
  if digits ≠ [] ∧ digits.all (fun byte => 0x30 ≤ byte && byte ≤ 0x39) then
    some (Decimal.valueFrom 0 digits)
  else none

/-- The value of `Content-Length`: `some none` is a value that is no number. -/
def contentLength (fields : List Field) : Option (Option Nat) :=
  (fields.find? fun field => field.name.map lower = contentLengthName).map fun field =>
    number field.value

/-- A response of the status 1xx, 204 or 304 has no body. -/
def bodiless (status : List UInt8) : Bool :=
  status.head? = some 0x31 || status = [0x32, 0x30, 0x34] || status = [0x33, 0x30, 0x34]

/-- After the status 101 the connection speaks another protocol. -/
def switches (status : List UInt8) : Bool := status = [0x31, 0x30, 0x31]

/-- The body that a response has of the bytes behind its fields. -/
def takeBody (status : List UInt8) (fields : List Field) (bytes : List UInt8) :
    Option (List UInt8 × List UInt8) :=
  if bodiless status then some ([], bytes)
  else
    match contentLength fields with
    | none => some (bytes, [])
    | some none => none
    | some (some length) =>
        if bytes.length < length then none else some (bytes.take length, bytes.drop length)

def parseResponse (bytes : List UInt8) : Option (Response × List UInt8) := do
  let (line, rest) ← takeLine bytes
  let (version, line) ← cut space line
  let (status, reason) ← cut space line
  let (fields, rest) ← parseFields (rest.length + 1) rest
  let (body, rest) ← takeBody status fields rest
  return (⟨version, status, reason, fields, body⟩, rest)

/-- The responses of a connection, and what follows those when it switches. -/
def parseResponses : Nat → List UInt8 → Option (List Response × List UInt8)
  | 0, bytes => if bytes = [] then some ([], []) else none
  | fuel + 1, bytes =>
      if bytes = [] then some ([], [])
      else do
        let (response, rest) ← parseResponse bytes
        if switches response.status then return ([response], rest)
        let (responses, rest) ← parseResponses fuel rest
        return (response :: responses, rest)

/-! ## What is written is read -/

theorem takeLine_append {line : List UInt8} (plain : cr ∉ line) (rest : List UInt8) :
    takeLine (line ++ cr :: lf :: rest) = some (line, rest) := by
  induction line with
  | nil => rfl
  | cons byte line ih =>
    obtain ⟨first, others⟩ := not_or.mp (mt List.mem_cons.mpr plain)
    have other : ¬ (byte = cr ∧ (line ++ cr :: lf :: rest).head? = some lf) :=
      fun same => first same.1.symm
    rw [List.cons_append, takeLine, if_neg other, ih others]
    rfl

theorem cut_append {byte : UInt8} {front : List UInt8} (plain : byte ∉ front)
    (rest : List UInt8) : cut byte (front ++ byte :: rest) = some (front, rest) := by
  have other : ∀ value ∈ front, (value ≠ byte : Bool) = true := by
    intro value inside
    have different : value ≠ byte := by
      rintro rfl
      exact plain inside
    simpa using different
  have dropped : (front ++ byte :: rest).dropWhile (· ≠ byte) = byte :: rest := by
    rw [List.dropWhile_append_of_pos other, List.dropWhile_cons_of_neg (by simp)]
  have taken : (front ++ byte :: rest).takeWhile (· ≠ byte) = front := by
    rw [List.takeWhile_append_of_pos other, List.takeWhile_cons_of_neg (by simp),
      List.append_nil]
  rw [cut, dropped, taken]

/-- A field that comes back as it was written. -/
structure Field.Plain (field : Field) : Prop where
  name_colon : colon ∉ field.name
  name_cr : cr ∉ field.name
  value_cr : cr ∉ field.value
  first : ∀ byte ∈ field.value.head?, isBlank byte = false
  last : ∀ byte ∈ field.value.getLast?, isBlank byte = false

structure Response.Plain (response : Response) : Prop where
  version_space : space ∉ response.version
  status_space : space ∉ response.status
  line_cr : cr ∉ response.statusLine
  fields : ∀ field ∈ response.fields, field.Plain

theorem parseField_append {field : Field} (plain : field.Plain) :
    parseField (field.name ++ colon :: space :: field.value) = some field := by
  have front : (space :: field.value).dropWhile isBlank = field.value := by
    rw [List.dropWhile_cons_of_pos rfl]
    cases value : field.value with
    | nil => rfl
    | cons byte rest =>
      have kept : isBlank byte = false := plain.first byte (by rw [value]; rfl)
      rw [List.dropWhile_cons_of_neg (by simp [kept])]
  have back : field.value.rdropWhile isBlank = field.value := by
    rw [List.rdropWhile_eq_self_iff]
    intro present
    have kept := plain.last _ (List.getLast?_eq_some_getLast present)
    simpa using kept
  rw [parseField, cut_append plain.name_colon]
  simp only [Option.bind_eq_bind, Option.bind_some, front, back]
  rfl

theorem parseFields_render (fields : List Field) (rest : List UInt8) : ∀ fuel,
    fields.length < fuel → (∀ field ∈ fields, field.Plain) →
    parseFields fuel (fields.flatMap Field.render ++ cr :: lf :: rest) = some (fields, rest) := by
  induction fields with
  | nil =>
    intro fuel enough _
    obtain ⟨fuel, rfl⟩ := Nat.exists_eq_add_one.mpr enough
    rfl
  | cons field fields ih =>
    intro fuel enough plain
    obtain ⟨fuel, rfl⟩ := Nat.exists_eq_add_one.mpr (Nat.zero_lt_of_lt enough)
    have here := plain field List.mem_cons_self
    have clean : cr ∉ field.name ++ colon :: space :: field.value := by
      simp only [List.mem_append, List.mem_cons, not_or]
      exact ⟨here.name_cr, by decide, by decide, here.value_cr⟩
    have line : (field :: fields).flatMap Field.render ++ cr :: lf :: rest =
        (field.name ++ colon :: space :: field.value) ++ cr :: lf ::
          (fields.flatMap Field.render ++ cr :: lf :: rest) := by
      simp [Field.render]
    have some : field.name ++ colon :: space :: field.value ≠ [] := by simp
    rw [line, parseFields, takeLine_append clean]
    simp only [Option.bind_eq_bind, Option.bind_some, if_neg some, parseField_append here,
      ih fuel (Nat.lt_of_succ_lt_succ enough)
        (fun other inside => plain other (List.mem_cons_of_mem _ inside))]
    rfl

theorem length_fields_le (fields : List Field) :
    fields.length ≤ (fields.flatMap Field.render).length := by
  induction fields with
  | nil => exact Nat.le_refl 0
  | cons field fields ih =>
    rw [List.flatMap_cons, List.length_append, List.length_cons, Field.render]
    simp only [List.length_append, List.length_cons]
    omega

/-- A response is read up to its body; what the body is depends on the status and the fields. -/
theorem parseResponse_render {response : Response} (plain : response.Plain)
    (rest : List UInt8) :
    parseResponse (response.render ++ rest) =
      (takeBody response.status response.fields (response.body ++ rest)).map
        fun (body, rest) => ({ response with body }, rest) := by
  have line : response.render ++ rest = response.statusLine ++ cr :: lf ::
      (response.fields.flatMap Field.render ++ cr :: lf :: (response.body ++ rest)) := by
    simp [Response.render]
  have version : cut space response.statusLine =
      some (response.version, response.status ++ space :: response.reason) := by
    rw [Response.statusLine, List.append_assoc, List.cons_append]
    exact cut_append plain.version_space _
  have enough : response.fields.length <
      (response.fields.flatMap Field.render ++ cr :: lf :: (response.body ++ rest)).length + 1 := by
    have fields := length_fields_le response.fields
    rw [List.length_append]
    omega
  rw [line, parseResponse, takeLine_append plain.line_cr]
  simp only [Option.bind_eq_bind, Option.bind_some, version, cut_append plain.status_space,
    parseFields_render response.fields _ _ enough plain.fields]
  cases takeBody response.status response.fields (response.body ++ rest) <;> rfl

/-- The field `Content-Length` ends the body where it ends. -/
theorem takeBody_length {status body : List UInt8} {fields : List Field}
    (present : bodiless status = false)
    (length : contentLength fields = some (some body.length)) (rest : List UInt8) :
    takeBody status fields (body ++ rest) = some (body, rest) := by
  have enough : ¬ (body ++ rest).length < body.length := by
    rw [List.length_append]
    omega
  simp only [takeBody, present, length, Bool.false_eq_true, if_false, if_neg enough,
    List.take_left, List.drop_left]

/-- Without it the body goes on to the end of the connection. -/
theorem takeBody_open {status : List UInt8} {fields : List Field}
    (present : bodiless status = false) (length : contentLength fields = none)
    (bytes : List UInt8) : takeBody status fields bytes = some (bytes, []) := by
  simp only [takeBody, present, length, Bool.false_eq_true, if_false]

theorem decimal_ne_nil (value : Nat) : Decimal.decimal value ≠ [] := by
  rw [Decimal.decimal]
  exact mt List.map_eq_nil_iff.mp Nat.toDigits_ne_nil

theorem number_decimal (value : Nat) : number (Decimal.decimal value) = some value := by
  have digits : (Decimal.decimal value).all (fun byte => 0x30 ≤ byte && byte ≤ 0x39) = true := by
    simpa using Decimal.decimal_range value
  rw [number, if_pos ⟨decimal_ne_nil value, digits⟩, Decimal.valueFrom_decimal]

/-- Characters above the blank are neither blanks nor the end of a line. -/
theorem Field.plain_of_graphic {name value : List UInt8} (colonless : colon ∉ name)
    (lineless : cr ∉ name) (graphic : ∀ byte ∈ value, space < byte) :
    (⟨name, value⟩ : Field).Plain := by
  have kept : ∀ byte ∈ value, isBlank byte = false := by
    intro byte inside
    have above := graphic byte inside
    rw [UInt8.lt_iff_toNat_lt] at above
    have other : byte ≠ space ∧ byte ≠ 0x09 := by
      constructor <;>
        · rintro rfl
          revert above
          decide
    simp [isBlank, other]
  refine ⟨colonless, lineless, fun inside => ?_, fun byte inside => ?_, fun byte inside => ?_⟩
  · exact absurd (graphic cr inside) (by decide)
  · exact kept byte (List.mem_of_mem_head? inside)
  · exact kept byte (List.mem_of_mem_getLast? inside)

theorem render_ne_nil (response : Response) (rest : List UInt8) :
    response.render ++ rest ≠ [] := by
  simp [Response.render]

theorem parseResponses_nil (fuel : Nat) : parseResponses fuel [] = some ([], []) := by
  cases fuel <;> rfl

theorem parseResponses_cons {fuel : Nat} {bytes : List UInt8} (more : bytes ≠ []) :
    parseResponses (fuel + 1) bytes = do
      let (response, rest) ← parseResponse bytes
      if switches response.status then return ([response], rest)
      let (responses, rest) ← parseResponses fuel rest
      return (response :: responses, rest) := by
  rw [parseResponses, if_neg more]

end Http
