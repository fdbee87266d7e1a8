import Mathlib.Algebra.GroupWithZero.Nat
import Mathlib.Algebra.Order.BigOperators.Group.List
import Mathlib.Algebra.Order.Group.Nat
import Mathlib.Data.List.Nodup
import Mathlib.Data.List.Perm.Subperm
import V8Jsi.Lib.Unicode

set_option autoImplicit false

/- JSON texts in UTF-8, by the grammar of RFC 8259, with the values they stand for. Strings
are sequences of 16-bit units, as JavaScript has them. A text has at least as many bytes
other than white space as its value needs. -/
namespace Json

open Unicode

inductive Value
  | null
  | boolean (value : Bool)
  | number (literal : List UInt8)
  | string (units : List UInt16)
  | array (elements : List Value)
  | object (members : List (List UInt16 × Value))

/-- Of several members with one name the last one counts. -/
def Value.field (name : List UInt16) : Value → Option Value
  | .object members => members.reverse.lookup name
  | _ => none

def quote : UInt8 := 0x22
def backslash : UInt8 := 0x5C
def comma : UInt8 := 0x2C
def colon : UInt8 := 0x3A

def isSpace (byte : UInt8) : Bool := byte = 0x20 || byte = 0x09 || byte = 0x0A || byte = 0x0D

def isDigit (byte : UInt8) : Bool := 0x30 ≤ byte && byte ≤ 0x39

/-- An optional sign, digits without a leading zero, a fraction and an exponent. -/
def Number (literal : List UInt8) : Prop :=
  ∃ sign whole fraction exponent, literal = sign ++ whole ++ fraction ++ exponent ∧
    (sign = [] ∨ sign = [0x2D]) ∧
    (whole = [0x30] ∨ whole ≠ [] ∧ whole.all isDigit ∧ whole.head? ≠ some 0x30) ∧
    (fraction = [] ∨ ∃ digits ≠ [], fraction = 0x2E :: digits ∧ digits.all isDigit) ∧
    (exponent = [] ∨ ∃ letter signs digits, exponent = letter :: signs ++ digits ∧
      (letter = 0x65 ∨ letter = 0x45) ∧ (signs = [] ∨ signs = [0x2B] ∨ signs = [0x2D]) ∧
      digits ≠ [] ∧ digits.all isDigit)

/-- What a byte stands for after a backslash. -/
def escaped (byte : UInt8) : Option UInt16 :=
  if byte = 0x22 then some 0x22
  else if byte = 0x5C then some 0x5C
  else if byte = 0x2F then some 0x2F
  else if byte = 0x62 then some 0x08
  else if byte = 0x66 then some 0x0C
  else if byte = 0x6E then some 0x0A
  else if byte = 0x72 then some 0x0D
  else if byte = 0x74 then some 0x09
  else none

def hexDigit (byte : UInt8) : Option UInt16 :=
  if isDigit byte then some (byte - 0x30).toUInt16
  else if 0x41 ≤ byte && byte ≤ 0x46 then some (byte - 0x37).toUInt16
  else if 0x61 ≤ byte && byte ≤ 0x66 then some (byte - 0x57).toUInt16
  else none

def hexUnit (digits : List UInt8) : Option UInt16 :=
  if digits.length = 4 then
    digits.foldlM (fun unit byte => (hexDigit byte).map (unit * 16 + ·)) 0
  else none

/-- The text between the quotes of a string. -/
inductive Content : List UInt8 → List UInt16 → Prop
  | nil : Content [] []
  | plain {char : Char} {rest : List UInt8} {units : List UInt16} (visible : 0x20 ≤ char.toNat)
      (unquoted : char ≠ '"') (unescaped : char ≠ '\\') (content : Content rest units) :
      Content (String.utf8EncodeChar char ++ rest) (utf16Char char ++ units)
  | escape {byte : UInt8} {unit : UInt16} {rest : List UInt8} {units : List UInt16}
      (means : escaped byte = some unit) (content : Content rest units) :
      Content (backslash :: byte :: rest) (unit :: units)
  | unicode {digits : List UInt8} {unit : UInt16} {rest : List UInt8} {units : List UInt16}
      (means : hexUnit digits = some unit) (content : Content rest units) :
      Content (backslash :: 0x75 :: digits ++ rest) (unit :: units)

/-- The parts of a text that have a meaning. -/
inductive Part
  | value (value : Value)
  | elements (elements : List Value)
  | member (name : List UInt16) (value : Value)
  | members (members : List (List UInt16 × Value))

/-- White space may stand around values and names. -/
inductive Derives : Part → List UInt8 → Prop
  | spaced {value : Value} {before text after : List UInt8} (front : before.all isSpace)
      (back : after.all isSpace) (inside : Derives (.value value) text) :
      Derives (.value value) (before ++ text ++ after)
  | null : Derives (.value .null) [0x6E, 0x75, 0x6C, 0x6C]
  | true : Derives (.value (.boolean .true)) [0x74, 0x72, 0x75, 0x65]
  | false : Derives (.value (.boolean .false)) [0x66, 0x61, 0x6C, 0x73, 0x65]
  | number {literal : List UInt8} (form : Number literal) :
      Derives (.value (.number literal)) literal
  | string {text : List UInt8} {units : List UInt16} (content : Content text units) :
      Derives (.value (.string units)) (quote :: text ++ [quote])
  | emptyArray {space : List UInt8} (only : space.all isSpace) :
      Derives (.value (.array [])) (0x5B :: space ++ [0x5D])
  | array {elements : List Value} {text : List UInt8} (inside : Derives (.elements elements) text) :
      Derives (.value (.array elements)) (0x5B :: text ++ [0x5D])
  | emptyObject {space : List UInt8} (only : space.all isSpace) :
      Derives (.value (.object [])) (0x7B :: space ++ [0x7D])
  | object {members : List (List UInt16 × Value)} {text : List UInt8}
      (inside : Derives (.members members) text) :
      Derives (.value (.object members)) (0x7B :: text ++ [0x7D])
  | lastElement {value : Value} {text : List UInt8} (last : Derives (.value value) text) :
      Derives (.elements [value]) text
  | moreElements {value : Value} {elements : List Value} {text rest : List UInt8}
      (first : Derives (.value value) text) (more : Derives (.elements elements) rest) :
      Derives (.elements (value :: elements)) (text ++ comma :: rest)
  | member {name : List UInt16} {value : Value} {before source after text : List UInt8}
      (front : before.all isSpace) (content : Content source name) (back : after.all isSpace)
      (inside : Derives (.value value) text) :
      Derives (.member name value)
        (before ++ (quote :: source ++ [quote]) ++ after ++ colon :: text)
  | lastMember {name : List UInt16} {value : Value} {text : List UInt8}
      (last : Derives (.member name value) text) : Derives (.members [(name, value)]) text
  | moreMembers {name : List UInt16} {value : Value} {members : List (List UInt16 × Value)}
      {text rest : List UInt8} (first : Derives (.member name value) text)
      (more : Derives (.members members) rest) :
      Derives (.members ((name, value) :: members)) (text ++ comma :: rest)

/-! ## How much a text weighs -/

/-- The number of bytes other than white space. -/
def weight (text : List UInt8) : Nat := text.countP fun byte => !isSpace byte

/-- What a unit of a string weighs at least: characters that have to be escaped weigh two. -/
def unitCost (unit : UInt16) : Nat :=
  if unit < 0x20 || unit = 0x22 || unit = 0x5C then 2
  else if unit = 0x20 then 0
  else if unit < 0x80 then 1
  else if unit < 0x800 || isHighSurrogate unit || isLowSurrogate unit then 2
  else 3

def stringCost (units : List UInt16) : Nat := (units.map unitCost).sum

mutual

def Value.cost : Value → Nat
  | .null => 4
  | .boolean .true => 4
  | .boolean .false => 5
  | .number literal => weight literal
  | .string units => 2 + stringCost units
  | .array elements => 1 + elementsCost elements
  | .object members => 1 + membersCost members

/-- Each element with a comma. -/
def elementsCost : List Value → Nat
  | [] => 0
  | value :: elements => value.cost + 1 + elementsCost elements

def membersCost : List (List UInt16 × Value) → Nat
  | [] => 0
  | (name, value) :: members => 3 + stringCost name + value.cost + 1 + membersCost members

end

@[simp] theorem weight_nil : weight [] = 0 := rfl

@[simp] theorem weight_append (front back : List UInt8) :
    weight (front ++ back) = weight front + weight back := List.countP_append

theorem weight_cons (byte : UInt8) (rest : List UInt8) :
    weight (byte :: rest) = weight rest + if isSpace byte then 0 else 1 := by
  rw [weight, List.countP_cons, ← weight]
  cases isSpace byte with
  | true => rfl
  | false => rfl

theorem weight_space {text : List UInt8} (space : text.all isSpace) : weight text = 0 := by
  rw [weight, List.countP_eq_zero]
  intro byte inside
  simp [List.all_eq_true.mp space byte inside]

@[simp] theorem stringCost_append (front back : List UInt16) :
    stringCost (front ++ back) = stringCost front + stringCost back := by
  rw [stringCost, List.map_append, List.sum_append, stringCost, stringCost]

theorem stringCost_cons (unit : UInt16) (rest : List UInt16) :
    stringCost (unit :: rest) = unitCost unit + stringCost rest := by
  rw [stringCost, List.map_cons, List.sum_cons, stringCost]

/-- A character that stands for itself in a string. -/
def Plain (char : Char) : Prop := 0x20 ≤ char.toNat ∧ char ≠ '"' ∧ char ≠ '\\'

def plainText (text : List Char) : Bool :=
  text.all fun char => decide (0x20 ≤ char.toNat) && char != '"' && char != '\\'

theorem plain_of_plainText {text : List Char} (plain : plainText text = true) :
    ∀ char ∈ text, Plain char := by
  intro char inside
  have here := List.all_eq_true.mp plain char inside
  simp only [Bool.and_eq_true, decide_eq_true_eq, bne_iff_ne] at here
  exact ⟨here.1.1, here.1.2, here.2⟩

theorem weight_beyond {bytes : List UInt8} (beyond : ∀ byte ∈ bytes, 0x80 ≤ byte) :
    weight bytes = bytes.length := by
  rw [weight, List.countP_eq_length]
  intro byte inside
  have large := UInt8.le_iff_toNat_le.mp (beyond byte inside)
  have space : isSpace byte = false := by
    simp only [isSpace, Bool.or_eq_false_iff, decide_eq_false_iff_not, ← UInt8.toNat_inj]
    simp only [UInt8.reduceToNat] at large ⊢
    omega
  rw [space]
  rfl

theorem unitCost_ofNat {value : Nat} (small : value < 0x10000) :
    unitCost (UInt16.ofNat value) =
      if value < 0x20 ∨ value = 0x22 ∨ value = 0x5C then 2
      else if value = 0x20 then 0
      else if value < 0x80 then 1
      else if value < 0x800 ∨ 0xD800 ≤ value ∧ value < 0xE000 then 2
      else 3 := by
  have same (other : UInt16) : UInt16.ofNat value = other ↔ value = other.toNat := by
    rw [← UInt16.toNat_inj, UInt16.toNat_ofNat_of_lt' small]
  have less (other : UInt16) : UInt16.ofNat value < other ↔ value < other.toNat := by
    rw [UInt16.lt_iff_toNat_lt, UInt16.toNat_ofNat_of_lt' small]
  have surrogate : isHighSurrogate (UInt16.ofNat value) = true ∨
      isLowSurrogate (UInt16.ofNat value) = true ↔ 0xD800 ≤ value ∧ value < 0xE000 := by
    rw [isHighSurrogate_ofNat small, isLowSurrogate_ofNat small]
    omega
  simp only [unitCost, Bool.or_eq_true, decide_eq_true_eq, same, less, or_assoc, surrogate,
    UInt16.reduceToNat]

/-- Beyond ASCII the units of a character cost as much as its bytes weigh. -/
theorem stringCost_beyond {char : Char} (beyond : 0x80 ≤ char.toNat) :
    stringCost (utf16Char char) = weight (String.utf8EncodeChar char) := by
  have range := char_range char
  rw [weight_beyond (utf8EncodeChar_beyond beyond), String.length_utf8EncodeChar, utf8Size_eq,
    utf16Char]
  split
  · rename_i small
    rw [stringCost_cons, unitCost_ofNat small, if_neg (by omega), if_neg (by omega),
      if_neg (by omega)]
    rcases Nat.lt_or_ge char.toNat 0x800 with two | three
    · rw [if_pos (.inl two), if_neg (by omega), if_pos (by omega)]
      rfl
    · rw [if_neg (by omega), if_neg (by omega), if_neg (by omega), if_pos (by omega)]
      rfl
  · -- Two surrogates for four bytes.
    have first : 0xD800 + (char.toNat - 0x10000) / 0x400 < 0x10000 := by omega
    have second : 0xDC00 + (char.toNat - 0x10000) % 0x400 < 0x10000 := by omega
    rw [stringCost_cons, stringCost_cons, unitCost_ofNat first, unitCost_ofNat second,
      if_neg (by omega), if_neg (by omega), if_neg (by omega), if_pos (by omega),
      if_neg (by omega), if_neg (by omega), if_neg (by omega), if_pos (by omega),
      if_neg (by omega), if_neg (by omega), if_neg (by omega)]
    rfl

theorem weight_small {char : Char} (small : char.toNat < 0x80) :
    weight (String.utf8EncodeChar char) =
      if char.toNat = 0x20 ∨ char.toNat = 0x09 ∨ char.toNat = 0x0A ∨ char.toNat = 0x0D then 0
      else 1 := by
  have same (other : UInt8) : UInt8.ofNat char.toNat = other ↔ char.toNat = other.toNat := by
    rw [← UInt8.toNat_inj, UInt8.toNat_ofNat_of_lt' (show char.toNat < 256 by omega)]
  rw [utf8EncodeChar_small small, weight_cons, weight_nil, Nat.zero_add]
  simp only [isSpace, Bool.or_eq_true, decide_eq_true_eq, same, or_assoc, UInt8.reduceToNat]

theorem plain_iff (char : Char) :
    Plain char ↔ 0x20 ≤ char.toNat ∧ char.toNat ≠ 0x22 ∧ char.toNat ≠ 0x5C := by
  have same (other : Char) : char = other ↔ char.toNat = other.toNat := Char.toNat_inj.symm
  rw [Plain, ne_eq, ne_eq, same, same]
  rfl

/-- A character that stands for itself costs what it weighs. -/
theorem Plain.stringCost {char : Char} (plain : Plain char) :
    stringCost (utf16Char char) = weight (String.utf8EncodeChar char) := by
  rw [plain_iff] at plain
  rcases Nat.lt_or_ge char.toNat 0x80 with small | beyond
  · rw [weight_small small, utf16Char, if_pos (by omega), stringCost_cons,
      unitCost_ofNat (by omega), if_neg (by omega)]
    by_cases space : char.toNat = 0x20
    · rw [if_pos space, if_pos (.inl space)]
      rfl
    · rw [if_neg space, if_pos small, if_neg (by omega)]
      rfl
  · exact stringCost_beyond beyond

/-- A character that does not stand for itself costs more than it weighs. -/
theorem weight_lt_stringCost {char : Char} (special : ¬ Plain char) :
    weight (String.utf8EncodeChar char) < stringCost (utf16Char char) := by
  rw [plain_iff] at special
  have cost : stringCost (utf16Char char) = 2 := by
    rw [utf16Char, if_pos (by omega), stringCost_cons, unitCost_ofNat (by omega),
      if_pos (by omega)]
    rfl
  rw [weight_small (by omega), cost]
  split
  · decide
  · decide

theorem weight_le_stringCost (char : Char) :
    weight (String.utf8EncodeChar char) ≤ stringCost (utf16Char char) := by
  by_cases plain : Plain char
  · exact Nat.le_of_eq plain.stringCost.symm
  · exact Nat.le_of_lt (weight_lt_stringCost plain)

/-! ## Strings -/

theorem weight_le_cost (text : List Char) :
    weight (utf8Encode text) ≤ stringCost (utf16Encode text) := by
  induction text with
  | nil => exact Nat.le_refl 0
  | cons char rest ih =>
    rw [utf8Encode_cons, utf16Encode_cons, weight_append, stringCost_append]
    exact Nat.add_le_add (weight_le_stringCost char) ih

/-- A text that costs no more than it weighs has nothing to escape. -/
theorem plain_of_cost_le {text : List Char}
    (cheap : stringCost (utf16Encode text) ≤ weight (utf8Encode text)) :
    ∀ char ∈ text, Plain char := by
  induction text with
  | nil => exact fun _ inside => absurd inside List.not_mem_nil
  | cons char rest ih =>
    rw [utf8Encode_cons, utf16Encode_cons, weight_append, stringCost_append] at cheap
    have first := weight_le_stringCost char
    have later := weight_le_cost rest
    have plain : Plain char := by
      by_contra special
      have more := weight_lt_stringCost special
      omega
    intro other inside
    rcases List.mem_cons.mp inside with rfl | member
    · exact plain
    · exact ih (by omega) other member

/-- Characters that stand for themselves are their own content. -/
theorem Content.of_plain {text : List Char} (plain : ∀ char ∈ text, Plain char) :
    Content (utf8Encode text) (utf16Encode text) := by
  induction text with
  | nil => exact .nil
  | cons char rest ih =>
    obtain ⟨visible, unquoted, unescaped⟩ := plain char (.head _)
    exact .plain visible unquoted unescaped (ih fun other inside => plain other (.tail _ inside))

theorem escaped_cost {byte : UInt8} {unit : UInt16} (means : escaped byte = some unit) :
    isSpace byte = false ∧ unitCost unit ≤ 2 := by
  rw [escaped] at means
  split_ifs at means with quoted slashed solidus backspace feed line carriage tab
  all_goals
    cases means
    subst byte
    decide

theorem hexDigit_not_space {byte : UInt8} {unit : UInt16} (means : hexDigit byte = some unit) :
    isSpace byte = false := by
  by_contra space
  rw [Bool.not_eq_false, isSpace] at space
  simp only [Bool.or_eq_true, decide_eq_true_eq] at space
  have none : hexDigit byte = none := by
    rcases space with ((rfl | rfl) | rfl) | rfl
    all_goals rfl
  rw [none] at means
  cases means

theorem hexUnit_weight {digits : List UInt8} {unit : UInt16} (means : hexUnit digits = some unit) :
    1 ≤ weight digits := by
  rw [hexUnit] at means
  split at means
  · cases digits with
    | nil => contradiction
    | cons first rest =>
      rw [List.foldlM_cons] at means
      obtain ⟨value, read, -⟩ := Option.bind_eq_some_iff.mp means
      obtain ⟨digit, isDigit, -⟩ := Option.map_eq_some_iff.mp read
      rw [weight_cons, hexDigit_not_space isDigit]
      exact Nat.le_add_left 1 _
  · cases means

theorem unitCost_le (unit : UInt16) : unitCost unit ≤ 3 := by
  rw [unitCost]
  split_ifs
  all_goals decide

theorem Content.cost_le {source : List UInt8} {units : List UInt16}
    (content : Content source units) : stringCost units ≤ weight source := by
  induction content with
  | nil => exact Nat.le_refl 0
  | plain visible unquoted unescaped content ih =>
    have cost := Plain.stringCost ⟨visible, unquoted, unescaped⟩
    rw [stringCost_append, weight_append, cost]
    exact Nat.add_le_add_left ih _
  | escape means content ih =>
    obtain ⟨visible, small⟩ := escaped_cost means
    rw [stringCost_cons, weight_cons, weight_cons, visible]
    show _ ≤ _ + 1 + 1
    omega
  | @unicode digits unit rest units means content ih =>
    have some := hexUnit_weight means
    have small := unitCost_le unit
    rw [stringCost_cons, List.cons_append, List.cons_append, weight_cons, weight_cons,
      weight_append]
    show _ ≤ _ + 1 + 1
    omega

/-! ## Values -/

/-- A part with the commas between its own parts. -/
def Part.Fits : Part → Nat → Prop
  | .value whole, room => whole.cost ≤ room
  | .elements list, room => elementsCost list ≤ room + 1
  | .member name whole, room => 3 + stringCost name + whole.cost ≤ room
  | .members list, room => membersCost list ≤ room + 1

theorem weight_bracketed {left right : UInt8} (opens : isSpace left = false)
    (closes : isSpace right = false) (text : List UInt8) :
    weight (left :: text ++ [right]) = weight text + 2 := by
  rw [weight_append, weight_cons, weight_cons, opens, closes, weight_nil]
  rfl

theorem weight_separated {separator : UInt8} (visible : isSpace separator = false)
    (front back : List UInt8) :
    weight (front ++ separator :: back) = weight front + weight back + 1 := by
  rw [weight_append, weight_cons, visible]
  rfl

/-- A text weighs at least what its value costs. -/
theorem Derives.fits {part : Part} {text : List UInt8} (derives : Derives part text) :
    part.Fits (weight text) := by
  induction derives with
  | spaced front back inside ih =>
    rw [weight_append, weight_append, weight_space front, weight_space back, Nat.zero_add,
      Nat.add_zero]
    exact ih
  | null => exact Nat.le_refl 4
  | true => exact Nat.le_refl 4
  | false => exact Nat.le_refl 5
  | number form => exact Nat.le_refl _
  | string content =>
    have cost := content.cost_le
    rw [Part.Fits, Value.cost, weight_bracketed rfl rfl]
    omega
  | emptyArray only =>
    rw [Part.Fits, Value.cost, elementsCost, weight_bracketed rfl rfl]
    omega
  | array inside ih =>
    rw [Part.Fits] at ih
    rw [Part.Fits, Value.cost, weight_bracketed rfl rfl]
    omega
  | emptyObject only =>
    rw [Part.Fits, Value.cost, membersCost, weight_bracketed rfl rfl]
    omega
  | object inside ih =>
    rw [Part.Fits] at ih
    rw [Part.Fits, Value.cost, weight_bracketed rfl rfl]
    omega
  | lastElement last ih =>
    rw [Part.Fits] at ih
    rw [Part.Fits, elementsCost, elementsCost]
    omega
  | moreElements first more ihFirst ihMore =>
    rw [Part.Fits] at ihFirst
    rw [Part.Fits] at ihMore
    rw [Part.Fits, elementsCost, weight_separated rfl]
    omega
  | member front content back inside ih =>
    rw [Part.Fits] at ih
    have cost := content.cost_le
    rw [Part.Fits, weight_separated rfl, weight_append, weight_append, weight_bracketed rfl rfl,
      weight_space front, weight_space back]
    omega
  | lastMember last ih =>
    rw [Part.Fits] at ih
    rw [Part.Fits, membersCost, membersCost]
    omega
  | moreMembers first more ihFirst ihMore =>
    rw [Part.Fits] at ihFirst
    rw [Part.Fits] at ihMore
    rw [Part.Fits, membersCost, weight_separated rfl]
    omega

def memberCost (member : List UInt16 × Value) : Nat :=
  3 + stringCost member.1 + member.2.cost + 1

theorem membersCost_eq (members : List (List UInt16 × Value)) :
    membersCost members = (members.map memberCost).sum := by
  induction members with
  | nil => rw [membersCost, List.map_nil, List.sum_nil]
  | cons member rest ih =>
    rw [membersCost, List.map_cons, List.sum_cons, ih]
    rfl

/-- A name and its string, with the quotes, the colon and a comma. -/
def fieldCost (field : List UInt16 × List UInt16) : Nat :=
  6 + stringCost field.1 + stringCost field.2

/-- An object costs as much as strings that it has under different names. -/
theorem Value.cost_of_fields {value : Value} {fields : List (List UInt16 × List UInt16)}
    (some : fields ≠ []) (distinct : (fields.map Prod.fst).Nodup)
    (found : ∀ field ∈ fields, value.field field.1 = .some (.string field.2)) :
    1 + (fields.map fieldCost).sum ≤ value.cost := by
  obtain ⟨first, inside⟩ := List.exists_mem_of_ne_nil fields some
  cases value with
  | object members =>
    have members_of : fields.map (fun field => (field.1, Value.string field.2)) ⊆ members := by
      intro member listed
      obtain ⟨field, here, rfl⟩ := List.mem_map.mp listed
      have last := found field here
      rw [Value.field] at last
      obtain ⟨front, back, split, -⟩ := List.lookup_eq_some_iff.mp last
      rw [← List.mem_reverse, split]
      simp
    have nodup : (fields.map fun field => (field.1, Value.string field.2)).Nodup := by
      apply List.Nodup.of_map Prod.fst
      rwa [List.map_map]
    obtain ⟨chosen, same, sublist⟩ := List.subperm_of_subset nodup members_of
    have costs : (fields.map fieldCost).sum =
        ((fields.map fun field => (field.1, Value.string field.2)).map memberCost).sum := by
      rw [List.map_map]
      congr 1
      apply List.map_congr_left
      intro field _
      rw [fieldCost, Function.comp_apply, memberCost, Value.cost]
      show _ = 3 + stringCost field.1 + (2 + stringCost field.2) + 1
      omega
    rw [Value.cost, membersCost_eq, costs, ← (same.map memberCost).sum_eq]
    exact Nat.add_le_add_left ((sublist.map memberCost).sum_le_sum fun _ _ => Nat.zero_le _) 1
  | null => cases found first inside
  | boolean value => cases found first inside
  | number literal => cases found first inside
  | string units => cases found first inside
  | array elements => cases found first inside

theorem Value.field_of_mem {members : List (List UInt16 × Value)}
    (distinct : (members.map Prod.fst).Nodup) {name : List UInt16} {value : Value}
    (inside : (name, value) ∈ members) : (Value.object members).field name = some value := by
  obtain ⟨front, back, split⟩ := List.append_of_mem (List.mem_reverse.mpr inside)
  rw [Value.field, List.lookup_eq_some_iff]
  refine ⟨front, back, split, fun other here => ?_⟩
  have reversed : (members.reverse.map Prod.fst).Nodup := by
    rwa [List.map_reverse, List.nodup_reverse]
  rw [split, List.map_append, List.map_cons, List.nodup_append] at reversed
  rw [bne_iff_ne]
  intro same
  exact reversed.2.2 other.1 (List.mem_map_of_mem here) name (by simp) same.symm

end Json
