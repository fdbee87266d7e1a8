import Mathlib.Data.List.Basic

set_option autoImplicit false

/- Texts as lists of characters, their UTF-16 and UTF-8 encodings, and the lossy
reading of arbitrary 16-bit units. -/
namespace Unicode

def isHighSurrogate (unit : UInt16) : Bool := 0xD800 ≤ unit && unit < 0xDC00

def isLowSurrogate (unit : UInt16) : Bool := 0xDC00 ≤ unit && unit < 0xE000

def utf16Char (char : Char) : List UInt16 :=
  if char.toNat < 0x10000 then [UInt16.ofNat char.toNat]
  else
    let offset := char.toNat - 0x10000
    [UInt16.ofNat (0xD800 + offset / 0x400), UInt16.ofNat (0xDC00 + offset % 0x400)]

def utf16Encode (text : List Char) : List UInt16 := text.flatMap utf16Char

def utf8Encode (text : List Char) : List UInt8 := text.flatMap String.utf8EncodeChar

/-- Bytes that are the UTF-8 encoding of a text. -/
def WellFormed (bytes : List UInt8) : Prop := ∃ text, utf8Encode text = bytes

/-- A unit on its own; surrogates are replaced by U+FFFD. -/
def unitChar (unit : UInt16) : Char :=
  if isHighSurrogate unit || isLowSurrogate unit then Char.ofNat 0xFFFD else Char.ofNat unit.toNat

def pairChar (high low : UInt16) : Char :=
  Char.ofNat (0x10000 + (high.toNat - 0xD800) * 0x400 + (low.toNat - 0xDC00))

/-- Pairs of surrogates are joined, lone surrogates are replaced. -/
def decodeLossy : List UInt16 → List Char
  | [] => []
  | [unit] => [unitChar unit]
  | unit :: next :: rest =>
      if isHighSurrogate unit && isLowSurrogate next then
        pairChar unit next :: decodeLossy rest
      else unitChar unit :: decodeLossy (next :: rest)

theorem decodeLossy_unit {unit : UInt16} (other : isHighSurrogate unit = false)
    (rest : List UInt16) : decodeLossy (unit :: rest) = unitChar unit :: decodeLossy rest := by
  cases rest with
  | nil => rfl
  | cons next more => simp [decodeLossy, other]

theorem decodeLossy_eq_nil {units : List UInt16} (empty : decodeLossy units = []) :
    units = [] := by
  cases units with
  | nil => rfl
  | cons unit rest =>
    cases rest with
    | nil => cases empty
    | cons next more =>
      rw [decodeLossy] at empty
      split at empty <;> cases empty

theorem decodeLossy_pair {high low : UInt16} (first : isHighSurrogate high = true)
    (second : isLowSurrogate low = true) (rest : List UInt16) :
    decodeLossy (high :: low :: rest) = pairChar high low :: decodeLossy rest := by
  simp [decodeLossy, first, second]

theorem isHighSurrogate_ofNat {value : Nat} (small : value < 0x10000) :
    isHighSurrogate (UInt16.ofNat value) = true ↔ 0xD800 ≤ value ∧ value < 0xDC00 := by
  simp only [isHighSurrogate, Bool.and_eq_true, decide_eq_true_eq, UInt16.le_iff_toNat_le,
    UInt16.lt_iff_toNat_lt, UInt16.toNat_ofNat_of_lt' small, UInt16.reduceToNat]

theorem isLowSurrogate_ofNat {value : Nat} (small : value < 0x10000) :
    isLowSurrogate (UInt16.ofNat value) = true ↔ 0xDC00 ≤ value ∧ value < 0xE000 := by
  simp only [isLowSurrogate, Bool.and_eq_true, decide_eq_true_eq, UInt16.le_iff_toNat_le,
    UInt16.lt_iff_toNat_lt, UInt16.toNat_ofNat_of_lt' small, UInt16.reduceToNat]

/-- A character is no surrogate. -/
theorem char_range (char : Char) :
    char.toNat < 0xD800 ∨ 0xDFFF < char.toNat ∧ char.toNat < 0x110000 := by
  have valid := char.valid
  simpa [UInt32.isValidChar, Nat.isValidChar] using valid

theorem decodeLossy_utf16Char (char : Char) (rest : List UInt16) :
    decodeLossy (utf16Char char ++ rest) = char :: decodeLossy rest := by
  have range := char_range char
  unfold utf16Char
  split
  · rename_i small
    have high : isHighSurrogate (UInt16.ofNat char.toNat) = false := by
      rw [← Bool.not_eq_true, isHighSurrogate_ofNat small]
      omega
    have low : isLowSurrogate (UInt16.ofNat char.toNat) = false := by
      rw [← Bool.not_eq_true, isLowSurrogate_ofNat small]
      omega
    rw [List.singleton_append, decodeLossy_unit high, unitChar, high, low,
      UInt16.toNat_ofNat_of_lt' small, Char.ofNat_toNat]
    rfl
  · have first : 0xD800 + (char.toNat - 0x10000) / 0x400 < 0x10000 := by omega
    have second : 0xDC00 + (char.toNat - 0x10000) % 0x400 < 0x10000 := by omega
    have joined : 0x10000 + (0xD800 + (char.toNat - 0x10000) / 0x400 - 0xD800) * 0x400 +
        (0xDC00 + (char.toNat - 0x10000) % 0x400 - 0xDC00) = char.toNat := by omega
    rw [List.cons_append, List.singleton_append, decodeLossy_pair, pairChar,
      UInt16.toNat_ofNat_of_lt' first, UInt16.toNat_ofNat_of_lt' second, joined,
      Char.ofNat_toNat]
    · rw [isHighSurrogate_ofNat first]
      omega
    · rw [isLowSurrogate_ofNat second]
      omega

/-- Reading back what was written loses nothing. -/
theorem decodeLossy_utf16Encode (text : List Char) : decodeLossy (utf16Encode text) = text := by
  induction text with
  | nil => rfl
  | cons char rest ih =>
    rw [utf16Encode, List.flatMap_cons, decodeLossy_utf16Char]
    exact congrArg (char :: ·) ih

theorem utf16Encode_injective : Function.Injective utf16Encode :=
  Function.LeftInverse.injective decodeLossy_utf16Encode

/-- UTF-8 to UTF-16. Bytes that are no text have no result. -/
def transcode (bytes : List UInt8) : Option (List UInt16) :=
  bytes.toByteArray.utf8Decode?.map fun text => utf16Encode text.toList

theorem transcode_utf8Encode (text : List Char) :
    transcode (utf8Encode text) = some (utf16Encode text) := by
  have decoded : (utf8Encode text).toByteArray.utf8Decode? = some text.toArray :=
    List.utf8Decode?_utf8Encode
  rw [transcode, decoded, Option.map_some]

theorem wellFormed_of_transcode {bytes : List UInt8} {units : List UInt16}
    (result : transcode bytes = some units) : WellFormed bytes := by
  obtain ⟨text, decoded, -⟩ := Option.map_eq_some_iff.mp result
  have valid : bytes.toByteArray.utf8Decode?.isSome = true := by
    rw [decoded, Option.isSome_some]
  obtain ⟨chars, encoded⟩ := ByteArray.isSome_utf8Decode?_iff.mp valid
  exact ⟨chars, (List.toByteArray_inj.mp encoded).symm⟩

theorem transcode_of_wellFormed {bytes : List UInt8} (wellFormed : WellFormed bytes) :
    ∃ units, transcode bytes = some units := by
  obtain ⟨text, rfl⟩ := wellFormed
  exact ⟨_, transcode_utf8Encode text⟩

theorem wellFormed_append {first second : List UInt8} (front : WellFormed first)
    (back : WellFormed second) : WellFormed (first ++ second) := by
  obtain ⟨text, rfl⟩ := front
  obtain ⟨more, rfl⟩ := back
  exact ⟨text ++ more, List.flatMap_append⟩

theorem utf16Encode_ne_nil {text : List Char} (some : text ≠ []) : utf16Encode text ≠ [] := by
  cases text with
  | nil => exact absurd rfl some
  | cons char rest =>
    rw [utf16Encode, List.flatMap_cons, utf16Char]
    split <;> simp

theorem utf16Encode_cons (char : Char) (rest : List Char) :
    utf16Encode (char :: rest) = utf16Char char ++ utf16Encode rest := rfl

theorem utf8EncodeChar_small {char : Char} (small : char.toNat < 0x80) :
    String.utf8EncodeChar char = [UInt8.ofNat char.toNat] := by
  have least : char.val.toNat ≤ 0x7F := by
    rw [Char.toNat] at small
    omega
  rw [String.utf8EncodeChar, if_pos least]
  rfl

theorem utf8Size_eq (char : Char) :
    char.utf8Size =
      if char.toNat ≤ 0x7F then 1
      else if char.toNat ≤ 0x7FF then 2
      else if char.toNat ≤ 0xFFFF then 3
      else 4 := by
  simp only [Char.utf8Size, UInt32.le_iff_toNat_le]
  rfl

theorem utf8EncodeChar_ascii {byte : UInt8} (ascii : byte < 0x80) :
    String.utf8EncodeChar (Char.ofNat byte.toNat) = [byte] := by
  have small : byte.toNat < 0x80 := UInt8.lt_iff_toNat_lt.mp ascii
  have valid : byte.toNat.isValidChar := .inl (by omega)
  have value : (Char.ofNat byte.toNat).toNat = byte.toNat := by
    rw [Char.ofNat, dif_pos valid]
    rfl
  rw [utf8EncodeChar_small (by rwa [value]), value, UInt8.ofNat_toNat]

/-- ASCII bytes, widened, are read as themselves. -/
theorem utf8Encode_widened {bytes : List UInt8} (ascii : ∀ byte ∈ bytes, byte < 0x80) :
    utf8Encode (decodeLossy (bytes.map UInt8.toUInt16)) = bytes := by
  induction bytes with
  | nil => rfl
  | cons byte rest ih =>
    have small : byte < 0x80 := ascii byte List.mem_cons_self
    have below : byte.toNat < 0x80 := UInt8.lt_iff_toNat_lt.mp small
    have unit : byte.toUInt16 = UInt16.ofNat byte.toNat := by simp
    have high : isHighSurrogate byte.toUInt16 = false := by
      rw [unit, ← Bool.not_eq_true, isHighSurrogate_ofNat (by omega)]
      omega
    have low : isLowSurrogate byte.toUInt16 = false := by
      rw [unit, ← Bool.not_eq_true, isLowSurrogate_ofNat (by omega)]
      omega
    have later := ih fun other member => ascii other (List.mem_cons_of_mem _ member)
    rw [List.map_cons, decodeLossy_unit high, utf8Encode, List.flatMap_cons, unitChar, high, low]
    simp only [Bool.or_self, Bool.false_eq_true, if_false, UInt8.toNat_toUInt16]
    rw [utf8EncodeChar_ascii small]
    exact congrArg (byte :: ·) later

/-- No byte of a character beyond ASCII is an ASCII byte. -/
theorem utf8EncodeChar_beyond {char : Char} (beyond : 0x80 ≤ char.toNat) :
    ∀ byte ∈ String.utf8EncodeChar char, 0x80 ≤ byte := by
  have marked {mark bits : Nat} (large : 0x80 ≤ mark) (small : bits + mark < 0x100) :
      (0x80 : UInt8) ≤ UInt8.ofNat (bits + mark) := by
    rw [UInt8.le_iff_toNat_le, UInt8.toNat_ofNat_of_lt' small]
    show 0x80 ≤ bits + mark
    omega
  have large : ¬ char.val.toNat ≤ 0x7F := by
    rw [Char.toNat] at beyond
    omega
  rw [String.utf8EncodeChar, if_neg large]
  intro byte inside
  split at inside
  · simp only [List.mem_cons, List.not_mem_nil, or_false] at inside
    rcases inside with rfl | rfl
    · exact marked (by omega) (by omega)
    · exact marked (by omega) (by omega)
  · split at inside
    · simp only [List.mem_cons, List.not_mem_nil, or_false] at inside
      rcases inside with rfl | rfl | rfl
      · exact marked (by omega) (by omega)
      · exact marked (by omega) (by omega)
      · exact marked (by omega) (by omega)
    · simp only [List.mem_cons, List.not_mem_nil, or_false] at inside
      rcases inside with rfl | rfl | rfl | rfl
      · exact marked (by omega) (by omega)
      · exact marked (by omega) (by omega)
      · exact marked (by omega) (by omega)
      · exact marked (by omega) (by omega)

/-- An ASCII byte is the whole of its character. -/
theorem utf8EncodeChar_of_mem {char : Char} {byte : UInt8} (ascii : byte < 0x80)
    (inside : byte ∈ String.utf8EncodeChar char) :
    String.utf8EncodeChar char = [byte] ∧ char.toNat = byte.toNat := by
  rcases Nat.lt_or_ge char.toNat 0x80 with small | beyond
  · rw [utf8EncodeChar_small small] at inside ⊢
    rw [List.mem_singleton] at inside
    rw [inside, UInt8.toNat_ofNat_of_lt' (show char.toNat < 256 by omega)]
    exact ⟨rfl, rfl⟩
  · exact absurd (UInt8.lt_of_lt_of_le ascii (utf8EncodeChar_beyond beyond byte inside))
      (UInt8.lt_irrefl byte)

theorem utf8Encode_cons (char : Char) (rest : List Char) :
    utf8Encode (char :: rest) = String.utf8EncodeChar char ++ utf8Encode rest := rfl

theorem pairChar_beyond {high low : UInt16} (first : isHighSurrogate high = true)
    (second : isLowSurrogate low = true) : 0x80 ≤ (pairChar high low).toNat := by
  simp only [isHighSurrogate, isLowSurrogate, Bool.and_eq_true, decide_eq_true_eq,
    UInt16.le_iff_toNat_le, UInt16.lt_iff_toNat_lt, UInt16.reduceToNat] at first second
  have valid : (0x10000 + (high.toNat - 0xD800) * 0x400 + (low.toNat - 0xDC00)).isValidChar :=
    .inr ⟨by omega, by omega⟩
  rw [pairChar, Char.ofNat, dif_pos valid]
  show 0x80 ≤ 0x10000 + (high.toNat - 0xD800) * 0x400 + (low.toNat - 0xDC00)
  omega

/-- A unit that is read as an ASCII character is that character. -/
theorem unitChar_ascii {unit : UInt16} (ascii : (unitChar unit).toNat < 0x80) :
    unit.toNat < 0x80 ∧ unitChar unit = Char.ofNat unit.toNat := by
  rw [unitChar] at ascii ⊢
  split at ascii
  · exact absurd ascii (by decide)
  · rename_i single
    rw [if_neg single]
    simp only [isHighSurrogate, isLowSurrogate, Bool.or_eq_true, Bool.and_eq_true,
      decide_eq_true_eq, UInt16.le_iff_toNat_le, UInt16.lt_iff_toNat_lt,
      UInt16.reduceToNat] at single
    have bound := unit.toNat_lt
    have valid : unit.toNat.isValidChar := by
      rcases Nat.lt_or_ge unit.toNat 0xD800 with low | high
      · exact .inl low
      · exact .inr ⟨by omega, by omega⟩
    rw [Char.ofNat, dif_pos valid] at ascii
    exact ⟨ascii, rfl⟩

/-- Units that are read as ASCII bytes are these bytes, widened. -/
theorem widened_of_ascii (units : List UInt16)
    (ascii : ∀ byte ∈ utf8Encode (decodeLossy units), byte < 0x80) :
    units = (utf8Encode (decodeLossy units)).map UInt8.toUInt16 := by
  have small {char : Char} {rest : List Char}
      (all : ∀ byte ∈ utf8Encode (char :: rest), byte < 0x80) : char.toNat < 0x80 := by
    obtain ⟨byte, inside⟩ := List.exists_mem_of_ne_nil _ (String.utf8EncodeChar_ne_nil (c := char))
    have below := all byte (List.mem_append_left _ inside)
    rw [(utf8EncodeChar_of_mem below inside).2]
    exact UInt8.lt_iff_toNat_lt.mp below
  -- Only a unit on its own is read as an ASCII character, and then as itself.
  have unitCase {unit : UInt16} {rest : List Char}
      (all : ∀ byte ∈ utf8Encode (unitChar unit :: rest), byte < 0x80) :
      (String.utf8EncodeChar (unitChar unit)).map UInt8.toUInt16 = [unit] := by
    obtain ⟨below, plain⟩ := unitChar_ascii (small all)
    have asByte : unit.toUInt8.toNat = unit.toNat := by
      rw [UInt16.toNat_toUInt8]
      omega
    rw [plain, ← asByte, utf8EncodeChar_ascii (UInt8.lt_iff_toNat_lt.mpr (by
      rw [asByte]
      exact below)), List.map_singleton]
    congr 1
    apply UInt16.toNat_inj.mp
    rw [UInt8.toNat_toUInt16, asByte]
  induction units using decodeLossy.induct with
  | case1 => rfl
  | case2 unit =>
    rw [decodeLossy] at ascii ⊢
    rw [utf8Encode_cons, List.map_append, unitCase ascii]
    rfl
  | case3 unit next rest pair ih =>
    rw [Bool.and_eq_true] at pair
    rw [decodeLossy_pair pair.1 pair.2] at ascii
    exact absurd (small ascii) (Nat.not_lt.mpr (pairChar_beyond pair.1 pair.2))
  | case4 unit next rest single ih =>
    rw [decodeLossy, if_neg single] at ascii ⊢
    rw [utf8Encode_cons, List.map_append, unitCase ascii, List.singleton_append]
    exact congrArg (unit :: ·) (ih fun byte inside => ascii byte (List.mem_append_right _ inside))

/-- Bytes of a text are cut in two texts at an ASCII byte. -/
theorem utf8Encode_split {byte : UInt8} (ascii : byte < 0x80) (back : List UInt8) (text : List Char) :
    ∀ front, utf8Encode text = front ++ byte :: back →
      ∃ first char last, text = first ++ char :: last ∧ utf8Encode first = front ∧
        char.toNat = byte.toNat ∧ utf8Encode last = back := by
  induction text with
  | nil =>
    intro front whole
    exact absurd whole (by simp [utf8Encode])
  | cons char rest ih =>
    intro front whole
    rw [utf8Encode_cons] at whole
    rcases List.append_eq_append_iff.mp whole with ⟨more, split, later⟩ | ⟨more, split, later⟩
    · obtain ⟨first, found, last, rfl, front', same, back'⟩ := ih more later
      refine ⟨char :: first, found, last, rfl, ?_, same, back'⟩
      rw [utf8Encode_cons, front', split]
    · cases more with
      | nil =>
        obtain ⟨first, found, last, rfl, front', same, back'⟩ := ih [] later.symm
        refine ⟨char :: first, found, last, rfl, ?_, same, back'⟩
        rw [utf8Encode_cons, front', split, List.append_nil, List.append_nil]
      | cons head tail =>
        -- The byte is inside the character, which is then this byte alone.
        obtain ⟨rfl, tail'⟩ := List.cons.inj later
        have inside : byte ∈ String.utf8EncodeChar char := by
          rw [split]
          simp
        obtain ⟨single, same⟩ := utf8EncodeChar_of_mem ascii inside
        rw [single] at split
        have empty : front = [] ∧ tail = [] := by
          have length := congrArg List.length split
          rw [List.length_append, List.length_singleton, List.length_cons] at length
          exact ⟨List.eq_nil_of_length_eq_zero (by omega),
            List.eq_nil_of_length_eq_zero (by omega)⟩
        refine ⟨[], char, rest, rfl, empty.1.symm, same, ?_⟩
        rw [tail', empty.2]
        rfl

end Unicode
