import V8Jsi.Lib.Unicode

set_option autoImplicit false

/- Generalised UTF-8 (WTF-8), an encoding of arbitrary 16-bit units: a pair of
surrogates takes four bytes, a lone surrogate three. -/
namespace Wtf8

open Unicode

/-- The code points of the units, lone surrogates among them. -/
def points : List UInt16 → List Nat
  | [] => []
  | [unit] => [unit.toNat]
  | unit :: next :: rest =>
      if isHighSurrogate unit && isLowSurrogate next then
        (0x10000 + (unit.toNat - 0xD800) * 0x400 + (next.toNat - 0xDC00)) :: points rest
      else unit.toNat :: points (next :: rest)

def encodePoint (point : Nat) : List UInt8 :=
  if point ≤ 0x7F then [UInt8.ofNat point]
  else if point ≤ 0x7FF then
    [UInt8.ofNat (point / 64 % 0x20 + 0xC0), UInt8.ofNat (point % 0x40 + 0x80)]
  else if point ≤ 0xFFFF then
    [UInt8.ofNat (point / 4096 % 0x10 + 0xE0), UInt8.ofNat (point / 64 % 0x40 + 0x80),
      UInt8.ofNat (point % 0x40 + 0x80)]
  else
    [UInt8.ofNat (point / 262144 % 0x08 + 0xF0), UInt8.ofNat (point / 4096 % 0x40 + 0x80),
      UInt8.ofNat (point / 64 % 0x40 + 0x80), UInt8.ofNat (point % 0x40 + 0x80)]

def encode (units : List UInt16) : List UInt8 := (points units).flatMap encodePoint

/-! ## The decoder -/

/-- Continuation bytes, each with six more bits. -/
def decodeTails : Nat → Nat → List UInt8 → Option (Nat × List UInt8)
  | 0, value, bytes => some (value, bytes)
  | _ + 1, _, [] => none
  | count + 1, value, byte :: bytes =>
      if 0x80 ≤ byte.toNat ∧ byte.toNat < 0xC0 then
        decodeTails count (value * 64 + (byte.toNat - 0x80)) bytes
      else none

/-- One code point in its shortest form. -/
def decodePoint : List UInt8 → Option (Nat × List UInt8)
  | [] => none
  | byte :: bytes =>
      if byte.toNat < 0x80 then some (byte.toNat, bytes)
      else if byte.toNat < 0xC0 then none
      else if byte.toNat < 0xE0 then
        (decodeTails 1 (byte.toNat - 0xC0) bytes).filter fun decoded => 0x80 ≤ decoded.1
      else if byte.toNat < 0xF0 then
        (decodeTails 2 (byte.toNat - 0xE0) bytes).filter fun decoded => 0x800 ≤ decoded.1
      else if byte.toNat < 0xF8 then
        (decodeTails 3 (byte.toNat - 0xF0) bytes).filter fun decoded =>
          0x10000 ≤ decoded.1 && decoded.1 < 0x110000
      else none

def decodePoints : Nat → List UInt8 → Option (List Nat)
  | _, [] => some []
  | 0, _ :: _ => none
  | fuel + 1, byte :: bytes => do
      let (point, rest) ← decodePoint (byte :: bytes)
      let more ← decodePoints fuel rest
      return point :: more

/-- Two surrogates in three bytes each that would be a pair are refused. -/
def unitsOf : List Nat → Option (List UInt16)
  | [] => some []
  | point :: rest => do
      let units ← unitsOf rest
      if point < 0x10000 then
        if isHighSurrogate (UInt16.ofNat point) && units.head?.any isLowSurrogate then none
        else return UInt16.ofNat point :: units
      else
        return UInt16.ofNat (0xD800 + (point - 0x10000) / 0x400) ::
          UInt16.ofNat (0xDC00 + (point - 0x10000) % 0x400) :: units

def decode (bytes : List UInt8) : Option (List UInt16) :=
  decodePoints bytes.length bytes >>= unitsOf

/-! ## Round trip -/

theorem decodeTails_succ (count value bits : Nat) (small : bits < 0x40) (bytes : List UInt8) :
    decodeTails (count + 1) value (UInt8.ofNat (bits + 0x80) :: bytes) =
      decodeTails count (value * 64 + bits) bytes := by
  have byte : (UInt8.ofNat (bits + 0x80)).toNat = bits + 0x80 :=
    UInt8.toNat_ofNat_of_lt' (by show bits + 0x80 < 256; omega)
  rw [decodeTails, byte, if_pos (by omega), Nat.add_sub_cancel]

theorem lead_toNat {bits mark : Nat} (small : bits + mark < 256) :
    (UInt8.ofNat (bits + mark)).toNat = bits + mark := UInt8.toNat_ofNat_of_lt' small

theorem decodePoint_encodePoint (point : Nat) (small : point < 0x110000) (rest : List UInt8) :
    decodePoint (encodePoint point ++ rest) = some (point, rest) := by
  rcases Nat.lt_or_ge 0x7F point with large | one
  · rcases Nat.lt_or_ge 0x7FF point with larger | two
    · rcases Nat.lt_or_ge 0xFFFF point with largest | three
      · have value : ((point / 262144 % 0x08 * 64 + point / 4096 % 0x40) * 64 +
            point / 64 % 0x40) * 64 + point % 0x40 = point := by omega
        rw [encodePoint, if_neg (by omega), if_neg (by omega), if_neg (by omega)]
        simp only [List.cons_append, List.nil_append]
        rw [decodePoint, lead_toNat (by omega), if_neg (by omega), if_neg (by omega),
          if_neg (by omega), if_neg (by omega), if_pos (by omega), Nat.add_sub_cancel,
          decodeTails_succ _ _ _ (by omega), decodeTails_succ _ _ _ (by omega),
          decodeTails_succ _ _ _ (by omega), decodeTails, value]
        exact Option.filter_some_pos (by simp; omega)
      · have value : (point / 4096 % 0x10 * 64 + point / 64 % 0x40) * 64 + point % 0x40 = point := by
          omega
        rw [encodePoint, if_neg (by omega), if_neg (by omega), if_pos three]
        simp only [List.cons_append, List.nil_append]
        rw [decodePoint, lead_toNat (by omega), if_neg (by omega), if_neg (by omega),
          if_neg (by omega), if_pos (by omega), Nat.add_sub_cancel,
          decodeTails_succ _ _ _ (by omega), decodeTails_succ _ _ _ (by omega), decodeTails, value]
        exact Option.filter_some_pos (by simp; omega)
    · have value : point / 64 % 0x20 * 64 + point % 0x40 = point := by omega
      rw [encodePoint, if_neg (by omega), if_pos two]
      simp only [List.cons_append, List.nil_append]
      rw [decodePoint, lead_toNat (by omega), if_neg (by omega), if_neg (by omega),
        if_pos (by omega), Nat.add_sub_cancel, decodeTails_succ _ _ _ (by omega), decodeTails,
        value]
      exact Option.filter_some_pos (by simp; omega)
  · have byte : (UInt8.ofNat point).toNat = point :=
      UInt8.toNat_ofNat_of_lt' (by show point < 256; omega)
    rw [encodePoint, if_pos one, List.singleton_append, decodePoint, byte, if_pos (by omega)]

theorem encodePoint_ne_nil (point : Nat) : encodePoint point ≠ [] := by
  unfold encodePoint
  split
  · exact List.cons_ne_nil _ _
  · split
    · exact List.cons_ne_nil _ _
    · split <;> exact List.cons_ne_nil _ _

theorem decodePoints_flatMap (codes : List Nat) (small : ∀ point ∈ codes, point < 0x110000) :
    ∀ fuel, codes.length ≤ fuel →
      decodePoints fuel (codes.flatMap encodePoint) = some codes := by
  induction codes with
  | nil => intro fuel _; cases fuel <;> rfl
  | cons point rest ih =>
    intro fuel enough
    rw [List.length_cons] at enough
    obtain ⟨fuel, rfl⟩ : ∃ less, fuel = less + 1 := ⟨fuel - 1, by omega⟩
    have first := decodePoint_encodePoint point (small point List.mem_cons_self)
      (rest.flatMap encodePoint)
    have later := ih (fun other inside => small other (List.mem_cons_of_mem _ inside)) fuel
      (by omega)
    rw [List.flatMap_cons]
    obtain ⟨byte, bytes, shape⟩ := List.exists_cons_of_ne_nil (encodePoint_ne_nil point)
    rw [shape, List.cons_append, decodePoints, ← List.cons_append, ← shape, first]
    simp only [Option.bind_eq_bind, Option.bind_some, later]
    rfl

theorem length_le_flatMap (codes : List Nat) :
    codes.length ≤ (codes.flatMap encodePoint).length := by
  induction codes with
  | nil => exact Nat.le_refl 0
  | cons point rest ih =>
    have positive := List.length_pos_iff.mpr (encodePoint_ne_nil point)
    rw [List.flatMap_cons, List.length_append, List.length_cons]
    omega

theorem surrogate_ranges (unit : UInt16) :
    (isHighSurrogate unit = true ↔ 0xD800 ≤ unit.toNat ∧ unit.toNat < 0xDC00) ∧
      (isLowSurrogate unit = true ↔ 0xDC00 ≤ unit.toNat ∧ unit.toNat < 0xE000) := by
  have bound := unit.toNat_lt
  constructor
  · rw [← UInt16.ofNat_toNat (x := unit), isHighSurrogate_ofNat bound, UInt16.ofNat_toNat]
  · rw [← UInt16.ofNat_toNat (x := unit), isLowSurrogate_ofNat bound, UInt16.ofNat_toNat]

theorem points_small (units : List UInt16) : ∀ point ∈ points units, point < 0x110000 := by
  fun_induction points units with
  | case1 => simp
  | case2 unit =>
    have bound := unit.toNat_lt
    simp only [List.mem_singleton, forall_eq]
    omega
  | case3 unit next rest pair ih =>
    rw [Bool.and_eq_true, (surrogate_ranges unit).1, (surrogate_ranges next).2] at pair
    simp only [List.mem_cons, forall_eq_or_imp]
    exact ⟨by omega, ih⟩
  | case4 unit next rest single ih =>
    have bound := unit.toNat_lt
    simp only [List.mem_cons, forall_eq_or_imp]
    exact ⟨by omega, ih⟩

theorem unitsOf_points (units : List UInt16) : unitsOf (points units) = some units := by
  fun_induction points units with
  | case1 => rfl
  | case2 unit =>
    have bound := unit.toNat_lt
    have small : unit.toNat < 0x10000 := bound
    simp [unitsOf, small]
  | case3 unit next rest pair ih =>
    rw [Bool.and_eq_true, (surrogate_ranges unit).1, (surrogate_ranges next).2] at pair
    have large : ¬ 0x10000 + (unit.toNat - 0xD800) * 0x400 + (next.toNat - 0xDC00) < 0x10000 := by
      omega
    have high : 0xD800 + (0x10000 + (unit.toNat - 0xD800) * 0x400 + (next.toNat - 0xDC00) -
        0x10000) / 0x400 = unit.toNat := by omega
    have low : 0xDC00 + (0x10000 + (unit.toNat - 0xD800) * 0x400 + (next.toNat - 0xDC00) -
        0x10000) % 0x400 = next.toNat := by omega
    rw [unitsOf, ih]
    simp only [Option.bind_eq_bind, Option.bind_some, if_neg large, high, low,
      UInt16.ofNat_toNat]
    rfl
  | case4 unit next rest single ih =>
    have small : unit.toNat < 0x10000 := unit.toNat_lt
    rw [unitsOf, ih]
    simp only [Option.bind_eq_bind, Option.bind_some, if_pos small, UInt16.ofNat_toNat]
    exact if_neg single

/-- Only a high surrogate is read together with what follows it. -/
theorem points_unit {unit : UInt16} (other : isHighSurrogate unit = false) (rest : List UInt16) :
    points (unit :: rest) = unit.toNat :: points rest := by
  cases rest with
  | nil => rfl
  | cons next more => rw [points, other, Bool.false_and, if_neg Bool.false_ne_true]

/-- Every list of units is read back. -/
theorem decode_encode (units : List UInt16) : decode (encode units) = some units := by
  rw [decode, encode, decodePoints_flatMap _ (points_small units) _ (length_le_flatMap _)]
  exact unitsOf_points units

/-! ## Well-formed units -/

theorem points_utf16Char (char : Char) (rest : List UInt16) :
    points (utf16Char char ++ rest) = char.toNat :: points rest := by
  have range := char_range char
  unfold utf16Char
  split
  case isTrue small =>
    have single : isHighSurrogate (UInt16.ofNat char.toNat) = false := by
      rw [← Bool.not_eq_true, isHighSurrogate_ofNat small]
      omega
    rw [List.singleton_append, points_unit single, UInt16.toNat_ofNat_of_lt' small]
  case isFalse =>
    have first : 0xD800 + (char.toNat - 0x10000) / 0x400 < 0x10000 := by omega
    have second : 0xDC00 + (char.toNat - 0x10000) % 0x400 < 0x10000 := by omega
    have pair : (isHighSurrogate (UInt16.ofNat (0xD800 + (char.toNat - 0x10000) / 0x400)) &&
        isLowSurrogate (UInt16.ofNat (0xDC00 + (char.toNat - 0x10000) % 0x400))) = true := by
      rw [Bool.and_eq_true, isHighSurrogate_ofNat first, isLowSurrogate_ofNat second]
      omega
    have joined : 0x10000 + (0xD800 + (char.toNat - 0x10000) / 0x400 - 0xD800) * 0x400 +
        (0xDC00 + (char.toNat - 0x10000) % 0x400 - 0xDC00) = char.toNat := by omega
    rw [List.cons_append, List.singleton_append, points, if_pos pair,
      UInt16.toNat_ofNat_of_lt' first, UInt16.toNat_ofNat_of_lt' second, joined]

/-- On a text the encoding is UTF-8. -/
theorem encode_utf16Encode (text : List Char) : encode (utf16Encode text) = utf8Encode text := by
  induction text with
  | nil => rfl
  | cons char rest ih =>
    rw [encode] at ih
    rw [utf16Encode_cons, utf8Encode_cons, encode, points_utf16Char, List.flatMap_cons, ih]
    rfl

end Wtf8
