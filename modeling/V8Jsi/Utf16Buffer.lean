import Mathlib.Algebra.Group.Nat.Defs
import V8Jsi.Lib.Outcome
import V8Jsi.Lib.Wtf8
import V8Jsi.Utf16

set_option autoImplicit false

/- `utf16toUTF8` of inspector_utils.cpp with the string it fills: one loop adds up its
length in 32 bits, and a second one writes through an iterator. -/
namespace V8Jsi.InspectorUtils

open Outcome

def utf16toUTF8LengthLoop : List UInt16 → UInt32 → UInt32
  | [], utf8StringLen => utf8StringLen
  | ch :: rest, utf8StringLen =>
      if ch < kUtf8OneByteBoundary then utf16toUTF8LengthLoop rest (utf8StringLen + 1)
      else if ch < kUtf8TwoBytesBoundary then utf16toUTF8LengthLoop rest (utf8StringLen + 2)
      else
        match rest with
        | [] => utf8StringLen + 3
        | ch2 :: more =>
            if isHighSurrogate ch && isLowSurrogate ch2 then
              utf16toUTF8LengthLoop more (utf8StringLen + 4)
            else utf16toUTF8LengthLoop (ch2 :: more) (utf8StringLen + 3)

def utf16toUTF8Length (utf16String : List UInt16) : Nat :=
  if utf16String.length = 0 then 0 else (utf16toUTF8LengthLoop utf16String 0).toNat

/-- A write behind the end of the string. -/
structure WriteOutside where
  position : Nat
  deriving DecidableEq, Repr

/-- The string that is filled and the iterator over it. -/
structure Filling where
  utf8String : List UInt8
  idx8 : Nat
  deriving DecidableEq, Repr

namespace Filling

/-- `*idx8++ = byte`. -/
def put (filling : Filling) (byte : UInt8) : Except WriteOutside Filling :=
  if filling.idx8 < filling.utf8String.length then
    .ok ⟨filling.utf8String.set filling.idx8 byte, filling.idx8 + 1⟩
  else .error ⟨filling.idx8⟩

def putAll (filling : Filling) (bytes : List UInt8) : Except WriteOutside Filling :=
  bytes.foldlM put filling

end Filling

def utf16toUTF8Loop : List UInt16 → Filling → Except WriteOutside Filling
  | [], filling => .ok filling
  | ch :: rest, filling =>
      if ch < kUtf8OneByteBoundary then
        filling.put (ch &&& 0x7F).toUInt8 >>= utf16toUTF8Loop rest
      else if ch < kUtf8TwoBytesBoundary then
        filling.putAll (twoBytes ch) >>= utf16toUTF8Loop rest
      else
        match rest with
        | [] => filling.putAll (threeBytes ch)
        | ch2 :: more =>
            if isHighSurrogate ch && isLowSurrogate ch2 then
              filling.putAll (fourBytes ch ch2) >>= utf16toUTF8Loop more
            else filling.putAll (threeBytes ch) >>= utf16toUTF8Loop (ch2 :: more)

/-- The whole of `utf16toUTF8`, where `utf16toUTF8` has only the bytes it writes. -/
def utf16toUTF8String (utf16String : List UInt16) : Except WriteOutside (List UInt8) :=
  if utf16String.length = 0 then .ok []
  else
    (utf16toUTF8Loop utf16String
      ⟨List.replicate (utf16toUTF8Length utf16String) 0, 0⟩).map Filling.utf8String

/-! ## Bytes -/

/-- The bits of a byte do not meet its marker. -/
theorem utf8Byte_eq (marker : UInt8) (bits : UInt16) (shift high value : Nat)
    (mark : marker.toNat = 2 ^ shift * high) (bitsValue : bits.toNat = value)
    (small : value < 2 ^ shift) (byte : marker.toNat + value < 256) :
    utf8Byte marker bits = UInt8.ofNat (value + marker.toNat) := by
  apply UInt8.toNat_inj.mp
  rw [utf8Byte, UInt8.toNat_or, UInt16.toNat_toUInt8, bitsValue, Nat.mod_eq_of_lt (by omega),
    mark, ← Nat.two_pow_add_eq_or_of_lt small, ← mark,
    UInt8.toNat_ofNat_of_lt' (by show value + marker.toNat < 256; omega), Nat.add_comm]

theorem and_six (ch : UInt16) : (ch &&& 0x3F).toNat = ch.toNat % 64 := by
  rw [UInt16.toNat_and]
  exact Nat.and_two_pow_sub_one_eq_mod ch.toNat 6

theorem continuation_eq {bits : UInt16} (value : Nat) (bitsValue : bits.toNat = value % 0x40) :
    utf8Byte 0x80 bits = UInt8.ofNat (value % 0x40 + 0x80) :=
  utf8Byte_eq 0x80 bits 6 2 (value % 0x40) rfl bitsValue (Nat.mod_lt _ (by decide))
    (by show 128 + _ < 256; omega)

theorem shift_toNat (ch : UInt16) (n : UInt16) (k : Nat) (same : n.toNat = k) (small : k < 16) :
    (ch >>> n).toNat = ch.toNat / 2 ^ k := by
  rw [UInt16.toNat_shiftRight, same, Nat.mod_eq_of_lt small, Nat.shiftRight_eq_div_pow]

theorem twoBytes_eq {ch : UInt16} (low : 0x80 ≤ ch.toNat) (high : ch.toNat < 0x800) :
    twoBytes ch = Wtf8.encodePoint ch.toNat := by
  have shifted := shift_toNat ch 6 6 rfl (by decide)
  rw [Wtf8.encodePoint, if_neg (by omega), if_pos (by omega), twoBytes,
    utf8Byte_eq 0xC0 _ 5 6 (ch.toNat / 64 % 0x20) rfl (by omega) (by omega)
      (by show 192 + _ < 256; omega), continuation_eq ch.toNat (and_six ch)]
  rfl

theorem threeBytes_eq {ch : UInt16} (low : 0x800 ≤ ch.toNat) :
    threeBytes ch = Wtf8.encodePoint ch.toNat := by
  have bound := ch.toNat_lt
  have top := shift_toNat ch 12 12 rfl (by decide)
  have middle : ((ch >>> 6) &&& 0x3F).toNat = ch.toNat / 64 % 0x40 := by
    rw [and_six, shift_toNat ch 6 6 rfl (by decide)]
    rfl
  rw [Wtf8.encodePoint, if_neg (by omega), if_neg (by omega), if_pos (by omega), threeBytes,
    utf8Byte_eq 0xE0 _ 4 14 (ch.toNat / 4096 % 0x10) rfl (by omega) (by omega)
      (by show 224 + _ < 256; omega),
    continuation_eq (ch.toNat / 64) middle, continuation_eq ch.toNat (and_six ch)]
  rfl

/-- Two bits in front of four. -/
theorem join_two_four (two four : UInt16) :
    (((two &&& 0x03) <<< 4) ||| (four &&& 0x0F)).toNat =
      two.toNat % 4 * 16 + four.toNat % 16 := by
  have first : (two &&& 0x03).toNat = two.toNat % 4 := by
    rw [UInt16.toNat_and]
    exact Nat.and_two_pow_sub_one_eq_mod two.toNat 2
  have second : (four &&& 0x0F).toNat = four.toNat % 16 := by
    rw [UInt16.toNat_and]
    exact Nat.and_two_pow_sub_one_eq_mod four.toNat 4
  have shifted : ((two &&& 0x03) <<< 4).toNat = (two.toNat % 4) <<< 4 := by
    rw [UInt16.toNat_shiftLeft, first]
    refine Nat.mod_eq_of_lt ?_
    show (two.toNat % 4) <<< 4 < 65536
    rw [Nat.shiftLeft_eq]
    omega
  rw [UInt16.toNat_or, shifted, second,
    ← Nat.shiftLeft_add_eq_or_of_lt (show four.toNat % 16 < 2 ^ 4 by omega), Nat.shiftLeft_eq]

theorem fourBytes_eq {ch ch2 : UInt16} (first : 0xD800 ≤ ch.toNat ∧ ch.toNat < 0xDC00)
    (second : 0xDC00 ≤ ch2.toNat ∧ ch2.toNat < 0xE000) :
    fourBytes ch ch2 = Wtf8.encodePoint
      (0x10000 + (ch.toNat - 0xD800) * 0x400 + (ch2.toNat - 0xDC00)) := by
  have bits : (((ch >>> 6) &&& 0x0F) + 1 : UInt16).toNat = ch.toNat / 64 % 16 + 1 := by
    have masked : ((ch >>> 6) &&& 0x0F).toNat = ch.toNat / 64 % 16 := by
      rw [UInt16.toNat_and, shift_toNat ch 6 6 rfl (by decide)]
      exact Nat.and_two_pow_sub_one_eq_mod (ch.toNat / 64) 4
    rw [UInt16.toNat_add, masked]
    exact Nat.mod_eq_of_lt (by show ch.toNat / 64 % 16 + 1 < 65536; omega)
  have top := shift_toNat (((ch >>> 6) &&& 0x0F) + 1) 2 2 rfl (by decide)
  have upper := join_two_four (((ch >>> 6) &&& 0x0F) + 1) (ch >>> 2)
  have lower := join_two_four ch (ch2 >>> 6)
  rw [bits] at top upper
  rw [shift_toNat ch 2 2 rfl (by decide)] at upper
  rw [shift_toNat ch2 6 6 rfl (by decide)] at lower
  generalize value : 0x10000 + (ch.toNat - 0xD800) * 0x400 + (ch2.toNat - 0xDC00) = point
  rw [Wtf8.encodePoint, if_neg (by omega), if_neg (by omega), if_neg (by omega), fourBytes,
    utf8Byte_eq 0xF0 _ 3 30 (point / 262144 % 0x08) rfl (by omega) (by omega)
      (by show 240 + _ < 256; omega),
    continuation_eq (point / 4096) (by omega), continuation_eq (point / 64) (by omega),
    continuation_eq point ((and_six ch2).trans (by omega))]
  rfl

theorem boundaries (ch : UInt16) :
    (ch < kUtf8OneByteBoundary ↔ ch.toNat < 0x80) ∧
      (ch < kUtf8TwoBytesBoundary ↔ ch.toNat < 0x800) :=
  ⟨UInt16.lt_iff_toNat_lt, UInt16.lt_iff_toNat_lt⟩

theorem encode_unit {ch : UInt16} (other : Unicode.isHighSurrogate ch = false)
    (rest : List UInt16) :
    Wtf8.encode (ch :: rest) = Wtf8.encodePoint ch.toNat ++ Wtf8.encode rest := by
  rw [Wtf8.encode, Wtf8.points_unit other, List.flatMap_cons]
  rfl

theorem small_unit {ch : UInt16} (small : ch.toNat < 0x800) :
    Unicode.isHighSurrogate ch = false := by
  rw [← Bool.not_eq_true, (Wtf8.surrogate_ranges ch).1]
  omega

/-- The bytes of the loop are those of generalised UTF-8. -/
theorem utf16toUTF8_eq_encode (units : List UInt16) : utf16toUTF8 units = Wtf8.encode units := by
  fun_induction utf16toUTF8 units with
  | case1 => rfl
  | case2 ch rest small ih =>
    rw [(boundaries ch).1] at small
    have byte : (ch &&& 0x7F).toUInt8 = UInt8.ofNat ch.toNat := by
      apply UInt8.toNat_inj.mp
      rw [UInt16.toNat_toUInt8, UInt16.toNat_and, UInt8.toNat_ofNat']
      exact congrArg (· % 256) ((Nat.and_two_pow_sub_one_eq_mod ch.toNat 7).trans
        (Nat.mod_eq_of_lt small))
    rw [encode_unit (small_unit (by omega)), ih, byte, Wtf8.encodePoint, if_pos (by omega)]
    rfl
  | case3 ch rest large small ih =>
    rw [(boundaries ch).1] at large
    rw [(boundaries ch).2] at small
    rw [encode_unit (small_unit small), ih, twoBytes_eq (by omega) small]
  | case4 ch large larger =>
    rw [(boundaries ch).2] at larger
    rw [threeBytes_eq (by omega), Wtf8.encode, Wtf8.points, List.flatMap_singleton]
  | case5 ch large larger ch2 more pair ih =>
    have joined : (Unicode.isHighSurrogate ch && Unicode.isLowSurrogate ch2) = true := pair
    have ranges := joined
    rw [Bool.and_eq_true] at ranges
    rw [Wtf8.encode, Wtf8.points, if_pos joined, List.flatMap_cons, ih,
      fourBytes_eq ((Wtf8.surrogate_ranges ch).1.mp ranges.1)
        ((Wtf8.surrogate_ranges ch2).2.mp ranges.2)]
    rfl
  | case6 ch large larger ch2 more single ih =>
    have apart : ¬ (Unicode.isHighSurrogate ch && Unicode.isLowSurrogate ch2) = true := single
    rw [(boundaries ch).2] at larger
    rw [Wtf8.encode, Wtf8.points, if_neg apart, List.flatMap_cons, ih, threeBytes_eq (by omega)]
    rfl

/-! ## The length -/

theorem utf16toUTF8LengthLoop_eq (units : List UInt16) : ∀ utf8StringLen : UInt32,
    utf16toUTF8LengthLoop units utf8StringLen =
      utf8StringLen + UInt32.ofNat (utf16toUTF8 units).length := by
  have add (sum : UInt32) (count : UInt32) (width more : Nat) (same : count = UInt32.ofNat width) :
      sum + count + UInt32.ofNat more = sum + UInt32.ofNat (width + more) := by
    rw [same, UInt32.add_assoc, UInt32.ofNat_add]
  fun_induction utf16toUTF8 units with
  | case1 => intro sum; exact (UInt32.add_zero sum).symm
  | case2 ch rest small ih =>
    intro sum
    unfold utf16toUTF8LengthLoop
    rw [if_pos small, ih, List.length_cons, Nat.add_comm]
    exact add sum 1 1 _ rfl
  | case3 ch rest large small ih =>
    intro sum
    unfold utf16toUTF8LengthLoop
    rw [if_neg large, if_pos small, ih, List.length_append]
    exact add sum 2 2 _ rfl
  | case4 ch large larger =>
    intro sum
    rw [utf16toUTF8LengthLoop, if_neg large, if_neg larger]
    rfl
  | case5 ch large larger ch2 more pair ih =>
    intro sum
    rw [utf16toUTF8LengthLoop, if_neg large, if_neg larger, if_pos pair, ih, List.length_append]
    exact add sum 4 4 _ rfl
  | case6 ch large larger ch2 more single ih =>
    intro sum
    rw [utf16toUTF8LengthLoop, if_neg large, if_neg larger, if_neg single, ih, List.length_append]
    exact add sum 3 3 _ rfl

theorem utf16toUTF8Length_eq (units : List UInt16) :
    utf16toUTF8Length units = (utf16toUTF8 units).length % 2 ^ 32 := by
  rw [utf16toUTF8Length]
  split
  case isTrue empty => rw [List.length_eq_zero_iff.mp empty]; rfl
  case isFalse =>
    rw [utf16toUTF8LengthLoop_eq, UInt32.zero_add, UInt32.toNat_ofNat']

/-! ## The buffer -/

theorem putAll_append (filling : Filling) (first second : List UInt8) :
    filling.putAll (first ++ second) = filling.putAll first >>= (·.putAll second) :=
  List.foldlM_append

/-- The loop writes its bytes one after the other. -/
theorem utf16toUTF8Loop_eq (units : List UInt16) : ∀ filling : Filling,
    utf16toUTF8Loop units filling = filling.putAll (utf16toUTF8 units) := by
  fun_induction utf16toUTF8 units with
  | case1 => intro filling; rfl
  | case2 ch rest small ih =>
    intro filling
    unfold utf16toUTF8Loop
    rw [if_pos small, funext ih]
    rfl
  | case3 ch rest large small ih =>
    intro filling
    unfold utf16toUTF8Loop
    rw [if_neg large, if_pos small, funext ih, putAll_append]
  | case4 ch large larger =>
    intro filling
    rw [utf16toUTF8Loop, if_neg large, if_neg larger]
  | case5 ch large larger ch2 more pair ih =>
    intro filling
    rw [utf16toUTF8Loop, if_neg large, if_neg larger, if_pos pair, funext ih, putAll_append]
  | case6 ch large larger ch2 more single ih =>
    intro filling
    rw [utf16toUTF8Loop, if_neg large, if_neg larger, if_neg single, funext ih, putAll_append]

/-- Bytes fill the room behind the front, and the first one too many is a write outside. -/
theorem putAll_eq (bytes : List UInt8) : ∀ front room : List UInt8,
    Filling.putAll ⟨front ++ room, front.length⟩ bytes =
      if bytes.length ≤ room.length then
        .ok ⟨front ++ bytes ++ room.drop bytes.length, front.length + bytes.length⟩
      else .error ⟨front.length + room.length⟩ := by
  induction bytes with
  | nil =>
    intro front room
    simp [Filling.putAll]
  | cons byte rest ih =>
    intro front room
    cases room with
    | nil => simp [Filling.putAll, Filling.put]
    | cons old room =>
      have step : Filling.putAll ⟨front ++ old :: room, front.length⟩ (byte :: rest) =
          Filling.putAll ⟨(front ++ [byte]) ++ room, (front ++ [byte]).length⟩ rest := by
        simp [Filling.putAll, Filling.put]
      rw [step, ih]
      simp [Nat.add_assoc, Nat.add_comm 1]

/-- The string is filled to its end when its length fits 32 bits, and overrun otherwise. -/
theorem utf16toUTF8Loop_filled (units : List UInt16) :
    utf16toUTF8Loop units ⟨List.replicate (utf16toUTF8Length units) 0, 0⟩ =
      if (Wtf8.encode units).length < 2 ^ 32 then
        .ok ⟨Wtf8.encode units, utf16toUTF8Length units⟩
      else .error ⟨utf16toUTF8Length units⟩ := by
  have filled := putAll_eq (utf16toUTF8 units) [] (List.replicate (utf16toUTF8Length units) 0)
  rw [List.nil_append, List.length_nil, List.length_replicate] at filled
  rw [utf16toUTF8Loop_eq, filled, utf16toUTF8Length_eq, utf16toUTF8_eq_encode]
  by_cases fits : (Wtf8.encode units).length < 2 ^ 32
  · rw [if_pos fits, Nat.mod_eq_of_lt fits, if_pos (Nat.le_refl _)]
    simp
  · have wrapped := Nat.mod_lt (Wtf8.encode units).length (show 0 < 2 ^ 32 by decide)
    rw [if_neg fits, if_neg (by omega), Nat.zero_add]

theorem utf16toUTF8String_eq (units : List UInt16) :
    utf16toUTF8String units =
      if (Wtf8.encode units).length < 2 ^ 32 then .ok (Wtf8.encode units)
      else .error ⟨utf16toUTF8Length units⟩ := by
  rw [utf16toUTF8String]
  split
  case isTrue empty =>
    rw [List.length_eq_zero_iff.mp empty]
    rfl
  case isFalse =>
    rw [utf16toUTF8Loop_filled]
    split <;> rfl

/-- Units whose encoding fits 32 bits fill the string exactly; the bytes are read back as
generalised UTF-8, and for a text they are its UTF-8, so that the conversion undoes a
decoder of UTF-8. -/
theorem utf16toUTF8_exact (units : List UInt16) (fits : (Wtf8.encode units).length < 2 ^ 32) :
    ∃ bytes, utf16toUTF8String units = .ok bytes ∧
      utf16toUTF8Loop units ⟨List.replicate (utf16toUTF8Length units) 0, 0⟩ =
        .ok ⟨bytes, utf16toUTF8Length units⟩ ∧
      bytes.length = utf16toUTF8Length units ∧
      Wtf8.decode bytes = some units ∧
      (∀ text, units = Unicode.utf16Encode text →
        bytes = Unicode.utf8Encode text ∧ Unicode.transcode bytes = some units) ∧
      ∀ valid, Unicode.transcode valid = some units → bytes = valid := by
  refine ⟨Wtf8.encode units, ?_, ?_, ?_, Wtf8.decode_encode units, ?_, ?_⟩
  · rw [utf16toUTF8String_eq, if_pos fits]
  · rw [utf16toUTF8Loop_filled, if_pos fits]
  · rw [utf16toUTF8Length_eq, utf16toUTF8_eq_encode, Nat.mod_eq_of_lt fits]
  · rintro text rfl
    rw [Wtf8.encode_utf16Encode]
    exact ⟨rfl, Unicode.transcode_utf8Encode text⟩
  · intro valid read
    obtain ⟨text, rfl⟩ := Unicode.wellFormed_of_transcode read
    rw [Unicode.transcode_utf8Encode, Option.some.injEq] at read
    rw [← read, Wtf8.encode_utf16Encode]

/-- A lone high surrogate in front of a pair and of a letter. -/
theorem utf16toUTF8_surrogates :
    ∃ bytes, utf16toUTF8String [0xD83D, 0xD83D, 0xDE00, 0x41] = .ok bytes ∧
      bytes = [0xED, 0xA0, 0xBD, 0xF0, 0x9F, 0x98, 0x80, 0x41] ∧
      Wtf8.decode bytes = some [0xD83D, 0xD83D, 0xDE00, 0x41] := by
  obtain ⟨bytes, result, -, -, read, -⟩ :=
    utf16toUTF8_exact [0xD83D, 0xD83D, 0xDE00, 0x41] (by decide)
  have value : utf16toUTF8String [0xD83D, 0xD83D, 0xDE00, 0x41] =
      .ok [0xED, 0xA0, 0xBD, 0xF0, 0x9F, 0x98, 0x80, 0x41] := by decide +kernel
  exact ⟨bytes, result, Except.ok.inj (result.symm.trans value), read⟩

end V8Jsi.InspectorUtils
