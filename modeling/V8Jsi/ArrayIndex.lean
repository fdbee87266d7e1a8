import Mathlib.Algebra.Group.Nat.Defs
import V8Jsi.Lib.Decimal
import V8Jsi.PropNames

set_option autoImplicit false

/- `toArrayIndex` of NodeApiJsiRuntime.cpp, which tells the property names that are array
indices from the others. -/
namespace V8Jsi.ArrayIndex

open Decimal PropNames Unicode

/-- The loop over the characters, with the index read so far. -/
def readDigits (res : UInt32) : List UInt8 → Option UInt32
  | [] => some res
  | ch :: rest =>
      if ch < 0x30 || 0x39 < ch then none
      else
        let tmp := res.toUInt64 * 10 + (ch - 0x30).toUInt64
        if tmp &&& 0xFFFFFFFF00000000 ≠ 0 then none else readDigits tmp.toUInt32 rest

def toArrayIndex : List UInt8 → Option UInt32
  | [] => none
  | first :: rest =>
      if first = 0x30 then if rest = [] then some 0 else none
      else
        match readDigits 0 (first :: rest) with
        | none => none
        | some res => if res = 0xFFFFFFFF then none else some res

/-- The index and the character of every multiplication that the loop makes. -/
def digitSteps (res : UInt32) : List UInt8 → List (UInt32 × UInt8)
  | [] => []
  | ch :: rest =>
      if ch < 0x30 || 0x39 < ch then []
      else
        let tmp := res.toUInt64 * 10 + (ch - 0x30).toUInt64
        (res, ch) :: if tmp &&& 0xFFFFFFFF00000000 ≠ 0 then [] else digitSteps tmp.toUInt32 rest

/-- No multiplication is made for a string that begins with a zero. -/
def multiplications : List UInt8 → List (UInt32 × UInt8)
  | [] => []
  | first :: rest => if first = 0x30 then [] else digitSteps 0 (first :: rest)

/-! ## The loop -/

theorem outside_iff (ch : UInt8) : (ch < 0x30 || 0x39 < ch) = true ↔ ¬ (0x30 ≤ ch ∧ ch ≤ 0x39) := by
  simp only [Bool.or_eq_true, decide_eq_true_eq, UInt8.lt_iff_toNat_lt, UInt8.le_iff_toNat_le]
  omega

/-- The mask of the overflow check. -/
theorem masked_iff (tmp : UInt64) : tmp &&& 0xFFFFFFFF00000000 ≠ 0 ↔ 2 ^ 32 ≤ tmp.toNat := by
  have mask : (0xFFFFFFFF00000000 : UInt64).toNat = (2 ^ 32 - 1) * 2 ^ 32 := rfl
  rw [ne_eq, ← UInt64.toNat_inj, UInt64.toNat_and, mask, UInt64.toNat_zero]
  constructor
  · intro nonzero
    by_contra small
    apply nonzero
    apply Nat.eq_of_testBit_eq
    intro bit
    rw [Nat.testBit_and, Nat.testBit_mul_two_pow, Nat.zero_testBit]
    by_cases low : bit < 32
    · simp [Nat.not_le.mpr low]
    · have high : 2 ^ 32 ≤ 2 ^ bit := Nat.pow_le_pow_right (by decide) (by omega)
      rw [Nat.testBit_lt_two_pow (by omega), Bool.false_and]
  · intro large zero
    obtain ⟨bit, above, set⟩ := Nat.exists_ge_and_testBit_of_ge_two_pow large
    have inside : bit < 64 := by
      by_contra outside
      have bound : tmp.toNat < 2 ^ bit :=
        Nat.lt_of_lt_of_le tmp.toNat_lt (Nat.pow_le_pow_right (by decide) (by omega))
      rw [Nat.testBit_lt_two_pow bound] at set
      cases set
    have cleared := congrArg (Nat.testBit · bit) zero
    simp only [Nat.testBit_and, set, Nat.testBit_mul_two_pow, Nat.testBit_two_pow_sub_one,
      Nat.zero_testBit, Bool.true_and] at cleared
    simp only [Bool.and_eq_false_iff, decide_eq_false_iff_not] at cleared
    omega

theorem tmp_toNat (res : UInt32) {ch : UInt8} (range : 0x30 ≤ ch ∧ ch ≤ 0x39) :
    ∃ value < 10, ch = digit value ∧
      (res.toUInt64 * 10 + (ch - 0x30).toUInt64).toNat = 10 * res.toNat + value := by
  have least : 0x30 ≤ ch.toNat := UInt8.le_iff_toNat_le.mp range.1
  have most : ch.toNat ≤ 0x39 := UInt8.le_iff_toNat_le.mp range.2
  have bound := res.toNat_lt
  have difference : (ch - 0x30).toNat = ch.toNat - 0x30 := UInt8.toNat_sub_of_le ch 0x30 range.1
  refine ⟨ch.toNat - 0x30, by omega, ?_, ?_⟩
  · rw [digit, Nat.add_sub_cancel' least, UInt8.ofNat_toNat]
  · rw [UInt64.toNat_add, UInt64.toNat_mul, UInt8.toNat_toUInt64, UInt32.toNat_toUInt64, difference]
    show (res.toNat * 10 % 2 ^ 64 + (ch.toNat - 0x30)) % 2 ^ 64 = _
    omega

/-- After a number other than zero the loop reads on as long as the digits are those of a
number of 32 bits. -/
theorem readDigits_iff (bytes : List UInt8) : ∀ (res index : UInt32), 0 < res.toNat →
    (readDigits res bytes = some index ↔ decimal res.toNat ++ bytes = decimal index.toNat) := by
  induction bytes with
  | nil =>
    intro res index positive
    rw [readDigits, Option.some.injEq, List.append_nil]
    constructor
    · rintro rfl
      rfl
    · intro same
      exact UInt32.toNat_inj.mp (decimal_injective same)
  | cons ch rest ih =>
    intro res index positive
    rw [readDigits]
    by_cases range : 0x30 ≤ ch ∧ ch ≤ 0x39
    · rw [if_neg ((outside_iff ch).not.mpr (not_not.mpr range))]
      obtain ⟨value, small, rfl, sum⟩ := tmp_toNat res range
      have joined : decimal res.toNat ++ digit value :: rest =
          decimal (10 * res.toNat + value) ++ rest := by
        rw [← decimal_append_digit positive small, List.append_assoc, List.singleton_append]
      rw [joined]
      dsimp only
      by_cases large : 2 ^ 32 ≤ 10 * res.toNat + value
      · rw [if_pos ((masked_iff _).mpr (by rwa [sum]))]
        constructor
        · intro none
          cases none
        · intro whole
          have bound := index.toNat_lt
          have front := le_of_decimal_append whole
          omega
      · have truncated : (res.toUInt64 * 10 + (digit value - 0x30).toUInt64).toUInt32.toNat =
            10 * res.toNat + value := by
          rw [UInt64.toNat_toUInt32, sum, Nat.mod_eq_of_lt (by omega)]
        rw [if_neg ((masked_iff _).not.mpr (by rwa [sum])), ih _ index (by omega), truncated]
    · rw [if_pos ((outside_iff ch).mpr range)]
      constructor
      · intro none
        cases none
      · intro whole
        exact absurd (decimal_range index.toNat ch (by simp [← whole])) range

theorem readDigits_first {first : UInt8} (nonzero : first ≠ 0x30) (rest : List UInt8)
    (index : UInt32) :
    readDigits 0 (first :: rest) = some index ↔ first :: rest = decimal index.toNat := by
  by_cases range : 0x30 ≤ first ∧ first ≤ 0x39
  · obtain ⟨value, small, rfl, sum⟩ := tmp_toNat 0 range
    have positive : 0 < value := by
      rcases Nat.eq_zero_or_pos value with rfl | positive
      · exact absurd rfl nonzero
      · exact positive
    rw [UInt32.toNat_zero, Nat.mul_zero, Nat.zero_add] at sum
    have truncated : ((0 : UInt32).toUInt64 * 10 + (digit value - 0x30).toUInt64).toUInt32.toNat =
        value := by
      rw [UInt64.toNat_toUInt32, sum, Nat.mod_eq_of_lt (by omega)]
    rw [readDigits, if_neg ((outside_iff _).not.mpr (not_not.mpr range))]
    dsimp only
    rw [if_neg ((masked_iff _).not.mpr (by
      rw [sum]
      omega)), readDigits_iff rest _ index (by omega), truncated, decimal_digit small,
      List.singleton_append]
  · rw [readDigits, if_pos ((outside_iff first).mpr range)]
    constructor
    · intro none
      cases none
    · intro whole
      exact absurd (decimal_range index.toNat first (by simp [← whole])) range

/-- No number other than zero begins with a zero. -/
theorem zero_cons_eq_decimal (rest : List UInt8) (index : UInt32) :
    0x30 :: rest = decimal index.toNat ↔ rest = [] ∧ index = 0 := by
  constructor
  · intro whole
    rcases Nat.eq_zero_or_pos index.toNat with isZero | positive
    · rw [isZero] at whole
      exact ⟨(List.cons.inj whole).2, UInt32.toNat_inj.mp isZero⟩
    · exact absurd whole.symm (head_decimal_ne_zero positive)
  · rintro ⟨rfl, rfl⟩
    rfl

/-- The greatest number of 32 bits is not an index. -/
theorem ne_greatest_iff (index : UInt32) : index ≠ 0xFFFFFFFF ↔ index.toNat < 2 ^ 32 - 1 := by
  have bound := index.toNat_lt
  have greatest : (0xFFFFFFFF : UInt32).toNat = 2 ^ 32 - 1 := rfl
  rw [ne_eq, ← UInt32.toNat_inj, greatest]
  omega

/-- `toArrayIndex` reads exactly the decimal forms of the numbers below 2^32 - 1. -/
theorem toArrayIndex_iff (bytes : List UInt8) (index : UInt32) :
    toArrayIndex bytes = some index ↔
      index.toNat < 2 ^ 32 - 1 ∧ bytes = decimal index.toNat := by
  cases bytes with
  | nil =>
    rw [toArrayIndex]
    constructor
    · intro none
      cases none
    · rintro ⟨-, empty⟩
      exact absurd (List.map_eq_nil_iff.mp empty.symm) Nat.toDigits_ne_nil
  | cons first rest =>
    by_cases zero : first = 0x30
    · subst zero
      rw [toArrayIndex, if_pos rfl, zero_cons_eq_decimal]
      by_cases last : rest = []
      · rw [if_pos last, Option.some.injEq]
        constructor
        · rintro rfl
          exact ⟨by decide, last, rfl⟩
        · rintro ⟨-, -, rfl⟩
          rfl
      · simp [last]
    · rw [toArrayIndex, if_neg zero]
      have iff := readDigits_first zero rest index
      cases read : readDigits 0 (first :: rest) with
      | none =>
        rw [read] at iff
        constructor
        · intro none
          cases none
        · rintro ⟨-, whole⟩
          exact absurd (iff.mpr whole) (by simp)
      | some res =>
        rw [read, Option.some.injEq] at iff
        rw [← ne_greatest_iff, ← iff]
        dsimp only
        by_cases greatest : res = 0xFFFFFFFF
        · rw [if_pos greatest]
          constructor
          · intro none
            cases none
          · rintro ⟨small, rfl⟩
            exact absurd greatest small
        · rw [if_neg greatest, Option.some.injEq]
          constructor
          · rintro rfl
            exact ⟨greatest, rfl⟩
          · rintro ⟨-, same⟩
            exact same

/-! ## The arithmetic of the loop -/

/-- No sum of the loop is reduced modulo 2^64. -/
def Exact (step : UInt32 × UInt8) : Prop :=
  step.1.toNat * 10 + (step.2.toNat - 0x30) < 2 ^ 64 ∧
    (step.1.toUInt64 * 10 + (step.2 - 0x30).toUInt64).toNat =
      step.1.toNat * 10 + (step.2.toNat - 0x30)

theorem exact_digit (res : UInt32) {ch : UInt8} (range : 0x30 ≤ ch ∧ ch ≤ 0x39) :
    Exact (res, ch) := by
  obtain ⟨value, small, rfl, sum⟩ := tmp_toNat res range
  have bound := res.toNat_lt
  have digitValue : (digit value).toNat = 0x30 + value := by
    rw [digit, UInt8.toNat_ofNat_of_lt' (by show 0x30 + value < 256; omega)]
  rw [Exact, sum]
  dsimp only
  rw [digitValue]
  exact ⟨by omega, by omega⟩

theorem digitSteps_exact (bytes : List UInt8) : ∀ res, ∀ step ∈ digitSteps res bytes,
    Exact step := by
  induction bytes with
  | nil => exact fun _ _ inside => absurd inside List.not_mem_nil
  | cons ch rest ih =>
    intro res step inside
    rw [digitSteps] at inside
    split at inside
    case isTrue => exact absurd inside List.not_mem_nil
    case isFalse digits =>
      have range : 0x30 ≤ ch ∧ ch ≤ 0x39 := not_not.mp ((outside_iff ch).not.mp digits)
      rcases List.mem_cons.mp inside with rfl | later
      · exact exact_digit res range
      · split at later
        · exact absurd later List.not_mem_nil
        · exact ih _ step later

/-- A string is an index exactly when it is the decimal form of a number up to 2^32 - 2,
and the loop computes without overflow on strings of any length. -/
theorem toArrayIndex_exact (bytes : List UInt8) :
    (∀ index, toArrayIndex bytes = some index ↔
      index.toNat ≤ 2 ^ 32 - 2 ∧ bytes = decimal index.toNat) ∧
    (toArrayIndex bytes = none ↔ ¬ ∃ n ≤ 2 ^ 32 - 2, bytes = decimal n) ∧
    ∀ step ∈ multiplications bytes, Exact step := by
  have index_iff : ∀ index, toArrayIndex bytes = some index ↔
      index.toNat ≤ 2 ^ 32 - 2 ∧ bytes = decimal index.toNat := by
    intro index
    rw [toArrayIndex_iff]
    exact and_congr_left fun _ => by omega
  refine ⟨index_iff, ?_, ?_⟩
  · rw [Option.eq_none_iff_forall_ne_some]
    constructor
    · rintro none ⟨n, small, whole⟩
      have value : (UInt32.ofNat n).toNat = n :=
        UInt32.toNat_ofNat_of_lt' (by show n < 2 ^ 32; omega)
      exact none (UInt32.ofNat n) ((index_iff _).mpr (by rw [value]; exact ⟨small, whole⟩))
    · rintro other index read
      exact other ⟨index.toNat, (index_iff index).mp read⟩
  · intro step inside
    cases bytes with
    | nil => exact absurd inside List.not_mem_nil
    | cons first rest =>
      rw [multiplications] at inside
      split at inside
      · exact absurd inside List.not_mem_nil
      · exact digitSteps_exact _ 0 step inside

/-! ## Array indices among the property names -/

/-- The property name of an array index. -/
def indexName (index : Nat) : JsString := (decimal index).map UInt8.toUInt16

/-- The UTF-8 form of a name tells its index, even when the name is not well formed. -/
theorem toArrayIndex_utf8_iff (name : JsString) (index : UInt32) :
    toArrayIndex (utf8 name) = some index ↔
      index.toNat < 2 ^ 32 - 1 ∧ name = indexName index.toNat := by
  rw [toArrayIndex_iff]
  constructor
  · rintro ⟨small, bytes⟩
    refine ⟨small, ?_⟩
    have ascii := decimal_ascii index.toNat
    rw [← bytes] at ascii
    rw [indexName, ← bytes]
    exact widened_of_ascii name ascii
  · rintro ⟨small, rfl⟩
    exact ⟨small, utf8Encode_widened (decimal_ascii index.toNat)⟩

end V8Jsi.ArrayIndex
