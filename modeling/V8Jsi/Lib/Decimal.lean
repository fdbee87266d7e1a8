import Mathlib.Data.List.Basic

set_option autoImplicit false

/- Numbers in decimal notation, as ASCII bytes. -/
namespace Decimal

def digit (value : Nat) : UInt8 := UInt8.ofNat (0x30 + value)

/-- A number as it is written. -/
def decimal (number : Nat) : List UInt8 :=
  (Nat.toDigits 10 number).map fun char => UInt8.ofNat char.toNat

theorem digit_digitChar {value : Nat} (small : value < 10) :
    UInt8.ofNat (Nat.digitChar value).toNat = digit value := by
  rw [Nat.toNat_digitChar_of_lt_ten small]
  rfl

theorem decimal_digit {value : Nat} (small : value < 10) : decimal value = [digit value] := by
  rw [decimal, Nat.toDigits_of_lt_base small, List.map_singleton, digit_digitChar small]

theorem decimal_append_digit {number value : Nat} (positive : 0 < number) (small : value < 10) :
    decimal number ++ [digit value] = decimal (10 * number + value) := by
  rw [decimal, decimal, ← Nat.toDigits_append_toDigits (by decide) positive small,
    List.map_append, Nat.toDigits_of_lt_base small, List.map_singleton, digit_digitChar small]

/-- The last digit comes off the end. -/
theorem decimal_induction {motive : Nat → Prop} (one : ∀ value < 10, motive value)
    (more : ∀ number value, 0 < number → value < 10 → motive number →
      motive (10 * number + value)) (number : Nat) : motive number := by
  induction number using Nat.strongRecOn with
  | ind number ih =>
    by_cases small : number < 10
    · exact one number small
    · have split := more (number / 10) (number % 10) (by omega) (by omega) (ih _ (by omega))
      rwa [Nat.div_add_mod] at split

theorem digit_range {value : Nat} (small : value < 10) :
    0x30 ≤ digit value ∧ digit value ≤ 0x39 := by
  have bytes : (digit value).toNat = 0x30 + value := UInt8.toNat_ofNat_of_lt' (by
    show 0x30 + value < 256
    omega)
  constructor
  · rw [UInt8.le_iff_toNat_le, bytes]
    exact Nat.le_add_right 0x30 value
  · rw [UInt8.le_iff_toNat_le, bytes]
    show 0x30 + value ≤ 0x39
    omega

theorem decimal_range (number : Nat) : ∀ byte ∈ decimal number, 0x30 ≤ byte ∧ byte ≤ 0x39 := by
  induction number using decimal_induction with
  | one value small =>
    intro byte inside
    rw [decimal_digit small, List.mem_singleton] at inside
    rw [inside]
    exact digit_range small
  | more number value positive small ih =>
    intro byte inside
    rw [← decimal_append_digit positive small, List.mem_append, List.mem_singleton] at inside
    rcases inside with front | rfl
    · exact ih byte front
    · exact digit_range small

/-- The number that digits stand for after those of another. -/
def valueFrom (value : Nat) (bytes : List UInt8) : Nat :=
  bytes.foldl (fun value byte => 10 * value + (byte.toNat - 0x30)) value

theorem valueFrom_append (value : Nat) (front back : List UInt8) :
    valueFrom value (front ++ back) = valueFrom (valueFrom value front) back :=
  List.foldl_append

theorem valueFrom_digit {value : Nat} (small : value < 10) (before : Nat) :
    valueFrom before [digit value] = 10 * before + value := by
  have bytes : (digit value).toNat = 0x30 + value := UInt8.toNat_ofNat_of_lt' (by
    show 0x30 + value < 256
    omega)
  simp [valueFrom, bytes]

theorem valueFrom_decimal (number : Nat) : valueFrom 0 (decimal number) = number := by
  induction number using decimal_induction with
  | one value small => rw [decimal_digit small, valueFrom_digit small, Nat.zero_add]
  | more number value positive small ih =>
    rw [← decimal_append_digit positive small, valueFrom_append, ih, valueFrom_digit small]

theorem decimal_injective {left right : Nat} (same : decimal left = decimal right) :
    left = right := by
  rw [← valueFrom_decimal left, same, valueFrom_decimal]

theorem le_valueFrom (bytes : List UInt8) : ∀ value, value ≤ valueFrom value bytes := by
  induction bytes with
  | nil => exact Nat.le_refl
  | cons byte rest ih =>
    intro value
    exact Nat.le_trans (by omega) (ih (10 * value + (byte.toNat - 0x30)))

theorem le_of_decimal_append {front number : Nat} {bytes : List UInt8}
    (whole : decimal front ++ bytes = decimal number) : front ≤ number := by
  have value := valueFrom_decimal number
  rw [← whole, valueFrom_append, valueFrom_decimal] at value
  rw [← value]
  exact le_valueFrom bytes front

theorem head_decimal_ne_zero {number : Nat} (positive : 0 < number) {rest : List UInt8} :
    decimal number ≠ 0x30 :: rest := by
  induction number using decimal_induction generalizing rest with
  | one value small =>
    intro same
    rw [decimal_digit small, List.cons.injEq] at same
    have value_zero := congrArg (fun bytes => valueFrom 0 [bytes]) same.1
    rw [valueFrom_digit small] at value_zero
    exact absurd value_zero (by
      show 10 * 0 + value ≠ 0
      omega)
  | more number value positive' small ih =>
    intro same
    rw [← decimal_append_digit positive' small] at same
    cases front : decimal number with
    | nil =>
      rw [decimal, List.map_eq_nil_iff] at front
      exact Nat.toDigits_ne_nil front
    | cons head tail =>
      rw [front, List.cons_append, List.cons.injEq] at same
      rw [same.1] at front
      exact ih positive' front

theorem decimal_ascii (number : Nat) : ∀ byte ∈ decimal number, byte < 0x80 := by
  intro byte inside
  have most := (decimal_range number byte inside).2
  exact UInt8.lt_of_le_of_lt most (by decide)

end Decimal
