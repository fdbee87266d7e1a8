import Mathlib.Data.List.Basic

set_option autoImplicit false

/- Base64 of RFC 4648, section 4, with its padding. -/
namespace Base64

/-- Table 1 of the RFC. -/
def alphabet (index : Nat) : UInt8 :=
  if index < 26 then UInt8.ofNat (0x41 + index)
  else if index < 52 then UInt8.ofNat (0x61 + (index - 26))
  else if index < 62 then UInt8.ofNat (0x30 + (index - 52))
  else if index = 62 then 0x2B
  else 0x2F

def pad : UInt8 := 0x3D

def encode : List UInt8 → List UInt8
  | [] => []
  | [a] => [alphabet (a.toNat / 4), alphabet (a.toNat % 4 * 16), pad, pad]
  | [a, b] =>
      [alphabet (a.toNat / 4), alphabet (a.toNat % 4 * 16 + b.toNat / 16),
        alphabet (b.toNat % 16 * 4), pad]
  | a :: b :: c :: rest =>
      alphabet (a.toNat / 4) :: alphabet (a.toNat % 4 * 16 + b.toNat / 16) ::
        alphabet (b.toNat % 16 * 4 + c.toNat / 64) :: alphabet (c.toNat % 64) :: encode rest

def value (char : UInt8) : Option Nat :=
  if 0x41 ≤ char ∧ char ≤ 0x5A then some (char.toNat - 0x41)
  else if 0x61 ≤ char ∧ char ≤ 0x7A then some (char.toNat - 0x61 + 26)
  else if 0x30 ≤ char ∧ char ≤ 0x39 then some (char.toNat - 0x30 + 52)
  else if char = 0x2B then some 62
  else if char = 0x2F then some 63
  else none

/-- Padding stands at the end only, and the bits that it leaves unused are zero. -/
def decode : List UInt8 → Option (List UInt8)
  | [] => some []
  | first :: second :: third :: fourth :: rest => do
      let v1 ← value first
      let v2 ← value second
      if third = pad then
        if fourth = pad ∧ rest = [] ∧ v2 % 16 = 0 then some [UInt8.ofNat (v1 * 4 + v2 / 16)]
        else none
      else
        let v3 ← value third
        if fourth = pad then
          if rest = [] ∧ v3 % 4 = 0 then
            some [UInt8.ofNat (v1 * 4 + v2 / 16), UInt8.ofNat (v2 % 16 * 16 + v3 / 4)]
          else none
        else
          let v4 ← value fourth
          let more ← decode rest
          some (UInt8.ofNat (v1 * 4 + v2 / 16) :: UInt8.ofNat (v2 % 16 * 16 + v3 / 4) ::
            UInt8.ofNat (v3 % 4 * 64 + v4) :: more)
  | _ => none

theorem value_alphabet : ∀ index < 64, value (alphabet index) = some index := by decide

theorem alphabet_ne_pad : ∀ index < 64, alphabet index ≠ pad := by decide

theorem decode_two_pads {v1 v2 : Nat} (first : v1 < 64) (second : v2 < 64) (zero : v2 % 16 = 0) :
    decode [alphabet v1, alphabet v2, pad, pad] = some [UInt8.ofNat (v1 * 4 + v2 / 16)] := by
  rw [decode, value_alphabet v1 first, value_alphabet v2 second]
  simp only [Option.bind_eq_bind, Option.bind_some, if_true, zero, and_self]

theorem decode_one_pad {v1 v2 v3 : Nat} (first : v1 < 64) (second : v2 < 64) (third : v3 < 64)
    (zero : v3 % 4 = 0) :
    decode [alphabet v1, alphabet v2, alphabet v3, pad] =
      some [UInt8.ofNat (v1 * 4 + v2 / 16), UInt8.ofNat (v2 % 16 * 16 + v3 / 4)] := by
  rw [decode, value_alphabet v1 first, value_alphabet v2 second, value_alphabet v3 third]
  simp only [Option.bind_eq_bind, Option.bind_some, if_neg (alphabet_ne_pad v3 third), if_true,
    zero, and_self]

theorem decode_group {v1 v2 v3 v4 : Nat} (first : v1 < 64) (second : v2 < 64) (third : v3 < 64)
    (fourth : v4 < 64) {rest bytes : List UInt8} (later : decode rest = some bytes) :
    decode (alphabet v1 :: alphabet v2 :: alphabet v3 :: alphabet v4 :: rest) =
      some (UInt8.ofNat (v1 * 4 + v2 / 16) :: UInt8.ofNat (v2 % 16 * 16 + v3 / 4) ::
        UInt8.ofNat (v3 % 4 * 64 + v4) :: bytes) := by
  rw [decode, value_alphabet v1 first, value_alphabet v2 second, value_alphabet v3 third,
    value_alphabet v4 fourth, later]
  simp only [Option.bind_eq_bind, Option.bind_some, if_neg (alphabet_ne_pad v3 third),
    if_neg (alphabet_ne_pad v4 fourth)]

theorem byte_eq (byte : UInt8) {number : Nat} (same : number = byte.toNat) :
    UInt8.ofNat number = byte := by
  rw [same, UInt8.ofNat_toNat]

/-- Every list of bytes is read back. -/
theorem decode_encode (bytes : List UInt8) : decode (encode bytes) = some bytes := by
  fun_induction encode bytes with
  | case1 => rfl
  | case2 a =>
    have boundA := a.toNat_lt
    rw [decode_two_pads (by omega) (by omega) (by omega), byte_eq a (by omega)]
  | case3 a b =>
    have boundA := a.toNat_lt
    have boundB := b.toNat_lt
    rw [decode_one_pad (by omega) (by omega) (by omega) (by omega),
      byte_eq a (by omega), byte_eq b (by omega)]
  | case4 a b c rest ih =>
    have boundA := a.toNat_lt
    have boundB := b.toNat_lt
    have boundC := c.toNat_lt
    rw [decode_group (by omega) (by omega) (by omega) (by omega) ih,
      byte_eq a (by omega), byte_eq b (by omega),
      byte_eq c (by omega)]

theorem length_encode (bytes : List UInt8) :
    (encode bytes).length = (bytes.length + 2) / 3 * 4 := by
  fun_induction encode bytes with
  | case1 => rfl
  | case2 a => simp
  | case3 a b => simp
  | case4 a b c rest ih =>
    simp only [List.length_cons, ih]
    omega

end Base64
