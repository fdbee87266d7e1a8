import Mathlib.Data.Nat.Digits.Defs

set_option autoImplicit false

/- MurmurHash3, the variant of 128 bits for 64-bit words. -/
namespace Murmur3

def c1 : UInt64 := 0x87c37b91114253d5

def c2 : UInt64 := 0x4cf5ad432745937f

def rotl (bits : Nat) (x : UInt64) : UInt64 := ⟨x.toBitVec.rotateLeft bits⟩

/-- The first eight bytes as a number, the lowest byte first; bytes that are missing are zeros. -/
def word (bytes : List UInt8) : UInt64 :=
  UInt64.ofNat (Nat.ofDigits 256 ((bytes.take 8).map UInt8.toNat))

@[ext] structure State where
  h1 : UInt64
  h2 : UInt64
  deriving DecidableEq, Repr

def mix1 (k : UInt64) : UInt64 := rotl 31 (k * c1) * c2

def mix2 (k : UInt64) : UInt64 := rotl 33 (k * c2) * c1

/-- A block of 16 bytes. -/
def round (state : State) (block : List UInt8) : State :=
  let h1 := (rotl 27 (state.h1 ^^^ mix1 (word block)) + state.h2) * 5 + 0x52dce729
  { h1, h2 := (rotl 31 (state.h2 ^^^ mix2 (word (block.drop 8))) + h1) * 5 + 0x38495ab5 }

/-- The bytes behind the last block, filled up with zeros. -/
def last (state : State) (tail : List UInt8) : State :=
  { h1 := state.h1 ^^^ mix1 (word tail)
    h2 := state.h2 ^^^ mix2 (word (tail.drop 8)) }

def absorb (state : State) (bytes : List UInt8) : State :=
  if 16 ≤ bytes.length then absorb (round state bytes) (bytes.drop 16) else last state bytes
termination_by bytes.length

def fmix (k : UInt64) : UInt64 :=
  let k := (k ^^^ (k >>> 33)) * 0xff51afd7ed558ccd
  let k := (k ^^^ (k >>> 33)) * 0xc4ceb9fe1a85ec53
  k ^^^ (k >>> 33)

def finish (state : State) (length : Nat) : UInt64 × UInt64 :=
  let h1 := state.h1 ^^^ UInt64.ofNat length
  let h2 := state.h2 ^^^ UInt64.ofNat length
  let h1 := h1 + h2
  let h2 := h2 + h1
  let h1 := fmix h1
  let h2 := fmix h2
  (h1 + h2, h2 + (h1 + h2))

/-- The two halves of the hash. -/
def x64_128 (seed : UInt32) (key : List UInt8) : UInt64 × UInt64 :=
  finish (absorb ⟨seed.toUInt64, seed.toUInt64⟩ key) key.length

example : x64_128 0 [0x68, 0x65, 0x6C, 0x6C, 0x6F] = (0xcbd8a7b341bd9b02, 0x5b1e906a48ae1d19) := by
  decide +kernel

@[simp] theorem word_nil : word [] = 0 := rfl

/-- A word of zeros mixes to nothing. -/
@[simp] theorem mix1_zero : mix1 0 = 0 := by decide

@[simp] theorem mix2_zero : mix2 0 = 0 := by decide

theorem absorb_short {bytes : List UInt8} (short : bytes.length < 16) (state : State) :
    absorb state bytes = last state bytes := by
  rw [absorb, if_neg (by omega)]

theorem absorb_long {bytes : List UInt8} (long : 16 ≤ bytes.length) (state : State) :
    absorb state bytes = absorb (round state bytes) (bytes.drop 16) := by
  rw [absorb, if_pos long]

/-- Only the first 16 bytes count in a round. -/
theorem word_take (bytes : List UInt8) {count : Nat} (enough : 8 ≤ count) :
    word (bytes.take count) = word bytes := by
  rw [word, word, List.take_take, Nat.min_eq_left enough]

end Murmur3
