import Mathlib.Algebra.Group.Nat.Defs
import Mathlib.Data.List.Basic

set_option autoImplicit false

/- SHA-1 of FIPS 180-4 on messages of whole bytes: functions and constants of sections 4.1.1
and 4.2.1, padding of section 5.1.1, computation of section 6.1.2. -/
namespace Fips180

def rotl (bits : UInt32) (x : UInt32) : UInt32 := (x <<< bits) ||| (x >>> (32 - bits))

def ch (x y z : UInt32) : UInt32 := (x &&& y) ^^^ (~~~x &&& z)

def parity (x y z : UInt32) : UInt32 := x ^^^ y ^^^ z

def maj (x y z : UInt32) : UInt32 := (x &&& y) ^^^ (x &&& z) ^^^ (y &&& z)

/-- The function of round `t`. -/
def f (t : Nat) : UInt32 → UInt32 → UInt32 → UInt32 :=
  if t < 20 then ch else if t < 40 then parity else if t < 60 then maj else parity

/-- The constant of round `t`. -/
def k (t : Nat) : UInt32 :=
  if t < 20 then 0x5a827999 else if t < 40 then 0x6ed9eba1 else if t < 60 then 0x8f1bbcdc
  else 0xca62c1d6

/-- The five words of a hash value, also the working variables. -/
@[ext] structure Hash where
  a : UInt32
  b : UInt32
  c : UInt32
  d : UInt32
  e : UInt32
  deriving DecidableEq, Repr

/-- `H(0)` of section 5.3.1. -/
def initial : Hash := ⟨0x67452301, 0xefcdab89, 0x98badcfe, 0x10325476, 0xc3d2e1f0⟩

/-- The message schedule of a block of 16 words. -/
def schedule (message : Nat → UInt32) (t : Nat) : UInt32 :=
  if t < 16 then message t
  else rotl 1 (schedule message (t - 3) ^^^ schedule message (t - 8) ^^^
    schedule message (t - 14) ^^^ schedule message (t - 16))
termination_by t

/-- Step 3 of section 6.1.2. -/
def round (message : Nat → UInt32) (work : Hash) (t : Nat) : Hash :=
  { a := rotl 5 work.a + f t work.b work.c work.d + work.e + k t + schedule message t
    b := work.a
    c := rotl 30 work.b
    d := work.c
    e := work.d }

def add (x y : Hash) : Hash := ⟨x.a + y.a, x.b + y.b, x.c + y.c, x.d + y.d, x.e + y.e⟩

def compress (h : Hash) (message : Nat → UInt32) : Hash :=
  add ((List.range 80).foldl (round message) h) h

def word (b0 b1 b2 b3 : UInt8) : UInt32 :=
  UInt32.ofNat (b0.toNat * 2 ^ 24 + b1.toNat * 2 ^ 16 + b2.toNat * 2 ^ 8 + b3.toNat)

/-- Word `t` of the block at the head of `bytes`. -/
def wordAt (bytes : List UInt8) (t : Nat) : UInt32 :=
  word (bytes.getD (4 * t) 0) (bytes.getD (4 * t + 1) 0) (bytes.getD (4 * t + 2) 0)
    (bytes.getD (4 * t + 3) 0)

/-- The whole blocks of `bytes`, one behind the other. -/
def blocks (h : Hash) (bytes : List UInt8) : Hash :=
  if 64 ≤ bytes.length then blocks (compress h (wordAt bytes)) (bytes.drop 64) else h
termination_by bytes.length

/-- The low `count` bytes of a number, the highest first. -/
def bigEndian : Nat → Nat → List UInt8
  | 0, _ => []
  | count + 1, number => bigEndian count (number / 256) ++ [UInt8.ofNat number]

/-- The zeros between the bit `1` and the length. -/
def zeros (length : Nat) : Nat := (119 - length % 64) % 64

def padding (length : Nat) : List UInt8 :=
  0x80 :: List.replicate (zeros length) 0 ++ bigEndian 8 (length * 8)

def Hash.bytes (h : Hash) : List UInt8 :=
  bigEndian 4 h.a.toNat ++ bigEndian 4 h.b.toNat ++ bigEndian 4 h.c.toNat ++
    bigEndian 4 h.d.toNat ++ bigEndian 4 h.e.toNat

def sha1 (message : List UInt8) : List UInt8 :=
  (blocks initial (message ++ padding message.length)).bytes

@[simp] theorem length_bigEndian (count : Nat) :
    ∀ number, (bigEndian count number).length = count := by
  induction count with
  | zero => intro number; rfl
  | succ count ih =>
    intro number
    rw [bigEndian, List.length_append, ih, List.length_singleton]

theorem length_sha1 (message : List UInt8) : (sha1 message).length = 20 := by
  simp only [sha1, Hash.bytes, List.length_append, length_bigEndian]

theorem schedule_message (message : Nat → UInt32) {t : Nat} (small : t < 16) :
    schedule message t = message t := by
  rw [schedule, if_pos small]

theorem schedule_later (message : Nat → UInt32) {t : Nat} (large : 16 ≤ t) :
    schedule message t = rotl 1 (schedule message (t - 3) ^^^ schedule message (t - 8) ^^^
      schedule message (t - 14) ^^^ schedule message (t - 16)) := by
  rw [schedule, if_neg (by omega)]

/-- The rounds read 16 words of a block. -/
theorem schedule_congr {first second : Nat → UInt32} (same : ∀ t < 16, first t = second t)
    (t : Nat) : schedule first t = schedule second t := by
  induction t using Nat.strongRecOn with
  | ind t ih =>
    by_cases small : t < 16
    · rw [schedule_message first small, schedule_message second small, same t small]
    · rw [schedule_later first (by omega), schedule_later second (by omega), ih (t - 3) (by omega),
        ih (t - 8) (by omega), ih (t - 14) (by omega), ih (t - 16) (by omega)]

theorem compress_congr {first second : Nat → UInt32} (same : ∀ t < 16, first t = second t)
    (h : Hash) : compress h first = compress h second := by
  have rounds : round first = round second := by
    funext work t
    rw [round, round, schedule_congr same]
  rw [compress, compress, rounds]

theorem blocks_short {bytes : List UInt8} (short : bytes.length < 64) (h : Hash) :
    blocks h bytes = h := by
  rw [blocks, if_neg (by omega)]

theorem wordAt_append {block : List UInt8} (whole : block.length = 64) (rest : List UInt8) {t : Nat}
    (small : t < 16) : wordAt (block ++ rest) t = wordAt block t := by
  have byte (i : Nat) (inside : i < 64) : (block ++ rest).getD i 0 = block.getD i 0 := by
    rw [List.getD_eq_getElem?_getD, List.getD_eq_getElem?_getD,
      List.getElem?_append_left (by omega)]
  rw [wordAt, wordAt, byte _ (by omega), byte _ (by omega), byte _ (by omega), byte _ (by omega)]

theorem blocks_block {block : List UInt8} (whole : block.length = 64) (h : Hash)
    (rest : List UInt8) :
    blocks h (block ++ rest) = blocks (compress h (wordAt block)) rest := by
  rw [blocks, if_pos (by rw [List.length_append]; omega), List.drop_left' whole,
    compress_congr fun t small => wordAt_append whole rest small]

theorem blocks_whole {block : List UInt8} (whole : block.length = 64) (h : Hash) :
    blocks h block = compress h (wordAt block) := by
  have last := blocks_block whole h []
  rwa [List.append_nil, blocks_short (show ([] : List UInt8).length < 64 by decide)] at last

/-- Whole blocks first, then what follows them. -/
theorem blocks_append (count : Nat) : ∀ (h : Hash) (first rest : List UInt8),
    first.length = 64 * count → blocks h (first ++ rest) = blocks (blocks h first) rest := by
  induction count with
  | zero =>
    intro h first rest whole
    have empty : first = [] := List.eq_nil_of_length_eq_zero whole
    subst empty
    have none : blocks h [] = h := blocks_short (by decide) h
    rw [List.nil_append, none]
  | succ count ih =>
    intro h first rest whole
    have head : (first.take 64).length = 64 := by rw [List.length_take]; omega
    have tail : (first.drop 64).length = 64 * count := by rw [List.length_drop]; omega
    rw [← List.take_append_drop 64 first, List.append_assoc, blocks_block head, blocks_block head,
      ih _ _ _ tail]

end Fips180
