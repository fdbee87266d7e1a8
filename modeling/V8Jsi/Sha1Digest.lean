import Mathlib.Logic.Function.Basic
import V8Jsi.Lib.Sha1
import V8Jsi.Base64Encode

set_option autoImplicit false

/- The SHA-1 of inspector_utils.h, as it is unrolled there, and the accept key that
inspector_socket.cpp makes with it. -/
namespace V8Jsi.InspectorUtils.Sha1

open Outcome

abbrev Block := Fin 16 → UInt32

/-- The locals `a` to `e`, in the order of the digest that they start from. -/
abbrev Registers := Fin 5 → UInt32

abbrev a : Fin 5 := 0
abbrev b : Fin 5 := 1
abbrev c : Fin 5 := 2
abbrev d : Fin 5 := 3
abbrev e : Fin 5 := 4

def rol (value bits : UInt32) : UInt32 := (value <<< bits) ||| (value >>> (32 - bits))

/-- An index of the block wraps by `& 15`. -/
def blk (block : Block) (i : Fin 16) : UInt32 :=
  rol (block (i + 13) ^^^ block (i + 8) ^^^ block (i + 2) ^^^ block i) 1

structure Scratch where
  block : Block
  registers : Registers

/-- What the five rounds share: `z` is increased first, then `w` is rotated. -/
def mixInto (mix : UInt32 → UInt32 → UInt32 → UInt32) (constant : UInt32) (v w x y z : Fin 5)
    (i : Fin 16) (s : Scratch) : Scratch :=
  let r := s.registers
  let sum := r z + (mix (r w) (r x) (r y) + s.block i + constant + rol (r v) 5)
  let added := Function.update r z sum
  { s with registers := Function.update added w (rol (added w) 30) }

/-- `block[i] = blk(block, i)`. -/
def extend (i : Fin 16) (s : Scratch) : Scratch :=
  { s with block := Function.update s.block i (blk s.block i) }

def choose (w x y : UInt32) : UInt32 := (w &&& (x ^^^ y)) ^^^ y

def r0 (v w x y z : Fin 5) (i : Fin 16) (s : Scratch) : Scratch :=
  mixInto choose 0x5a827999 v w x y z i s

def r1 (v w x y z : Fin 5) (i : Fin 16) (s : Scratch) : Scratch :=
  mixInto choose 0x5a827999 v w x y z i (extend i s)

def r2 (v w x y z : Fin 5) (i : Fin 16) (s : Scratch) : Scratch :=
  mixInto (fun w x y => w ^^^ x ^^^ y) 0x6ed9eba1 v w x y z i (extend i s)

def r3 (v w x y z : Fin 5) (i : Fin 16) (s : Scratch) : Scratch :=
  mixInto (fun w x y => ((w ||| x) &&& y) ||| (w &&& x)) 0x8f1bbcdc v w x y z i (extend i s)

def r4 (v w x y z : Fin 5) (i : Fin 16) (s : Scratch) : Scratch :=
  mixInto (fun w x y => w ^^^ x ^^^ y) 0xca62c1d6 v w x y z i (extend i s)

inductive RoundFunction
  | R0 | R1 | R2 | R3 | R4
  deriving DecidableEq, Repr

def RoundFunction.run : RoundFunction → (v w x y z : Fin 5) → Fin 16 → Scratch → Scratch
  | .R0 => r0
  | .R1 => r1
  | .R2 => r2
  | .R3 => r3
  | .R4 => r4

/-- One line of `transform`. -/
structure Call where
  function : RoundFunction
  v : Fin 5
  w : Fin 5
  x : Fin 5
  y : Fin 5
  z : Fin 5
  i : Fin 16
  deriving DecidableEq, Repr

def Call.run (call : Call) (s : Scratch) : Scratch :=
  call.function.run call.v call.w call.x call.y call.z call.i s

/-- The lines of `transform` between the locals and the sums. -/
def calls : List Call :=
  [⟨.R0, a, b, c, d, e, 0⟩, ⟨.R0, e, a, b, c, d, 1⟩, ⟨.R0, d, e, a, b, c, 2⟩,
    ⟨.R0, c, d, e, a, b, 3⟩, ⟨.R0, b, c, d, e, a, 4⟩, ⟨.R0, a, b, c, d, e, 5⟩,
    ⟨.R0, e, a, b, c, d, 6⟩, ⟨.R0, d, e, a, b, c, 7⟩, ⟨.R0, c, d, e, a, b, 8⟩,
    ⟨.R0, b, c, d, e, a, 9⟩, ⟨.R0, a, b, c, d, e, 10⟩, ⟨.R0, e, a, b, c, d, 11⟩,
    ⟨.R0, d, e, a, b, c, 12⟩, ⟨.R0, c, d, e, a, b, 13⟩, ⟨.R0, b, c, d, e, a, 14⟩,
    ⟨.R0, a, b, c, d, e, 15⟩, ⟨.R1, e, a, b, c, d, 0⟩, ⟨.R1, d, e, a, b, c, 1⟩,
    ⟨.R1, c, d, e, a, b, 2⟩, ⟨.R1, b, c, d, e, a, 3⟩, ⟨.R2, a, b, c, d, e, 4⟩,
    ⟨.R2, e, a, b, c, d, 5⟩, ⟨.R2, d, e, a, b, c, 6⟩, ⟨.R2, c, d, e, a, b, 7⟩,
    ⟨.R2, b, c, d, e, a, 8⟩, ⟨.R2, a, b, c, d, e, 9⟩, ⟨.R2, e, a, b, c, d, 10⟩,
    ⟨.R2, d, e, a, b, c, 11⟩, ⟨.R2, c, d, e, a, b, 12⟩, ⟨.R2, b, c, d, e, a, 13⟩,
    ⟨.R2, a, b, c, d, e, 14⟩, ⟨.R2, e, a, b, c, d, 15⟩, ⟨.R2, d, e, a, b, c, 0⟩,
    ⟨.R2, c, d, e, a, b, 1⟩, ⟨.R2, b, c, d, e, a, 2⟩, ⟨.R2, a, b, c, d, e, 3⟩,
    ⟨.R2, e, a, b, c, d, 4⟩, ⟨.R2, d, e, a, b, c, 5⟩, ⟨.R2, c, d, e, a, b, 6⟩,
    ⟨.R2, b, c, d, e, a, 7⟩, ⟨.R3, a, b, c, d, e, 8⟩, ⟨.R3, e, a, b, c, d, 9⟩,
    ⟨.R3, d, e, a, b, c, 10⟩, ⟨.R3, c, d, e, a, b, 11⟩, ⟨.R3, b, c, d, e, a, 12⟩,
    ⟨.R3, a, b, c, d, e, 13⟩, ⟨.R3, e, a, b, c, d, 14⟩, ⟨.R3, d, e, a, b, c, 15⟩,
    ⟨.R3, c, d, e, a, b, 0⟩, ⟨.R3, b, c, d, e, a, 1⟩, ⟨.R3, a, b, c, d, e, 2⟩,
    ⟨.R3, e, a, b, c, d, 3⟩, ⟨.R3, d, e, a, b, c, 4⟩, ⟨.R3, c, d, e, a, b, 5⟩,
    ⟨.R3, b, c, d, e, a, 6⟩, ⟨.R3, a, b, c, d, e, 7⟩, ⟨.R3, e, a, b, c, d, 8⟩,
    ⟨.R3, d, e, a, b, c, 9⟩, ⟨.R3, c, d, e, a, b, 10⟩, ⟨.R3, b, c, d, e, a, 11⟩,
    ⟨.R4, a, b, c, d, e, 12⟩, ⟨.R4, e, a, b, c, d, 13⟩, ⟨.R4, d, e, a, b, c, 14⟩,
    ⟨.R4, c, d, e, a, b, 15⟩, ⟨.R4, b, c, d, e, a, 0⟩, ⟨.R4, a, b, c, d, e, 1⟩,
    ⟨.R4, e, a, b, c, d, 2⟩, ⟨.R4, d, e, a, b, c, 3⟩, ⟨.R4, c, d, e, a, b, 4⟩,
    ⟨.R4, b, c, d, e, a, 5⟩, ⟨.R4, a, b, c, d, e, 6⟩, ⟨.R4, e, a, b, c, d, 7⟩,
    ⟨.R4, d, e, a, b, c, 8⟩, ⟨.R4, c, d, e, a, b, 9⟩, ⟨.R4, b, c, d, e, a, 10⟩,
    ⟨.R4, a, b, c, d, e, 11⟩, ⟨.R4, e, a, b, c, d, 12⟩, ⟨.R4, d, e, a, b, c, 13⟩,
    ⟨.R4, c, d, e, a, b, 14⟩, ⟨.R4, b, c, d, e, a, 15⟩]

/-- The digest and the block that `transform` leaves. -/
def transform (digest : Registers) (block : Block) : Registers × Block :=
  let s := calls.foldl (fun s call => call.run s) { block, registers := digest }
  (fun i => digest i + s.registers i, s.block)

/-- Big-endian words of the 64 bytes at `p`. -/
def makeBlock (p : Fin 64 → UInt8) : Block := fun i =>
  (p ⟨4 * i + 3, by omega⟩).toUInt32 ||| (p ⟨4 * i + 2, by omega⟩).toUInt32 <<< 8 |||
    (p ⟨4 * i + 1, by omega⟩).toUInt32 <<< 16 ||| (p ⟨4 * i + 0, by omega⟩).toUInt32 <<< 24

/-- Between two calls the buffer has room for a byte. -/
structure Sha1Context where
  buflen : Nat
  blocks : UInt64
  digest : Registers
  buf : Fin 64 → UInt8
  room : buflen < 64

def digestWords : List UInt32 := [0x67452301, 0xefcdab89, 0x98badcfe, 0x10325476, 0xc3d2e1f0]

/-- `buf` is not initialised. -/
def Sha1Context.init (buf : Fin 64 → UInt8) : Sha1Context :=
  { buflen := 0, blocks := 0, digest := fun i => digestWords.getD i 0, buf, room := by decide }

/-- `memcpy(buf + at, p, n)`. -/
def copyInto (buf : Fin 64 → UInt8) (at' n : Nat) (p : List UInt8) : Fin 64 → UInt8 := fun i =>
  if at' ≤ i ∧ i < at' + n then p.getD (i - at') 0 else buf i

def Sha1Context.update (ctx : Sha1Context) (message : List UInt8) : Sha1Context :=
  let n := min message.length (64 - ctx.buflen)
  let buf := copyInto ctx.buf ctx.buflen n message
  if full : ctx.buflen + n ≠ 64 then
    { ctx with
      buf
      buflen := ctx.buflen + n
      room := by have := ctx.room; omega }
  else
    update
      { buflen := 0
        blocks := ctx.blocks + 1
        digest := (transform ctx.digest (makeBlock buf)).1
        buf
        room := by decide }
      (message.drop n)
termination_by message.length
decreasing_by
  have := ctx.room
  rw [List.length_drop]
  omega

/-- The four bytes at `d`. -/
def digestBytes (word : UInt32) : List UInt8 :=
  [((word >>> 24) &&& 0xff).toUInt8, ((word >>> 16) &&& 0xff).toUInt8,
    ((word >>> 8) &&& 0xff).toUInt8, (word &&& 0xff).toUInt8]

/-- The loop that clears the buffer behind the bit `1`. -/
def clearFrom (buf : Fin 64 → UInt8) (buflen : Nat) : Fin 64 → UInt8 := fun i =>
  if buflen ≤ i then 0x00 else buf i

def Sha1Context.finish (ctx : Sha1Context) : List UInt8 :=
  let totalBits := (ctx.blocks * 64 + UInt64.ofNat ctx.buflen) * 8
  let marked := Function.update ctx.buf ⟨ctx.buflen, ctx.room⟩ 0x80
  let buflen := ctx.buflen + 1
  let block := makeBlock (clearFrom marked buflen)
  let (digest, block) :=
    if buflen > 64 - 8 then
      let (digest, block) := transform ctx.digest block
      (digest, fun i => if i.val < 16 - 2 then 0 else block i)
    else (ctx.digest, block)
  let block := Function.update block 15 (totalBits &&& 0xffffffff).toUInt32
  let block := Function.update block 14 (totalBits >>> 32).toUInt32
  let (digest, _) := transform digest block
  (List.ofFn digest).flatMap digestBytes

/-! ## The rounds -/

theorem choose_eq (x y z : UInt32) : choose x y z = Fips180.ch x y z := by
  apply UInt32.toBitVec_inj.mp
  ext i
  simp only [choose, Fips180.ch, UInt32.toBitVec_xor, UInt32.toBitVec_and, UInt32.toBitVec_not,
    BitVec.getElem_xor, BitVec.getElem_and, BitVec.getElem_not]
  cases x.toBitVec[i] <;> cases y.toBitVec[i] <;> cases z.toBitVec[i] <;> rfl

theorem majority_eq (x y z : UInt32) : ((x ||| y) &&& z) ||| (x &&& y) = Fips180.maj x y z := by
  apply UInt32.toBitVec_inj.mp
  ext i
  simp only [Fips180.maj, UInt32.toBitVec_xor, UInt32.toBitVec_and, UInt32.toBitVec_or,
    BitVec.getElem_xor, BitVec.getElem_and, BitVec.getElem_or]
  cases x.toBitVec[i] <;> cases y.toBitVec[i] <;> cases z.toBitVec[i] <;> rfl

/-- The register that is `v` in round `t`. -/
def lead (t : Nat) : Fin 5 := Fin.ofNat 5 (4 * t)

def functionOf (t : Nat) : RoundFunction :=
  if t < 16 then .R0 else if t < 20 then .R1 else if t < 40 then .R2 else if t < 60 then .R3
  else .R4

def callOf (t : Nat) : Call :=
  ⟨functionOf t, lead t, lead t + 1, lead t + 2, lead t + 3, lead t + 4, Fin.ofNat 16 t⟩

/-- Each line renames the registers of the line above it by one place. -/
theorem calls_eq : calls = (List.range 80).map callOf := by decide +kernel

/-- The state in which round `t` mixes: from round 16 on the block is extended first. -/
def fetched (t : Nat) (s : Scratch) : Scratch := if t < 16 then s else extend (Fin.ofNat 16 t) s

theorem callOf_run (t : Nat) (s : Scratch) :
    (callOf t).run s =
      mixInto (Fips180.f t) (Fips180.k t) (lead t) (lead t + 1) (lead t + 2) (lead t + 3)
        (lead t + 4) (Fin.ofNat 16 t) (fetched t s) := by
  have choose' : choose = Fips180.ch := by funext x y z; exact choose_eq x y z
  have majority : (fun w x y : UInt32 => ((w ||| x) &&& y) ||| (w &&& x)) = Fips180.maj := by
    funext x y z; exact majority_eq x y z
  rw [callOf, Call.run]
  dsimp only
  unfold functionOf fetched Fips180.f Fips180.k
  by_cases first : t < 16
  · rw [if_pos first, if_pos first, if_pos (show t < 20 by omega), if_pos (show t < 20 by omega),
      ← choose']
    rfl
  · rw [if_neg first, if_neg first]
    by_cases second : t < 20
    · rw [if_pos second, if_pos second, if_pos second, ← choose']
      rfl
    · rw [if_neg second, if_neg second, if_neg second]
      by_cases third : t < 40
      · rw [if_pos third, if_pos third, if_pos third]
        rfl
      · rw [if_neg third, if_neg third, if_neg third]
        by_cases fourth : t < 60
        · rw [if_pos fourth, if_pos fourth, if_pos fourth, ← majority]
          rfl
        · rw [if_neg fourth, if_neg fourth, if_neg fourth]
          rfl

/-- In front of round `t`: the working variables stand in the registers, turned by `t` places,
and the block holds the last 16 words of the schedule. -/
structure AtRound (message : Nat → UInt32) (t : Nat) (work : Fips180.Hash) (s : Scratch) :
    Prop where
  v : s.registers (lead t) = work.a
  w : s.registers (lead t + 1) = work.b
  x : s.registers (lead t + 2) = work.c
  y : s.registers (lead t + 3) = work.d
  z : s.registers (lead t + 4) = work.e
  words : ∀ j, t ≤ j + 16 → j < max 16 t → s.block (Fin.ofNat 16 j) = Fips180.schedule message j

theorem lead_succ (t : Nat) : lead (t + 1) = lead t + 4 := by
  apply Fin.ext
  simp only [lead, Fin.ofNat, Fin.val_add]
  show 4 * (t + 1) % 5 = (4 * t % 5 + 4) % 5
  omega

theorem ofNat_add (j offset : Nat) :
    Fin.ofNat 16 j + Fin.ofNat 16 offset = Fin.ofNat 16 (j + offset) := by
  apply Fin.ext
  simp only [Fin.ofNat, Fin.val_add]
  omega

section

variable {message : Nat → UInt32} {t : Nat} {work : Fips180.Hash} {s : Scratch}

theorem fetched_registers (t : Nat) (s : Scratch) : (fetched t s).registers = s.registers := by
  unfold fetched
  split <;> rfl

/-- The word that is read back at a distance below 16. -/
theorem AtRound.back (at' : AtRound message t work s) (later : 16 ≤ t) (offset distance : Nat)
    (positive : 0 < distance) (sum : offset + distance = 16) :
    s.block (Fin.ofNat 16 t + Fin.ofNat 16 offset) = Fips180.schedule message (t - distance) := by
  have same : Fin.ofNat 16 t + Fin.ofNat 16 offset = Fin.ofNat 16 (t - distance) := by
    apply Fin.ext
    simp only [Fin.ofNat, Fin.val_add]
    omega
  rw [same]
  exact at'.words _ (by omega) (by omega)

theorem AtRound.blk (at' : AtRound message t work s) (later : 16 ≤ t) :
    blk s.block (Fin.ofNat 16 t) = Fips180.schedule message t := by
  have oldest := at'.back later 0 16 (by decide) rfl
  rw [ofNat_add, Nat.add_zero] at oldest
  rw [Fips180.schedule_later message later, ← oldest, ← at'.back later 13 3 (by decide) rfl,
    ← at'.back later 8 8 (by decide) rfl, ← at'.back later 2 14 (by decide) rfl]
  rfl

theorem AtRound.fetched_words (at' : AtRound message t work s) :
    ∀ j, t + 1 ≤ j + 16 → j < max 16 (t + 1) →
      (fetched t s).block (Fin.ofNat 16 j) = Fips180.schedule message j := by
  intro j recent before
  unfold fetched
  split
  · exact at'.words j (by omega) (by omega)
  · next later =>
    show Function.update s.block (Fin.ofNat 16 t) _ (Fin.ofNat 16 j) = _
    by_cases same : j = t
    · rw [same, Function.update_self]
      exact at'.blk (by omega)
    · rw [Function.update_of_ne]
      · exact at'.words j (by omega) (by omega)
      · intro equal
        have := congrArg Fin.val equal
        simp only [Fin.ofNat] at this
        omega

/-- One line of `transform` is one round. -/
theorem AtRound.step (at' : AtRound message t work s) :
    AtRound message (t + 1) (Fips180.round message work t) ((callOf t).run s) := by
  have word : (fetched t s).block (Fin.ofNat 16 t) = Fips180.schedule message t :=
    at'.fetched_words t (by omega) (by omega)
  have distinct : ∀ r : Fin 5, r + 4 ≠ r + 1 ∧ r + 4 + 1 = r ∧ r + 4 + 2 = r + 1 ∧
      r + 4 + 3 = r + 2 ∧ r + 4 + 4 = r + 3 ∧ r ≠ r + 1 ∧ r ≠ r + 4 ∧ r + 1 ≠ r + 4 ∧
      r + 2 ≠ r + 1 ∧ r + 2 ≠ r + 4 ∧ r + 3 ≠ r + 1 ∧ r + 3 ≠ r + 4 := by decide
  obtain ⟨newV, newW, newX, newY, newZ, vw, vz, wz, xw, xz, yw, yz⟩ := distinct (lead t)
  rw [callOf_run]
  unfold mixInto
  refine ⟨?_, ?_, ?_, ?_, ?_, at'.fetched_words⟩
  · rw [lead_succ]
    dsimp only
    rw [Function.update_of_ne newV, Function.update_self, fetched_registers, at'.v, at'.w, at'.x,
      at'.y, at'.z, word, Fips180.round]
    show work.e + (_ + _ + _ + Fips180.rotl 5 work.a) = _
    ac_rfl
  · rw [lead_succ, newW]
    dsimp only
    rw [Function.update_of_ne vw, Function.update_of_ne vz, fetched_registers, at'.v]
    rfl
  · rw [lead_succ, newX]
    dsimp only
    rw [Function.update_self, Function.update_of_ne wz, fetched_registers, at'.w]
    rfl
  · rw [lead_succ, newY]
    dsimp only
    rw [Function.update_of_ne xw, Function.update_of_ne xz, fetched_registers, at'.x]
    rfl
  · rw [lead_succ, newZ]
    dsimp only
    rw [Function.update_of_ne yw, Function.update_of_ne yz, fetched_registers, at'.y]
    rfl

end

theorem atRound_run (message : Nat → UInt32) {work : Fips180.Hash} {s : Scratch}
    (start : AtRound message 0 work s) (count : Nat) :
    AtRound message count ((List.range count).foldl (Fips180.round message) work)
      (((List.range count).map callOf).foldl (fun s call => call.run s) s) := by
  induction count with
  | zero => exact start
  | succ count ih =>
    rw [List.range_succ, List.map_append, List.foldl_append, List.foldl_append]
    exact ih.step

def toHash (digest : Registers) : Fips180.Hash := ⟨digest 0, digest 1, digest 2, digest 3, digest 4⟩

/-- The unrolled rounds in a block of 16 words are the compression with a schedule of 80. -/
theorem transform_eq_compress (digest : Registers) (block : Block) :
    toHash (transform digest block).1 =
      Fips180.compress (toHash digest) fun t => block (Fin.ofNat 16 t) := by
  have start : AtRound (fun t => block (Fin.ofNat 16 t)) 0 (toHash digest)
      { block, registers := digest } := by
    refine ⟨rfl, rfl, rfl, rfl, rfl, ?_⟩
    intro j _ small
    have input : j < 16 := by omega
    exact (Fips180.schedule_message (fun t => block (Fin.ofNat 16 t)) input).symm
  have last := atRound_run _ start 80
  have turned : lead 80 = 0 := rfl
  obtain ⟨v, w, x, y, z, -⟩ := last
  rw [turned, ← calls_eq] at v w x y z
  unfold transform Fips180.compress Fips180.add
  rw [← v, ← w, ← x, ← y, ← z]
  apply Fips180.Hash.ext <;> exact UInt32.add_comm _ _

/-! ## Blocks of the buffer -/

theorem or_shift_toNat {low high : Nat} (bits : Nat) (small : low < 2 ^ bits) :
    low ||| high * 2 ^ bits = high * 2 ^ bits + low := by
  rw [Nat.or_comm, Nat.mul_comm, Nat.two_pow_add_eq_or_of_lt small]

theorem byte_shift_toNat (byte : UInt8) (up : UInt32) (bits : Nat) (same : up.toNat = bits)
    (small : bits + 8 ≤ 32) : (byte.toUInt32 <<< up).toNat = byte.toNat * 2 ^ bits := by
  have bound := byte.toNat_lt
  have fits : byte.toNat * 2 ^ bits < 2 ^ 32 :=
    calc byte.toNat * 2 ^ bits < 2 ^ 8 * 2 ^ bits :=
          Nat.mul_lt_mul_of_pos_right bound (Nat.two_pow_pos bits)
      _ = 2 ^ (8 + bits) := (Nat.pow_add 2 8 bits).symm
      _ ≤ 2 ^ 32 := Nat.pow_le_pow_right (by decide) (by omega)
  rw [UInt32.toNat_shiftLeft, same, Nat.mod_eq_of_lt (show bits < 32 by omega), Nat.shiftLeft_eq,
    UInt8.toNat_toUInt32, Nat.mod_eq_of_lt fits]

theorem word_eq (b0 b1 b2 b3 : UInt8) :
    b3.toUInt32 ||| b2.toUInt32 <<< 8 ||| b1.toUInt32 <<< 16 ||| b0.toUInt32 <<< 24 =
      Fips180.word b0 b1 b2 b3 := by
  have bound0 := b0.toNat_lt
  have bound1 := b1.toNat_lt
  have bound2 := b2.toNat_lt
  have bound3 := b3.toNat_lt
  apply UInt32.toNat_inj.mp
  rw [Fips180.word, UInt32.toNat_ofNat_of_lt' (by show _ < 2 ^ 32; omega), UInt32.toNat_or,
    UInt32.toNat_or, UInt32.toNat_or, byte_shift_toNat b2 8 8 rfl (by decide),
    byte_shift_toNat b1 16 16 rfl (by decide), byte_shift_toNat b0 24 24 rfl (by decide),
    UInt8.toNat_toUInt32, or_shift_toNat 8 bound3, or_shift_toNat 16 (by omega),
    or_shift_toNat 24 (by omega)]
  omega

theorem makeBlock_eq (p : Fin 64 → UInt8) {t : Nat} (small : t < 16) :
    makeBlock p (Fin.ofNat 16 t) = Fips180.wordAt (List.ofFn p) t := by
  have byte (i : Nat) (inside : i < 64) : (List.ofFn p).getD i 0 = p ⟨i, inside⟩ := by
    rw [List.getD_eq_getElem?_getD, List.getElem?_ofFn, dif_pos inside, Option.getD_some]
  have index : (Fin.ofNat 16 t).val = t := Nat.mod_eq_of_lt small
  rw [Fips180.wordAt, byte _ (by omega), byte _ (by omega), byte _ (by omega), byte _ (by omega),
    ← word_eq]
  simp only [makeBlock, index, Nat.add_zero]

theorem transform_makeBlock (digest : Registers) (p : Fin 64 → UInt8) :
    toHash (transform digest (makeBlock p)).1 =
      Fips180.compress (toHash digest) (Fips180.wordAt (List.ofFn p)) := by
  rw [transform_eq_compress]
  exact Fips180.compress_congr (fun t small => makeBlock_eq p small) _

theorem take_copyInto (buf : Fin 64 → UInt8) {at' n : Nat} {p : List UInt8}
    (room : at' + n ≤ 64) (enough : n ≤ p.length) :
    (List.ofFn (copyInto buf at' n p)).take (at' + n) = (List.ofFn buf).take at' ++ p.take n := by
  apply List.ext_getElem
  · simp only [List.length_take, List.length_append, List.length_ofFn]
    omega
  · intro i left right
    simp only [List.length_take, List.length_ofFn] at left
    simp only [List.getElem_take, List.getElem_ofFn, List.getElem_append, List.length_take,
      List.length_ofFn, copyInto]
    by_cases before : i < at'
    · rw [if_neg (by omega), dif_pos (by omega)]
    · rw [if_pos (by omega), dif_neg (by omega), List.getD_eq_getElem?_getD,
        List.getElem?_eq_getElem (by omega), Option.getD_some]
      congr 1
      omega

/-! ## A message in pieces -/

/-- After `whole` in `count` blocks, with `tail` in the buffer. -/
structure Absorbed (count : Nat) (whole tail : List UInt8) (ctx : Sha1Context) : Prop where
  length : whole.length = 64 * count
  digest : toHash ctx.digest = Fips180.blocks Fips180.initial whole
  blocks : ctx.blocks = UInt64.ofNat count
  buflen : ctx.buflen = tail.length
  buf : (List.ofFn ctx.buf).take ctx.buflen = tail

theorem Absorbed.init (buf : Fin 64 → UInt8) : Absorbed 0 [] [] (Sha1Context.init buf) := by
  refine ⟨rfl, ?_, rfl, rfl, rfl⟩
  rw [Fips180.blocks_short (by decide)]
  rfl

section

variable {count : Nat} {whole tail : List UInt8} {ctx : Sha1Context}

/-- A filled buffer goes into the digest. -/
theorem Absorbed.block (absorbed : Absorbed count whole tail ctx) {buf : Fin 64 → UInt8}
    {rest : List UInt8} (filled : List.ofFn buf = tail ++ rest) :
    Absorbed (count + 1) (whole ++ (tail ++ rest)) []
      { buflen := 0, blocks := ctx.blocks + 1, digest := (transform ctx.digest (makeBlock buf)).1,
        buf, room := by decide } := by
  have size : (tail ++ rest).length = 64 := by rw [← filled, List.length_ofFn]
  refine ⟨?_, ?_, ?_, rfl, rfl⟩
  · rw [List.length_append, absorbed.length, size]
    omega
  · rw [transform_makeBlock, absorbed.digest, filled,
      Fips180.blocks_append count _ _ _ absorbed.length, Fips180.blocks_whole size]
  · rw [absorbed.blocks, UInt64.ofNat_add]
    rfl

theorem Absorbed.update (absorbed : Absorbed count whole tail ctx) (message : List UInt8) :
    ∃ count' whole' tail', whole' ++ tail' = whole ++ tail ++ message ∧
      Absorbed count' whole' tail' (ctx.update message) := by
  fun_induction Sha1Context.update ctx message generalizing count whole tail with
  | case1 ctx message n =>
    rename_i buf full
    have room := ctx.room
    have all : n = message.length := by omega
    have copied := take_copyInto ctx.buf (show ctx.buflen + n ≤ 64 by omega) (Nat.le_of_eq all)
    rw [absorbed.buf, all, List.take_length] at copied
    refine ⟨count, whole, tail ++ message, (List.append_assoc _ _ _).symm, absorbed.length,
      absorbed.digest, absorbed.blocks, ?_, ?_⟩
    · rw [List.length_append, ← absorbed.buflen, ← all]
    · show List.take (ctx.buflen + n) (List.ofFn buf) = _
      rw [all, ← copied, ← all]
  | case2 ctx message n buf =>
    rename_i full ih
    have room := ctx.room
    have whole' : ctx.buflen + n = 64 := by omega
    have copied := take_copyInto ctx.buf (Nat.le_of_eq whole') (Nat.min_le_left _ _)
    rw [absorbed.buf, whole', List.take_of_length_le (Nat.le_of_eq List.length_ofFn)] at copied
    obtain ⟨count', whole'', tail', same, later⟩ := ih (absorbed.block copied)
    refine ⟨count', whole'', tail', ?_, later⟩
    rw [same, List.append_nil, List.append_assoc, List.append_assoc, List.append_assoc,
      List.take_append_drop]

/-! ## The last block -/

theorem bigEndian_eight (number : Nat) :
    Fips180.bigEndian 8 number =
      [UInt8.ofNat (number / 2 ^ 56), UInt8.ofNat (number / 2 ^ 48), UInt8.ofNat (number / 2 ^ 40),
        UInt8.ofNat (number / 2 ^ 32), UInt8.ofNat (number / 2 ^ 24), UInt8.ofNat (number / 2 ^ 16),
        UInt8.ofNat (number / 2 ^ 8), UInt8.ofNat number] := by
  simp only [Fips180.bigEndian, Nat.div_div_eq_div_mul, List.nil_append, List.cons_append]
  rfl

theorem word_ofNat (number : Nat) :
    Fips180.word (UInt8.ofNat (number / 2 ^ 24)) (UInt8.ofNat (number / 2 ^ 16))
      (UInt8.ofNat (number / 2 ^ 8)) (UInt8.ofNat number) = UInt32.ofNat number := by
  apply UInt32.toNat_inj.mp
  rw [Fips180.word, UInt32.toNat_ofNat', UInt32.toNat_ofNat', UInt8.toNat_ofNat',
    UInt8.toNat_ofNat', UInt8.toNat_ofNat', UInt8.toNat_ofNat']
  omega

/-- Words of a block that ends with a length in bits. -/
theorem wordAt_length {front : List UInt8} (whole : front.length = 56) (number : Nat) {t : Nat}
    (small : t < 16) :
    Fips180.wordAt (front ++ Fips180.bigEndian 8 number) t =
      if t = 15 then UInt32.ofNat number
      else if t = 14 then UInt32.ofNat (number / 2 ^ 32)
      else Fips180.wordAt front t := by
  have behind (i : Nat) (inside : 56 ≤ i) :
      (front ++ Fips180.bigEndian 8 number).getD i 0 =
        (Fips180.bigEndian 8 number).getD (i - 56) 0 := by
    rw [List.getD_eq_getElem?_getD, List.getD_eq_getElem?_getD,
      List.getElem?_append_right (by omega), whole]
  have before (i : Nat) (inside : i < 56) :
      (front ++ Fips180.bigEndian 8 number).getD i 0 = front.getD i 0 := by
    rw [List.getD_eq_getElem?_getD, List.getD_eq_getElem?_getD,
      List.getElem?_append_left (by omega)]
  by_cases low : t = 15
  · rw [if_pos low, low, Fips180.wordAt, behind _ (by decide), behind _ (by decide),
      behind _ (by decide), behind _ (by decide), bigEndian_eight]
    exact word_ofNat number
  · rw [if_neg low]
    by_cases high : t = 14
    · rw [if_pos high, high, Fips180.wordAt, behind _ (by decide), behind _ (by decide),
        behind _ (by decide), behind _ (by decide), bigEndian_eight, ← word_ofNat,
        Nat.div_div_eq_div_mul, Nat.div_div_eq_div_mul, Nat.div_div_eq_div_mul]
      rfl
    · rw [if_neg high, Fips180.wordAt, Fips180.wordAt, before _ (by omega), before _ (by omega),
        before _ (by omega), before _ (by omega)]

/-- What `finish` leaves in the buffer. -/
theorem cleared_eq {ctx : Sha1Context} {tail : List UInt8}
    (filled : (List.ofFn ctx.buf).take ctx.buflen = tail) :
    List.ofFn (clearFrom (Function.update ctx.buf ⟨ctx.buflen, ctx.room⟩ 0x80) (ctx.buflen + 1)) =
      tail ++ 0x80 :: List.replicate (63 - ctx.buflen) 0 := by
  have room := ctx.room
  have size : tail.length = ctx.buflen := by
    rw [← filled, List.length_take, List.length_ofFn]
    omega
  apply List.ext_getElem
  · simp only [List.length_ofFn, List.length_append, List.length_cons, List.length_replicate, size]
    omega
  · intro i left right
    rw [List.length_ofFn] at left
    simp only [List.getElem_ofFn, clearFrom, List.getElem_append, size]
    by_cases before : i < ctx.buflen
    · have apart : (⟨i, left⟩ : Fin 64) ≠ ⟨ctx.buflen, ctx.room⟩ := by
        simp only [ne_eq, Fin.mk.injEq]
        omega
      rw [if_neg (by omega), dif_pos before, Function.update_of_ne apart]
      simp only [← filled, List.getElem_take, List.getElem_ofFn]
    · rw [dif_neg before]
      by_cases marker : i = ctx.buflen
      · subst marker
        rw [if_neg (by simp), Function.update_self]
        simp only [Nat.sub_self, List.getElem_cons_zero]
      · rw [if_pos (show ctx.buflen + 1 ≤ i by omega), List.getElem_cons, dif_neg (by omega),
          List.getElem_replicate]

theorem digestBytes_eq (word : UInt32) : digestBytes word = Fips180.bigEndian 4 word.toNat := by
  have byte (down : UInt32) (bits : Nat) (same : down.toNat = bits) (small : bits < 32) :
      ((word >>> down) &&& 0xff).toUInt8 = UInt8.ofNat (word.toNat / 2 ^ bits) := by
    apply UInt8.toNat_inj.mp
    rw [UInt32.toNat_toUInt8, UInt32.toNat_and, shiftRight_toNat word down bits same small,
      UInt8.toNat_ofNat']
    show (_ &&& 2 ^ 8 - 1) % _ = _
    rw [Nat.and_two_pow_sub_one_eq_mod, Nat.mod_mod]
  have last : (word &&& 0xff).toUInt8 = UInt8.ofNat word.toNat := by
    apply UInt8.toNat_inj.mp
    rw [UInt32.toNat_toUInt8, UInt32.toNat_and, UInt8.toNat_ofNat']
    show (_ &&& 2 ^ 8 - 1) % _ = _
    rw [Nat.and_two_pow_sub_one_eq_mod, Nat.mod_mod]
  rw [digestBytes, byte 24 24 rfl (by decide), byte 16 16 rfl (by decide), byte 8 8 rfl (by decide),
    last]
  simp only [Fips180.bigEndian, Nat.div_div_eq_div_mul, List.nil_append, List.cons_append]
  rfl

theorem flatMap_digestBytes (digest : Registers) :
    (List.ofFn digest).flatMap digestBytes = (toHash digest).bytes := by
  simp only [List.ofFn_succ, List.ofFn_zero, List.flatMap_cons, List.flatMap_nil, digestBytes_eq,
    Fips180.Hash.bytes, toHash, List.append_assoc, List.append_nil]
  rfl

theorem totalBits_low (number : Nat) :
    (UInt64.ofNat number &&& 0xffffffff).toUInt32 = UInt32.ofNat number := by
  apply UInt32.toNat_inj.mp
  rw [UInt64.toNat_toUInt32, UInt64.toNat_and, UInt64.toNat_ofNat', UInt32.toNat_ofNat']
  show (_ &&& 2 ^ 32 - 1) % _ = _
  rw [Nat.and_two_pow_sub_one_eq_mod]
  omega

theorem totalBits_high (number : Nat) :
    (UInt64.ofNat number >>> 32).toUInt32 = UInt32.ofNat (number / 2 ^ 32) := by
  apply UInt32.toNat_inj.mp
  rw [UInt64.toNat_toUInt32, UInt64.toNat_shiftRight, UInt64.toNat_ofNat', UInt32.toNat_ofNat',
    Nat.shiftRight_eq_div_pow]
  show number % 2 ^ 64 / 2 ^ 32 % 2 ^ 32 = _
  omega

/-- The block that ends with the length. -/
theorem transform_last (digest : Registers) {block : Block} {front : List UInt8}
    (whole : front.length = 56)
    (same : ∀ t < 14, block (Fin.ofNat 16 t) = Fips180.wordAt front t) (number : Nat) :
    toHash (transform digest (Function.update
      (Function.update block 15 (UInt64.ofNat number &&& 0xffffffff).toUInt32) 14
      (UInt64.ofNat number >>> 32).toUInt32)).1 =
      Fips180.compress (toHash digest)
        (Fips180.wordAt (front ++ Fips180.bigEndian 8 number)) := by
  rw [transform_eq_compress, totalBits_low, totalBits_high]
  apply Fips180.compress_congr
  intro t small
  rw [wordAt_length whole number small]
  have index : (Fin.ofNat 16 t).val = t := Nat.mod_eq_of_lt small
  by_cases low : t = 15
  · rw [if_pos low, low]
    rfl
  · rw [if_neg low]
    by_cases high : t = 14
    · rw [if_pos high, high]
      rfl
    · have below14 : Fin.ofNat 16 t ≠ 14 := fun equal => high (by rw [← index, equal]; rfl)
      have below15 : Fin.ofNat 16 t ≠ 15 := fun equal => low (by rw [← index, equal]; rfl)
      rw [if_neg high, Function.update_of_ne below14, Function.update_of_ne below15]
      exact same t (by omega)

theorem makeBlock_front {p : Fin 64 → UInt8} {front rest : List UInt8}
    (split : List.ofFn p = front ++ rest) (whole : front.length = 56) :
    ∀ t < 14, makeBlock p (Fin.ofNat 16 t) = Fips180.wordAt front t := by
  intro t small
  have before (i : Nat) (inside : i < 56) : (front ++ rest).getD i 0 = front.getD i 0 := by
    rw [List.getD_eq_getElem?_getD, List.getD_eq_getElem?_getD,
      List.getElem?_append_left (by omega)]
  rw [makeBlock_eq p (by omega), split, Fips180.wordAt, Fips180.wordAt, before _ (by omega),
    before _ (by omega), before _ (by omega), before _ (by omega)]

/-- `finish` pads the message of FIPS 180-4, in one block or in two. -/
theorem Absorbed.finish (absorbed : Absorbed count whole tail ctx) :
    ctx.finish = Fips180.sha1 (whole ++ tail) := by
  have room := ctx.room
  have buflen := absorbed.buflen
  have length : (whole ++ tail).length = 64 * count + tail.length := by
    rw [List.length_append, absorbed.length]
  have bits : (ctx.blocks * 64 + UInt64.ofNat ctx.buflen) * 8 =
      UInt64.ofNat ((whole ++ tail).length * 8) := by
    rw [absorbed.blocks, buflen, length, Nat.mul_comm 64 count, UInt64.ofNat_mul, UInt64.ofNat_add,
      UInt64.ofNat_mul]
    rfl
  have cleared := cleared_eq absorbed.buf
  unfold Sha1Context.finish Fips180.sha1
  dsimp only
  rw [bits, flatMap_digestBytes, List.append_assoc,
    Fips180.blocks_append count _ _ _ absorbed.length, ← absorbed.digest, Fips180.padding]
  by_cases two : ctx.buflen + 1 > 64 - 8
  · -- The block with the bit `1` is full, and the length stands in a block of zeros.
    have zeros : Fips180.zeros (whole ++ tail).length = (63 - ctx.buflen) + 56 := by
      rw [Fips180.zeros, length]
      omega
    have size : (tail ++ 0x80 :: List.replicate (63 - ctx.buflen) (0 : UInt8)).length = 64 := by
      rw [← cleared, List.length_ofFn]
    have regroup : tail ++ (0x80 :: List.replicate (63 - ctx.buflen + 56) (0 : UInt8) ++
        Fips180.bigEndian 8 ((whole ++ tail).length * 8)) =
        (tail ++ 0x80 :: List.replicate (63 - ctx.buflen) 0) ++
          (List.replicate 56 0 ++ Fips180.bigEndian 8 ((whole ++ tail).length * 8)) := by
      simp only [List.replicate_add, List.append_assoc, List.cons_append]
    rw [if_pos two, zeros, regroup, Fips180.blocks_block size, Fips180.blocks_whole (by simp)]
    dsimp only
    rw [transform_last _ List.length_replicate, transform_makeBlock, cleared]
    intro t small
    have index : (Fin.ofNat 16 t).val = t := Nat.mod_eq_of_lt (by omega)
    have zero (i : Nat) : (List.replicate 56 (0 : UInt8)).getD i 0 = 0 := by
      rw [List.getD_eq_getElem?_getD, List.getElem?_replicate]
      split <;> rfl
    rw [if_pos (by omega), Fips180.wordAt, zero, zero, zero, zero]
    rfl
  · have zeros : Fips180.zeros (whole ++ tail).length = 55 - ctx.buflen := by
      rw [Fips180.zeros, length]
      omega
    have size : (tail ++ 0x80 :: List.replicate (55 - ctx.buflen) (0 : UInt8)).length = 56 := by
      simp only [List.length_append, List.length_cons, List.length_replicate]
      omega
    have split : List.ofFn (clearFrom (Function.update ctx.buf ⟨ctx.buflen, ctx.room⟩ 0x80)
        (ctx.buflen + 1)) =
        (tail ++ 0x80 :: List.replicate (55 - ctx.buflen) 0) ++ List.replicate 8 0 := by
      have parts : 63 - ctx.buflen = (55 - ctx.buflen) + 8 := by omega
      rw [cleared, parts, List.replicate_add, List.append_assoc, List.cons_append]
    rw [if_neg two, zeros, List.cons_append, ← List.cons_append, ← List.append_assoc,
      Fips180.blocks_whole (by rw [List.length_append, size]; rfl)]
    dsimp only
    rw [transform_last _ size (makeBlock_front split size)]

end

/-- A message that is handed over in pieces of any lengths has the digest of FIPS 180-4; above
2 ^ 61 bytes its length in bits is taken mod 2 ^ 64. -/
theorem finish_update_eq_sha1 (buf : Fin 64 → UInt8) (pieces : List (List UInt8)) :
    (pieces.foldl Sha1Context.update (Sha1Context.init buf)).finish =
      Fips180.sha1 pieces.flatten := by
  have run : ∀ (pieces : List (List UInt8)) (ctx : Sha1Context) (count : Nat)
      (whole tail : List UInt8), Absorbed count whole tail ctx →
      (pieces.foldl Sha1Context.update ctx).finish =
        Fips180.sha1 (whole ++ tail ++ pieces.flatten) := by
    intro pieces
    induction pieces with
    | nil =>
      intro ctx count whole tail absorbed
      rw [List.foldl_nil, List.flatten_nil, List.append_nil]
      exact absorbed.finish
    | cons piece rest ih =>
      intro ctx count whole tail absorbed
      obtain ⟨count', whole', tail', same, later⟩ := absorbed.update piece
      rw [List.foldl_cons, ih _ _ _ _ later, same, List.flatten_cons, List.append_assoc]
  have all := run pieces _ 0 [] [] (Absorbed.init buf)
  rwa [List.nil_append, List.nil_append] at all

/-! ## The accept key -/

def wsMagic : List UInt8 := "258EAFA5-E914-47DA-95CA-C5AB0DC85B11".toUTF8.toList

/-- The writes to the 28 characters of `buffer`; `buf` is what the context of the stack holds. -/
def generateAcceptString (buf : Fin 64 → UInt8) (clientKey : List UInt8) :
    Except EncodeFault Writes := do
  let input := clientKey ++ wsMagic
  let ctx := (Sha1Context.init buf).update input
  let (writes, _) ← base64Encode ctx.finish
  return writes

/-- The characters of the answer come one behind the other. -/
theorem generateAcceptString_placed (buf : Fin 64 → UInt8) (clientKey : List UInt8) :
    generateAcceptString buf clientKey =
      .ok (placed 0 (Base64.encode (Fips180.sha1 (clientKey ++ wsMagic)))) := by
  obtain ⟨count, whole, tail, same, absorbed⟩ :=
    (Absorbed.init buf).update (clientKey ++ wsMagic)
  have digest : ((Sha1Context.init buf).update (clientKey ++ wsMagic)).finish =
      Fips180.sha1 (clientKey ++ wsMagic) := by
    rw [absorbed.finish, same]
    rfl
  have size := Fips180.length_sha1 (clientKey ++ wsMagic)
  generalize Fips180.sha1 (clientKey ++ wsMagic) = bytes at digest size
  have small : bytes.length < 2 ^ 31 := by omega
  have start : AtGroup bytes bytes {} := ⟨rfl, Nat.zero_add _, rfl, rfl⟩
  have encoded := encode_rest small (wholeGroups_toNat small) bytes {} (bytes.length + 1) start
    (Nat.lt_succ_self _)
  obtain ⟨state, loop, written⟩ := bind_ok_inv encoded
  rw [generateAcceptString]
  dsimp only
  rw [digest, base64Encode, loop, ok_bind, written]
  rfl

theorem length_acceptString (clientKey : List UInt8) :
    (Base64.encode (Fips180.sha1 (clientKey ++ wsMagic))).length = 28 := by
  rw [Base64.length_encode, Fips180.length_sha1]

/-- The answer to a client key fills its 28 characters, each once, with the Base64 of the SHA-1
that RFC 6455 asks for, whatever the context held before. -/
theorem generateAcceptString_exact (buf : Fin 64 → UInt8) (clientKey : List UInt8) :
    ∃ writes, generateAcceptString buf clientKey = .ok writes ∧
      writes.map Prod.fst = List.range 28 ∧
      writes.map Prod.snd = Base64.encode (Fips180.sha1 (clientKey ++ wsMagic)) := by
  refine ⟨_, generateAcceptString_placed buf clientKey, ?_, placed_chars _ 0⟩
  rw [placed_positions, length_acceptString, List.range_eq_range']

end V8Jsi.InspectorUtils.Sha1
