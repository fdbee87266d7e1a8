import V8Jsi.Lib.Outcome
import Mathlib.Data.Nat.Bitwise

set_option autoImplicit false

/- `murmurhash` of MurmurHash.cpp, which also says whether a source is ASCII, and
`V8Runtime::loadJavaScript`, which picks the kind of string from it. The length is a
`size_t` for the callers and an `int` for the hash. -/
namespace V8Jsi.MurmurHash

open Outcome

/-- A read at an offset outside the buffer. -/
structure ReadOutside where
  offset : Int
  deriving DecidableEq, Repr

def readByte (data : List UInt8) (offset : Int) : Except ReadOutside UInt8 :=
  if offset < 0 then .error ⟨offset⟩
  else
    match data[offset.toNat]? with
    | some byte => .ok byte
    | none => .error ⟨offset⟩

def littleEndian : List UInt8 → Nat
  | [] => 0
  | byte :: rest => byte.toNat + 256 * littleEndian rest

/-- `blocks[index]`, eight bytes of the buffer. -/
def readBlock (data : List UInt8) (index : Nat) : Except ReadOutside UInt64 :=
  if index * 8 + 8 ≤ data.length then
    .ok (UInt64.ofNat (littleEndian ((data.drop (index * 8)).take 8)))
  else .error ⟨(index * 8 : Nat)⟩

def rotl64 (x r : UInt64) : UInt64 := (x <<< r) ||| (x >>> (64 - r))

def fmix64 (k : UInt64) : UInt64 :=
  let k := k ^^^ (k >>> 33)
  let k := k * 0xff51afd7ed558ccd
  let k := k ^^^ (k >>> 33)
  let k := k * 0xc4ceb9fe1a85ec53
  k ^^^ (k >>> 33)

def isAscii (k : UInt64) : Bool := k &&& 0x8080808080808080 == 0

def c1 : UInt64 := 0x87c37b91114253d5
def c2 : UInt64 := 0x4cf5ad432745937f

structure Hashing where
  h1 : UInt64
  h2 : UInt64
  isAsciiString : Bool := true
  deriving DecidableEq, Repr

def mixK1 (k1 : UInt64) : UInt64 := rotl64 (k1 * c1) 31 * c2
def mixK2 (k2 : UInt64) : UInt64 := rotl64 (k2 * c2) 33 * c1

/-- The body of the loop over the blocks. -/
def mixBlock (hashing : Hashing) (k1 k2 : UInt64) : Hashing :=
  let h1 := (rotl64 (hashing.h1 ^^^ mixK1 k1) 27 + hashing.h2) * 5 + 0x52dce729
  let h2 := (rotl64 (hashing.h2 ^^^ mixK2 k2) 31 + h1) * 5 + 0x38495ab5
  { h1, h2, isAsciiString := hashing.isAsciiString && (isAscii k1 && isAscii k2) }

/-- The loop over the blocks from `i` on. -/
def bodyLoop (data : List UInt8) : Nat → Nat → Hashing → Except ReadOutside Hashing
  | 0, _, hashing => .ok hashing
  | count + 1, i, hashing => do
      let k1 ← readBlock data (i * 2)
      let k2 ← readBlock data (i * 2 + 1)
      bodyLoop data count (i + 1) (mixBlock hashing k1 k2)

/-- The loop that looks for a byte above 127 in the tail. -/
def tailLoop (data : List UInt8) (tail : Int) : Nat → Nat → Bool → Except ReadOutside Bool
  | 0, _, isAsciiString => .ok isAsciiString
  | count + 1, i, isAsciiString => do
      let byte ← readByte data (tail + i)
      if byte > 127 then .ok false else tailLoop data tail count (i + 1) isAsciiString

/-- The cases of the switch that fall through to the one of `tail[first]`. -/
def tailWord (data : List UInt8) (tail : Int) (first : Nat) :
    Nat → UInt64 → Except ReadOutside UInt64
  | 0, k => .ok k
  | count + 1, k => do
      let byte ← readByte data (tail + (first + count : Nat))
      tailWord data tail first count (k ^^^ (byte.toUInt64 <<< UInt64.ofNat (8 * count)))

/-- The cases from 9 on. -/
def mixTailK2 (data : List UInt8) (tail : Int) (count : Nat) (hashing : Hashing) :
    Except ReadOutside Hashing :=
  if count ≥ 9 then do
    let k2 ← tailWord data tail 8 (count - 8) 0
    return { hashing with h2 := hashing.h2 ^^^ mixK2 k2 }
  else .ok hashing

/-- The cases from 1 to 8. -/
def mixTailK1 (data : List UInt8) (tail : Int) (count : Nat) (hashing : Hashing) :
    Except ReadOutside Hashing :=
  if count ≥ 1 then do
    let k1 ← tailWord data tail 0 (min count 8) 0
    return { hashing with h1 := hashing.h1 ^^^ mixK1 k1 }
  else .ok hashing

def mixTail (data : List UInt8) (tail : Int) (count : Nat) (hashing : Hashing) :
    Except ReadOutside Hashing :=
  mixTailK2 data tail count hashing >>= mixTailK1 data tail count

/-- The two halves of the hash. -/
def finalize (len : Int) (hashing : Hashing) : UInt64 × UInt64 :=
  let h1 := hashing.h1 ^^^ UInt64.ofInt len
  let h2 := hashing.h2 ^^^ UInt64.ofInt len
  let h1 := h1 + h2
  let h2 := h2 + h1
  let h1 := fmix64 h1
  let h2 := fmix64 h2
  let h1 := h1 + h2
  (h1, h2 + h1)

/-- Division and remainder of `int` round to zero, and `len & 15` has no sign. -/
def murmurHash3X64128 (key : List UInt8) (len : Int) (seed : UInt32) :
    Except ReadOutside (Bool × UInt64 × UInt64) := do
  let nblocks := len.tdiv 16
  let hashing ← bodyLoop key nblocks.toNat 0 { h1 := seed.toUInt64, h2 := seed.toUInt64 }
  let tail := nblocks * 16
  let isAsciiString ← tailLoop key tail (len.tmod 16).toNat 0 hashing.isAsciiString
  let hashing ← mixTail key tail (len % 16).toNat hashing
  return (isAsciiString, finalize len hashing)

/-- A `size_t` as an `int`. -/
def toInt (length : Nat) : Int := Int.bmod length (2 ^ 32)

def murmurhash (key : List UInt8) : Except ReadOutside (Bool × UInt64) := do
  let (isAscii, hashes) ← murmurHash3X64128 key (toInt key.length) 31
  return (isAscii, hashes.1)

/-- What V8 is asked for. -/
inductive StringRequest
  | newExternalOneByte (data : List UInt8)
  | newFromUtf8 (data : List UInt8) (length : Int)
  deriving DecidableEq, Repr

def loadJavaScript (buffer : List UInt8) : Except ReadOutside (StringRequest × UInt64) := do
  let (isAscii, hash) ← murmurhash buffer
  return (if isAscii then .newExternalOneByte buffer
    else .newFromUtf8 buffer (toInt buffer.length), hash)

/-- Every byte is below 0x80. -/
def allAscii (bytes : List UInt8) : Bool := bytes.all (· < 0x80)

/-! ## The mask of a block -/

theorem and_split (low high lowMask highMask : Nat) (byte : low < 256) (mask : lowMask < 256) :
    (low + 256 * high) &&& (lowMask + 256 * highMask) = 0 ↔
      low &&& lowMask = 0 ∧ high &&& highMask = 0 := by
  have remainder : ((low + 256 * high) &&& (lowMask + 256 * highMask)) % 2 ^ 8 =
      low &&& lowMask := by
    rw [Nat.and_mod_two_pow]
    congr 1 <;> omega
  have quotient : ((low + 256 * high) &&& (lowMask + 256 * highMask)) / 2 ^ 8 =
      high &&& highMask := by
    rw [Nat.and_div_two_pow]
    congr 1 <;> omega
  rw [← remainder, ← quotient]
  omega

theorem byte_and_iff (byte : UInt8) : byte.toNat &&& 0x80 = 0 ↔ byte < 0x80 := by
  have bound := byte.toNat_lt
  have bit : byte.toNat &&& 0x80 = (byte.toNat.testBit 7).toNat * 2 ^ 7 := Nat.and_two_pow _ 7
  have below : byte < 0x80 ↔ byte.toNat < 0x80 := UInt8.lt_iff_toNat_lt
  rw [bit, Nat.testBit_eq_decide_div_mod_eq, below]
  by_cases high : byte.toNat / 2 ^ 7 % 2 = 1
  · simp only [high, decide_true, Bool.toNat_true]
    omega
  · simp only [high, decide_false, Bool.toNat_false]
    omega

theorem littleEndian_lt (bytes : List UInt8) : littleEndian bytes < 256 ^ bytes.length := by
  induction bytes with
  | nil => exact Nat.one_pos
  | cons byte rest ih =>
    have bound := byte.toNat_lt
    rw [littleEndian, List.length_cons, Nat.pow_succ]
    omega

/-- The mask sees the top bit of every byte. -/
theorem littleEndian_and_iff (bytes : List UInt8) :
    littleEndian bytes &&& littleEndian (List.replicate bytes.length 0x80) = 0 ↔
      allAscii bytes = true := by
  induction bytes with
  | nil => exact iff_of_true rfl rfl
  | cons byte rest ih =>
    rw [List.length_cons, List.replicate_succ, littleEndian, littleEndian,
      and_split _ _ _ _ byte.toNat_lt (by decide), ih]
    exact (and_congr_left fun _ => byte_and_iff byte).trans (by simp [allAscii])

theorem isAscii_word (bytes : List UInt8) (eight : bytes.length = 8) :
    isAscii (UInt64.ofNat (littleEndian bytes)) = allAscii bytes := by
  have bound := littleEndian_lt bytes
  have mask := littleEndian_and_iff bytes
  rw [eight] at bound mask
  have word : (UInt64.ofNat (littleEndian bytes)).toNat = littleEndian bytes :=
    UInt64.toNat_ofNat_of_lt' bound
  rw [Bool.eq_iff_iff, ← mask, isAscii, beq_iff_eq, ← UInt64.toNat_inj, UInt64.toNat_and, word]
  rfl

/-! ## The reads -/

theorem readByte_inside (data : List UInt8) (offset : Nat) (inside : offset < data.length) :
    readByte data offset = .ok data[offset] := by
  simp [readByte, inside]

theorem readByte_before {data : List UInt8} {offset : Int} (before : offset < 0) :
    readByte data offset = .error ⟨offset⟩ := if_pos before

/-- The `count` bytes from `start` on are ASCII. -/
def asciiAt (data : List UInt8) (start count : Nat) : Bool :=
  allAscii ((data.drop start).take count)

theorem asciiAt_succ (data : List UInt8) (start count : Nat) (inside : start < data.length) :
    asciiAt data start (count + 1) =
      (decide (data[start] < 0x80) && asciiAt data (start + 1) count) := by
  rw [asciiAt, List.drop_eq_getElem_cons inside, List.take_succ_cons, allAscii, List.all_cons]
  rfl

theorem asciiAt_add (data : List UInt8) (start first second : Nat) :
    asciiAt data start (first + second) =
      (asciiAt data start first && asciiAt data (start + first) second) := by
  rw [asciiAt, List.take_add, List.drop_drop, allAscii, List.all_append]
  rfl

theorem readBlock_inside (data : List UInt8) (index : Nat)
    (inside : index * 8 + 8 ≤ data.length) :
    ∃ k, readBlock data index = .ok k ∧ isAscii k = asciiAt data (index * 8) 8 := by
  refine ⟨_, if_pos inside, isAscii_word _ ?_⟩
  rw [List.length_take, List.length_drop]
  omega

/-- The loop over the blocks stays inside and looks at every byte of them. -/
theorem bodyLoop_inside (data : List UInt8) (count : Nat) : ∀ i hashing,
    (i + count) * 16 ≤ data.length →
    ∃ h1 h2, bodyLoop data count i hashing =
      .ok ⟨h1, h2, hashing.isAsciiString && asciiAt data (i * 16) (count * 16)⟩ := by
  induction count with
  | zero =>
    intro i hashing _
    exact ⟨hashing.h1, hashing.h2, by simp [bodyLoop, asciiAt, allAscii]⟩
  | succ count ih =>
    intro i hashing inside
    obtain ⟨k1, first, firstAscii⟩ := readBlock_inside data (i * 2) (by omega)
    obtain ⟨k2, second, secondAscii⟩ := readBlock_inside data (i * 2 + 1) (by omega)
    obtain ⟨h1, h2, rest⟩ := ih (i + 1) (mixBlock hashing k1 k2) (by omega)
    refine ⟨h1, h2, ?_⟩
    have block : asciiAt data (i * 16) ((count + 1) * 16) =
        (isAscii k1 && isAscii k2 && asciiAt data ((i + 1) * 16) (count * 16)) := by
      rw [show (count + 1) * 16 = 8 + 8 + count * 16 by omega, asciiAt_add, asciiAt_add,
        firstAscii, secondAscii, show i * 2 * 8 = i * 16 by omega,
        show (i * 2 + 1) * 8 = i * 16 + 8 by omega, show (i + 1) * 16 = i * 16 + (8 + 8) by omega]
    rw [bodyLoop, first, ok_bind, second, ok_bind, rest, block, mixBlock, Bool.and_assoc]

theorem tailLoop_inside (data : List UInt8) (tail : Nat) (count : Nat) : ∀ i flag,
    tail + i + count ≤ data.length →
    tailLoop data tail count i flag = .ok (flag && asciiAt data (tail + i) count) := by
  induction count with
  | zero =>
    intro i flag _
    simp [tailLoop, asciiAt, allAscii]
  | succ count ih =>
    intro i flag inside
    have read : readByte data ((tail : Int) + i) = .ok data[tail + i] := by
      exact_mod_cast readByte_inside data (tail + i) (by omega)
    have above : data[tail + i] > 127 ↔ ¬ data[tail + i] < 0x80 := by
      rw [gt_iff_lt, UInt8.lt_iff_toNat_lt, UInt8.lt_iff_toNat_lt]
      show 127 < _ ↔ ¬ _ < 128
      omega
    rw [tailLoop, read, ok_bind, asciiAt_succ data (tail + i) count (by omega)]
    by_cases ascii : data[tail + i] < 0x80
    · rw [if_neg (fun high => above.mp high ascii), ih (i + 1) flag (by omega)]
      simp [ascii, Nat.add_assoc]
    · rw [if_pos (above.mpr ascii)]
      simp [ascii]

theorem tailWord_inside (data : List UInt8) (tail first : Nat) (count : Nat) : ∀ k,
    tail + first + count ≤ data.length →
    ∃ word, tailWord data tail first count k = .ok word := by
  induction count with
  | zero => exact fun k _ => ⟨k, rfl⟩
  | succ count ih =>
    intro k inside
    have read : readByte data ((tail : Int) + (first + count : Nat)) =
        .ok data[tail + (first + count)] := by
      exact_mod_cast readByte_inside data (tail + (first + count)) (by omega)
    rw [tailWord, read, ok_bind]
    exact ih _ (by omega)

theorem tailWord_before (data : List UInt8) (tail : Int) (first count : Nat) (k : UInt64)
    (before : tail + (first + count : Nat) < 0) :
    tailWord data tail first (count + 1) k = .error ⟨tail + (first + count : Nat)⟩ := by
  rw [tailWord, readByte_before before, error_bind]

theorem mixTail_inside (data : List UInt8) (tail count : Nat) (hashing : Hashing)
    (inside : tail + count ≤ data.length) :
    ∃ mixed, mixTail data tail count hashing = .ok mixed := by
  have second : ∃ mixed, mixTailK2 data tail count hashing = .ok mixed := by
    unfold mixTailK2
    split
    case isTrue long =>
      obtain ⟨k2, word⟩ := tailWord_inside data tail 8 (count - 8) 0 (by omega)
      rw [word]
      exact ⟨_, rfl⟩
    case isFalse => exact ⟨_, rfl⟩
  obtain ⟨mixed, second⟩ := second
  obtain ⟨k1, first⟩ := tailWord_inside data tail 0 (min count 8) 0 (by omega)
  rw [mixTail, second, ok_bind, mixTailK1, first]
  split <;> exact ⟨_, rfl⟩

/-- A tail that starts before the buffer is read there. -/
theorem mixTail_before (data : List UInt8) (tail : Int) (count : Nat) (hashing : Hashing)
    (before : tail ≤ -16) (some' : 0 < count) (small : count < 16) :
    ∃ outside, mixTail data tail count hashing = .error outside := by
  rw [mixTail, mixTailK2]
  split
  case isTrue long =>
    have read := tailWord_before data tail 8 (count - 9) 0 (by omega)
    rw [show count - 9 + 1 = count - 8 by omega] at read
    rw [read]
    exact ⟨_, rfl⟩
  case isFalse short =>
    have read := tailWord_before data tail 0 (count - 1) 0 (by omega)
    rw [show count - 1 + 1 = min count 8 by omega] at read
    rw [ok_bind, mixTailK1, if_pos (by omega), read]
    exact ⟨_, rfl⟩

/-! ## The hash -/

/-- A length inside the buffer: the flag is about the bytes up to it. -/
theorem murmurHash3_forward (key : List UInt8) (len : Nat) (inside : len ≤ key.length)
    (seed : UInt32) :
    ∃ hashes, murmurHash3X64128 key len seed = .ok (allAscii (key.take len), hashes) := by
  have blocks : (len : Int).tdiv 16 = (len / 16 : Nat) := rfl
  have rest : (len : Int).tmod 16 = (len % 16 : Nat) := rfl
  have low : ((len : Int) % 16).toNat = len % 16 := by omega
  have start : ((len / 16 : Nat) : Int) * 16 = (len / 16 * 16 : Nat) := by omega
  obtain ⟨h1, h2, body⟩ := bodyLoop_inside key (len / 16) 0
    { h1 := seed.toUInt64, h2 := seed.toUInt64 } (by omega)
  have tail := tailLoop_inside key (len / 16 * 16) (len % 16) 0
    (true && asciiAt key (0 * 16) (len / 16 * 16)) (by omega)
  obtain ⟨mixed, last⟩ := mixTail_inside key (len / 16 * 16) (len % 16)
    ⟨h1, h2, true && asciiAt key (0 * 16) (len / 16 * 16)⟩ (by omega)
  have whole : (true && asciiAt key (0 * 16) (len / 16 * 16) &&
      asciiAt key (len / 16 * 16 + 0) (len % 16)) = allAscii (key.take len) := by
    have joined := asciiAt_add key 0 (len / 16 * 16) (len % 16)
    rw [show len / 16 * 16 + len % 16 = len by omega, Nat.zero_add] at joined
    rw [Bool.true_and, Nat.zero_mul, Nat.add_zero, ← joined]
    rfl
  unfold murmurHash3X64128
  dsimp only
  rw [blocks, rest, low, Int.toNat_natCast, Int.toNat_natCast, start, body, ok_bind, tail,
    ok_bind, last, ok_bind, whole]
  exact ⟨_, rfl⟩

/-- A negative length: no block and no byte of the tail is looked at, and only the switch
still reads. -/
theorem murmurHash3_backward (key : List UInt8) (back : Nat) (seed : UInt32) :
    murmurHash3X64128 key (-back) seed =
      (mixTail key (-(back / 16 * 16 : Nat)) (-(back : Int) % 16).toNat
          { h1 := seed.toUInt64, h2 := seed.toUInt64 } >>= fun hashing =>
        .ok (true, finalize (-back) hashing)) := by
  have blocks : (-(back : Int)).tdiv 16 = -(back / 16 : Nat) := by
    rw [Int.neg_tdiv]
    rfl
  have rest : (-(back : Int)).tmod 16 = -(back % 16 : Nat) := by
    rw [Int.neg_tmod]
    rfl
  have none : (-((back / 16 : Nat) : Int)).toNat = 0 := by omega
  have nothing : (-((back % 16 : Nat) : Int)).toNat = 0 := by omega
  have start : -((back / 16 : Nat) : Int) * 16 = -(back / 16 * 16 : Nat) := by omega
  unfold murmurHash3X64128
  dsimp only
  rw [blocks, rest, none, nothing, start]
  rfl

theorem toInt_forward (length : Nat) (forward : length % 2 ^ 32 < 2 ^ 31) :
    toInt length = (length % 2 ^ 32 : Nat) := by
  change Int.bmod length (2 ^ 32) = _
  rw [Int.bmod_eq_emod_of_lt]
  · omega
  · omega

theorem toInt_backward (length : Nat) (backward : 2 ^ 31 ≤ length % 2 ^ 32) :
    toInt length = -((2 ^ 32 - length % 2 ^ 32 : Nat) : Int) := by
  change Int.bmod length (2 ^ 32) = _
  rw [Int.bmod_neg]
  · omega
  · omega

/-- The bytes that the switch reads when the length is negative are in the buffer: there
are none, or the tail starts with the buffer. -/
def TailInside (length : Nat) : Prop :=
  length % 2 ^ 32 < 2 ^ 31 ∨ 16 ∣ length % 2 ^ 32 ∨ 2 ^ 32 - 16 < length % 2 ^ 32

/-- The flag is about the first bytes where the length is not negative, and true without
a look at any byte where it is. -/
theorem murmurhash_cases (key : List UInt8) :
    (key.length % 2 ^ 32 < 2 ^ 31 ∧
      ∃ hash, murmurhash key = .ok (allAscii (key.take (key.length % 2 ^ 32)), hash)) ∨
    (2 ^ 31 ≤ key.length % 2 ^ 32 ∧ TailInside key.length ∧
      ∃ hash, murmurhash key = .ok (true, hash)) ∨
    (¬ TailInside key.length ∧ ∃ outside, murmurhash key = .error outside) := by
  rw [murmurhash]
  by_cases forward : key.length % 2 ^ 32 < 2 ^ 31
  · obtain ⟨hashes, result⟩ := murmurHash3_forward key (key.length % 2 ^ 32)
      (Nat.mod_le _ _) 31
    rw [toInt_forward _ forward, result]
    exact .inl ⟨forward, _, rfl⟩
  · rw [toInt_backward _ (by omega), murmurHash3_backward]
    refine .inr ?_
    generalize same : 2 ^ 32 - key.length % 2 ^ 32 = back
    have low : (-(back : Int) % 16).toNat = (key.length % 2 ^ 32) % 16 := by omega
    by_cases inside : TailInside key.length
    · refine .inl ⟨by omega, inside, ?_⟩
      have read : ∃ mixed, mixTail key (-(back / 16 * 16 : Nat)) (-(back : Int) % 16).toNat
          { h1 := (31 : UInt32).toUInt64, h2 := (31 : UInt32).toUInt64 } = .ok mixed := by
        rcases inside with below | none | last
        · exact absurd below forward
        · rw [low, Nat.mod_eq_zero_of_dvd none]
          exact ⟨_, rfl⟩
        · rw [show back / 16 * 16 = 0 by omega]
          exact mixTail_inside key 0 _ _ (by omega)
      obtain ⟨mixed, read⟩ := read
      rw [read]
      exact ⟨_, rfl⟩
    · refine .inr ⟨inside, ?_⟩
      unfold TailInside at inside
      obtain ⟨outside, read⟩ := mixTail_before key (-(back / 16 * 16 : Nat))
        (-(back : Int) % 16).toNat { h1 := (31 : UInt32).toUInt64, h2 := (31 : UInt32).toUInt64 }
        (by omega) (by omega) (by omega)
      rw [read]
      exact ⟨_, rfl⟩

/-- The flag says whether the source is ASCII, and V8 gets it whole: as one-byte
characters if it is, and else as UTF-8. -/
def Classified (source : List UInt8) : Prop :=
  ∃ flag hash, murmurhash source = .ok (flag, hash) ∧ flag = allAscii source ∧
    loadJavaScript source = .ok (if allAscii source then .newExternalOneByte source
      else .newFromUtf8 source source.length, hash)

theorem loadJavaScript_ok {source : List UInt8} {flag : Bool} {hash : UInt64}
    (result : murmurhash source = .ok (flag, hash)) :
    loadJavaScript source = .ok (if flag then .newExternalOneByte source
      else .newFromUtf8 source (toInt source.length), hash) := by
  rw [loadJavaScript, result]
  rfl

theorem toInt_eq_iff (length : Nat) : toInt length = length ↔ length < 2 ^ 31 := by
  by_cases forward : length % 2 ^ 32 < 2 ^ 31
  · rw [toInt_forward length forward]
    omega
  · rw [toInt_backward length (by omega)]
    omega

/-- The request is right for ASCII, and otherwise for a length that survives the cast. -/
theorem classified_of_ok {source : List UInt8} {flag : Bool} {hash : UInt64}
    (result : murmurhash source = .ok (flag, hash)) :
    Classified source ↔
      flag = allAscii source ∧ (allAscii source = true ∨ source.length < 2 ^ 31) := by
  have load := loadJavaScript_ok result
  constructor
  · rintro ⟨flag', hash', again, right, request⟩
    obtain ⟨rfl, rfl⟩ := Prod.mk.inj (Except.ok.inj (result.symm.trans again))
    refine ⟨right, ?_⟩
    rw [← right] at request ⊢
    cases flag with
    | true => exact .inl rfl
    | false =>
      have same := (Prod.mk.inj (Except.ok.inj (load.symm.trans request))).1
      exact .inr ((toInt_eq_iff _).mp (StringRequest.newFromUtf8.inj same).2)
  · rintro ⟨right, kind⟩
    refine ⟨flag, hash, result, right, ?_⟩
    rw [load, right]
    rcases kind with ascii | short
    · rw [if_pos ascii, if_pos ascii]
    · rw [(toInt_eq_iff _).mpr short]

/-- Sources below 2 ^ 31 bytes are classified, and of the longer ones exactly those that
are ASCII and whose tail is not read before the buffer. -/
theorem classified_iff (source : List UInt8) :
    Classified source ↔
      source.length < 2 ^ 31 ∨ allAscii source = true ∧ TailInside source.length := by
  rcases murmurhash_cases source with ⟨forward, hash, result⟩ | ⟨backward, inside, hash, result⟩ |
    ⟨before, outside, result⟩
  · have inside : TailInside source.length := .inl forward
    rw [classified_of_ok result]
    constructor
    · rintro ⟨-, ascii | short⟩
      · exact .inr ⟨ascii, inside⟩
      · exact .inl short
    · rintro (short | ⟨ascii, -⟩)
      · rw [Nat.mod_eq_of_lt (by omega), List.take_length]
        exact ⟨rfl, .inr short⟩
      · refine ⟨?_, .inl ascii⟩
        have front : allAscii (source.take (source.length % 2 ^ 32)) = true :=
          List.all_eq_true.mpr fun byte inside =>
            List.all_eq_true.mp ascii byte (List.mem_of_mem_take inside)
        rw [front, ascii]
  · rw [classified_of_ok result]
    constructor
    · rintro ⟨right, -⟩
      exact .inr ⟨right.symm, inside⟩
    · rintro (short | ⟨ascii, -⟩)
      · omega
      · exact ⟨ascii.symm, .inl ascii⟩
  · refine iff_of_false ?_ ?_
    · rintro ⟨flag, hash, again, -⟩
      exact nomatch result.symm.trans again
    · rintro (short | ⟨-, inside⟩)
      · exact before (.inl (by omega))
      · exact before inside

/-- A length that is negative as an `int`, with nothing in the tail. -/
theorem murmurhash_replicate (byte : UInt8) (count : Nat) (backward : 2 ^ 31 ≤ count % 2 ^ 32)
    (blocks : 16 ∣ count % 2 ^ 32) :
    ∃ hash, murmurhash (List.replicate count byte) = .ok (true, hash) := by
  have cases := murmurhash_cases (List.replicate count byte)
  rw [List.length_replicate] at cases
  rcases cases with ⟨forward, -⟩ | ⟨-, -, result⟩ | ⟨before, -⟩
  · omega
  · exact result
  · exact absurd (.inr (.inl blocks)) before

/-- 2 GiB of bytes above 127 are handed over as one-byte characters. -/
theorem high_bytes_taken_for_ascii :
    ¬ Classified (List.replicate (2 ^ 31) 0xFF) ∧
      ∃ hash, murmurhash (List.replicate (2 ^ 31) 0xFF) = .ok (true, hash) ∧
        loadJavaScript (List.replicate (2 ^ 31) 0xFF) =
          .ok (.newExternalOneByte (List.replicate (2 ^ 31) 0xFF), hash) := by
  obtain ⟨hash, result⟩ := murmurhash_replicate 0xFF (2 ^ 31) (by decide) (by decide)
  refine ⟨?_, hash, result, loadJavaScript_ok result⟩
  rw [classified_of_ok result]
  rintro ⟨right, -⟩
  have high : allAscii (List.replicate (2 ^ 31) 0xFF) = false := by
    rw [allAscii, List.all_replicate]
    rfl
  rw [high] at right
  exact absurd right (by decide)

end V8Jsi.MurmurHash
