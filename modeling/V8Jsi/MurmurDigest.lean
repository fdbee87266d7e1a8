import V8Jsi.Lib.Murmur3
import V8Jsi.MurmurHash

set_option autoImplicit false

/- What `murmurhash` computes is the first half of MurmurHash3 with the seed 31. The code
reads whole words of the blocks and one byte of the tail after the other, and leaves a word of
the tail out when no byte of it is there. -/
namespace V8Jsi.MurmurHash

open Outcome Murmur3

/-! ## Words -/

theorem rotl64_eq (x : UInt64) : rotl64 x 27 = rotl 27 x ∧ rotl64 x 31 = rotl 31 x ∧
    rotl64 x 33 = rotl 33 x :=
  ⟨rfl, rfl, rfl⟩

theorem mixK1_eq (k : UInt64) : mixK1 k = mix1 k := rfl

theorem mixK2_eq (k : UInt64) : mixK2 k = mix2 k := rfl

theorem littleEndian_eq (bytes : List UInt8) :
    littleEndian bytes = Nat.ofDigits 256 (bytes.map UInt8.toNat) := by
  induction bytes with
  | nil => rfl
  | cons byte rest ih => rw [littleEndian, List.map_cons, Nat.ofDigits_cons, ih]

theorem word_eq (bytes : List UInt8) :
    word bytes = UInt64.ofNat (littleEndian (bytes.take 8)) := by
  rw [word, littleEndian_eq]

theorem littleEndian_append (low high : List UInt8) :
    littleEndian (low ++ high) = littleEndian low + 256 ^ low.length * littleEndian high := by
  simp only [littleEndian_eq, List.map_append, Nat.ofDigits_append, List.length_map]

theorem two_pow_add_eq_xor {low bits : Nat} (small : low < 2 ^ bits) (high : Nat) :
    2 ^ bits * high + low = (high <<< bits) ^^^ low := by
  apply Nat.eq_of_testBit_eq
  intro position
  rw [Nat.testBit_two_pow_mul_add high small, Nat.testBit_xor, Nat.testBit_shiftLeft]
  by_cases inside : position < bits
  · simp [inside, Nat.not_le.mpr inside]
  · have above : low.testBit position = false :=
      Nat.testBit_lt_two_pow (small.trans_le (Nat.pow_le_pow_right (by decide) (by omega)))
    simp [inside, above, Nat.not_lt.mp inside]

/-- The highest byte goes in with a shift and an exclusive or. -/
theorem littleEndian_snoc (low : List UInt8) (byte : UInt8) (short : low.length < 8) :
    UInt64.ofNat (littleEndian (low ++ [byte])) =
      (byte.toUInt64 <<< UInt64.ofNat (8 * low.length)) ^^^ UInt64.ofNat (littleEndian low) := by
  have bound := littleEndian_lt low
  have power : 256 ^ low.length = 2 ^ (8 * low.length) := by
    rw [show 256 = 2 ^ 8 from rfl, ← Nat.pow_mul]
  have value : littleEndian (low ++ [byte]) =
      (byte.toNat <<< (8 * low.length)) ^^^ littleEndian low := by
    rw [littleEndian_append, power, ← two_pow_add_eq_xor (power ▸ bound), littleEndian,
      littleEndian, Nat.mul_zero, Nat.add_zero, Nat.add_comm]
  have places : (UInt64.ofNat (8 * low.length)).toNat % 64 = 8 * low.length := by
    rw [UInt64.toNat_ofNat', Nat.mod_eq_of_lt (by omega), Nat.mod_eq_of_lt (by omega)]
  rw [← UInt64.toNat_inj, value, UInt64.toNat_xor, UInt64.toNat_shiftLeft, places,
    UInt64.toNat_ofNat', UInt64.toNat_ofNat', UInt8.toNat_toUInt64, Nat.xor_mod_two_pow]

/-! ## Reads -/

theorem readBlock_word (data : List UInt8) (index : Nat) (inside : index * 8 + 8 ≤ data.length) :
    readBlock data index = .ok (word (data.drop (index * 8))) := by
  rw [readBlock, if_pos inside, word_eq]

/-- The cases of the switch put the bytes together from the highest down. -/
theorem tailWord_word (data : List UInt8) (tail first : Nat) (count : Nat) : ∀ k,
    tail + first + count ≤ data.length → count ≤ 8 →
    tailWord data tail first count k =
      .ok (k ^^^ UInt64.ofNat (littleEndian ((data.drop (tail + first)).take count))) := by
  induction count with
  | zero =>
    intro k _ _
    rw [List.take_zero, tailWord]
    exact congrArg Except.ok (UInt64.xor_zero).symm
  | succ count ih =>
    intro k inside short
    have read : readByte data ((tail : Int) + (first + count : Nat)) =
        .ok data[tail + (first + count)] := by
      exact_mod_cast readByte_inside data (tail + (first + count)) (by omega)
    have length : ((data.drop (tail + first)).take count).length = count := by
      rw [List.length_take, List.length_drop]
      omega
    have split : (data.drop (tail + first)).take (count + 1) =
        (data.drop (tail + first)).take count ++ [data[tail + (first + count)]] := by
      rw [List.take_add_one, List.getElem?_drop, Nat.add_assoc,
        List.getElem?_eq_getElem (by omega)]
      rfl
    rw [tailWord, read, ok_bind, ih _ (by omega) (by omega), split,
      littleEndian_snoc _ _ (by omega), length, UInt64.xor_assoc]

/-- The bytes of the tail from `first` on, whether or not there are eight. -/
theorem tailWord_tail (data : List UInt8) (tail first count : Nat)
    (inside : tail + first + min 8 (count - first) ≤ data.length) :
    tailWord data tail first (min 8 (count - first)) 0 =
      .ok (word (((data.drop tail).take count).drop first)) := by
  rw [tailWord_word data tail first _ 0 inside (Nat.min_le_left _ _), word_eq, List.drop_take,
    List.drop_drop, List.take_take, UInt64.zero_xor]

/-- The switch is the mixing of a tail filled up with zeros. -/
theorem mixTail_last (data : List UInt8) (tail count : Nat) (hashing : Hashing)
    (inside : tail + count ≤ data.length) (short : count < 16) :
    let mixed := last ⟨hashing.h1, hashing.h2⟩ ((data.drop tail).take count)
    mixTail data tail count hashing =
      .ok { hashing with h1 := mixed.h1, h2 := mixed.h2 } := by
  intro mixed
  have length : ((data.drop tail).take count).length = count := by
    rw [List.length_take, List.length_drop]
    omega
  have second : mixTailK2 data tail count hashing = .ok { hashing with h2 := mixed.h2 } := by
    unfold mixTailK2
    split
    case isTrue long =>
      have word := tailWord_tail data tail 8 count (by omega)
      rw [show min 8 (count - 8) = count - 8 by omega] at word
      rw [word]
      rfl
    case isFalse low =>
      have nothing : ((data.drop tail).take count).drop 8 = [] :=
        List.drop_eq_nil_of_le (by omega)
      simp only [mixed, last, nothing, word_nil, mix2_zero, UInt64.xor_zero]
  rw [mixTail, second, ok_bind, mixTailK1]
  split
  case isTrue some' =>
    have word := tailWord_tail data tail 0 count (by omega)
    rw [Nat.sub_zero, Nat.min_comm] at word
    rw [word]
    rfl
  case isFalse none =>
    have nothing : (data.drop tail).take count = [] :=
      List.eq_nil_of_length_eq_zero (by omega)
    simp only [mixed, last, nothing, word_nil, mix1_zero, UInt64.xor_zero]

theorem mixBlock_round (hashing : Hashing) (block : List UInt8) :
    let mixed := mixBlock hashing (word block) (word (block.drop 8))
    Murmur3.round ⟨hashing.h1, hashing.h2⟩ block = ⟨mixed.h1, mixed.h2⟩ := by
  simp only [mixBlock, Murmur3.round, rotl64_eq, mixK1_eq, mixK2_eq]

/-- The loop takes in whole blocks; what it leaves is what is behind them. -/
theorem bodyLoop_absorb (data : List UInt8) (count : Nat) : ∀ i hashing mixed rest,
    (i + count) * 16 + rest ≤ data.length → bodyLoop data count i hashing = .ok mixed →
    absorb ⟨hashing.h1, hashing.h2⟩ ((data.drop (i * 16)).take (count * 16 + rest)) =
      absorb ⟨mixed.h1, mixed.h2⟩ ((data.drop ((i + count) * 16)).take rest) := by
  induction count with
  | zero =>
    intro i hashing mixed rest _ result
    cases Except.ok.inj result
    rw [Nat.zero_mul, Nat.zero_add, Nat.add_zero]
  | succ count ih =>
    intro i hashing mixed rest inside result
    generalize here : (data.drop (i * 16)).take ((count + 1) * 16 + rest) = block
    have length : 16 ≤ block.length := by
      rw [← here, List.length_take, List.length_drop]
      omega
    have first : word (data.drop (i * 2 * 8)) = word block := by
      rw [← here, word_take _ (by omega), Nat.mul_assoc]
    have second : word (data.drop ((i * 2 + 1) * 8)) = word (block.drop 8) := by
      rw [← here, List.drop_take, word_take _ (by omega), List.drop_drop]
      congr 2
      omega
    have behind : block.drop 16 = (data.drop ((i + 1) * 16)).take (count * 16 + rest) := by
      rw [← here, List.drop_take, List.drop_drop]
      congr 2 <;> omega
    rw [bodyLoop, readBlock_word data (i * 2) (by omega), ok_bind,
      readBlock_word data (i * 2 + 1) (by omega), ok_bind, first, second] at result
    rw [absorb_long length, behind, mixBlock_round hashing block,
      ih (i + 1) _ mixed rest (by omega) result]
    congr 4
    omega

/-! ## The hash -/

theorem finalize_finish (len : Nat) (hashing : Hashing) :
    finalize len hashing = finish ⟨hashing.h1, hashing.h2⟩ len := by
  have same : UInt64.ofInt len = UInt64.ofNat len := by
    rw [UInt64.ofInt, ← UInt64.toNat_inj, UInt64.toNat_ofNat', UInt64.toNat_ofNat']
    omega
  simp only [finalize, finish, same, fmix64, fmix]

/-- The hash is the one of the bytes up to the length. -/
theorem murmurHash3_hashes (key : List UInt8) (len : Nat) (inside : len ≤ key.length)
    (seed : UInt32) :
    ∃ flag, murmurHash3X64128 key len seed = .ok (flag, x64_128 seed (key.take len)) := by
  have blocks : (len : Int).tdiv 16 = (len / 16 : Nat) := rfl
  have rest : (len : Int).tmod 16 = (len % 16 : Nat) := rfl
  have low : ((len : Int) % 16).toNat = len % 16 := by omega
  have start : ((len / 16 : Nat) : Int) * 16 = (len / 16 * 16 : Nat) := by omega
  have whole : len / 16 * 16 + len % 16 = len := by omega
  have length : (key.take len).length = len := List.length_take_of_le inside
  obtain ⟨h1, h2, body⟩ := bodyLoop_inside key (len / 16) 0
    { h1 := seed.toUInt64, h2 := seed.toUInt64 } (by omega)
  have short : ((key.drop (len / 16 * 16)).take (len % 16)).length < 16 := by
    rw [List.length_take]
    omega
  have absorbed : absorb ⟨seed.toUInt64, seed.toUInt64⟩ (key.take len) =
      last ⟨h1, h2⟩ ((key.drop (len / 16 * 16)).take (len % 16)) := by
    have behind := bodyLoop_absorb key (len / 16) 0 _ _ (len % 16) (by omega) body
    rwa [Nat.zero_mul, List.drop_zero, whole, Nat.zero_add, absorb_short short] at behind
  have tail := tailLoop_inside key (len / 16 * 16) (len % 16) 0
    (true && asciiAt key (0 * 16) (len / 16 * 16)) (by omega)
  have mixed := mixTail_last key (len / 16 * 16) (len % 16)
    ⟨h1, h2, true && asciiAt key (0 * 16) (len / 16 * 16)⟩ (by omega) (by omega)
  unfold murmurHash3X64128
  dsimp only
  rw [blocks, rest, low, Int.toNat_natCast, Int.toNat_natCast, start, body, ok_bind, tail,
    ok_bind, mixed, ok_bind, finalize_finish, x64_128, length, absorbed]
  exact ⟨_, rfl⟩

/-- A length that is not negative as an `int`: the flag and the hash are those of the bytes up
to it. -/
theorem murmurhash_exact (key : List UInt8) (forward : key.length % 2 ^ 32 < 2 ^ 31) :
    murmurhash key =
      .ok (allAscii (key.take (key.length % 2 ^ 32)),
        (x64_128 31 (key.take (key.length % 2 ^ 32))).1) := by
  have inside := Nat.mod_le key.length (2 ^ 32)
  obtain ⟨flag, hash⟩ := murmurHash3_hashes key _ inside 31
  obtain ⟨hashes, ascii⟩ := murmurHash3_forward key _ inside 31
  rw [hash] at ascii
  rw [murmurhash, toInt_forward _ forward, hash, (Prod.mk.inj (Except.ok.inj ascii)).1]
  rfl

/-- A block, a tail that needs both words, and a byte above 127 in it. -/
theorem murmurhash_exact_accented :
    let key := List.replicate 24 0x41 ++ [0xC3, 0xA9]
    26 % 2 ^ 32 < 2 ^ 31 ∧ murmurhash key = .ok (false, (x64_128 31 key).1) :=
  ⟨by decide, murmurhash_exact (List.replicate 24 0x41 ++ [0xC3, 0xA9]) (by decide)⟩

end V8Jsi.MurmurHash
