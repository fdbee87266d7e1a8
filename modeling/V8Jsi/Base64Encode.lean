import Mathlib.Algebra.Group.Nat.Defs
import V8Jsi.Lib.Base64
import V8Jsi.Lib.Outcome

set_option autoImplicit false

/- `base64_encode` of inspector_utils.cpp. Its indices are `unsigned` and its length a
`size_t` that passes through an `int`. The characters go to a buffer of the caller, here
the list of the writes in their order. -/
namespace V8Jsi.InspectorUtils

open Outcome

/-- A read outside the source, or a loop that does not end. -/
inductive EncodeFault
  | readOutside (index : Nat)
  | endless
  deriving DecidableEq, Repr

/-- The position in `dst` and the character. -/
abbrev Writes := List (Nat × UInt8)

def table : List UInt8 :=
  "ABCDEFGHIJKLMNOPQRSTUVWXYZabcdefghijklmnopqrstuvwxyz0123456789+/".toList.map fun char =>
    UInt8.ofNat char.toNat

/-- Behind the last character stands the zero of the string. -/
def tableAt (index : UInt32) : UInt8 := table[index.toNat]?.getD 0

def base64EncodedSize (size : Nat) : Nat :=
  let rounded := (size + 2) % 2 ^ 64
  (rounded - rounded % 3) / 3 * 4 % 2 ^ 64

/-- `src[index] & 0xff`. -/
def readSource (src : List UInt8) (index : UInt32) : Except EncodeFault UInt32 :=
  match src[index.toNat]? with
  | some byte => .ok byte.toUInt32
  | none => .error (.readOutside index.toNat)

/-- The four characters of a group from position `k` on. -/
def group (k : UInt32) (first second third fourth : UInt8) : Writes :=
  [((k + 0).toNat, first), ((k + 1).toNat, second), ((k + 2).toNat, third),
    ((k + 3).toNat, fourth)]

structure EncodeState where
  i : UInt32 := 0
  k : UInt32 := 0
  writes : Writes := []
  deriving DecidableEq, Repr

/-- The loop over the groups of three bytes. -/
def encodeLoop (src : List UInt8) (n : UInt32) : Nat → EncodeState → Except EncodeFault EncodeState
  | 0, _ => .error .endless
  | fuel + 1, state =>
      if state.i < n then do
        let a ← readSource src (state.i + 0)
        let b ← readSource src (state.i + 1)
        let c ← readSource src (state.i + 2)
        encodeLoop src n fuel
          { i := state.i + 3
            k := state.k + 4
            writes := state.writes ++ group state.k (tableAt (a >>> 2))
              (tableAt (((a &&& 3) <<< 4) ||| (b >>> 4)))
              (tableAt (((b &&& 0x0F) <<< 2) ||| (c >>> 6))) (tableAt (c &&& 0x3F)) }
      else .ok state

/-- The bytes behind the last group, with `'='` for those that are missing. -/
def encodeTail (src : List UInt8) (n : UInt32) (state : EncodeState) : Except EncodeFault Writes :=
  if n.toNat ≠ src.length then
    match (src.length + 2 ^ 64 - n.toNat) % 2 ^ 64 with
    | 1 => do
        let a ← readSource src (state.i + 0)
        return state.writes ++ group state.k (tableAt (a >>> 2)) (tableAt ((a &&& 3) <<< 4)) 0x3D
          0x3D
    | 2 => do
        let a ← readSource src (state.i + 0)
        let b ← readSource src (state.i + 1)
        return state.writes ++ group state.k (tableAt (a >>> 2))
          (tableAt (((a &&& 3) <<< 4) ||| (b >>> 4))) (tableAt ((b &&& 0x0F) <<< 2)) 0x3D
    | _ => .ok state.writes
  else .ok state.writes

/-- `static_cast<int>(slen) / 3 * 3` as an `unsigned`. -/
def wholeGroups (slen : Nat) : UInt32 := UInt32.ofInt ((Int.bmod slen (2 ^ 32)).tdiv 3 * 3)

/-- What is written and the result. The argument `dlen` is overwritten at once. -/
def base64Encode (src : List UInt8) : Except EncodeFault (Writes × Nat) := do
  let state ← encodeLoop src (wholeGroups src.length) (src.length + 1) {}
  let writes ← encodeTail src (wholeGroups src.length) state
  return (writes, base64EncodedSize src.length)

/-! ## Characters -/

/-- The literal of the source is the alphabet of RFC 4648. -/
theorem table_eq : table = (List.range 64).map Base64.alphabet := by decide +kernel

theorem tableAt_eq {index : UInt32} {sextet : Nat} (same : index.toNat = sextet)
    (small : sextet < 64) : tableAt index = Base64.alphabet sextet := by
  rw [tableAt, same, table_eq, List.getElem?_map, List.getElem?_range small]
  rfl

theorem shiftRight_toNat (x down : UInt32) (d : Nat) (same : down.toNat = d) (small : d < 32) :
    (x >>> down).toNat = x.toNat / 2 ^ d := by
  rw [UInt32.toNat_shiftRight, same, Nat.mod_eq_of_lt small, Nat.shiftRight_eq_div_pow]

/-- The low bits of `x`, moved up. -/
theorem maskShift_toNat (x mask up : UInt32) (m u : Nat) (masks : mask.toNat = 2 ^ m - 1)
    (same : up.toNat = u) (small : m + u < 32) :
    ((x &&& mask) <<< up).toNat = x.toNat % 2 ^ m * 2 ^ u := by
  have low : x.toNat % 2 ^ m < 2 ^ m := Nat.mod_lt _ (Nat.two_pow_pos m)
  have fits : x.toNat % 2 ^ m * 2 ^ u < 2 ^ 32 :=
    calc x.toNat % 2 ^ m * 2 ^ u < 2 ^ m * 2 ^ u := Nat.mul_lt_mul_of_pos_right low (Nat.two_pow_pos u)
      _ = 2 ^ (m + u) := (Nat.pow_add 2 m u).symm
      _ ≤ 2 ^ 32 := Nat.pow_le_pow_right (by decide) (by omega)
  rw [UInt32.toNat_shiftLeft, UInt32.toNat_and, masks, Nat.and_two_pow_sub_one_eq_mod, same,
    Nat.mod_eq_of_lt (show u < 32 by omega), Nat.shiftLeft_eq, Nat.mod_eq_of_lt fits]

/-- The low bits of one byte in front of the high bits of the next. -/
theorem join_toNat (x y mask up down : UInt32) (m u d : Nat) (masks : mask.toNat = 2 ^ m - 1)
    (sameUp : up.toNat = u) (sameDown : down.toNat = d) (small : m + u < 32) (smallDown : d < 32)
    (high : y.toNat / 2 ^ d < 2 ^ u) :
    (((x &&& mask) <<< up) ||| (y >>> down)).toNat =
      x.toNat % 2 ^ m * 2 ^ u + y.toNat / 2 ^ d := by
  have joined := Nat.shiftLeft_add_eq_or_of_lt high (x.toNat % 2 ^ m)
  rw [Nat.shiftLeft_eq] at joined
  rw [UInt32.toNat_or, maskShift_toNat x mask up m u masks sameUp small,
    shiftRight_toNat y down d sameDown smallDown, ← joined]

/-! ## Positions -/

/-- Characters written one behind the other. -/
def placed (start : Nat) : List UInt8 → Writes
  | [] => []
  | char :: rest => (start, char) :: placed (start + 1) rest

theorem placed_append (first second : List UInt8) : ∀ start,
    placed start (first ++ second) = placed start first ++ placed (start + first.length) second := by
  induction first with
  | nil => intro start; rfl
  | cons char rest ih =>
    intro start
    rw [List.cons_append, placed, ih, placed, List.cons_append, List.length_cons,
      Nat.add_assoc, Nat.add_comm 1]

theorem placed_positions (chars : List UInt8) : ∀ start,
    (placed start chars).map Prod.fst = List.range' start chars.length := by
  induction chars with
  | nil => intro start; rfl
  | cons char rest ih =>
    intro start
    rw [placed, List.map_cons, ih, List.length_cons, List.range'_succ]

theorem placed_chars (chars : List UInt8) : ∀ start, (placed start chars).map Prod.snd = chars := by
  induction chars with
  | nil => intro start; rfl
  | cons char rest ih =>
    intro start
    rw [placed, List.map_cons, ih]

theorem index_add {index offset : UInt32} (small : index.toNat + offset.toNat < 2 ^ 32) :
    (index + offset).toNat = index.toNat + offset.toNat := by
  rw [UInt32.toNat_add]
  exact Nat.mod_eq_of_lt small

theorem group_eq {k : UInt32} (small : k.toNat + 3 < 2 ^ 32) (first second third fourth : UInt8) :
    group k first second third fourth = placed k.toNat [first, second, third, fourth] := by
  have zero : (0 : UInt32).toNat = 0 := rfl
  have one : (1 : UInt32).toNat = 1 := rfl
  have two : (2 : UInt32).toNat = 2 := rfl
  have three : (3 : UInt32).toNat = 3 := rfl
  rw [group, index_add (by omega), index_add (by omega), index_add (by omega),
    index_add (by omega)]
  rfl

/-! ## The loop and the tail -/

section Characters

variable (a b c : UInt8)

theorem first_char : tableAt (a.toUInt32 >>> 2) = Base64.alphabet (a.toNat / 4) := by
  have bound := a.toNat_lt
  have bits := shiftRight_toNat a.toUInt32 2 2 rfl (by decide)
  rw [UInt8.toNat_toUInt32] at bits
  exact tableAt_eq bits (by omega)

theorem second_char : tableAt (((a.toUInt32 &&& 3) <<< 4) ||| (b.toUInt32 >>> 4)) =
    Base64.alphabet (a.toNat % 4 * 16 + b.toNat / 16) := by
  have bound := b.toNat_lt
  have bits := join_toNat a.toUInt32 b.toUInt32 3 4 4 2 4 4 rfl rfl rfl (by decide) (by decide) (by
    rw [UInt8.toNat_toUInt32]
    omega)
  rw [UInt8.toNat_toUInt32, UInt8.toNat_toUInt32] at bits
  exact tableAt_eq bits (by omega)

theorem third_char : tableAt (((b.toUInt32 &&& 0x0F) <<< 2) ||| (c.toUInt32 >>> 6)) =
    Base64.alphabet (b.toNat % 16 * 4 + c.toNat / 64) := by
  have bound := c.toNat_lt
  have bits := join_toNat b.toUInt32 c.toUInt32 0x0F 2 6 4 2 6 rfl rfl rfl (by decide) (by decide)
    (by
      rw [UInt8.toNat_toUInt32]
      omega)
  rw [UInt8.toNat_toUInt32, UInt8.toNat_toUInt32] at bits
  exact tableAt_eq bits (by omega)

theorem fourth_char : tableAt (c.toUInt32 &&& 0x3F) = Base64.alphabet (c.toNat % 64) := by
  have bits : (c.toUInt32 &&& 0x3F).toNat = c.toNat % 64 := by
    rw [UInt32.toNat_and, UInt8.toNat_toUInt32]
    exact Nat.and_two_pow_sub_one_eq_mod c.toNat 6
  exact tableAt_eq bits (by omega)

theorem second_char_last : tableAt ((a.toUInt32 &&& 3) <<< 4) =
    Base64.alphabet (a.toNat % 4 * 16) := by
  have bits := maskShift_toNat a.toUInt32 3 4 2 4 rfl rfl (by decide)
  rw [UInt8.toNat_toUInt32] at bits
  exact tableAt_eq bits (by omega)

theorem third_char_last : tableAt ((b.toUInt32 &&& 0x0F) <<< 2) =
    Base64.alphabet (b.toNat % 16 * 4) := by
  have bits := maskShift_toNat b.toUInt32 0x0F 2 4 2 rfl rfl (by decide)
  rw [UInt8.toNat_toUInt32] at bits
  exact tableAt_eq bits (by omega)

end Characters

/-- Between two groups: the source has been read up to `i`, and `k` positions are filled. -/
structure AtGroup (src suffix : List UInt8) (state : EncodeState) : Prop where
  rest : src.drop state.i.toNat = suffix
  inside : state.i.toNat + suffix.length = src.length
  groups : state.i.toNat % 3 = 0
  filled : state.k.toNat = state.i.toNat / 3 * 4

section

variable {src suffix rest : List UInt8} {n : UInt32} {state : EncodeState} {a b c : UInt8}

/-- A byte that is left is read at its offset. -/
theorem AtGroup.read (at' : AtGroup src suffix state) (small : src.length < 2 ^ 31)
    {offset : UInt32} {byte : UInt8} (found : suffix[offset.toNat]? = some byte) :
    readSource src (state.i + offset) = .ok byte.toUInt32 := by
  have inside := at'.inside
  obtain ⟨left, -⟩ := List.getElem?_eq_some_iff.mp found
  rw [← at'.rest, List.getElem?_drop] at found
  rw [readSource, index_add (by omega), found]

/-- As long as bytes are left, the positions of their group do not wrap. -/
theorem AtGroup.room (at' : AtGroup src suffix state) (small : src.length < 2 ^ 31)
    (left : suffix ≠ []) : state.k.toNat + 4 < 2 ^ 32 := by
  have inside := at'.inside
  have filled := at'.filled
  have some' := List.length_pos_iff.mpr left
  omega

/-- The loop ends in front of fewer than three bytes. -/
theorem AtGroup.ends (at' : AtGroup src suffix state) (blocks : n.toNat = src.length / 3 * 3)
    (few : suffix.length < 3) (fuel : Nat) :
    n = state.i ∧ encodeLoop src n (fuel + 1) state = .ok state := by
  have inside := at'.inside
  have groups := at'.groups
  have same : n = state.i := UInt32.toNat_inj.mp (by omega)
  refine ⟨same, ?_⟩
  rw [encodeLoop, if_neg]
  rw [same]
  exact UInt32.lt_irrefl _

/-- The number of bytes that the switch sees. -/
theorem AtGroup.left (at' : AtGroup src suffix state) (small : src.length < 2 ^ 31) :
    (src.length + 2 ^ 64 - state.i.toNat) % 2 ^ 64 = suffix.length := by
  have inside := at'.inside
  omega

theorem AtGroup.advance (at' : AtGroup src (a :: b :: c :: rest) state)
    (small : src.length < 2 ^ 31) (writes : Writes) :
    AtGroup src rest { i := state.i + 3, k := state.k + 4, writes } := by
  have inside := at'.inside
  have groups := at'.groups
  have filled := at'.filled
  have room := at'.room small (List.cons_ne_nil _ _)
  simp only [List.length_cons] at inside
  have three : (3 : UInt32).toNat = 3 := rfl
  have i : (state.i + 3).toNat = state.i.toNat + 3 := index_add (by omega)
  have k : (state.k + 4).toNat = state.k.toNat + 4 := index_add room
  refine ⟨?_, ?_, ?_, ?_⟩
  · show src.drop (state.i + 3).toNat = rest
    rw [i, ← List.drop_drop, at'.rest]
    rfl
  · show (state.i + 3).toNat + rest.length = src.length
    omega
  · show (state.i + 3).toNat % 3 = 0
    omega
  · show (state.k + 4).toNat = (state.i + 3).toNat / 3 * 4
    omega

/-- One group of three bytes. -/
theorem encodeLoop_group (at' : AtGroup src (a :: b :: c :: rest) state)
    (small : src.length < 2 ^ 31) (blocks : n.toNat = src.length / 3 * 3) (fuel : Nat) :
    encodeLoop src n (fuel + 1) state =
      encodeLoop src n fuel
        { i := state.i + 3
          k := state.k + 4
          writes := state.writes ++ placed state.k.toNat [Base64.alphabet (a.toNat / 4),
            Base64.alphabet (a.toNat % 4 * 16 + b.toNat / 16),
            Base64.alphabet (b.toNat % 16 * 4 + c.toNat / 64),
            Base64.alphabet (c.toNat % 64)] } := by
  have inside := at'.inside
  have groups := at'.groups
  have room := at'.room small (List.cons_ne_nil _ _)
  simp only [List.length_cons] at inside
  have before : state.i < n := UInt32.lt_iff_toNat_lt.mpr (by omega)
  have first : readSource src (state.i + 0) = .ok a.toUInt32 := at'.read small rfl
  have second : readSource src (state.i + 1) = .ok b.toUInt32 := at'.read small rfl
  have third : readSource src (state.i + 2) = .ok c.toUInt32 := at'.read small rfl
  rw [encodeLoop, if_pos before, first, ok_bind, second, ok_bind, third, ok_bind, first_char,
    second_char, third_char, fourth_char, group_eq (by omega)]

theorem encodeTail_none (at' : AtGroup src [] state) (same : n = state.i) :
    encodeTail src n state = .ok (state.writes ++ placed state.k.toNat (Base64.encode [])) := by
  have inside := at'.inside
  have all : ¬ n.toNat ≠ src.length := by
    rw [same]
    simpa using inside
  rw [encodeTail, if_neg all, Base64.encode, placed, List.append_nil]

theorem encodeTail_one (at' : AtGroup src [a] state) (small : src.length < 2 ^ 31)
    (same : n = state.i) :
    encodeTail src n state = .ok (state.writes ++ placed state.k.toNat (Base64.encode [a])) := by
  have inside := at'.inside
  have room := at'.room small (List.cons_ne_nil _ _)
  rw [List.length_singleton] at inside
  have first : readSource src (state.i + 0) = .ok a.toUInt32 := at'.read small rfl
  rw [same, encodeTail, if_pos (by omega), at'.left small]
  simp only [List.length_singleton, first, ok_bind]
  rw [first_char, second_char_last, group_eq (by omega)]
  rfl

theorem encodeTail_two (at' : AtGroup src [a, b] state) (small : src.length < 2 ^ 31)
    (same : n = state.i) :
    encodeTail src n state = .ok (state.writes ++ placed state.k.toNat (Base64.encode [a, b])) := by
  have inside := at'.inside
  have room := at'.room small (List.cons_ne_nil _ _)
  rw [List.length_cons, List.length_singleton] at inside
  have first : readSource src (state.i + 0) = .ok a.toUInt32 := at'.read small rfl
  have second : readSource src (state.i + 1) = .ok b.toUInt32 := at'.read small rfl
  rw [same, encodeTail, if_pos (by omega), at'.left small]
  simp only [List.length_cons, List.length_nil, first, second, ok_bind]
  rw [first_char, second_char, third_char_last, group_eq (by omega)]
  rfl

/-- From a group on, the Base64 of what is left is written behind what stands there. -/
theorem encode_rest (small : src.length < 2 ^ 31) (blocks : n.toNat = src.length / 3 * 3)
    (suffix : List UInt8) : ∀ state fuel, AtGroup src suffix state → suffix.length < fuel →
    (encodeLoop src n fuel state >>= encodeTail src n) =
      .ok (state.writes ++ placed state.k.toNat (Base64.encode suffix)) := by
  fun_induction Base64.encode suffix with
  | case1 =>
    intro state fuel at' enough
    obtain ⟨fuel, rfl⟩ := Nat.exists_eq_add_one.mpr (Nat.zero_lt_of_lt enough)
    obtain ⟨same, loop⟩ := at'.ends blocks (by decide) fuel
    rw [loop, ok_bind]
    exact encodeTail_none at' same
  | case2 a =>
    intro state fuel at' enough
    obtain ⟨fuel, rfl⟩ := Nat.exists_eq_add_one.mpr (Nat.zero_lt_of_lt enough)
    obtain ⟨same, loop⟩ := at'.ends blocks (by simp) fuel
    rw [loop, ok_bind]
    exact encodeTail_one at' small same
  | case3 a b =>
    intro state fuel at' enough
    obtain ⟨fuel, rfl⟩ := Nat.exists_eq_add_one.mpr (Nat.zero_lt_of_lt enough)
    obtain ⟨same, loop⟩ := at'.ends blocks (by simp) fuel
    rw [loop, ok_bind]
    exact encodeTail_two at' small same
  | case4 a b c rest ih =>
    intro state fuel at' enough
    obtain ⟨fuel, rfl⟩ := Nat.exists_eq_add_one.mpr (Nat.zero_lt_of_lt enough)
    simp only [List.length_cons] at enough
    have k : (state.k + 4).toNat = state.k.toNat + 4 :=
      index_add (at'.room small (List.cons_ne_nil _ _))
    rw [encodeLoop_group at' small blocks, ih _ fuel (at'.advance small _) (by omega)]
    show _ = Except.ok (state.writes ++ placed state.k.toNat ([_, _, _, _] ++ Base64.encode rest))
    rw [placed_append, List.append_assoc, k]
    rfl

end

theorem wholeGroups_toNat {slen : Nat} (small : slen < 2 ^ 31) :
    (wholeGroups slen).toNat = slen / 3 * 3 := by
  have int : Int.bmod slen (2 ^ 32) = slen := by
    rw [Int.bmod_eq_emod_of_lt]
    · omega
    · omega
  have groups : (slen : Int).tdiv 3 * 3 = (slen / 3 * 3 : Nat) := by
    rw [Int.natCast_mul]
    rfl
  have fits : ((slen / 3 * 3 : Nat) : Int) % 2 ^ 32 = (slen / 3 * 3 : Nat) := by omega
  rw [wholeGroups, int, groups, UInt32.ofInt, fits, Int.toNat_natCast]
  exact UInt32.toNat_ofNat_of_lt' (by show slen / 3 * 3 < 2 ^ 32; omega)

theorem base64EncodedSize_eq {size : Nat} (small : size < 2 ^ 31) :
    base64EncodedSize size = (size + 2) / 3 * 4 := by
  unfold base64EncodedSize
  dsimp only
  omega

/-- Fewer than 2 ^ 31 bytes are written as Base64 to the positions below the encoded size,
each once and no other, and a decoder of RFC 4648 gives them back. -/
theorem base64Encode_exact (src : List UInt8) (small : src.length < 2 ^ 31) :
    ∃ writes, base64Encode src = .ok (writes, base64EncodedSize src.length) ∧
      writes.map Prod.fst = List.range (base64EncodedSize src.length) ∧
      Base64.decode (writes.map Prod.snd) = some src := by
  have start : AtGroup src src {} := ⟨rfl, Nat.zero_add _, rfl, rfl⟩
  have encoded := encode_rest small (wholeGroups_toNat small) src {} (src.length + 1) start
    (Nat.lt_succ_self _)
  refine ⟨placed 0 (Base64.encode src), ?_, ?_, ?_⟩
  · obtain ⟨state, loop, tail⟩ := bind_ok_inv encoded
    rw [base64Encode, loop, ok_bind, tail]
    rfl
  · rw [placed_positions, Base64.length_encode, base64EncodedSize_eq small,
      List.range_eq_range']
  · rw [placed_chars, Base64.decode_encode]

/-- The 20 bytes of a digest fill the 28 characters of the accept key. -/
theorem base64Encode_digest :
    ∃ writes, base64Encode (List.replicate 20 0xFF) = .ok (writes, 28) ∧
      writes.map Prod.fst = List.range 28 ∧
      Base64.decode (writes.map Prod.snd) = some (List.replicate 20 0xFF) :=
  base64Encode_exact (List.replicate 20 0xFF) (by decide)

end V8Jsi.InspectorUtils
