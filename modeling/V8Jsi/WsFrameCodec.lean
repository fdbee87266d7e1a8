import V8Jsi.WsClose
import V8Jsi.WsFrameBounds

set_option autoImplicit false

/- Whole frames in both directions: the frames of RFC 6455 that a client sends as
`decode_frame_hybi17` takes them, and the frames of `encode_frame_hybi17` as a decoder
of RFC 6455 takes them. -/
namespace V8Jsi.WsFrame

open Outcome

/-! ## Frames of a client -/

/-- `decode_frame_hybi17` on the vector of its caller, which it only inserts into at the
end. -/
def decodeInto (buffer : List UInt8) (clientFrame : Bool) (output : List UInt8) :
    Except MemoryFault Decoded :=
  (decodeFrameHybi17 buffer clientFrame).map fun decoded =>
    { decoded with output := output ++ decoded.output }

/-- A masked frame is decoded alike whether it has to come from a client or not. -/
theorem decode_of_masked {firstByte secondByte : UInt8} (tail : List UInt8)
    (masked : hasBit secondByte kMaskBit = true) (clientFrame : Bool) :
    decodeFrameHybi17 (firstByte :: secondByte :: tail) clientFrame =
      decodeFrameHybi17 (firstByte :: secondByte :: tail) true := by
  have second : readAt (firstByte :: secondByte :: tail) 1 = .ok secondByte := rfl
  unfold decodeFrameHybi17
  rw [second]
  simp only [ok_bind, masked, Bool.not_true, Bool.and_false]

/-- The encoding of RFC 6455, section 5.2, of a final masked text or Close frame. A Close
frame may have a longer payload here than the RFC allows to control frames. -/
def encodeMasked (closes : Bool) (maskingKey : Vector UInt8 4) (payload : List UInt8) :
    List UInt8 :=
  (if closes then 0x88 else 0x81) :: (0x80 ||| (shortestLength payload.length).1) ::
    ((shortestLength payload.length).2 ++ (maskingKey.toList ++ maskBytes maskingKey payload))

theorem encodeMasked_length (closes : Bool) (maskingKey : Vector UInt8 4)
    (payload : List UInt8) :
    (encodeMasked closes maskingKey payload).length = encodedLength payload.length := by
  have short := shortestLength_length payload.length
  simp only [encodeMasked, maskBytes, encodedLength, List.length_cons, List.length_append,
    Vector.length_toList, List.length_mapIdx]
  omega

/-- A complete masked frame is decoded and consumed exactly, whatever follows it and
whatever the output holds. -/
theorem decode_complete_frame (closes : Bool) (maskingKey : Vector UInt8 4)
    (payload rest output : List UInt8) (clientFrame : Bool)
    (bounded : payload.length < 2 ^ 63)
    (small : (encodeMasked closes maskingKey payload ++ rest).length < 2 ^ 64) :
    decodeInto (encodeMasked closes maskingKey payload ++ rest) clientFrame output =
      .ok { result := if closes then .frameClose else .frameOk
            bytesConsumed := (encodeMasked closes maskingKey payload).length
            output := output ++ payload
            compressed := false } := by
  obtain ⟨starts, opCode, uncompressed⟩ := firstByte_masked closes payload.length
  have lengths := encodeMasked_length closes maskingKey payload
  rw [List.length_append, lengths, encodedLength] at small
  rw [decodeInto, lengths, encodedLength, encodeMasked]
  generalize (if closes then 0x88 else 0x81 : UInt8) = firstByte at starts opCode uncompressed ⊢
  have masked := maskBit_shortest payload.length
  have width : (firstByte :: (0x80 ||| (shortestLength payload.length).1) ::
      (shortestLength payload.length).2).length = headerLength payload.length := by
    have header := shortestLength_length payload.length
    simp only [List.length_cons]
    omega
  have field := announcedLength_shortest payload.length (by omega) _
    (maskingKey.toList ++ (maskBytes maskingKey payload ++ rest)) rfl
  have taken := decodePayload_masked
    (firstByte :: (0x80 ||| (shortestLength payload.length).1) ::
      (shortestLength payload.length).2)
    maskingKey payload rest closes false (by simp) bounded (by omega)
  rw [width, List.cons_append, List.cons_append] at taken
  rw [List.cons_append, List.cons_append, List.append_assoc, List.append_assoc,
    decode_of_masked _ masked, decode_eq, ite_cond_eq_true _ _ (eq_true starts), field, opCode,
    uncompressed]
  dsimp only
  rw [taken]
  rfl

theorem decode_complete_hi :
    decodeInto ([0x81, 0x82, 1, 2, 3, 4, 73, 107] ++ [0x81]) true [33] =
      .ok { result := .frameOk, bytesConsumed := 8, output := [33, 72, 105]
            compressed := false } :=
  decode_complete_frame false ⟨#[1, 2, 3, 4], rfl⟩ [72, 105] [0x81] [33] true (by decide)
    (by decide)

/-! ## A decoder of RFC 6455 -/

/-- A frame of RFC 6455, section 5.2, with its payload unmasked. -/
structure Frame where
  fin : Bool
  rsv1 : Bool
  rsv2 : Bool
  rsv3 : Bool
  opCode : Nat
  maskingKey : Option (List UInt8)
  payload : List UInt8
  deriving DecidableEq, Repr

/-- The payload length in its shortest form, from the seven bits and what follows them. -/
def parseLength (length7 : Nat) (bytes : List UInt8) : Option (Nat × List UInt8) :=
  if length7 ≤ 125 then some (length7, bytes)
  else
    let width := if length7 = 126 then 2 else 8
    let shortest := if length7 = 126 then 126 else 65536
    let length := bigEndianValue (bytes.take width) 0
    if bytes.length < width ∨ length < shortest then none else some (length, bytes.drop width)

def parseMaskingKey (masked : Bool) (bytes : List UInt8) :
    Option (Option (List UInt8) × List UInt8) :=
  if masked then
    if bytes.length < 4 then none else some (some (bytes.take 4), bytes.drop 4)
  else some (none, bytes)

def unmaskWith : Option (List UInt8) → List UInt8 → List UInt8
  | none, bytes => bytes
  | some key, bytes => bytes.mapIdx fun i byte => byte ^^^ key[i % 4]?.getD 0

/-- One frame and the bytes behind it. A payload must be shorter than `limit`, which is at
most `2 ^ 63` for a decoder of RFC 6455. -/
def parseFrame (limit : Nat) : List UInt8 → Option (Frame × List UInt8)
  | firstByte :: secondByte :: bytes => do
      let (length, bytes) ← parseLength (secondByte.toNat % 128) bytes
      let (maskingKey, bytes) ← parseMaskingKey (secondByte.toNat.testBit 7) bytes
      if bytes.length < length ∨ limit ≤ length then none
      else
        some
          ({ fin := firstByte.toNat.testBit 7
             rsv1 := firstByte.toNat.testBit 6
             rsv2 := firstByte.toNat.testBit 5
             rsv3 := firstByte.toNat.testBit 4
             opCode := firstByte.toNat % 16
             maskingKey
             payload := unmaskWith maskingKey (bytes.take length) }, bytes.drop length)
  | _ => none

/-! ## Frames of the inspector -/

/-- A final, unmasked, uncompressed text frame. -/
def textFrame (message : List UInt8) : Frame :=
  { fin := true, rsv1 := false, rsv2 := false, rsv3 := false, opCode := 1, maskingKey := none
    payload := message }

theorem bigEndianValue_bigEndian (width n : Nat) : ∀ high,
    bigEndianValue (bigEndian width n) high = high * 256 ^ width + n % 256 ^ width := by
  induction width with
  | zero => intro high; simp [bigEndian, bigEndianValue, Nat.mod_one]
  | succ width ih =>
    intro high
    have digits : n % 256 ^ (width + 1) = n % 256 ^ width + 256 ^ width * (n / 256 ^ width % 256) :=
      Nat.mod_pow_succ
    calc bigEndianValue (bigEndian (width + 1) n) high
        = bigEndianValue (bigEndian width n) (high * 256 + n / 256 ^ width % 256) := by
          simp [bigEndianValue, bigEndian]
      _ = (high * 256 + n / 256 ^ width % 256) * 256 ^ width + n % 256 ^ width := ih _
      _ = high * 256 ^ (width + 1) + n % 256 ^ (width + 1) := by
          rw [digits, Nat.pow_succ, Nat.add_mul, Nat.mul_assoc, Nat.mul_comm 256,
            Nat.mul_comm (256 ^ width) (n / 256 ^ width % 256)]
          omega

/-- A length field of `width` bytes is read back. -/
theorem bigEndianValue_field {width n : Nat} (fits : n < 256 ^ width) (rest : List UInt8) :
    bigEndianValue ((bigEndian width n ++ rest).take width) 0 = n := by
  rw [List.take_left' (bigEndian_length width n), bigEndianValue_bigEndian, Nat.zero_mul,
    Nat.zero_add, Nat.mod_eq_of_lt fits]

theorem parseLength_shortest (n : Nat) (small : n < 2 ^ 64) (rest : List UInt8) :
    parseLength ((shortestLength n).1.toNat % 128) ((shortestLength n).2 ++ rest) =
      some (n, rest) := by
  unfold shortestLength
  split
  case isTrue short =>
    have low : (UInt8.ofNat n).toNat % 128 = n := by
      rw [UInt8.toNat_ofNat']
      omega
    simp only [parseLength, low, if_pos short, List.nil_append]
  case isFalse long =>
    split
    case isTrue short =>
      have value := bigEndianValue_field (show n < 256 ^ 2 by omega) rest
      have field : ¬ ((bigEndian 2 n ++ rest).length < 2 ∨ n < 126) := by
        rw [List.length_append, bigEndian_length]
        omega
      simp only [parseLength, show (126 : UInt8).toNat % 128 = 126 from rfl, Nat.reduceLeDiff,
        if_false, if_true, value, if_neg field, List.drop_left' (bigEndian_length 2 n)]
    case isFalse longer =>
      have value := bigEndianValue_field (show n < 256 ^ 8 by omega) rest
      have field : ¬ ((bigEndian 8 n ++ rest).length < 8 ∨ n < 65536) := by
        rw [List.length_append, bigEndian_length]
        omega
      simp only [parseLength, show (127 : UInt8).toNat % 128 = 127 from rfl, Nat.reduceLeDiff,
        Nat.reduceEqDiff, if_false, value, if_neg field, List.drop_left' (bigEndian_length 8 n)]

theorem unmasked_shortest (n : Nat) : (shortestLength n).1.toNat.testBit 7 = false := by
  apply Nat.testBit_lt_two_pow
  rcases shortestLength_cases n with ⟨short, form, -⟩ | ⟨-, form, -⟩ | ⟨form, -⟩
  · rw [form, UInt8.toNat_ofNat']
    omega
  · rw [form]
    exact (by decide : (126 : UInt8).toNat < 2 ^ 7)
  · rw [form]
    exact (by decide : (127 : UInt8).toNat < 2 ^ 7)

/-- Every message becomes one text frame in its shortest form, and a decoder of RFC 6455
reads the message back and stops at its end. -/
theorem encodeFrame_wellFormed (message : List UInt8) (small : message.length < 2 ^ 64) :
    ∃ frame, WsClose.encodeFrameHybi17 message = some frame ∧
      frame = 0x81 :: (shortestLength message.length).1 ::
        ((shortestLength message.length).2 ++ message) ∧
      (∀ rest limit, message.length < limit →
        parseFrame limit (frame ++ rest) = some (textFrame message, rest)) ∧
      ∀ handler, message ≠ [] →
        WsClose.write handler message = some (handler.emit (.writeRaw frame)) := by
  have encoded := WsClose.encodeFrameHybi17_eq small
  refine ⟨_, encoded, rfl, ?_, ?_⟩
  · intro rest limit within
    have inside : ¬ ((message ++ rest).length < message.length ∨ limit ≤ message.length) := by
      rw [List.length_append]
      omega
    rw [List.cons_append, List.cons_append, List.append_assoc, parseFrame,
      parseLength_shortest _ small, unmasked_shortest]
    simp only [parseMaskingKey, Option.bind_eq_bind, Option.bind_some, Bool.false_eq_true,
      if_false, if_neg inside, List.take_left, List.drop_left, unmaskWith, textFrame]
    congr
  · intro handler sent
    rw [WsClose.write_frame handler sent, encoded]
    rfl

theorem encodeFrame_ok :
    ∃ frame, WsClose.encodeFrameHybi17 [111, 107] = some frame ∧
      frame = [0x81, 2, 111, 107] ∧
      (∀ rest limit, 2 < limit →
        parseFrame limit (frame ++ rest) = some (textFrame [111, 107], rest)) ∧
      ∀ handler, [111, 107] ≠ ([] : List UInt8) →
        WsClose.write handler [111, 107] = some (handler.emit (.writeRaw frame)) :=
  encodeFrame_wellFormed [111, 107] (by decide)

end V8Jsi.WsFrame
