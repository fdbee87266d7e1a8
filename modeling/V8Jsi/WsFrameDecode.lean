import V8Jsi.Lib.Outcome
import V8Jsi.WsFrame

set_option autoImplicit false

namespace V8Jsi.WsFrame

open Outcome

/-- The low `width` bytes of a number, most significant first. -/
def bigEndian : Nat → Nat → List UInt8
  | 0, _ => []
  | width + 1, n => UInt8.ofNat (n / 256 ^ width) :: bigEndian width n

@[simp] theorem bigEndian_length (width n : Nat) : (bigEndian width n).length = width := by
  induction width with
  | zero => rfl
  | succ width ih => simp only [bigEndian, List.length_cons, ih]

theorem bigEndian_succ (width n : Nat) :
    bigEndian (width + 1) n = bigEndian width (n / 256) ++ [UInt8.ofNat n] := by
  induction width with
  | zero => simp [bigEndian]
  | succ width ih =>
    have quotient : n / 256 / 256 ^ width = n / 256 ^ (width + 1) := by
      rw [Nat.pow_succ', Nat.div_div_eq_div_mul]
    rw [bigEndian, ih, bigEndian, quotient]
    rfl

/-- The shortest length form of RFC 6455: the seven-bit field and the extension. -/
def shortestLength (n : Nat) : UInt8 × List UInt8 :=
  if n ≤ 125 then (UInt8.ofNat n, [])
  else if n ≤ 65535 then (126, bigEndian 2 n)
  else (127, bigEndian 8 n)

/-- A masked, final, uncompressed text frame as a client may send it. RFC 6455
gives its payload a length of at most 63 bits. -/
structure ClientFrame where
  maskingKey : Vector UInt8 4
  payload : List UInt8
  bounded : payload.length < 2 ^ 63

namespace ClientFrame

def maskedPayload (frame : ClientFrame) : List UInt8 :=
  frame.payload.mapIdx fun i byte => byte ^^^ frame.maskingKey.toList[i % 4]?.getD 0

/-- The reference encoding of RFC 6455, section 5.2. -/
def encode (frame : ClientFrame) : List UInt8 :=
  0x81 :: (0x80 ||| (shortestLength frame.payload.length).1) ::
    ((shortestLength frame.payload.length).2 ++
      (frame.maskingKey.toList ++ frame.maskedPayload))

end ClientFrame

/-- Bytes before the masking key in the shortest form. -/
def headerLength (n : Nat) : Nat :=
  if n ≤ 125 then 2 else if n ≤ 65535 then 4 else 10

def encodedLength (n : Nat) : Nat := headerLength n + 4 + n

theorem shortestLength_length (n : Nat) : (shortestLength n).2.length + 2 = headerLength n := by
  unfold shortestLength headerLength
  split
  · rfl
  · split <;> simp

theorem ClientFrame.encode_length (frame : ClientFrame) :
    frame.encode.length = encodedLength frame.payload.length := by
  have short := shortestLength_length frame.payload.length
  simp only [encode, maskedPayload, encodedLength, List.length_cons, List.length_append,
    Vector.length_toList, List.length_mapIdx]
  omega

theorem encodedLength_pos (n : Nat) : 2 < encodedLength n := by
  unfold encodedLength headerLength
  split
  · omega
  · split <;> omega

/-! ## Reads -/

theorem readAt_of_getElem? {buffer : List UInt8} {index : Nat} {byte : UInt8}
    (present : buffer[index]? = some byte) : readAt buffer index = .ok byte := by
  simp only [readAt, present]

theorem shift_or_byte (high : Nat) (byte : UInt8) (room : high * 256 < 2 ^ 64) :
    ((high <<< 8) % 2 ^ 64) ||| byte.toNat = high * 256 + byte.toNat := by
  have small : byte.toNat < 2 ^ 8 := byte.toNat_lt
  rw [Nat.shiftLeft_eq, Nat.mod_eq_of_lt room]
  have joined := Nat.shiftLeft_add_eq_or_of_lt small high
  rw [Nat.shiftLeft_eq] at joined
  exact joined.symm

/-- Reading back a big-endian field continues the number whose leading digits
have already been accumulated. -/
theorem readExtendedLength_bigEndian (buffer rest : List UInt8) (n width : Nat)
    (small : n < 2 ^ 64) : ∀ it, buffer.drop it = bigEndian width n ++ rest →
    readExtendedLength buffer it width (n / 256 ^ width) = .ok n := by
  induction width with
  | zero => intro it _; simp [readExtendedLength]
  | succ width ih =>
    intro it suffix
    have present : buffer[it]? = some (UInt8.ofNat (n / 256 ^ width)) := by
      have head := congrArg (·[0]?) suffix
      simpa [bigEndian, List.getElem?_drop] using head
    have tail : buffer.drop (it + 1) = bigEndian width n ++ rest := by
      rw [← List.tail_drop, suffix]
      rfl
    have quotient : n / 256 ^ (width + 1) = n / 256 ^ width / 256 := by
      rw [Nat.pow_succ, Nat.div_div_eq_div_mul]
    have step : (((n / 256 ^ (width + 1)) <<< 8) % 2 ^ 64) |||
        (UInt8.ofNat (n / 256 ^ width)).toNat = n / 256 ^ width := by
      have bound : n / 256 ^ width < 2 ^ 64 := Nat.lt_of_le_of_lt (Nat.div_le_self _ _) small
      rw [quotient, shift_or_byte _ _ (by omega)]
      simp only [UInt8.toNat_ofNat', Nat.reducePow]
      omega
    simp only [readExtendedLength, readAt_of_getElem? present]
    change readExtendedLength buffer (it + 1) width _ = _
    rw [step]
    exact ih (it + 1) tail

/-! ## The payload -/

theorem xor_key_cancel (byte key : UInt8) : byte ^^^ key ^^^ key = byte := by
  rw [UInt8.xor_assoc, UInt8.xor_self, UInt8.xor_zero]

/-- The loop undoes the mask of the payload bytes it has left. -/
theorem unmask_masked (buffer : List UInt8) (it : Nat) (key : Vector UInt8 4)
    (payload : List UInt8)
    (keyAt : ∀ j < 4, buffer[it + j]? = key.toList[j]?)
    (payloadAt : ∀ i (inside : i < payload.length), buffer[it + 4 + i]? =
      some (payload[i] ^^^ key.toList[i % 4]?.getD 0)) (remaining : Nat) :
    ∀ i output, i + remaining = payload.length →
      unmask buffer it i remaining output = .ok (output ++ payload.drop i) := by
  induction remaining with
  | zero =>
    intro i output finished
    simp only [unmask, List.drop_eq_nil_of_le (show payload.length ≤ i by omega), List.append_nil]
  | succ remaining ih =>
    intro i output left
    have inside : i < payload.length := by omega
    have below : i % 4 < 4 := Nat.mod_lt _ (by decide)
    have keyPresent : key.toList[i % 4]? = some (key.toList[i % 4]?.getD 0) := by
      rw [List.getElem?_eq_getElem (by simpa using below), Option.getD_some]
    have keyRead := (keyAt (i % 4) below).trans keyPresent
    simp only [unmask, kMaskingKeyWidthInBytes, readAt_of_getElem? (payloadAt i inside),
      readAt_of_getElem? keyRead]
    change unmask buffer it (i + 1) remaining _ = _
    rw [ih (i + 1) _ (by omega), xor_key_cancel, List.append_assoc,
      List.singleton_append, ← List.drop_eq_getElem_cons inside]

theorem unmask_length (buffer : List UInt8) (it remaining : Nat) :
    ∀ i output result, unmask buffer it i remaining output = .ok result →
      result.length = output.length + remaining := by
  induction remaining with
  | zero =>
    intro i output result success
    rw [← Except.ok.inj success]
    rfl
  | succ remaining ih =>
    intro i output result success
    obtain ⟨masked, _, success⟩ := bind_ok_inv success
    obtain ⟨key, _, success⟩ := bind_ok_inv success
    have grown := ih (i + 1) _ result success
    simp only [List.length_append, List.length_singleton] at grown
    omega

/-! ## The length field -/

theorem length7_small : ∀ n < 126, ((0x80 ||| UInt8.ofNat n) &&& kPayloadLengthMask).toNat = n := by
  decide

theorem maskBit_small : ∀ n < 126, hasBit (0x80 ||| UInt8.ofNat n) kMaskBit = true := by
  decide

/-- The three length forms of RFC 6455. -/
theorem shortestLength_cases (n : Nat) :
    (n ≤ 125 ∧ shortestLength n = (UInt8.ofNat n, []) ∧ headerLength n = 2) ∨
    (n ≤ 65535 ∧ shortestLength n = (126, bigEndian 2 n) ∧ headerLength n = 4) ∨
    (shortestLength n = (127, bigEndian 8 n) ∧ headerLength n = 10) := by
  unfold shortestLength headerLength
  by_cases single : n ≤ 125
  · simp [single]
  · by_cases two : n ≤ 65535 <;> simp [single, two]

theorem maskBit_shortest (n : Nat) : hasBit (0x80 ||| (shortestLength n).1) kMaskBit = true := by
  rcases shortestLength_cases n with ⟨small, form, -⟩ | ⟨-, form, -⟩ | ⟨form, -⟩
  · rw [form]
    exact maskBit_small n (by omega)
  · rw [form]
    exact show hasBit (0x80 ||| 126) kMaskBit = true by decide
  · rw [form]
    exact show hasBit (0x80 ||| 127) kMaskBit = true by decide

theorem readLengthField_single (buffer : List UInt8) (n : Nat) (small : n ≤ 125) :
    readLengthField buffer (0x80 ||| UInt8.ofNat n) = .ok (.known n 2) := by
  simp only [readLengthField, length7_small n (by omega), kMaxSingleBytePayloadLength,
    show ¬ n > 125 by omega, ↓reduceIte]

theorem readLengthField_two (buffer : List UInt8) :
    readLengthField buffer (0x80 ||| 126) =
      if buffer.length - 2 < 2 then .ok (.stop .frameIncomplete)
      else readExtendedLength buffer 2 2 0 >>= fun length64 => .ok (.known length64 4) := rfl

theorem readLengthField_eight (buffer : List UInt8) :
    readLengthField buffer (0x80 ||| 127) =
      if buffer.length - 2 < 8 then .ok (.stop .frameIncomplete)
      else readExtendedLength buffer 2 8 0 >>= fun length64 => .ok (.known length64 10) := rfl

/-- A complete shortest field is read back exactly. -/
theorem readLengthField_shortest (buffer rest : List UInt8) (n : Nat) (small : n < 2 ^ 64)
    (field : buffer.drop 2 = (shortestLength n).2 ++ rest) :
    readLengthField buffer (0x80 ||| (shortestLength n).1) = .ok (.known n (headerLength n)) := by
  have lengths := congrArg List.length field
  simp only [List.length_drop, List.length_append] at lengths
  rcases shortestLength_cases n with ⟨low, form, header⟩ | ⟨low, form, header⟩ | ⟨form, header⟩
  · rw [form, header]
    exact readLengthField_single buffer n low
  · simp only [form, bigEndian_length] at field lengths ⊢
    have read := readExtendedLength_bigEndian buffer rest n 2 small 2 field
    rw [Nat.div_eq_of_lt (show n < 256 ^ 2 by omega)] at read
    rw [header, readLengthField_two, ite_cond_eq_false _ _ (eq_false (by omega)), read]
    rfl
  · simp only [form, bigEndian_length] at field lengths ⊢
    have read := readExtendedLength_bigEndian buffer rest n 8 small 2 field
    rw [Nat.div_eq_of_lt (show n < 256 ^ 8 by omega)] at read
    rw [header, readLengthField_eight, ite_cond_eq_false _ _ (eq_false (by omega)), read]
    rfl

/-- A shortest field that is cut off asks for more input. -/
theorem readLengthField_short (buffer : List UInt8) (n : Nat)
    (missing : buffer.length - 2 < (shortestLength n).2.length) :
    readLengthField buffer (0x80 ||| (shortestLength n).1) = .ok (.stop .frameIncomplete) := by
  rcases shortestLength_cases n with ⟨-, form, -⟩ | ⟨-, form, -⟩ | ⟨form, -⟩
  · simp only [form, List.length_nil] at missing
    omega
  · simp only [form, bigEndian_length] at missing ⊢
    rw [readLengthField_two, ite_cond_eq_true _ _ (eq_true missing)]
  · simp only [form, bigEndian_length] at missing ⊢
    rw [readLengthField_eight, ite_cond_eq_true _ _ (eq_true missing)]

theorem readExtendedLength_lt (buffer : List UInt8) (width : Nat) : ∀ it digits length64 result,
    digits + width ≤ 8 → length64 < 256 ^ digits →
    readExtendedLength buffer it width length64 = .ok result → result < 256 ^ (digits + width) := by
  induction width with
  | zero =>
    intro it digits length64 result _ small success
    rw [← Except.ok.inj success]
    exact small
  | succ width ih =>
    intro it digits length64 result room small success
    obtain ⟨byte, _, success⟩ := bind_ok_inv success
    have grown : length64 * 256 + byte.toNat < 256 ^ (digits + 1) := by
      have := byte.toNat_lt
      rw [Nat.pow_succ]
      omega
    have fits : length64 * 256 < 2 ^ 64 :=
      calc length64 * 256 ≤ length64 * 256 + byte.toNat := Nat.le_add_right _ _
        _ < 256 ^ (digits + 1) := grown
        _ ≤ 256 ^ 8 := Nat.pow_le_pow_right (by decide) (by omega)
        _ = 2 ^ 64 := by decide
    rw [shift_or_byte _ _ fits] at success
    have reached := ih (it + 1) (digits + 1) _ result (by omega) grown success
    rwa [show digits + 1 + width = digits + (width + 1) by omega] at reached

theorem readLengthField_stop (buffer : List UInt8) (secondByte : UInt8)
    (result : WsDecodeResult) (success : readLengthField buffer secondByte = .ok (.stop result)) :
    result = .frameIncomplete ∨ result = .frameError := by
  simp only [readLengthField] at success
  generalize (if (secondByte &&& kPayloadLengthMask).toNat = kTwoBytePayloadLengthField
    then 2 else 8) = extendedPayloadLengthSize at success
  split at success
  · split at success
    · split at success
      · exact .inl (LengthField.stop.inj (Except.ok.inj success)).symm
      · obtain ⟨length64, _, found⟩ := bind_ok_inv success
        cases found
    · exact .inr (LengthField.stop.inj (Except.ok.inj success)).symm
  · cases success

theorem headerLength_le (n : Nat) : headerLength n ≤ 10 := by
  unfold headerLength
  split
  · omega
  · split <;> omega

/-- Whatever the bytes are, the decoder never takes fewer header bytes than the
shortest form of the length it has read. -/
theorem readLengthField_header (buffer : List UInt8) (secondByte : UInt8) (n it : Nat)
    (success : readLengthField buffer secondByte = .ok (.known n it)) : headerLength n ≤ it := by
  simp only [readLengthField] at success
  generalize (secondByte &&& kPayloadLengthMask).toNat = length7 at success
  by_cases extended : length7 > kMaxSingleBytePayloadLength
  · simp only [extended, ↓reduceIte] at success
    by_cases two : length7 = kTwoBytePayloadLengthField
    · simp only [two, true_or, ↓reduceIte] at success
      split at success
      · cases success
      · obtain ⟨length64, read, found⟩ := bind_ok_inv success
        have fields : length64 = n ∧ 2 + 2 = it := LengthField.known.inj (Except.ok.inj found)
        obtain ⟨rfl, rfl⟩ := fields
        have bound := readExtendedLength_lt buffer 2 2 0 0 length64 (by omega) (by decide) read
        unfold headerLength
        split
        · omega
        · split <;> omega
    · simp only [two, false_or, ↓reduceIte] at success
      split at success
      · split at success
        · cases success
        · obtain ⟨length64, read, found⟩ := bind_ok_inv success
          have fields : length64 = n ∧ 2 + 8 = it := LengthField.known.inj (Except.ok.inj found)
          obtain ⟨rfl, rfl⟩ := fields
          exact headerLength_le length64
      · cases success
  · simp only [extended, ↓reduceIte] at success
    have fields : length7 = n ∧ 2 = it := LengthField.known.inj (Except.ok.inj success)
    obtain ⟨rfl, rfl⟩ := fields
    simp only [kMaxSingleBytePayloadLength] at extended
    simp only [headerLength, show length7 ≤ 125 by omega, ↓reduceIte, Nat.le_refl]

/-! ## Whole frames -/

/-- The header checks pass for a masked final text frame. -/
theorem decode_masked_text (n : Nat) (tail : List UInt8) :
    decodeFrameHybi17 (0x81 :: (0x80 ||| (shortestLength n).1) :: tail) true =
      readLengthField (0x81 :: (0x80 ||| (shortestLength n).1) :: tail)
          (0x80 ||| (shortestLength n).1) >>= fun field =>
        match field with
        | .stop result => .ok { result }
        | .known payloadLength64 it =>
            decodePayload (0x81 :: (0x80 ||| (shortestLength n).1) :: tail) false false
              payloadLength64 it := by
  have masked := maskBit_shortest n
  have long : ¬ (0x81 :: (0x80 ||| (shortestLength n).1) :: tail).length < 2 := by
    simp only [List.length_cons]
    omega
  unfold decodeFrameHybi17
  rw [ite_cond_eq_false _ _ (eq_false long)]
  change (if (true && !hasBit (0x80 ||| (shortestLength n).1) kMaskBit) = true then _ else _) = _
  rw [masked]
  rfl

theorem subSizeT_of_le {left right : Nat} (ordered : right ≤ left) (small : left < 2 ^ 64) :
    subSizeT left right = left - right := by
  unfold subSizeT
  omega

/-- The masked payload for a key, as RFC 6455 has it. -/
def maskBytes (key : Vector UInt8 4) (payload : List UInt8) : List UInt8 :=
  payload.mapIdx fun i byte => byte ^^^ key.toList[i % 4]?.getD 0

/-- The bytes behind a header are a masking key, a masked payload and whatever follows. -/
theorem decodePayload_masked (header : List UInt8) (key : Vector UInt8 4)
    (payload rest : List UInt8) (closed compressed : Bool) (least : 2 ≤ header.length)
    (bounded : payload.length < 2 ^ 63)
    (small : header.length + 4 + payload.length + rest.length < 2 ^ 64) :
    decodePayload (header ++ (key.toList ++ (maskBytes key payload ++ rest)))
        closed compressed payload.length header.length =
      .ok { result := if closed then .frameClose else .frameOk
            bytesConsumed := header.length + 4 + payload.length
            output := payload, compressed } := by
  have length : (maskBytes key payload).length = payload.length := List.length_mapIdx
  have permitted : ¬ (payload.length > maxPayloadLength ∨
      payload.length > sizeMax - kMaskingKeyWidthInBytes) := by
    simp only [maxPayloadLength, sizeMax, kMaskingKeyWidthInBytes]
    omega
  have complete : ¬ subSizeT (header ++ (key.toList ++ (maskBytes key payload ++ rest))).length
      kMaskingKeyWidthInBytes < payload.length := by
    simp only [List.length_append, Vector.length_toList, length]
    rw [subSizeT_of_le (by simp only [kMaskingKeyWidthInBytes]; omega) (by omega)]
    simp only [kMaskingKeyWidthInBytes]
    omega
  have after : ∀ j,
      (header ++ (key.toList ++ (maskBytes key payload ++ rest)))[header.length + j]? =
        (key.toList ++ (maskBytes key payload ++ rest))[j]? := by
    intro j
    rw [List.getElem?_append_right (Nat.le_add_right _ _), Nat.add_sub_cancel_left]
  have unmasked := unmask_masked (header ++ (key.toList ++ (maskBytes key payload ++ rest)))
    header.length key payload
    (by
      intro j inside
      rw [after, List.getElem?_append_left (by simpa using inside)])
    (by
      intro i inside
      rw [Nat.add_assoc, after, List.getElem?_append_right (by simp), Vector.length_toList,
        Nat.add_sub_cancel_left, List.getElem?_append_left (by simpa [length] using inside)]
      simp [maskBytes, inside])
    payload.length 0 [] (by omega)
  simp only [decodePayload, permitted, complete, ↓reduceIte, unmasked]
  rfl

/-- A complete frame at the front of the buffer is decoded and consumed exactly,
whatever follows it. -/
theorem decode_encode (frame : ClientFrame) (rest : List UInt8)
    (small : (frame.encode ++ rest).length < 2 ^ 64) :
    decodeFrameHybi17 (frame.encode ++ rest) true =
      .ok { result := .frameOk
            bytesConsumed := frame.encode.length
            output := frame.payload } := by
  have lengths := frame.encode_length
  have header := shortestLength_length frame.payload.length
  have bounded := frame.bounded
  have shape : frame.encode ++ rest =
      (0x81 :: (0x80 ||| (shortestLength frame.payload.length).1) ::
        (shortestLength frame.payload.length).2) ++
        (frame.maskingKey.toList ++ (frame.maskedPayload ++ rest)) := by
    simp [ClientFrame.encode]
  have field := readLengthField_shortest (frame.encode ++ rest)
    (frame.maskingKey.toList ++ frame.maskedPayload ++ rest) frame.payload.length
    (by omega) (by simp [ClientFrame.encode])
  have taken := decodePayload_masked
    (0x81 :: (0x80 ||| (shortestLength frame.payload.length).1) ::
      (shortestLength frame.payload.length).2)
    frame.maskingKey frame.payload rest false false (by simp) bounded (by
      rw [List.length_append, lengths, encodedLength] at small
      simp only [List.length_cons]
      omega)
  have decoded := decode_masked_text frame.payload.length
    ((shortestLength frame.payload.length).2 ++
      (frame.maskingKey.toList ++ frame.maskedPayload) ++ rest)
  change decodeFrameHybi17 (frame.encode ++ rest) true = readLengthField (frame.encode ++ rest)
    (0x80 ||| (shortestLength frame.payload.length).1) >>= _ at decoded
  have width : (0x81 :: (0x80 ||| (shortestLength frame.payload.length).1) ::
      (shortestLength frame.payload.length).2).length = headerLength frame.payload.length := by
    simp only [List.length_cons]
    omega
  rw [width] at taken
  rw [decoded, field, lengths, encodedLength]
  change decodePayload (frame.encode ++ rest) false false frame.payload.length
    (headerLength frame.payload.length) = _
  rw [shape]
  exact taken

/-- Either a decode stops without consuming anything, or it takes a frame of the
length it announces. -/
inductive DecodeShape (decoded : Decoded) : Prop
  | stopped (nothing : decoded.bytesConsumed = 0) (empty : decoded.output = [])
      (result : decoded.result = .frameIncomplete ∨ decoded.result = .frameError)
  | took (n it : Nat) (header : headerLength n ≤ it) (output : decoded.output.length = n)
      (consumed : decoded.bytesConsumed = it + 4 + n)
      (result : decoded.result = .frameOk ∨ decoded.result = .frameClose)

theorem decodePayload_shape {buffer : List UInt8} {closed compressed : Bool} {n it : Nat}
    {decoded : Decoded} (header : headerLength n ≤ it)
    (success : decodePayload buffer closed compressed n it = .ok decoded) :
    DecodeShape decoded := by
  unfold decodePayload at success
  split at success
  · obtain rfl := Except.ok.inj success
    exact .stopped rfl rfl (.inr rfl)
  · split at success
    · obtain rfl := Except.ok.inj success
      exact .stopped rfl rfl (.inl rfl)
    · obtain ⟨output, unmasked, success⟩ := bind_ok_inv success
      obtain rfl := Except.ok.inj success
      have length := unmask_length buffer it n 0 [] output unmasked
      refine .took n it header (by simpa using length) rfl ?_
      cases closed with
      | false => exact .inl rfl
      | true => exact .inr rfl

theorem decode_shape {buffer : List UInt8} {clientFrame : Bool} {decoded : Decoded}
    (success : decodeFrameHybi17 buffer clientFrame = .ok decoded) : DecodeShape decoded := by
  unfold decodeFrameHybi17 at success
  split at success
  · obtain rfl := Except.ok.inj success
    exact .stopped rfl rfl (.inl rfl)
  · obtain ⟨firstByte, _, success⟩ := bind_ok_inv success
    obtain ⟨secondByte, _, success⟩ := bind_ok_inv success
    simp only at success
    split at success
    · obtain rfl := Except.ok.inj success
      exact .stopped rfl rfl (.inr rfl)
    · split at success
      · obtain rfl := Except.ok.inj success
        exact .stopped rfl rfl (.inr rfl)
      · split at success
        · obtain rfl := Except.ok.inj success
          exact .stopped rfl rfl (.inr rfl)
        · obtain ⟨field, read, success⟩ := bind_ok_inv success
          cases field with
          | stop result =>
            obtain rfl := Except.ok.inj success
            exact .stopped rfl rfl (readLengthField_stop buffer secondByte result read)
          | known n it =>
            exact decodePayload_shape (readLengthField_header buffer secondByte n it read) success

/-- A frame handed on never took fewer bytes than its shortest encoding has. -/
theorem decode_consumes {buffer : List UInt8} {clientFrame : Bool} {decoded : Decoded}
    (success : decodeFrameHybi17 buffer clientFrame = .ok decoded)
    (delivered : decoded.result = .frameOk) :
    encodedLength decoded.output.length ≤ decoded.bytesConsumed := by
  cases decode_shape success with
  | stopped _ _ result =>
    rw [delivered] at result
    rcases result with impossible | impossible <;> cases impossible
  | took n it header output consumed _ =>
    rw [consumed, output]
    unfold encodedLength
    omega

theorem decode_incomplete {buffer : List UInt8} {clientFrame : Bool} {decoded : Decoded}
    (success : decodeFrameHybi17 buffer clientFrame = .ok decoded)
    (waits : decoded.result = .frameIncomplete) : decoded.bytesConsumed = 0 := by
  cases decode_shape success with
  | stopped nothing _ _ => exact nothing
  | took n it header output consumed result =>
    rw [waits] at result
    rcases result with impossible | impossible <;> cases impossible

/-- What the decoder makes of a frame whose end is missing: it waits, or it runs
past the buffer, or it claims more bytes than there are. -/
theorem decode_strict_prefix (frame : ClientFrame) (front back : List UInt8) (decoded : Decoded)
    (split : frame.encode = front ++ back) (missing : back ≠ [])
    (success : decodeFrameHybi17 front true = .ok decoded) :
    decoded.compressed = false ∧
      (decoded.result = .frameIncomplete ∧ decoded.bytesConsumed = 0 ∨
        decoded.result = .frameOk ∧ front.length < decoded.bytesConsumed) := by
  have lengths := frame.encode_length
  have shorter : front.length < frame.encode.length := by
    rw [split, List.length_append]
    have := List.length_pos_iff.mpr missing
    omega
  match front, split with
  | [], _ =>
    obtain rfl := Except.ok.inj success
    exact ⟨rfl, .inl ⟨rfl, rfl⟩⟩
  | [_], _ =>
    obtain rfl := Except.ok.inj success
    exact ⟨rfl, .inl ⟨rfl, rfl⟩⟩
  | first :: second :: tail, split =>
    have bytes : first = 0x81 ∧ second = 0x80 ||| (shortestLength frame.payload.length).1 ∧
        (shortestLength frame.payload.length).2 ++
          (frame.maskingKey.toList ++ frame.maskedPayload) = tail ++ back := by
      simp only [ClientFrame.encode, List.cons_append, List.cons.injEq] at split
      exact ⟨split.1.symm, split.2.1.symm, split.2.2⟩
    obtain ⟨rfl, rfl, body⟩ := bytes
    rw [decode_masked_text] at success
    by_cases cut : tail.length < (shortestLength frame.payload.length).2.length
    · rw [readLengthField_short _ _ (by simpa using cut)] at success
      obtain rfl := Except.ok.inj success
      exact ⟨rfl, .inl ⟨rfl, rfl⟩⟩
    · have small : frame.payload.length < 2 ^ 64 := by have := frame.bounded; omega
      obtain ⟨rest, field⟩ := List.prefix_of_prefix_length_le (List.prefix_append _ _)
        (body ▸ List.prefix_append tail back) (by omega)
      rw [readLengthField_shortest _ rest _ small (by simpa using field.symm)] at success
      change decodePayload _ false false _ _ = _ at success
      unfold decodePayload at success
      have permitted : ¬ (frame.payload.length > maxPayloadLength ∨
          frame.payload.length > sizeMax - kMaskingKeyWidthInBytes) := by
        have := frame.bounded
        simp only [maxPayloadLength, sizeMax, kMaskingKeyWidthInBytes]
        omega
      rw [ite_cond_eq_false _ _ (eq_false permitted)] at success
      split at success
      · obtain rfl := Except.ok.inj success
        exact ⟨rfl, .inl ⟨rfl, rfl⟩⟩
      · obtain ⟨output, _, success⟩ := bind_ok_inv success
        obtain rfl := Except.ok.inj success
        refine ⟨rfl, .inr ⟨rfl, ?_⟩⟩
        rw [lengths] at shorter
        exact shorter

end V8Jsi.WsFrame
