import V8Jsi.WsFrameDecode

set_option autoImplicit false

/- Which buffers the frame decoder reads within their bounds. The size check of
decode_frame_hybi17 compares the whole buffer, less the masking key, with the
payload alone: it forgets the header, and it wraps when the buffer is shorter
than the key. -/
namespace V8Jsi.WsFrame

open Outcome

/-- A masked, final, uncompressed text or close frame of RFC 6455, whose control
frames carry at most 125 bytes. -/
structure MaskedFrame where
  closes : Bool
  maskingKey : Vector UInt8 4
  payload : List UInt8
  bounded : payload.length < 2 ^ 63
  control : closes = true → payload.length ≤ 125

namespace MaskedFrame

def firstByte (frame : MaskedFrame) : UInt8 := if frame.closes then 0x88 else 0x81

def secondByte (frame : MaskedFrame) : UInt8 := 0x80 ||| (shortestLength frame.payload.length).1

def maskedPayload (frame : MaskedFrame) : List UInt8 :=
  frame.payload.mapIdx fun i byte => byte ^^^ frame.maskingKey.toList[i % 4]?.getD 0

/-- The reference encoding of RFC 6455, section 5.2. -/
def encode (frame : MaskedFrame) : List UInt8 :=
  frame.firstByte :: frame.secondByte ::
    ((shortestLength frame.payload.length).2 ++
      (frame.maskingKey.toList ++ frame.maskedPayload))

theorem encode_length (frame : MaskedFrame) :
    frame.encode.length = encodedLength frame.payload.length := by
  have short := shortestLength_length frame.payload.length
  simp only [encode, maskedPayload, encodedLength, List.length_cons, List.length_append,
    Vector.length_toList, List.length_mapIdx]
  omega

end MaskedFrame

/-- The decoder reads inside the buffer, a frame it hands on lies inside the
buffer, and the front part of a frame asks for more. -/
def DecodesSafely (buffer : List UInt8) : Prop :=
  ∃ decoded, decodeFrameHybi17 buffer true = .ok decoded ∧
    (decoded.result = .frameOk ∨ decoded.result = .frameClose →
      0 < decoded.bytesConsumed ∧ decoded.bytesConsumed ≤ buffer.length) ∧
    ∀ (frame : MaskedFrame) (missing : List UInt8), missing ≠ [] →
      frame.encode = buffer ++ missing →
      decoded.result = .frameIncomplete ∧ decoded.bytesConsumed = 0 ∧ decoded.output = []

/-! ## What a buffer announces -/

/-- The position of the masking key and the length of the payload. -/
@[ext] structure Announced where
  header : Nat
  payload : Nat
  deriving DecidableEq, Repr

/-- The first two bytes of a masked final text or close frame. -/
def startsFrame (firstByte secondByte : UInt8) : Bool :=
  hasBit firstByte kFinalBit && !hasBit firstByte kReserved2Bit &&
    !hasBit firstByte kReserved3Bit &&
    (firstByte &&& kOpCodeMask == kOpCodeClose || firstByte &&& kOpCodeMask == kOpCodeText) &&
    hasBit secondByte kMaskBit

def bigEndianValue (bytes : List UInt8) (high : Nat) : Nat :=
  bytes.foldl (fun value byte => value * 256 + byte.toNat) high

/-- The length field, from its seven bits and the bytes behind them. -/
def announcedLength (length7 : Nat) (tail : List UInt8) : Option Announced :=
  let width := if length7 ≤ 125 then 0 else if length7 = 126 then 2 else 8
  if tail.length < width then none
  else some ⟨2 + width, if width = 0 then length7 else bigEndianValue (tail.take width) 0⟩

/-- The frame a buffer announces, once its length field is complete. -/
def announced : List UInt8 → Option Announced
  | firstByte :: secondByte :: tail =>
      if startsFrame firstByte secondByte then
        announcedLength (secondByte &&& kPayloadLengthMask).toNat tail
      else none
  | _ => none

/-! ## The length field -/

theorem readExtendedLength_eq (buffer : List UInt8) (width : Nat) : ∀ it digits length64,
    digits + width ≤ 8 → length64 < 256 ^ digits → it + width ≤ buffer.length →
    readExtendedLength buffer it width length64 =
      .ok (bigEndianValue ((buffer.drop it).take width) length64) := by
  induction width with
  | zero =>
    intro it digits length64 _ _ _
    simp only [readExtendedLength, List.take_zero, bigEndianValue, List.foldl_nil]
  | succ width ih =>
    intro it digits length64 room small inside
    have present : buffer[it]? = some buffer[it] := List.getElem?_eq_getElem (by omega)
    have grown : length64 * 256 + buffer[it].toNat < 256 ^ (digits + 1) := by
      have := buffer[it].toNat_lt
      rw [Nat.pow_succ]
      omega
    have fits : length64 * 256 < 2 ^ 64 :=
      calc length64 * 256 ≤ length64 * 256 + buffer[it].toNat := Nat.le_add_right _ _
        _ < 256 ^ (digits + 1) := grown
        _ ≤ 256 ^ 8 := Nat.pow_le_pow_right (by decide) (by omega)
        _ = 2 ^ 64 := by decide
    rw [readExtendedLength, readAt_of_getElem? present, ok_bind, shift_or_byte _ _ fits,
      ih (it + 1) (digits + 1) _ (by omega) grown (by omega),
      List.drop_eq_getElem_cons (show it < buffer.length by omega), List.take_succ_cons]
    rfl

theorem length7_le (secondByte : UInt8) : (secondByte &&& kPayloadLengthMask).toNat ≤ 127 := by
  rw [UInt8.toNat_and]
  exact Nat.and_le_right

/-- The field that the decoder reads is the one the buffer announces; a field
that is cut off asks for more. -/
theorem readLengthField_eq (firstByte secondByte : UInt8) (tail : List UInt8) :
    readLengthField (firstByte :: secondByte :: tail) secondByte =
      .ok (match announcedLength (secondByte &&& kPayloadLengthMask).toNat tail with
        | some field => .known field.payload field.header
        | none => .stop .frameIncomplete) := by
  have small := length7_le secondByte
  simp only [readLengthField, announcedLength]
  generalize (secondByte &&& kPayloadLengthMask).toNat = length7 at small
  have read : ∀ width, width ≤ 8 → width ≤ tail.length →
      readExtendedLength (firstByte :: secondByte :: tail) 2 width 0 =
        .ok (bigEndianValue (tail.take width) 0) := by
    intro width narrow inside
    rw [readExtendedLength_eq _ width 2 0 0 (by omega) (by decide)
      (by simp only [List.length_cons]; omega)]
    rfl
  by_cases single : length7 ≤ 125
  · have short : ¬ length7 > kMaxSingleBytePayloadLength := by
      simp only [kMaxSingleBytePayloadLength]
      omega
    simp only [short, single, ↓reduceIte, Nat.not_lt_zero]
  · have extended : length7 > kMaxSingleBytePayloadLength := by
      simp only [kMaxSingleBytePayloadLength]
      omega
    by_cases two : length7 = 126
    · simp only [two, kMaxSingleBytePayloadLength, kTwoBytePayloadLengthField, Nat.reduceLeDiff,
        Nat.reduceLT, gt_iff_lt, true_or, ↓reduceIte, List.length_cons]
      by_cases cut : tail.length < 2
      · simp only [show tail.length + 1 + 1 - 2 < 2 by omega, cut, ↓reduceIte]
      · simp only [show ¬ tail.length + 1 + 1 - 2 < 2 by omega, cut, ↓reduceIte,
          read 2 (by omega) (by omega), ok_bind]
        rfl
    · have eight : length7 = 127 := by omega
      simp only [eight, kMaxSingleBytePayloadLength, kTwoBytePayloadLengthField,
        kEightBytePayloadLengthField, Nat.reduceLeDiff, Nat.reduceEqDiff, Nat.reduceLT, gt_iff_lt,
        or_true, ↓reduceIte, List.length_cons]
      by_cases cut : tail.length < 8
      · simp only [show tail.length + 1 + 1 - 2 < 8 by omega, cut, ↓reduceIte]
      · simp only [show ¬ tail.length + 1 + 1 - 2 < 8 by omega, cut, ↓reduceIte,
          read 8 (by omega) (by omega), ok_bind]
        rfl

/-! ## The decoder on what is announced -/

/-- The flags are tested one after the other; a frame that passes them is
decoded by its length field. -/
theorem decode_eq (firstByte secondByte : UInt8) (tail : List UInt8) :
    decodeFrameHybi17 (firstByte :: secondByte :: tail) true =
      if startsFrame firstByte secondByte then
        match announcedLength (secondByte &&& kPayloadLengthMask).toNat tail with
        | some field =>
            decodePayload (firstByte :: secondByte :: tail)
              (firstByte &&& kOpCodeMask == kOpCodeClose) (hasBit firstByte kReserved1Bit)
              field.payload field.header
        | none =>
            .ok { result := .frameIncomplete, compressed := hasBit firstByte kReserved1Bit }
      else .ok { result := .frameError, compressed := hasBit firstByte kReserved1Bit } := by
  have long : ¬ (firstByte :: secondByte :: tail).length < 2 := by
    simp only [List.length_cons]
    omega
  have first : readAt (firstByte :: secondByte :: tail) 0 = .ok firstByte := rfl
  have second : readAt (firstByte :: secondByte :: tail) 1 = .ok secondByte := rfl
  unfold decodeFrameHybi17 startsFrame
  rw [ite_cond_eq_false _ _ (eq_false long), first, second, ok_bind, ok_bind,
    readLengthField_eq]
  simp only [ok_bind]
  cases hasBit firstByte kFinalBit with
  | false => rfl
  | true =>
    cases hasBit firstByte kReserved2Bit with
    | true => rfl
    | false =>
      cases hasBit firstByte kReserved3Bit with
      | true => rfl
      | false =>
        by_cases opCode : firstByte &&& kOpCodeMask ≠ kOpCodeClose ∧
            firstByte &&& kOpCodeMask ≠ kOpCodeText
        · simp [opCode]
        · have known : (firstByte &&& kOpCodeMask == kOpCodeClose ||
              firstByte &&& kOpCodeMask == kOpCodeText) = true := by
            simp only [Bool.or_eq_true, beq_iff_eq]
            exact (Decidable.not_and_iff_not_or_not.mp opCode).imp not_not.mp not_not.mp
          rw [known]
          cases hasBit secondByte kMaskBit with
          | false => simp [opCode]
          | true =>
            simp only [opCode, Bool.not_true, Bool.and_false, Bool.or_false, Bool.and_self,
              Bool.false_eq_true, Bool.not_false, ↓reduceIte]
            cases announcedLength (secondByte &&& kPayloadLengthMask).toNat tail with
            | none => rfl
            | some field => rfl

theorem unmask_inside (buffer : List UInt8) (it remaining : Nat) : ∀ i output,
    it + 4 + i + remaining ≤ buffer.length →
    ∃ result, unmask buffer it i remaining output = .ok result := by
  induction remaining with
  | zero => exact fun i output _ => ⟨output, rfl⟩
  | succ remaining ih =>
    intro i output inside
    have below : i % 4 < 4 := Nat.mod_lt _ (by decide)
    have masked : buffer[it + 4 + i]? = some buffer[it + 4 + i] :=
      List.getElem?_eq_getElem (by omega)
    have key : buffer[it + i % 4]? = some buffer[it + i % 4] := List.getElem?_eq_getElem (by omega)
    rw [unmask, kMaskingKeyWidthInBytes, readAt_of_getElem? masked, readAt_of_getElem? key,
      ok_bind, ok_bind]
    exact ih (i + 1) _ (by omega)

/-- The size check lets through whatever has the payload and the masking key,
and every buffer that is shorter than the key. -/
theorem sizeCheck_iff {size payload : Nat} (fits : size < 2 ^ 64)
    (permitted : payload ≤ maxPayloadLength) :
    subSizeT size kMaskingKeyWidthInBytes < payload ↔ 4 ≤ size ∧ size < 4 + payload := by
  simp only [subSizeT, kMaskingKeyWidthInBytes, maxPayloadLength] at *
  omega

theorem permitted_iff (payload : Nat) :
    (payload > maxPayloadLength ∨ payload > sizeMax - kMaskingKeyWidthInBytes) ↔
      ¬ payload ≤ maxPayloadLength := by
  simp only [maxPayloadLength, sizeMax, kMaskingKeyWidthInBytes]
  omega

section

variable {buffer : List UInt8} {closed compressed : Bool} {payload header : Nat}

theorem decodePayload_tooLong (tooLong : ¬ payload ≤ maxPayloadLength) :
    decodePayload buffer closed compressed payload header =
      .ok { result := .frameError, compressed } := by
  rw [decodePayload, ite_cond_eq_true _ _ (eq_true ((permitted_iff payload).mpr tooLong))]

theorem decodePayload_waits (fits : buffer.length < 2 ^ 64)
    (permitted : payload ≤ maxPayloadLength)
    (short : 4 ≤ buffer.length ∧ buffer.length < 4 + payload) :
    decodePayload buffer closed compressed payload header =
      .ok { result := .frameIncomplete, compressed } := by
  have allowed := mt (permitted_iff payload).mp (not_not_intro permitted)
  rw [decodePayload, ite_cond_eq_false _ _ (eq_false allowed),
    ite_cond_eq_true _ _ (eq_true ((sizeCheck_iff fits permitted).mpr short))]

theorem decodePayload_takes (fits : buffer.length < 2 ^ 64)
    (permitted : payload ≤ maxPayloadLength)
    (passes : ¬ (4 ≤ buffer.length ∧ buffer.length < 4 + payload)) :
    decodePayload buffer closed compressed payload header =
      unmask buffer header 0 payload [] >>= fun output =>
        .ok { result := if closed then .frameClose else .frameOk
              bytesConsumed := header + kMaskingKeyWidthInBytes + payload
              output, compressed } := by
  have allowed := mt (permitted_iff payload).mp (not_not_intro permitted)
  rw [decodePayload, ite_cond_eq_false _ _ (eq_false allowed),
    ite_cond_eq_false _ _ (eq_false (mt (sizeCheck_iff fits permitted).mp passes))]
  rfl

end

/-! ## Safe buffers -/

theorem announced_cons (firstByte secondByte : UInt8) (tail : List UInt8) :
    announced (firstByte :: secondByte :: tail) =
      if startsFrame firstByte secondByte then
        announcedLength (secondByte &&& kPayloadLengthMask).toNat tail
      else none := rfl

/-- A buffer whose frame is announced is decoded by its payload. -/
theorem decode_announced {buffer : List UInt8} {field : Announced}
    (found : announced buffer = some field) :
    ∃ closed compressed, decodeFrameHybi17 buffer true =
      decodePayload buffer closed compressed field.payload field.header := by
  match buffer, found with
  | firstByte :: secondByte :: tail, found =>
    rw [announced_cons] at found
    by_cases starts : startsFrame firstByte secondByte = true
    · rw [ite_cond_eq_true _ _ (eq_true starts)] at found
      refine ⟨firstByte &&& kOpCodeMask == kOpCodeClose, hasBit firstByte kReserved1Bit, ?_⟩
      rw [decode_eq, ite_cond_eq_true _ _ (eq_true starts), found]
    · rw [ite_cond_eq_false _ _ (eq_false starts)] at found
      cases found

/-- A buffer that announces no frame is refused or asks for more. -/
theorem decode_unannounced {buffer : List UInt8} (absent : announced buffer = none) :
    ∃ decoded, decodeFrameHybi17 buffer true = .ok decoded ∧
      (decoded.result = .frameIncomplete ∨ decoded.result = .frameError) := by
  match buffer, absent with
  | [], _ => exact ⟨_, rfl, .inl rfl⟩
  | [_], _ => exact ⟨_, rfl, .inl rfl⟩
  | firstByte :: secondByte :: tail, absent =>
    rw [announced_cons] at absent
    rw [decode_eq]
    by_cases starts : startsFrame firstByte secondByte = true
    · rw [ite_cond_eq_true _ _ (eq_true starts)] at absent ⊢
      rw [absent]
      exact ⟨_, rfl, .inl rfl⟩
    · rw [ite_cond_eq_false _ _ (eq_false starts)]
      exact ⟨_, rfl, .inr rfl⟩

/-- What the decoder reads from the first byte. -/
theorem firstByte_masked (closes : Bool) (n : Nat) :
    startsFrame (if closes then 0x88 else 0x81) (0x80 ||| (shortestLength n).1) = true ∧
      ((if closes then 0x88 else 0x81 : UInt8) &&& kOpCodeMask == kOpCodeClose) = closes ∧
      hasBit (if closes then 0x88 else 0x81) kReserved1Bit = false := by
  unfold startsFrame
  rw [maskBit_shortest]
  cases closes <;> decide

theorem startsFrame_masked (frame : MaskedFrame) :
    startsFrame frame.firstByte frame.secondByte = true :=
  (firstByte_masked frame.closes frame.payload.length).1

theorem uncompressed_masked (frame : MaskedFrame) :
    hasBit frame.firstByte kReserved1Bit = false :=
  (firstByte_masked frame.closes frame.payload.length).2.2

/-- A complete shortest field announces its length. -/
theorem announcedLength_shortest (n : Nat) (small : n < 2 ^ 64) (tail rest : List UInt8)
    (field : tail = (shortestLength n).2 ++ rest) :
    announcedLength ((0x80 ||| (shortestLength n).1) &&& kPayloadLengthMask).toNat tail =
      some ⟨headerLength n, n⟩ := by
  have read := readLengthField_eq 0 (0x80 ||| (shortestLength n).1) tail
  rw [readLengthField_shortest _ rest n small (by simpa using field)] at read
  revert read
  cases announcedLength _ tail with
  | none => intro read; cases read
  | some field =>
    intro read
    have fields := LengthField.known.inj (Except.ok.inj read)
    exact congrArg some (Announced.ext fields.2.symm fields.1.symm)

/-- The length field at the front of a frame is cut off, or it announces that
frame. -/
theorem announcedLength_front (n : Nat) (small : n < 2 ^ 64) (tail missing rest : List UInt8)
    (front : (shortestLength n).2 ++ rest = tail ++ missing) :
    announcedLength ((0x80 ||| (shortestLength n).1) &&& kPayloadLengthMask).toNat tail = none ∨
      announcedLength ((0x80 ||| (shortestLength n).1) &&& kPayloadLengthMask).toNat tail =
        some ⟨headerLength n, n⟩ := by
  by_cases cut : tail.length < (shortestLength n).2.length
  · have read := readLengthField_eq 0 (0x80 ||| (shortestLength n).1) tail
    rw [readLengthField_short _ _ (by simpa using cut)] at read
    revert read
    cases announcedLength _ tail with
    | none => exact fun _ => .inl rfl
    | some field => intro read; cases read
  · obtain ⟨rest', field⟩ := List.prefix_of_prefix_length_le (List.prefix_append _ rest)
      (front ▸ List.prefix_append tail missing) (by omega)
    exact .inr (announcedLength_shortest n small tail rest' field.symm)

/-- The front part of a frame announces the frame, unless its length field is cut
off and the decoder waits. -/
theorem decode_front (frame : MaskedFrame) (buffer missing : List UInt8)
    (front : frame.encode = buffer ++ missing) :
    announced buffer = none ∧
        decodeFrameHybi17 buffer true = .ok { result := .frameIncomplete } ∨
      announced buffer = some ⟨headerLength frame.payload.length, frame.payload.length⟩ := by
  match buffer, front with
  | [], _ => exact .inl ⟨rfl, rfl⟩
  | [_], _ => exact .inl ⟨rfl, rfl⟩
  | firstByte :: secondByte :: tail, front =>
    simp only [MaskedFrame.encode, List.cons_append, List.cons.injEq] at front
    obtain ⟨rfl, rfl, body⟩ := front
    have starts := startsFrame_masked frame
    have small : frame.payload.length < 2 ^ 64 := by
      have := frame.bounded
      omega
    rw [decode_eq, announced_cons, ite_cond_eq_true _ _ (eq_true starts),
      ite_cond_eq_true _ _ (eq_true starts), uncompressed_masked]
    rcases announcedLength_front _ small tail missing _ body with cut | whole
    · left
      rw [MaskedFrame.secondByte, cut]
      exact ⟨rfl, rfl⟩
    · exact .inr whole

/-- A buffer that stops within a frame and announces one holds only a part of
what it announces. -/
theorem announced_partly {frame : MaskedFrame} {buffer missing : List UInt8} {field : Announced}
    (nonempty : missing ≠ []) (front : frame.encode = buffer ++ missing)
    (found : announced buffer = some field) :
    field.payload ≤ maxPayloadLength ∧ buffer.length < field.header + 4 + field.payload := by
  rcases decode_front frame buffer missing front with ⟨absent, -⟩ | whole
  · rw [found] at absent
    cases absent
  · rw [found] at whole
    obtain rfl := Option.some.inj whole
    have lengths := congrArg List.length front
    have bounded := frame.bounded
    have positive := List.length_pos_iff.mpr nonempty
    rw [frame.encode_length, List.length_append, encodedLength] at lengths
    simp only [maxPayloadLength]
    omega

/-- A frame that is taken although the buffer does not hold it is read, or
claimed, beyond the end. -/
theorem not_decodesSafely {buffer : List UInt8} {field : Announced} (fits : buffer.length < 2 ^ 64)
    (found : announced buffer = some field) (permitted : field.payload ≤ maxPayloadLength)
    (partly : buffer.length < field.header + 4 + field.payload)
    (passes : ¬ (4 ≤ buffer.length ∧ buffer.length < 4 + field.payload)) :
    ¬ DecodesSafely buffer := by
  rintro ⟨decoded, success, inside, -⟩
  obtain ⟨closed, compressed, decodes⟩ := decode_announced found
  rw [decodes, decodePayload_takes fits permitted passes] at success
  obtain ⟨output, -, success⟩ := bind_ok_inv success
  obtain rfl := Except.ok.inj success
  have bounds := inside (by cases closed <;> simp)
  simp only [kMaskingKeyWidthInBytes] at bounds
  omega

/-- Decoding stays within the buffer exactly when the size check is right about
the announced frame: the frame is complete, or the buffer holds the masking key
and less than the payload besides. -/
theorem decodesSafely_iff (buffer : List UInt8) (fits : buffer.length < 2 ^ 64) :
    DecodesSafely buffer ↔
      ∀ header payload, announced buffer = some ⟨header, payload⟩ → payload < 2 ^ 63 →
        header + 4 + payload ≤ buffer.length ∨
          4 ≤ buffer.length ∧ buffer.length < 4 + payload := by
  constructor
  · intro safe header payload found bounded
    by_contra wrong
    rw [not_or] at wrong
    have permitted : payload ≤ maxPayloadLength := by
      simp only [maxPayloadLength]
      omega
    exact not_decodesSafely fits found permitted (by simpa using wrong.1) wrong.2 safe
  · intro right
    cases found : announced buffer with
    | none =>
      obtain ⟨decoded, success, result⟩ := decode_unannounced found
      refine ⟨decoded, success, ?_, ?_⟩
      · intro handedOn
        rcases result with waits | refused <;> simp_all
      · intro frame missing _ front
        rcases decode_front frame buffer missing front with ⟨-, waits⟩ | whole
        · rw [waits] at success
          obtain rfl := Except.ok.inj success
          exact ⟨rfl, rfl, rfl⟩
        · rw [found] at whole
          cases whole
    | some field =>
      obtain ⟨closed, compressed, decodes⟩ := decode_announced found
      unfold DecodesSafely
      rw [decodes]
      by_cases permitted : field.payload ≤ maxPayloadLength
      · have bounded : field.payload < 2 ^ 63 := by
          simp only [maxPayloadLength] at permitted
          omega
        by_cases short : 4 ≤ buffer.length ∧ buffer.length < 4 + field.payload
        · rw [decodePayload_waits fits permitted short]
          exact ⟨_, rfl, by simp, fun _ _ _ _ => ⟨rfl, rfl, rfl⟩⟩
        · have complete := (right field.header field.payload found bounded).resolve_right short
          obtain ⟨output, unmasked⟩ := unmask_inside buffer field.header field.payload 0 [] complete
          rw [decodePayload_takes fits permitted short, unmasked]
          refine ⟨_, rfl, ?_, ?_⟩
          · intro _
            simp only [kMaskingKeyWidthInBytes]
            omega
          · intro frame missing nonempty front
            have partly := (announced_partly nonempty front found).2
            omega
      · rw [decodePayload_tooLong permitted]
        refine ⟨_, rfl, by simp, ?_⟩
        intro frame missing nonempty front
        exact absurd (announced_partly nonempty front found).1 permitted

/-- A frame of five bytes of payload whose payload has not arrived yet. -/
theorem decodesSafely_without_payload : DecodesSafely [0x81, 0x85, 1, 2, 3, 4] := by
  refine (decodesSafely_iff [0x81, 0x85, 1, 2, 3, 4] (by decide)).mpr ?_
  intro header payload found _
  obtain ⟨rfl, rfl⟩ := Announced.mk.inj (Option.some.inj found)
  exact .inr (by decide)

/-- Nine of the eleven bytes of a text frame pass the size check, and so do its
first two bytes alone. -/
theorem partial_frame_read_beyond :
    ¬ DecodesSafely [0x81, 0x85, 1, 2, 3, 4, 0x69, 0x67, 0x6f] ∧ ¬ DecodesSafely [0x81, 0x85] := by
  constructor
  · exact not_decodesSafely (by decide) (show announced _ = some ⟨2, 5⟩ by decide) (by decide)
      (by decide) (by decide)
  · exact not_decodesSafely (by decide) (show announced _ = some ⟨2, 5⟩ by decide) (by decide)
      (by decide) (by decide)

end V8Jsi.WsFrame
