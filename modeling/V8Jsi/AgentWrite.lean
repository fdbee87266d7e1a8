import V8Jsi.Utf16Buffer

set_option autoImplicit false

/- What `AgentImpl::Write` of inspector_agent.cpp sends: the strings of the inspector
come in 8 or in 16 bits a character, and the bytes are meant to be UTF-8. -/
namespace V8Jsi.AgentWrite

open InspectorUtils Outcome Unicode

/-- `v8_inspector::StringView` in the representation that V8 has picked. -/
inductive StringView
  | characters8 (characters : List UInt8)
  | characters16 (characters : List UInt16)
  deriving DecidableEq, Repr

namespace StringView

/-- The characters in 16 bits. -/
def units : StringView → List UInt16
  | .characters8 characters => characters.map UInt8.toUInt16
  | .characters16 characters => characters

def text (view : StringView) : List Char := decodeLossy view.units

/-- Surrogates come in pairs. -/
def WellFormed (view : StringView) : Prop := ∃ text, view.units = utf16Encode text

end StringView

def stringViewToUtf8 : StringView → Except WriteOutside (List UInt8)
  | .characters8 characters => .ok characters
  | .characters16 characters => utf16toUTF8String characters

/-- `Write` appends the message, takes the whole queue out and sends each entry. -/
def write (outgoingMessageQueue : List (Int × StringView)) (sessionId : Int)
    (message : StringView) : Except WriteOutside (List (Int × List UInt8)) :=
  (outgoingMessageQueue ++ [(sessionId, message)]).mapM fun outgoing => do
    let message ← stringViewToUtf8 outgoing.2
    return (outgoing.1, message)

/-- The view and its characters in 16 bits both become the UTF-8 of the text. -/
def EncodedAlike (view : StringView) : Prop :=
  stringViewToUtf8 view = .ok (utf8Encode view.text) ∧
    stringViewToUtf8 (.characters16 view.units) = .ok (utf8Encode view.text)

/-- In 8 bits every character is ASCII; in either form the encoding fits 32 bits. -/
def Encodable : StringView → Prop
  | .characters8 characters =>
      (∀ character ∈ characters, character < 0x80) ∧ characters.length < 2 ^ 32
  | .characters16 characters => (utf8Encode (decodeLossy characters)).length < 2 ^ 32

/-! ## One view -/

theorem encode_text {view : StringView} (wellFormed : view.WellFormed) :
    Wtf8.encode view.units = utf8Encode view.text := by
  obtain ⟨text, units⟩ := wellFormed
  rw [StringView.text, units, Wtf8.encode_utf16Encode, decodeLossy_utf16Encode]

theorem characters16_iff {units : List UInt16} {bytes : List UInt8}
    (encoded : Wtf8.encode units = bytes) :
    stringViewToUtf8 (.characters16 units) = .ok bytes ↔ bytes.length < 2 ^ 32 := by
  rw [stringViewToUtf8, utf16toUTF8String_eq, encoded]
  split
  case isTrue fits => exact iff_of_true rfl fits
  case isFalse large => exact iff_of_false (fun same => nomatch same) large

theorem encode_latin1_cons (character : UInt8) (rest : List UInt8) :
    Wtf8.encode ((character :: rest).map UInt8.toUInt16) =
      Wtf8.encodePoint character.toNat ++ Wtf8.encode (rest.map UInt8.toUInt16) := by
  have bound := character.toNat_lt
  rw [List.map_cons, encode_unit (small_unit (by rw [UInt8.toNat_toUInt16]; omega)),
    UInt8.toNat_toUInt16]

theorem encodePoint_ascii {character : UInt8} (ascii : character < 0x80) :
    Wtf8.encodePoint character.toNat = [character] := by
  have small : character.toNat < 0x80 := UInt8.lt_iff_toNat_lt.mp ascii
  rw [Wtf8.encodePoint, if_pos (by omega), UInt8.ofNat_toNat]

/-- Characters beyond ASCII take a second byte. -/
theorem encode_latin1_length (characters : List UInt8) :
    (Wtf8.encode (characters.map UInt8.toUInt16)).length =
      characters.length + characters.countP (0x80 ≤ ·) := by
  induction characters with
  | nil => rfl
  | cons character rest ih =>
    have bound := character.toNat_lt
    rw [encode_latin1_cons, List.length_append, ih, List.length_cons, List.countP_cons]
    by_cases ascii : character < 0x80
    · have below : ¬ 0x80 ≤ character := UInt8.not_le.mpr ascii
      rw [encodePoint_ascii ascii, List.length_singleton]
      simp only [below, decide_false, Bool.false_eq_true, if_false]
      omega
    · have above : 0x80 ≤ character := UInt8.not_lt.mp ascii
      have large : 0x80 ≤ character.toNat := UInt8.le_iff_toNat_le.mp above
      rw [Wtf8.encodePoint, if_neg (by omega), if_pos (by omega)]
      simp only [above, decide_true, if_true, List.length_cons, List.length_nil]
      omega

/-- Only ASCII characters are their own encoding. -/
theorem encode_latin1_iff (characters : List UInt8) :
    Wtf8.encode (characters.map UInt8.toUInt16) = characters ↔
      ∀ character ∈ characters, character < 0x80 := by
  constructor
  · intro same character inside
    have length := encode_latin1_length characters
    rw [same, Nat.left_eq_add, List.countP_eq_zero] at length
    have below := length character inside
    exact UInt8.not_le.mp (of_decide_eq_false (Bool.eq_false_iff.mpr below))
  · intro ascii
    induction characters with
    | nil => rfl
    | cons character rest ih =>
      rw [encode_latin1_cons, encodePoint_ascii (ascii character List.mem_cons_self),
        ih fun other inside => ascii other (List.mem_cons_of_mem _ inside)]
      rfl

/-- 8-bit characters are Latin-1, so they always are a text. -/
theorem characters8_wellFormed (characters : List UInt8) :
    (StringView.characters8 characters).WellFormed := by
  refine ⟨characters.map fun character => Char.ofNat character.toNat, ?_⟩
  induction characters with
  | nil => rfl
  | cons character rest ih =>
    have bound := character.toNat_lt
    have valid : character.toNat.isValidChar := .inl (by omega)
    have value : (Char.ofNat character.toNat).toNat = character.toNat := by
      rw [Char.ofNat, dif_pos valid]
      rfl
    have unit : utf16Char (Char.ofNat character.toNat) = [character.toUInt16] := by
      rw [utf16Char, value, if_pos (by omega)]
      simp
    rw [StringView.units] at ih
    rw [StringView.units, List.map_cons, List.map_cons, utf16Encode_cons, unit, ih]
    rfl

theorem encodedAlike_iff {view : StringView} (wellFormed : view.WellFormed) :
    EncodedAlike view ↔ Encodable view := by
  have encoded := encode_text wellFormed
  rw [EncodedAlike, characters16_iff encoded]
  cases view with
  | characters8 characters =>
    rw [← encoded, stringViewToUtf8, Except.ok.injEq, Encodable, eq_comm,
      ← encode_latin1_iff characters]
    refine and_congr_right fun same => ?_
    rw [same]
  | characters16 characters =>
    exact (and_congr_left fun _ => characters16_iff encoded).trans and_self_iff

/-! ## The queue -/

/-- Both representations become the UTF-8 of the text exactly for ASCII in 8 bits, and
below 2 ^ 32 bytes; a queue of such messages is sent as UTF-8. -/
theorem stringViewToUtf8_iff (characters : List UInt8) (view : StringView)
    (queue : List (Int × StringView)) (sessionId : Int) (message : StringView) :
    (EncodedAlike (.characters8 characters) ↔ Encodable (.characters8 characters)) ∧
      (view.WellFormed → (EncodedAlike view ↔ Encodable view)) ∧
      ((∀ entry ∈ queue ++ [(sessionId, message)], entry.2.WellFormed) →
        ((∀ entry ∈ queue ++ [(sessionId, message)], EncodedAlike entry.2) ∧
            write queue sessionId message =
              .ok ((queue ++ [(sessionId, message)]).map fun entry =>
                (entry.1, utf8Encode entry.2.text)) ↔
          ∀ entry ∈ queue ++ [(sessionId, message)], Encodable entry.2)) := by
  refine ⟨encodedAlike_iff (characters8_wellFormed characters), encodedAlike_iff, ?_⟩
  intro wellFormed
  constructor
  · rintro ⟨alike, -⟩ entry inside
    exact (encodedAlike_iff (wellFormed entry inside)).mp (alike entry inside)
  · intro encodable
    have alike : ∀ entry ∈ queue ++ [(sessionId, message)], EncodedAlike entry.2 :=
      fun entry inside => (encodedAlike_iff (wellFormed entry inside)).mpr
        (encodable entry inside)
    refine ⟨alike, mapM_ok _ fun entry inside => ?_⟩
    rw [(alike entry inside).1]
    rfl

theorem ascii_sent :
    EncodedAlike (.characters8 [0x6F, 0x6B]) ∧ EncodedAlike (.characters16 [0xE9]) ∧
      write [] 1 (.characters8 [0x6F, 0x6B]) =
        .ok [(1, utf8Encode (StringView.characters8 [0x6F, 0x6B]).text)] := by
  obtain ⟨ascii, wide, queue⟩ := stringViewToUtf8_iff [0x6F, 0x6B] (.characters16 [0xE9]) [] 1
    (.characters8 [0x6F, 0x6B])
  have encodable : Encodable (.characters8 [0x6F, 0x6B]) := by simp [Encodable]
  have wellFormed : (StringView.characters16 [0xE9]).WellFormed :=
    ⟨[Char.ofNat 0xE9], by decide +kernel⟩
  have sent := (queue (by simpa using characters8_wellFormed [0x6F, 0x6B])).mpr
    (by simpa using encodable)
  have short : (utf8Encode (decodeLossy [0xE9])).length = 2 := by decide +kernel
  have encodable16 : Encodable (.characters16 [0xE9]) := by
    rw [Encodable, short]
    omega
  exact ⟨ascii.mpr encodable, (wide wellFormed).mpr encodable16, sent.2⟩

/-- The letter é in 8 bits is sent as one byte, which is no UTF-8. -/
theorem latin1_copied :
    ¬ EncodedAlike (.characters8 [0xE9]) ∧
      stringViewToUtf8 (.characters8 [0xE9]) = .ok [0xE9] ∧
      stringViewToUtf8 (.characters16 [0xE9]) = .ok [0xC3, 0xA9] ∧
      write [] 1 (.characters8 [0xE9]) = .ok [(1, [0xE9])] ∧
      transcode [0xE9] = none := by
  have wide : stringViewToUtf8 (.characters16 [0xE9]) = .ok [0xC3, 0xA9] := by decide +kernel
  refine ⟨?_, rfl, wide, rfl, by decide +kernel⟩
  rintro ⟨copied, encoded⟩
  exact absurd (Except.ok.inj (copied.trans (encoded.symm.trans wide))) (by decide)

end V8Jsi.AgentWrite
