import Mathlib.Data.List.Basic

set_option autoImplicit false

/- The string conversions of inspector_utils.cpp. -/
namespace V8Jsi.InspectorUtils

def kUtf8OneByteBoundary : UInt16 := 0x80
def kUtf8TwoBytesBoundary : UInt16 := 0x800
def kUtf16HighSubLowBoundary : UInt16 := 0xD800
def kUtf16HighSubHighBoundary : UInt16 := 0xDC00
def kUtf16LowSubHighBoundary : UInt16 := 0xE000

def isHighSurrogate (ch : UInt16) : Bool :=
  kUtf16HighSubLowBoundary ≤ ch && ch < kUtf16HighSubHighBoundary

def isLowSurrogate (ch : UInt16) : Bool :=
  kUtf16HighSubHighBoundary ≤ ch && ch < kUtf16LowSubHighBoundary

/-- A marker and payload bits, truncated to a byte. -/
def utf8Byte (marker : UInt8) (bits : UInt16) : UInt8 := marker ||| bits.toUInt8

def twoBytes (ch : UInt16) : List UInt8 :=
  [utf8Byte 0xC0 (ch >>> 6), utf8Byte 0x80 (ch &&& 0x3F)]

def threeBytes (ch : UInt16) : List UInt8 :=
  [utf8Byte 0xE0 (ch >>> 12), utf8Byte 0x80 ((ch >>> 6) &&& 0x3F), utf8Byte 0x80 (ch &&& 0x3F)]

def fourBytes (ch ch2 : UInt16) : List UInt8 :=
  let truncByte : UInt16 := ((ch >>> 6) &&& 0x0F) + 1
  [utf8Byte 0xF0 (truncByte >>> 2),
    utf8Byte 0x80 (((truncByte &&& 0x03) <<< 4) ||| ((ch >>> 2) &&& 0x0F)),
    utf8Byte 0x80 (((ch &&& 0x03) <<< 4) ||| ((ch2 >>> 6) &&& 0x0F)),
    utf8Byte 0x80 (ch2 &&& 0x3F)]

def utf16toUTF8 : List UInt16 → List UInt8
  | [] => []
  | ch :: rest =>
      if ch < kUtf8OneByteBoundary then (ch &&& 0x7F).toUInt8 :: utf16toUTF8 rest
      else if ch < kUtf8TwoBytesBoundary then twoBytes ch ++ utf16toUTF8 rest
      else
        match rest with
        | [] => threeBytes ch
        | ch2 :: more =>
            if isHighSurrogate ch && isLowSurrogate ch2 then
              fourBytes ch ch2 ++ utf16toUTF8 more
            else threeBytes ch ++ utf16toUTF8 (ch2 :: more)

/-- The exceptions `Utf8ToUtf16` throws. -/
inductive ConversionError
  | overflowError
  | runtimeError
  deriving DecidableEq, Repr

def intMax : Nat := 0x7FFFFFFF

/-- `MultiByteToWideChar` for UTF-8 with `MB_ERR_INVALID_CHARS` is a function of
the system. It has no result on input it refuses. -/
def utf8ToUtf16 (multiByteToWideChar : List UInt8 → Option (List UInt16)) (utf8 : List UInt8) :
    Except ConversionError (List UInt16) :=
  if utf8.length = 0 then .ok []
  else if utf8.length > intMax then .error .overflowError
  else
    match multiByteToWideChar utf8 with
    | none | some [] => .error .runtimeError
    | some utf16 => .ok utf16

/-- On ASCII text the conversion widens every byte. -/
def WidensAscii (multiByteToWideChar : List UInt8 → Option (List UInt16)) : Prop :=
  ∀ utf8, utf8 ≠ [] → (∀ byte ∈ utf8, byte < 0x80) →
    multiByteToWideChar utf8 = some (utf8.map UInt8.toUInt16)

/-- The conversion on ASCII text alone, for concrete runs. -/
def asciiToWideChar (utf8 : List UInt8) : Option (List UInt16) :=
  if utf8.all (· < 0x80) then some (utf8.map UInt8.toUInt16) else none

theorem asciiToWideChar_widens : WidensAscii asciiToWideChar := by
  intro utf8 _ ascii
  have all : utf8.all (· < 0x80) = true := by simpa using ascii
  simp only [asciiToWideChar, all, ↓reduceIte]

theorem utf8ToUtf16_ascii {multiByteToWideChar : List UInt8 → Option (List UInt16)}
    (widens : WidensAscii multiByteToWideChar) (utf8 : List UInt8) (nonempty : utf8 ≠ [])
    (fits : utf8.length ≤ intMax) (ascii : ∀ byte ∈ utf8, byte < 0x80) :
    utf8ToUtf16 multiByteToWideChar utf8 = .ok (utf8.map UInt8.toUInt16) := by
  have present : ¬ utf8.length = 0 := by rwa [List.length_eq_zero_iff]
  unfold utf8ToUtf16
  rw [ite_cond_eq_false _ _ (eq_false present),
    ite_cond_eq_false _ _ (eq_false (show ¬ utf8.length > intMax by omega)),
    widens utf8 nonempty ascii]
  cases utf8 with
  | nil => exact absurd rfl nonempty
  | cons byte rest => rfl

end V8Jsi.InspectorUtils
