import Mathlib.Data.Nat.Bitwise

set_option autoImplicit false

/- The frame codec of src/inspector/inspector_socket.cpp. Bytes are the source's
`char` read as `unsigned char`, and `size_t` has 64 bits. An access that the
source makes outside its vector has no defined result; the model stops there. -/
namespace V8Jsi.WsFrame

/-- Undefined behaviour of a vector: a read past its end, or an erase past it. -/
inductive MemoryFault
  | readOutside (index : Nat)
  | eraseOutside (count : Nat)
  deriving DecidableEq, Repr

def readAt (buffer : List UInt8) (index : Nat) : Except MemoryFault UInt8 :=
  match buffer[index]? with
  | some byte => .ok byte
  | none => .error (.readOutside index)

inductive WsDecodeResult
  | frameOk
  | frameIncomplete
  | frameClose
  | frameError
  deriving DecidableEq, Repr

def kOpCodeText : UInt8 := 0x1
def kOpCodeClose : UInt8 := 0x8

def kFinalBit : UInt8 := 0x80
def kReserved1Bit : UInt8 := 0x40
def kReserved2Bit : UInt8 := 0x20
def kReserved3Bit : UInt8 := 0x10
def kOpCodeMask : UInt8 := 0xF
def kMaskBit : UInt8 := 0x80
def kPayloadLengthMask : UInt8 := 0x7F

def kMaxSingleBytePayloadLength : Nat := 125
def kTwoBytePayloadLengthField : Nat := 126
def kEightBytePayloadLengthField : Nat := 127
def kMaskingKeyWidthInBytes : Nat := 4

def maxPayloadLength : Nat := 0x7FFFFFFFFFFFFFFF
def sizeMax : Nat := 2 ^ 64 - 1

/-- Unsigned subtraction of two `size_t` values, which wraps below zero. -/
def subSizeT (left right : Nat) : Nat := (left + 2 ^ 64 - right) % 2 ^ 64

def hasBit (byte bit : UInt8) : Bool := byte &&& bit != 0

/-- The big-endian accumulation of the extended length, in 64 bits. -/
def readExtendedLength (buffer : List UInt8) : Nat → Nat → Nat → Except MemoryFault Nat
  | _, 0, length64 => .ok length64
  | it, count + 1, length64 => do
      let byte ← readAt buffer it
      readExtendedLength buffer (it + 1) count (((length64 <<< 8) % 2 ^ 64) ||| byte.toNat)

/-- What the length field leads to: a payload length with the position after the
field, or an early return. -/
inductive LengthField
  | known (payloadLength64 it : Nat)
  | stop (result : WsDecodeResult)
  deriving DecidableEq, Repr

def readLengthField (buffer : List UInt8) (secondByte : UInt8) :
    Except MemoryFault LengthField :=
  let length7 := (secondByte &&& kPayloadLengthMask).toNat
  if length7 > kMaxSingleBytePayloadLength then
    if length7 = kTwoBytePayloadLengthField ∨ length7 = kEightBytePayloadLengthField then
      let extendedPayloadLengthSize := if length7 = kTwoBytePayloadLengthField then 2 else 8
      if buffer.length - 2 < extendedPayloadLengthSize then
        .ok (.stop .frameIncomplete)
      else do
        let length64 ← readExtendedLength buffer 2 extendedPayloadLengthSize 0
        return .known length64 (2 + extendedPayloadLengthSize)
    else .ok (.stop .frameError)
  else .ok (.known length7 2)

/-- The unmasking loop, from payload index `i` with `remaining` bytes to go. -/
def unmask (buffer : List UInt8) (it : Nat) :
    Nat → Nat → List UInt8 → Except MemoryFault (List UInt8)
  | _, 0, output => .ok output
  | i, remaining + 1, output => do
      let masked ← readAt buffer (it + kMaskingKeyWidthInBytes + i)
      let key ← readAt buffer (it + i % kMaskingKeyWidthInBytes)
      unmask buffer it (i + 1) remaining (output ++ [masked ^^^ key])

/-- The results a decode leaves in its out parameters. -/
structure Decoded where
  result : WsDecodeResult
  bytesConsumed : Nat := 0
  output : List UInt8 := []
  compressed : Bool := false
  deriving DecidableEq, Repr

/-- The body of the decoder once the length field has been read. -/
def decodePayload (buffer : List UInt8) (closed compressed : Bool)
    (payloadLength it : Nat) : Except MemoryFault Decoded :=
  if payloadLength > maxPayloadLength ∨ payloadLength > sizeMax - kMaskingKeyWidthInBytes then
    .ok { result := .frameError, compressed }
  else if subSizeT buffer.length kMaskingKeyWidthInBytes < payloadLength then
    .ok { result := .frameIncomplete, compressed }
  else do
    let output ← unmask buffer it 0 payloadLength []
    return { result := if closed then .frameClose else .frameOk
             bytesConsumed := it + kMaskingKeyWidthInBytes + payloadLength
             output, compressed }

def decodeFrameHybi17 (buffer : List UInt8) (clientFrame : Bool) :
    Except MemoryFault Decoded :=
  if buffer.length < 2 then .ok { result := .frameIncomplete }
  else do
    let firstByte ← readAt buffer 0
    let secondByte ← readAt buffer 1
    let compressed := hasBit firstByte kReserved1Bit
    let opCode := firstByte &&& kOpCodeMask
    if !hasBit firstByte kFinalBit || hasBit firstByte kReserved2Bit ||
        hasBit firstByte kReserved3Bit then
      return { result := .frameError, compressed }
    else if opCode ≠ kOpCodeClose ∧ opCode ≠ kOpCodeText then
      return { result := .frameError, compressed }
    else if clientFrame && !hasBit secondByte kMaskBit then
      return { result := .frameError, compressed }
    else
      match ← readLengthField buffer secondByte with
      | .stop result => return { result, compressed }
      | .known payloadLength64 it =>
          decodePayload buffer (opCode == kOpCodeClose) compressed payloadLength64 it

end V8Jsi.WsFrame
