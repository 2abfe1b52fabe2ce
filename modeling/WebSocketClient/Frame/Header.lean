import WebSocketClient.Frame.Length
import WebSocketClient.Mask
import WebSocketClient.Opcode

/-!
# Frame headers

A header is two octets, up to eight octets of length, and the masking key of a
masked frame.  The fields are decoded one after another, so a reader never looks
further ahead than the field at hand; `FrameHeader.parse` chains the same steps
over octets in memory.
-/

namespace WebSocketClient

structure FrameHeader where
  fin : Bool
  opcode : Opcode
  payloadLength : UInt64
  mask : Option MaskKey
  deriving DecidableEq

namespace FrameHeader

/-- The final bit of the first octet, the mask bit of the second one. -/
def topBit : UInt8 := 0x80

def reservedBits : UInt8 := 0x70

def isMasked (header : FrameHeader) : Bool :=
  header.mask.isSome

def encodedLength (header : FrameHeader) : Nat :=
  2 + (LengthField.forLength header.payloadLength).extraOctets + (if header.isMasked then 4 else 0)

/-- The octets of a header, with the length in its shortest form. -/
def encode (header : FrameHeader) : Bytes :=
  let field := LengthField.forLength header.payloadLength
  let first := header.opcode.toUInt8 ||| (if header.fin then topBit else 0)
  let second := field.indicator ||| (if header.isMasked then topBit else 0)
  first :: second ::
    (field.extension header.payloadLength ++ (header.mask.map MaskKey.toBytes).getD [])

/-- The final bit and the opcode of the first octet.  Reserved bits are an
error before the opcode is looked at, and a control frame is never
fragmented. -/
def decodeFirst (octet : UInt8) : Except Error (Bool × Opcode) := do
  if octet &&& reservedBits ≠ 0 then
    throw .reservedBitsSet
  let fin := octet &&& topBit != 0
  let opcode ← Opcode.ofUInt8 (octet &&& 0x0F)
  if opcode.isControl && !fin then
    throw .fragmentedControlFrame
  return (fin, opcode)

def decodeSecond (octet : UInt8) : Bool × LengthField :=
  (octet &&& topBit != 0, LengthField.ofIndicator (octet &&& 0x7F))

/-- The header at the front of an octet string with the number of octets it
takes, or nothing while it is not complete.  The first octet is judged once two
octets are there, the length once the whole header is. -/
def parse : Bytes -> Except Error (Option (FrameHeader × Nat))
  | first :: second :: rest => do
      let (fin, opcode) ← decodeFirst first
      let (masked, field) := decodeSecond second
      let extra := field.extraOctets
      let keyLength := if masked then 4 else 0
      if rest.length < extra + keyLength then
        return none
      let payloadLength ← field.decode (rest.take extra)
      let mask := if masked then MaskKey.ofBytes? (rest.drop extra) else none
      return some (⟨fin, opcode, payloadLength, mask⟩, 2 + extra + keyLength)
  | _ => .ok none

end FrameHeader

end WebSocketClient
