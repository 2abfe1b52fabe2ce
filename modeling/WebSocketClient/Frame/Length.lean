import WebSocketClient.Bytes
import WebSocketClient.Error

/-!
# Payload lengths

The second octet of a frame header carries a payload length up to 125 or says
how many octets of length follow.  A length is written in the shortest form;
reading accepts every form, except a 64-bit length with its top bit set.
-/

namespace WebSocketClient

/-- Where the payload length of a frame stands. -/
inductive LengthField where
  | inline (length : UInt8)
  | extended16
  | extended64
  deriving DecidableEq

namespace LengthField

/-- The shortest form of a length. -/
def forLength (length : UInt64) : LengthField :=
  if length <= 125 then .inline length.toUInt8
  else if length <= 0xFFFF then .extended16
  else .extended64

def extraOctets : LengthField -> Nat
  | inline _ => 0
  | extended16 => 2
  | extended64 => 8

def indicator : LengthField -> UInt8
  | inline length => length
  | extended16 => 126
  | extended64 => 127

/-- The form that seven bits announce. -/
def ofIndicator (bits : UInt8) : LengthField :=
  if bits = 126 then .extended16
  else if bits = 127 then .extended64
  else .inline bits

/-- The octets that follow the header octet for a length in this form. -/
def extension (field : LengthField) (length : UInt64) : Bytes :=
  match field with
  | inline _ => []
  | extended16 => Bytes.bigEndian 2 length.toNat
  | extended64 => Bytes.bigEndian 8 length.toNat

def decode (field : LengthField) (extended : Bytes) : Except Error UInt64 :=
  if extended.length ≠ field.extraOctets then
    let wanted := field.extraOctets
    let present := extended.length
    .error (.protocolViolation s!"expected {wanted} extended length bytes, got {present}")
  else
    match field with
    | inline length => .ok length.toUInt64
    | extended16 => .ok (UInt64.ofNat (Bytes.ofBigEndian extended))
    | extended64 =>
        let length := UInt64.ofNat (Bytes.ofBigEndian extended)
        if length >>> 63 = 0 then
          .ok length
        else
          .error (.protocolViolation "most significant bit of 64-bit payload length is set")

end LengthField

end WebSocketClient
