import WebSocketClient.Frame.Header

/-!
# Frames

A frame with its payload unmasked, and its octets on the wire.
-/

namespace WebSocketClient

/-- One frame, its payload unmasked. -/
structure Frame where
  fin : Bool
  opcode : Opcode
  payload : Bytes
  deriving DecidableEq

namespace Frame

/-- The header of the frame when it is sent with this key. -/
def header (frame : Frame) (mask : Option MaskKey) : FrameHeader :=
  ⟨frame.fin, frame.opcode, UInt64.ofNat frame.payload.length, mask⟩

/-- Append a frame to a buffer: the header, then the payload, which is masked
where it stands, by words of this octet order. -/
def appendByWords (order : OctetOrder) (buffer : Bytes) (frame : Frame) (mask : Option MaskKey) :
    Bytes :=
  let start := buffer ++ (frame.header mask).encode
  match mask with
  | none => start ++ frame.payload
  | some key =>
      let whole := start ++ frame.payload
      whole.take start.length ++ key.applyByWords order (whole.drop start.length)

def appendTo (buffer : Bytes) (frame : Frame) (mask : Option MaskKey) : Bytes :=
  appendByWords .little buffer frame mask

def encode (frame : Frame) (mask : Option MaskKey) : Bytes :=
  appendTo [] frame mask

def payload? (frame : Frame) : Option Bytes :=
  if frame.payload.isEmpty then none else some frame.payload

end Frame

end WebSocketClient
