import WebSocketClient.Frame
import WebSocketClient.Frame.Rules
import WebSocketClient.Stream.Source

/-!
# Reading frames

A frame is read field by field, and every check is made as soon as the octets it
needs are there; the payload is read after the header has been judged.  A stream
that ends inside a frame ends just as one that ends between two frames.
-/

namespace WebSocketClient

namespace Frame

/-- Read the rest of a frame behind its first octet. -/
def readAfter (role : Role) (limits : Limits) (first : UInt8) (source : Source) : Reading Frame :=
  (Reading.ofExcept (FrameHeader.decodeFirst first) source).andThen fun (fin, opcode) source =>
  source.octet.andThen fun second source =>
  let (masked, field) := FrameHeader.decodeSecond second
  (source.exactly field.extraOctets).andThen fun extended source =>
  (Reading.ofExcept (field.decode extended) source).andThen fun payloadLength source =>
  (source.exactly (if masked then 4 else 0)).andThen fun key source =>
  let mask := if masked then MaskKey.ofBytes? key else none
  let header : FrameHeader := ⟨fin, opcode, payloadLength, mask⟩
  (Reading.ofExcept (header.validate role limits) source).andThen fun _ source =>
  (source.exactly payloadLength.toNat).andThen fun payload source =>
  let payload := match mask with
    | some key => key.applyByWords .little payload
    | none => payload
  .done ⟨fin, opcode, payload⟩ source

def read (role : Role) (limits : Limits) (source : Source) : Reading Frame :=
  source.octet.andThen fun first source => readAfter role limits first source

end Frame

end WebSocketClient
