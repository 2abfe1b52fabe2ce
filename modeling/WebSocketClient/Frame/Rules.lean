import WebSocketClient.Config
import WebSocketClient.Frame.Header
import WebSocketClient.Role

/-!
# Rules for received frames

What a header must satisfy before its payload is read: masking by the peer's
role, then the size of control frames, then the configured limit.
-/

namespace WebSocketClient

def maxControlPayload : Nat := 125

namespace FrameHeader

/-- A frame is masked exactly if its sender is the client. -/
def checkMasking (role : Role) (header : FrameHeader) : Except Error Unit :=
  match role.expectsMasked, header.isMasked with
  | false, true => .error .maskedServerFrame
  | true, false => .error .unmaskedClientFrame
  | _, _ => .ok ()

def validate (role : Role) (limits : Limits) (header : FrameHeader) : Except Error Unit := do
  header.checkMasking role
  if header.opcode.isControl && maxControlPayload < header.payloadLength.toNat then
    throw (.controlFrameTooLarge header.payloadLength)
  limits.checkFrameSize header.payloadLength

end FrameHeader

end WebSocketClient
