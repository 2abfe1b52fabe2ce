import WebSocketClient.Text.Decoder

/-!
# Close frames

The payload of a close frame: nothing, or a code of two octets and a reason in
UTF-8.  What is sent is checked for its size and for codes that are never sent;
what is received is checked for its form only.
-/

namespace WebSocketClient

structure CloseFrame where
  code : CloseCode
  reason : String
  deriving DecidableEq

namespace CloseFrame

/-- The longest reason, in octets, that fits into a control frame. -/
def maxReasonLength : Nat := 123

def encodeCode (code : CloseCode) : Bytes :=
  Bytes.bigEndian 2 code.toUInt16.toNat

def toPayload (frame : CloseFrame) : Except Error Bytes :=
  let length := Utf8.length frame.reason
  let value := frame.code.toUInt16.toNat
  if maxReasonLength < length then
    .error (.usage s!"close reason is {length} bytes, at most {maxReasonLength} allowed")
  else if frame.code.isReserved then
    .error (.usage s!"close code {value} must not be sent")
  else
    .ok (encodeCode frame.code ++ Utf8.encode frame.reason)

/-- The code and the reason of a received payload; an empty payload has
neither. -/
def ofPayload : Bytes -> Except Error (Option CloseFrame)
  | [] => .ok none
  | [_] => .error (.protocolViolation "close frame payload of one byte")
  | high :: low :: reason => do
      let text ← decodeText reason
      return some ⟨.ofUInt16 (UInt16.ofNat (Bytes.ofBigEndian [high, low])), text⟩

end CloseFrame

end WebSocketClient
