import WebSocketClient.Close.Frame
import WebSocketClient.Frame
import WebSocketClient.Frame.Rules
import WebSocketClient.Message

/-!
# Calls

The calls that send a frame: the payload a call asks for, judged by its arguments
alone, and the frame it becomes, which depends on whether an outgoing sequence is
in progress.
-/

namespace WebSocketClient

inductive Call where
  | send (message : Message)
  /-- Send one chunk of a message; later chunks of a sequence carry no type. -/
  | stream (chunk : Message) (final : Bool)
  | ping (data : Bytes)
  | pong (data : Bytes)
  | close (code : CloseCode := .normal) (reason : String := "")
  deriving DecidableEq

namespace Call

def controlPayload (opcode : Opcode) (data : Bytes) : Except Error Bytes :=
  if maxControlPayload < data.length then
    let name := opcode.name
    let length := data.length
    .error (.usage s!"{name} payload of {length} bytes exceeds {maxControlPayload} bytes")
  else
    .ok data

def payload : Call -> Except Error Bytes
  | send message => .ok message.payload
  | stream chunk _ => .ok chunk.payload
  | ping data => controlPayload .ping data
  | pong data => controlPayload .pong data
  | close code reason => CloseFrame.toPayload ⟨code, reason⟩

/-- The frame of a call, given its payload and whether an outgoing sequence is in
progress, and whether one is after it. -/
def frame (call : Call) (payload : Bytes) (streaming : Bool) : Except Error (Frame × Bool) :=
  match call with
  | send message =>
      if streaming then
        .error (.usage "cannot send unfragmented payload data while in a streaming sequence")
      else
        .ok (⟨true, message.opcode, payload⟩, false)
  | stream chunk final =>
      .ok (⟨final, if streaming then .continuation else chunk.opcode, payload⟩, !final)
  | ping _ => .ok (⟨true, .ping, payload⟩, streaming)
  | pong _ => .ok (⟨true, .pong, payload⟩, streaming)
  | close _ _ => .ok (⟨true, .close, payload⟩, streaming)

end Call

end WebSocketClient
