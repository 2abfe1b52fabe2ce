import WebSocketClient.Close.Frame
import WebSocketClient.Event
import WebSocketClient.Frame.Reading

/-!
# Assembly

How the frames of a server become events.  A message in several frames is a
sequence: its first frame names the kind of all its chunks, only continuation
frames may go on with it, and its final frame ends it.  Control frames may stand
anywhere and leave the sequence as it is.
-/

namespace WebSocketClient

/-- A message of which more frames are to come. -/
inductive Sequence where
  | text (decoder : TextDecoder)
  | binary
  deriving DecidableEq

namespace Sequence

def chunk (sequence : Sequence) (payload : Bytes) (final : Bool) :
    Except Error (Message × Sequence) :=
  match sequence with
  | text decoder =>
      match decoder.decode payload final with
      | (.ok content, decoder) => .ok (.text content, .text decoder)
      | (.error error, _) => .error error
  | binary => .ok (.binary payload, .binary)

end Sequence

structure Assembly where
  sequence : Option Sequence := none
  deriving DecidableEq

inductive Incoming where
  | event (event : Event)
  | close (frame : Option CloseFrame)
  deriving DecidableEq

namespace Assembly

/-- Whether a frame with this opcode may come now. -/
def judgeOpcode (assembly : Assembly) (opcode : Opcode) : Except Error Unit :=
  match assembly.sequence, opcode with
  | none, .continuation =>
      .error (.protocolViolation "received a continuation frame outside a streaming sequence")
  | some _, .text | some _, .binary =>
      let name := opcode.name
      .error (.protocolViolation
        s!"received a {name} frame while a streaming sequence is in progress")
  | _, _ => .ok ()

/-- Read the next frame.  Its first octet is judged before the rest is read. -/
def readFrame (limits : Limits) (assembly : Assembly) (source : Source) : Reading Frame :=
  source.octet.andThen fun first source =>
  let judged := do
    let (_, opcode) ← FrameHeader.decodeFirst first
    assembly.judgeOpcode opcode
  (Reading.ofExcept judged source).andThen fun _ source =>
  Frame.readAfter .client limits first source

def extend (sequence : Sequence) (frame : Frame) : Except Error (Incoming × Assembly) := do
  let (chunk, sequence) ← sequence.chunk frame.payload frame.fin
  return (.event (.chunk chunk frame.fin), ⟨if frame.fin then none else some sequence⟩)

/-- What a frame means, and the sequence in progress after it. -/
def accept (assembly : Assembly) (frame : Frame) : Except Error (Incoming × Assembly) :=
  match frame.opcode with
  | .continuation => extend (assembly.sequence.getD .binary) frame
  | .text =>
      if frame.fin then do
        let content ← decodeText frame.payload
        return (.event (.message (.text content)), assembly)
      else
        extend (.text .empty) frame
  | .binary =>
      if frame.fin then
        .ok (.event (.message (.binary frame.payload)), assembly)
      else
        extend .binary frame
  | .close => do
      let close ← CloseFrame.ofPayload frame.payload
      return (.close close, assembly)
  | .ping => .ok (.event (.ping frame.payload?), assembly)
  | .pong => .ok (.event (.pong frame.payload?), assembly)

end Assembly

end WebSocketClient
