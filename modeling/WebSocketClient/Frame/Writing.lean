import WebSocketClient.Frame
import WebSocketClient.Role
import WebSocketClient.Stream.Output

/-!
# Writing frames

The writer of one end of a stream.  Each frame that a client writes is masked
with a fresh key; the key is used up as soon as the write starts.
-/

namespace WebSocketClient

structure FrameWriter where
  role : Role
  keys : MaskKeys
  output : Output
  deriving DecidableEq

namespace FrameWriter

/-- The key of the next frame, if it is masked. -/
def nextKey (writer : FrameWriter) : Option MaskKey :=
  if writer.role.mustMask then some writer.keys.next.1 else none

/-- The octets of the next frame, and the writer once they are under way. -/
def start (writer : FrameWriter) (frame : Frame) : Bytes × FrameWriter :=
  (frame.encode writer.nextKey,
    if writer.role.mustMask then { writer with keys := writer.keys.next.2 } else writer)

/-- Write a frame until all its octets have reached the stream, the write fails
or has to wait. -/
def write (writer : FrameWriter) (sink : Sink) (frame : Frame) : Output.Progress × FrameWriter :=
  let (octets, writer) := writer.start frame
  let progress := writer.output.write sink octets
  (progress, { writer with output := progress.output })

end FrameWriter

end WebSocketClient
