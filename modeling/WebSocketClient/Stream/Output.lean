import WebSocketClient.Error
import WebSocketClient.Stream.Sink

/-!
# Buffered output

Octets on their way to a stream pass through a buffer of bounded size.  Octets
that do not fit make the buffer empty itself first; octets that would fill it
alone go to the stream directly.  When the stream has taken everything it is
flushed.  A write is carried out in steps of one access to the stream each, so it
can wait at every access and go on later.
-/

namespace WebSocketClient

structure Output where
  capacity : Nat
  /-- The octets that the stream has not taken. -/
  buffer : Bytes := []
  deriving DecidableEq

/-- A write in progress: every octet is to reach the stream. -/
structure Writing where
  /-- The octets that neither the buffer nor the stream has taken. -/
  rest : Bytes
  /-- Whether the buffer is emptying itself to make room. -/
  draining : Bool := false
  deriving DecidableEq

inductive WriteStep where
  | more (output : Output) (sink : Sink) (writing : Writing)
  | done (output : Output) (sink : Sink)
  | failed (error : Error) (output : Output) (sink : Sink)
  | waiting

namespace Output

def ofCapacity (capacity : Nat) : Output :=
  ⟨max capacity 1, []⟩

/-- Whether the buffer has to be emptied before anything else can be done. -/
def mustDrain (output : Output) (writing : Writing) : Bool :=
  writing.draining || writing.rest.isEmpty
    || output.capacity < output.buffer.length + writing.rest.length

def drain (output : Output) (sink : Sink) (writing : Writing) : WriteStep :=
  match sink.write output.buffer with
  | (.taken [], sink) => .failed (.transport "failed to write the buffered data") output sink
  | (.taken front, sink) =>
      let buffer := output.buffer.drop front.length
      .more { output with buffer := buffer } sink
        { writing with draining := !buffer.isEmpty }
  | (.failed reason, sink) => .failed (.transport reason) output sink
  | (.waiting, _) => .waiting

def bypass (output : Output) (sink : Sink) (writing : Writing) : WriteStep :=
  match sink.write writing.rest with
  | (.taken [], sink) => .failed (.transport "write zero") output sink
  | (.taken front, sink) =>
      .more output sink { writing with rest := writing.rest.drop front.length }
  | (.failed reason, sink) => .failed (.transport reason) output sink
  | (.waiting, _) => .waiting

/-- One step of handing everything over to the stream. -/
def handOver (output : Output) (sink : Sink) (writing : Writing) : WriteStep :=
  if !output.buffer.isEmpty && output.mustDrain writing then
    output.drain sink writing
  else if writing.rest.isEmpty then
    .done output sink
  else if Bytes.hasAtLeast output.capacity writing.rest then
    output.bypass sink writing
  else
    .more { output with buffer := output.buffer ++ writing.rest } sink { writing with rest := [] }

/-- Flush the stream, which has taken everything. -/
def flushStep (output : Output) (sink : Sink) : WriteStep :=
  match sink.flush with
  | .flushed => .done output sink
  | .failed reason => .failed (.transport reason) output sink
  | .waiting => .waiting

/-- One step of a write: octets are handed over, and at last the stream is flushed. -/
def step (output : Output) (sink : Sink) (writing : Writing) : WriteStep :=
  match output.handOver sink writing with
  | .done output sink => output.flushStep sink
  | other => other

/-- One step of emptying the buffer and then shutting the stream down, which is not
flushed before. -/
def shutdownStep (output : Output) (sink : Sink) (writing : Writing) : WriteStep :=
  match output.handOver sink writing with
  | .done output sink =>
      match sink.shutdown? with
      | some sink => .done output sink
      | none => .waiting
  | other => other

/-- A bound on the steps of a write: octets go from the rest to the buffer and
from there to the stream. -/
def work (output : Output) (writing : Writing) : Nat :=
  2 * writing.rest.length + output.buffer.length + 1

/-- What is left of a write after its first steps. -/
structure Progress where
  output : Output
  sink : Sink
  writing : Writing
  /-- Nothing while the write has to wait. -/
  outcome : Option (Except Error Unit)

def runFor (step : Output -> Sink -> Writing -> WriteStep) : (fuel : Nat) -> Output -> Sink ->
    Writing -> Progress
  | 0, output, sink, writing => ⟨output, sink, writing, none⟩
  | fuel + 1, output, sink, writing =>
      match step output sink writing with
      | .more output sink writing => runFor step fuel output sink writing
      | .done output sink => ⟨output, sink, ⟨[], false⟩, some (.ok ())⟩
      | .failed error output sink => ⟨output, sink, writing, some (.error error)⟩
      | .waiting => ⟨output, sink, writing, none⟩

/-- Write octets until all have reached the stream and it is flushed, the write
fails or has to wait. -/
def write (output : Output) (sink : Sink) (octets : Bytes) : Progress :=
  let writing : Writing := ⟨octets, false⟩
  runFor step (output.work writing) output sink writing

def shutdown (output : Output) (sink : Sink) : Progress :=
  let writing : Writing := ⟨[], false⟩
  runFor shutdownStep (output.work writing) output sink writing

end Output

end WebSocketClient
