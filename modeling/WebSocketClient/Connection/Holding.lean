import WebSocketClient.Connection.Opening
import WebSocketClient.Connection.Receiving
import WebSocketClient.Connection.Sending

/-!
# Holding the lock

The steps of whoever holds the lock, one access to the stream each.  A caller
waits for the stream as long as it takes; the receiver's close frame and the
shutdown are given up at their deadline, which is looked at after the stream.
-/

namespace WebSocketClient

namespace Connection

def requestStep? (connection : Connection) (attempt : Attempt) (writing : Writing) :
    Option Connection :=
  match attempt.writer.output.step connection.sink writing with
  | .more output sink writing =>
      let attempt := { attempt with writer := { attempt.writer with output := output } }
      some { connection with sink := sink, holder := some (.requesting attempt writing) }
  | .done output sink =>
      let attempt := { attempt with writer := { attempt.writer with output := output } }
      some { connection with sink := sink, holder := some (.awaitingAnswer attempt) }
  | .failed error _ sink => some ({ connection with sink := sink }.failOpening error)
  | .waiting => none

def setOutput (connection : Connection) (writer : FrameWriter) (output : Output) (sink : Sink) :
    Connection :=
  { connection with
    sink := sink
    core := { connection.core with writer := some { writer with output := output } } }

def finishSending (connection : Connection) (sending : Sending) : Connection :=
  let connection :=
    connection.report (.frameSent sending.opcode sending.fin sending.length)
  { connection with
    core := { connection.core with streaming := sending.streamingAfter }
    holder := none }.finish none

def sendingStep? (connection : Connection) (sending : Sending) (writing : Writing) :
    Option Connection :=
  match connection.core.writer with
  | none => none
  | some writer =>
      match writer.output.step connection.sink writing with
      | .more output sink writing =>
          some { connection.setOutput writer output sink with
            holder := some (.sending sending writing) }
      | .done output sink => some ((connection.setOutput writer output sink).finishSending sending)
      | .failed error output sink =>
          some (((connection.setOutput writer output sink).report (.writeFailed error)).startTeardown
            (some error))
      | .waiting => none

def farewellStep? (connection : Connection) (writing : Writing) (deadline : Nat) :
    Option Connection :=
  match connection.core.writer with
  | none => none
  | some writer =>
      match writer.output.step connection.sink writing with
      | .more output sink writing =>
          some { connection.setOutput writer output sink with
            holder := some (.farewell writing deadline) }
      | .done output sink => some ((connection.setOutput writer output sink).startTeardown none)
      | .failed error output sink =>
          some (((connection.setOutput writer output sink).report (.closeNotSent error)).startTeardown
            none)
      | .waiting =>
          if deadline <= connection.clock then
            some ((connection.report .closeTimedOut).startTeardown none)
          else
            none

def leavingStep? (connection : Connection) (writer : FrameWriter) (writing : Writing)
    (deadline : Nat) (failure : Option Error) : Option Connection :=
  match writer.output.shutdownStep connection.sink writing with
  | .more output sink writing =>
      some { connection with
        sink := sink
        holder := some (.leaving { writer with output := output } writing deadline failure) }
  | .done _ sink => some ({ connection with sink := sink }.finishTeardown failure)
  | .failed _ _ sink => some ({ connection with sink := sink }.finishTeardown failure)
  | .waiting =>
      if deadline <= connection.clock then some (connection.finishTeardown failure) else none

/-- One step of the holder of the lock, or nothing while it has to wait. -/
def holderStep? (connection : Connection) (holder : Holder) : Option Connection :=
  match holder with
  | .requesting attempt writing => connection.requestStep? attempt writing
  | .awaitingAnswer attempt => connection.readAnswer? attempt
  | .sending sending writing => connection.sendingStep? sending writing
  | .farewell writing deadline => connection.farewellStep? writing deadline
  | .leaving writer writing deadline failure =>
      connection.leavingStep? writer writing deadline failure

end Connection

end WebSocketClient
