import WebSocketClient.Diagnostic
import WebSocketClient.Receiver.Assembly

/-!
# Receivers

The background task that reads the frames of the server.  Round after round it
looks at its stop flag, reads a frame and tells the listener what came; it never
writes.  When its loop has ended it knows why, and leaves the rest to the
connection.
-/

namespace WebSocketClient

/-- A listener, by its number. -/
abbrev ListenerId := Nat

inductive Outcome where
  /-- A close frame came; `reply` says whether it answers the client's. -/
  | closeReceived (frame : Option CloseFrame) (reply : Bool)
  | endOfStream
  | stopped
  | failed (error : Error)
  deriving DecidableEq

inductive ReceiverPhase where
  /-- It looks whether it was told to stop. -/
  | checking
  | reading
  /-- It waits for octets. -/
  | parked
  | delivering (event : Event)
  /-- Its loop has ended, and it takes the lock to tear the connection down. -/
  | exiting (outcome : Outcome)
  /-- It holds the lock. -/
  | closing
  /-- It has given the lock back and tells the listener of the end. -/
  | notifying (listener : ListenerId)
  | finished
  deriving DecidableEq

structure Receiver where
  phase : ReceiverPhase := .checking
  source : Source
  assembly : Assembly := {}
  listener : Option ListenerId
  /-- The receiver is to stop before its next read. -/
  stop : Bool := false
  /-- A close frame was sent, so the next one is the answer. -/
  awaitingClose : Bool := false
  /-- The receiver ends as soon as it has to wait. -/
  aborted : Bool := false
  deriving DecidableEq

inductive Signal where
  | diagnostic (diagnostic : Diagnostic)
  | event (event : Event)
  deriving DecidableEq

namespace Receiver

/-- End the receiver at its next wait, which is now if it is waiting. -/
def abort (receiver : Receiver) : Receiver :=
  match receiver.phase with
  | .parked => { receiver with phase := .finished, aborted := true }
  | _ => { receiver with aborted := true }

def arrive (receiver : Receiver) (chunks : List Bytes) (ending : Option Ending) : Receiver :=
  { receiver with
    source := receiver.source.extend chunks ending
    phase := match receiver.phase with
      | .parked => .reading
      | phase => phase }

def isAlive (receiver : Receiver) : Bool :=
  receiver.phase ≠ .finished

def holdsStream (receiver : Receiver) : Bool :=
  match receiver.phase with
  | .checking | .reading | .parked | .delivering _ => true
  | .exiting _ | .closing | .notifying _ | .finished => false

/-!
## The loop
-/

def takeFrame (receiver : Receiver) (frame : Frame) (rest : Source) : Receiver × List Signal :=
  let received := .diagnostic (.frameReceived frame.opcode frame.fin frame.payload.length)
  match receiver.assembly.accept frame with
  | .error error => ({ receiver with phase := .exiting (.failed error) }, [received])
  | .ok (.close close, _) =>
      ({ receiver with phase := .exiting (.closeReceived close receiver.awaitingClose) },
        [received, .diagnostic (.closeReceived close)])
  | .ok (.event event, assembly) =>
      ({ receiver with phase := .delivering event, assembly := assembly, source := rest },
        [received])

def readFrame (limits : Limits) (receiver : Receiver) : Receiver × List Signal :=
  match receiver.assembly.readFrame limits receiver.source with
  | .done frame rest => receiver.takeFrame frame rest
  | .ended _ => ({ receiver with phase := .exiting .endOfStream }, [])
  | .failed error _ => ({ receiver with phase := .exiting (.failed error) }, [])
  | .waiting =>
      ({ receiver with phase := if receiver.aborted then .finished else .parked }, [])

/-- One step of the loop, or nothing while the receiver has to wait and once its
loop has ended. -/
def step? (limits : Limits) (receiver : Receiver) : Option (Receiver × List Signal) :=
  match receiver.phase with
  | .checking =>
      some ({ receiver with
        phase := if receiver.stop then .exiting .stopped else .reading }, [])
  | .reading => some (receiver.readFrame limits)
  | .delivering event => some ({ receiver with phase := .checking }, [.event event])
  | .parked | .exiting _ | .closing | .notifying _ | .finished => none

end Receiver

end WebSocketClient
