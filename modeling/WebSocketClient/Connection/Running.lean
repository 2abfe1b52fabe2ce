import WebSocketClient.Connection.Holding
import WebSocketClient.Connection.Surroundings

/-!
# Running a connection

The operations on a connection as its user and its surroundings see them.  After
each of them the connection runs until nothing moves any more: the holder of the
lock first, then the receiver.  Time stands still while it runs.
-/

namespace WebSocketClient

/-!
## Until nothing moves
-/

/-- A bound on the steps that are left to the holder of the lock. -/
def Holder.work : Holder -> Nat
  | .requesting attempt writing => attempt.writer.output.work writing + 2 * attempt.source.length
  | .awaitingAnswer attempt => 2 * attempt.source.length
  | .sending _ writing => 2 * writing.rest.length
  | .farewell writing _ => 2 * writing.rest.length
  | .leaving writer writing _ _ => writer.output.work writing

namespace Connection

/-- One step of whoever can make one, the holder of the lock first. -/
def step? (connection : Connection) : Option Connection :=
  (connection.holder.bind connection.holderStep?) <|>
    (connection.receiver.bind connection.receiverStep?)

def runFor : (fuel : Nat) -> Connection -> Connection
  | 0, connection => connection
  | fuel + 1, connection =>
      match connection.step? with
      | some next => runFor fuel next
      | none => connection

/-- A bound on the steps that a connection can make: at most three for each
frame, whose octets are at least two; then those of a close frame and a
shutdown. -/
def work (connection : Connection) : Nat :=
  let buffered := match connection.core.writer with
    | some writer => writer.output.buffer.length
    | none => 0
  let received := match connection.receiver with
    | some receiver => receiver.source.length
    | none => 0
  (connection.holder.map Holder.work).getD 0 + 2 * received + 3 * buffered + 400

def settle (connection : Connection) : Connection :=
  runFor connection.work connection

/-!
## Waiting for the lock
-/

/-- Let time pass until the holder of the lock gives up what it is waiting
for. -/
def expire (connection : Connection) : Connection :=
  match connection.holder.bind Holder.deadline? with
  | some deadline => (connection.pass (deadline - connection.clock)).settle
  | none => connection

/-- Wait for the lock.  The receiver may have two waits in front of it: for its
close frame and for the shutdown. -/
def awaitLock (connection : Connection) : Connection :=
  let expireUnlessFree (connection : Connection) : Connection :=
    if connection.isFree then connection else connection.expire
  expireUnlessFree (expireUnlessFree connection)

/-!
## Calls
-/

/-- Open a connection, over a stream that is brought along or over one that the network
gives. -/
def connect (connection : Connection) (opening : Opening) (dial : Dial := .unknownHost) :
    Connection :=
  let connection := connection.awaitLock
  if connection.isFree then (connection.startOpening opening dial).settle else connection

def call (connection : Connection) (call : Call) : Connection :=
  match call.payload with
  | .error error => (connection.finish (some error)).settle
  | .ok payload =>
      let connection := connection.awaitLock
      if connection.isFree then (connection.startCall call payload).settle else connection

def drop (connection : Connection) : Connection :=
  connection.giveUp.settle

/-!
## The surroundings
-/

def arrive (connection : Connection) (chunks : List Bytes) (ending : Option Ending) : Connection :=
  (connection.supply chunks ending).settle

def advance (connection : Connection) (milliseconds : Nat) : Connection :=
  (connection.pass milliseconds).settle

def setPolicy (connection : Connection) (policy : WritePolicy) : Connection :=
  (connection.treatWrites policy connection.sink.flush).settle

end Connection

end WebSocketClient
