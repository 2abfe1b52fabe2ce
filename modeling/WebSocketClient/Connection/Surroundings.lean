import WebSocketClient.Connection.Basic

/-!
# The surroundings of a connection

What happens to a connection from outside while nobody moves in it: octets
arrive, time passes, the stream changes its mind about writes and flushes, and
its user registers a listener or gives it up.
-/

namespace WebSocketClient

namespace Connection

/-- Octets arrive, and perhaps the end of the stream; they are for whoever reads
the stream. -/
def supply (connection : Connection) (chunks : List Bytes) (ending : Option Ending) : Connection :=
  { connection with
    receiver := connection.receiver.map fun (receiver : Receiver) => receiver.arrive chunks ending
    holder := connection.holder.map fun (holder : Holder) => holder.arrive chunks ending }

def pass (connection : Connection) (milliseconds : Nat) : Connection :=
  { connection with clock := connection.clock + milliseconds }

def treatWrites (connection : Connection) (policy : WritePolicy) (flush : FlushAnswer) :
    Connection :=
  { connection with sink := { connection.sink with policy := policy, flush := flush } }

/-- Register another listener; an open connection keeps the one it has. -/
def setListener (connection : Connection) (listener : ListenerId) : Connection :=
  { connection with listener := some listener }

/-- The user gives the connection up.  Its receiver ends, unless somebody holds
the lock. -/
def giveUp (connection : Connection) : Connection :=
  let connection := { connection with isDropped := true }
  if connection.isFree then connection.releaseReceiver true else connection

end Connection

end WebSocketClient
