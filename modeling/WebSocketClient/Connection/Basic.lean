import WebSocketClient.Call
import WebSocketClient.Connection.State
import WebSocketClient.Frame.Writing
import WebSocketClient.Receiver

/-!
# Connections

A connection between two of its steps.  Callers and the receiver take turns
under one lock: whoever holds it owns the core, and a write that has to wait
keeps the lock.  The receiver reads and delivers without the lock and takes it
once, to tear the connection down.  Everything that can be observed from
outside, apart from the octets on the stream, is kept in the journal.
-/

namespace WebSocketClient

/-!
## The journal
-/

/-- A frame on its way to the server. -/
structure Transmission where
  /-- The call that sends the frame; the receiver's close frame has none. -/
  call : Option Call
  frame : Frame
  mask : Option MaskKey
  deriving DecidableEq

def Transmission.octets (transmission : Transmission) : Bytes :=
  transmission.frame.encode transmission.mask

inductive Entry where
  | callback (listener : ListenerId) (event : Event)
  | diagnostic (diagnostic : Diagnostic)
  | began (octets : Bytes)
  /-- The octets of a frame were handed to the output. -/
  | transmitting (transmission : Transmission)
  /-- A call came back to its caller, with an error if it failed. -/
  | returned (failure : Option Error)
  deriving DecidableEq

/-!
## Work under the lock
-/

structure Attempt where
  writer : FrameWriter
  source : Source
  expectedAccept : String
  deriving DecidableEq

structure Sending where
  opcode : Opcode
  fin : Bool
  length : Nat
  /-- Whether an outgoing sequence is in progress once the frame is sent. -/
  streamingAfter : Bool
  deriving DecidableEq

/-- What the holder of the lock is doing. -/
inductive Holder where
  | requesting (attempt : Attempt) (writing : Writing)
  | awaitingAnswer (attempt : Attempt)
  | sending (sending : Sending) (writing : Writing)
  /-- The receiver writes a close frame, at most until the deadline. -/
  | farewell (writing : Writing) (deadline : Nat)
  /-- The stream is shut down, at most until the deadline: after a caller's
  failed write, or by the receiver. -/
  | leaving (writer : FrameWriter) (writing : Writing) (deadline : Nat) (failure : Option Error)
  deriving DecidableEq

namespace Holder

def arrive (holder : Holder) (chunks : List Bytes) (ending : Option Ending) : Holder :=
  match holder with
  | requesting attempt writing =>
      requesting { attempt with source := attempt.source.extend chunks ending } writing
  | awaitingAnswer attempt =>
      awaitingAnswer { attempt with source := attempt.source.extend chunks ending }
  | sending _ _ | farewell _ _ | leaving _ _ _ _ => holder

/-- When the holder gives up what it is waiting for. -/
def deadline? : Holder -> Option Nat
  | farewell _ deadline | leaving _ _ deadline _ => some deadline
  | requesting _ _ | awaitingAnswer _ | sending _ _ => none

end Holder

/-!
## The whole connection
-/

/-- What the lock protects. -/
structure Core where
  state : ConnectionState := .disconnected
  writer : Option FrameWriter := none
  streaming : Bool := false
  /-- Whether the receiver's flags are at hand. -/
  holdsControl : Bool := false
  /-- Whether the receiver can be aborted. -/
  holdsReceiver : Bool := false
  /-- The listener that is still to be told of the end. -/
  listener : Option ListenerId := none
  deriving DecidableEq

/-- A receiver that the core lets go of. -/
def Core.release (core : Core) (abort : Bool) (receiver : Receiver) : Receiver :=
  let stopped := { receiver with stop := core.holdsControl || receiver.stop }
  if core.holdsReceiver && abort then stopped.abort else stopped

structure Connection where
  config : Config := {}
  offered : List String := []
  listener : Option ListenerId := none
  /-- Whether the connection can be used; readable without the lock. -/
  isConnected : Bool := false
  /-- The sub-protocols agreed on, once the opening handshake is complete. -/
  negotiated : Option (List String) := none
  core : Core := {}
  holder : Option Holder := none
  receiver : Option Receiver := none
  /-- The outgoing side of the stream of the last opening handshake. -/
  sink : Sink := {}
  /-- The time in milliseconds. -/
  clock : Nat := 0
  /-- What happened, last thing first. -/
  journal : List Entry := []
  /-- Whether the caller has given the connection up. -/
  isDropped : Bool := false
  deriving DecidableEq

namespace Connection

def isFree (connection : Connection) : Bool :=
  connection.holder.isNone

/-- Write down what happened, last thing first. -/
def log (connection : Connection) (entries : List Entry) : Connection :=
  { connection with journal := entries ++ connection.journal }

def record (connection : Connection) (entry : Entry) : Connection :=
  connection.log [entry]

def report (connection : Connection) (diagnostic : Diagnostic) : Connection :=
  connection.log (if connection.config.debug then [.diagnostic diagnostic] else [])

def notify (connection : Connection) (listener : Option ListenerId) (event : Event) : Connection :=
  connection.log (listener.map fun id => .callback id event).toList

def finish (connection : Connection) (failure : Option Error) : Connection :=
  connection.record (.returned failure)

def mapReceiver (connection : Connection) (change : Receiver -> Receiver) : Connection :=
  { connection with receiver := connection.receiver.map change }

/-- Let go of the receiver: tell it to stop and perhaps abort it, as far as the
core can. -/
def releaseReceiver (connection : Connection) (abort : Bool) : Connection :=
  let core := connection.core
  { connection.mapReceiver (core.release abort) with
    core := { core with holdsControl := false, holdsReceiver := false } }

/-- The sub-protocols agreed on; none before the opening handshake is
complete. -/
def protocols (connection : Connection) : List String :=
  connection.negotiated.getD []

/-- Whether somebody still uses the core: the caller, or the receiver of a
connection that was given up. -/
def isInUse (connection : Connection) : Bool :=
  !connection.isDropped || connection.receiver.any Receiver.isAlive

/-- Whether the outgoing side of the stream is held, by the holder of the lock or
by the core. -/
def holdsOutput (connection : Connection) : Bool :=
  match connection.holder with
  | some (.requesting _ _) | some (.awaitingAnswer _) | some (.leaving _ _ _ _) => true
  | _ => connection.core.writer.isSome && connection.isInUse

/-- Whether the stream of the last opening handshake is still open: it has not
been shut down, and one of its sides is held. -/
def holdsStream (connection : Connection) : Bool :=
  !connection.sink.shutDown
    && (connection.holdsOutput || connection.receiver.any Receiver.holdsStream)

def describe (connection : Connection) : String :=
  "WebSocket \x7b connected: " ++ toString connection.isConnected
    ++ ", offered: " ++ Quoted.quoteList connection.offered
    ++ ", negotiated: " ++ Quoted.quoteList connection.protocols ++ ", .. \x7d"

end Connection

end WebSocketClient
