import WebSocketClient.Connection.Teardown

/-!
# Receiving

The steps of the receiver as part of a connection.  Its loop runs without the
lock.  When the loop has ended the receiver takes the lock, sends a close frame
if one is due, and tears the connection down.
-/

namespace WebSocketClient

def Error.closeReason (error : Error) : String :=
  Utf8.truncate CloseFrame.maxReasonLength error.message

namespace Connection

/-- The payload that answers the server's close frame: its code, if that may be
sent. -/
def answerPayload (frame : Option CloseFrame) : Bytes :=
  match frame with
  | none => []
  | some frame =>
      match CloseFrame.toPayload ⟨frame.code, ""⟩ with
      | .ok payload => payload
      | .error _ => []

/-- The payload that reports an error to the server. -/
def failurePayload (error : Error) : Bytes :=
  match CloseFrame.toPayload ⟨error.closeCode, error.closeReason⟩ with
  | .ok payload => payload
  | .error _ => []

def setPhase (connection : Connection) (phase : ReceiverPhase) : Connection :=
  connection.mapReceiver fun receiver => { receiver with phase := phase }

def startFarewell (connection : Connection) (payload : Bytes) : Connection :=
  match connection.core.writer with
  | none => connection.startTeardown none
  | some writer =>
      let frame : Frame := ⟨true, .close, payload⟩
      let transmission : Transmission := ⟨none, frame, writer.nextKey⟩
      let (octets, writer) := writer.start frame
      let deadline := connection.clock + connection.config.socketTimeout
      { connection.record (.transmitting transmission) with
        core := { connection.core with writer := some writer }
        holder := some (.farewell ⟨octets, false⟩ deadline) }

/-- The receiver has taken the lock. -/
def exit (connection : Connection) (outcome : Outcome) : Connection :=
  if connection.core.state.isClosed then
    connection.setPhase .finished
  else
    match outcome with
    | .stopped => connection.setPhase .finished
    | .closeReceived frame true =>
        ((connection.setPhase .closing).report (.closingCompleted frame)).startTeardown none
    | .closeReceived frame false =>
        let connection := (connection.setPhase .closing).report (.closedByServer frame)
        { connection with core := { connection.core with state := .closingRemote } }.startFarewell
          (answerPayload frame)
    | .endOfStream => ((connection.setPhase .closing).report .streamEnded).startTeardown none
    | .failed error =>
        let connection := (connection.setPhase .closing).report (.receiverFailed error)
        if error.kind ≠ .transport && connection.core.state = .opened then
          connection.startFarewell (failurePayload error)
        else
          connection.startTeardown none

def emit (connection : Connection) (listener : Option ListenerId) (signal : Signal) : Connection :=
  match signal with
  | .diagnostic diagnostic => connection.report diagnostic
  | .event event => connection.notify listener event

/-- One step of the receiver, or nothing while it has to wait. -/
def receiverStep? (connection : Connection) (receiver : Receiver) : Option Connection :=
  match receiver.phase with
  | .exiting outcome =>
      if connection.isFree then some (connection.exit outcome)
      else if receiver.aborted then some (connection.setPhase .finished)
      else none
  | .notifying listener =>
      some ((connection.notify (some listener) .closed).setPhase .finished)
  | _ =>
      (receiver.step? connection.config.limits).map fun (receiver, signals) =>
        signals.foldl (fun connection signal => connection.emit receiver.listener signal)
          { connection with receiver := some receiver }

end Connection

end WebSocketClient
