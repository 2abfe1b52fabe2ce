import WebSocketClient.Connection.Basic

/-!
# Sending

How a call sends its frame.  The arguments of a call are judged before it takes
the lock, everything else under the lock, so a call that is refused changes
nothing.
-/

namespace WebSocketClient

namespace Connection

/-- The closing handshake starts: the next close frame is the server's answer. -/
def startClosing (connection : Connection) (code : CloseCode) (reason : String) : Connection :=
  let expecting :=
    if connection.core.holdsControl then
      connection.mapReceiver fun receiver => { receiver with awaitingClose := true }
    else
      connection
  { expecting with core := { expecting.core with state := .closingLocal } }.report
    (.closingStarted code reason)

def startSending (connection : Connection) (call : Call) (frame : Frame) (streamingAfter : Bool) :
    Connection :=
  match connection.core.writer with
  | none => connection.finish (some .notConnected)
  | some writer =>
      let transmission : Transmission := ⟨some call, frame, writer.nextKey⟩
      let (octets, writer) := writer.start frame
      let sending : Sending := ⟨frame.opcode, frame.fin, frame.payload.length, streamingAfter⟩
      { connection.record (.transmitting transmission) with
        core := { connection.core with writer := some writer }
        holder := some (.sending sending ⟨octets, false⟩) }

/-- Start a call whose arguments are good; the lock is free. -/
def startCall (connection : Connection) (call : Call) (payload : Bytes) : Connection :=
  if connection.core.state.canSend then
    match call.frame payload connection.core.streaming with
    | .error error => connection.finish (some error)
    | .ok (frame, streamingAfter) =>
        match call with
        | .close code reason =>
            (connection.startClosing code reason).startSending call frame streamingAfter
        | _ => connection.startSending call frame streamingAfter
  else
    connection.finish (some .notConnected)

end Connection

end WebSocketClient
