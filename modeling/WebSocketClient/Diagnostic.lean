import WebSocketClient.Close.Frame
import WebSocketClient.Opcode
import WebSocketClient.Text.Quoted

/-!
# Diagnostics

What a connection reports about itself while it runs, for whoever keeps a log:
a level, a text, and named values.
-/

namespace WebSocketClient

inductive Diagnostic where
  | connecting (host : String) (port : UInt16) (secure : Bool)
  | attemptFailed (error : Error)
  | established (protocols : List String)
  | frameSent (opcode : Opcode) (fin : Bool) (length : Nat)
  | frameReceived (opcode : Opcode) (fin : Bool) (length : Nat)
  | writeFailed (error : Error)
  | closingStarted (code : CloseCode) (reason : String)
  | closeReceived (frame : Option CloseFrame)
  /-- The server answered the client's close frame. -/
  | closingCompleted (frame : Option CloseFrame)
  | closedByServer (frame : Option CloseFrame)
  | streamEnded
  | receiverFailed (error : Error)
  | closeNotSent (error : Error)
  | closeTimedOut
  | closed
  deriving DecidableEq

/-- How much a diagnostic matters. -/
inductive DiagnosticLevel where
  | debug
  | warning
  deriving DecidableEq

namespace DiagnosticLevel

def name : DiagnosticLevel -> String
  | debug => "DEBUG"
  | warning => "WARN"

end DiagnosticLevel

namespace Diagnostic

def level : Diagnostic -> DiagnosticLevel
  | writeFailed _ | receiverFailed _ => .warning
  | _ => .debug

def message : Diagnostic -> String
  | connecting _ _ _ => "connecting"
  | attemptFailed _ => "connection attempt failed"
  | established _ => "connection established"
  | frameSent _ _ _ => "frame sent"
  | frameReceived _ _ _ => "frame received"
  | writeFailed _ => "write failed, closing connection"
  | closingStarted _ _ => "closing handshake started"
  | closeReceived _ => "close frame received"
  | closingCompleted _ => "closing handshake completed"
  | closedByServer _ => "server started the closing handshake"
  | streamEnded => "stream ended"
  | receiverFailed _ => "receiver failed"
  | closeNotSent _ => "close frame not sent"
  | closeTimedOut => "close frame not sent: timed out"
  | closed => "connection closed"

def closeText : Option CloseFrame -> String
  | some frame =>
      "Some(CloseFrame \x7b code: " ++ frame.code.label ++ ", reason: " ++ Quoted.quote frame.reason
        ++ " \x7d)"
  | none => "None"

/-- The named values, in order. -/
def fields : Diagnostic -> List (String × String)
  | connecting host port secure =>
      [("host", host), ("port", toString port.toNat), ("secure", toString secure)]
  | established protocols => [("subprotocols", Quoted.quoteList protocols)]
  | frameSent opcode fin length | frameReceived opcode fin length =>
      [("opcode", opcode.name), ("fin", toString fin), ("len", toString length)]
  | closingStarted code reason => [("code", toString code.toUInt16.toNat), ("reason", reason)]
  | closeReceived frame => [("close", closeText frame)]
  | closingCompleted frame | closedByServer frame => [("frame", closeText frame)]
  | attemptFailed error | writeFailed error | receiverFailed error | closeNotSent error =>
      [("error", error.message)]
  | streamEnded | closeTimedOut | closed => []

end Diagnostic

end WebSocketClient
