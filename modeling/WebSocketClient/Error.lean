import WebSocketClient.Close.Code

/-!
# Errors

Everything that can go wrong, the four kinds a caller has to tell apart, the
wording of each error, and the close code a connection sends when the error
ended it.
-/

namespace WebSocketClient

inductive Error where
  /-- A call with a bad argument or in the wrong state. -/
  | usage (text : String)
  /-- The server's answer to the opening handshake is not acceptable. -/
  | handshake (text : String)
  /-- The stream below the connection failed. -/
  | transport (text : String)
  | protocolViolation (text : String)
  | invalidUtf8
  | frameTooLarge (size max : UInt64)
  | handshakeTooLarge (size max : UInt64)
  | invalidHeaderValue (header reason : String)
  | reservedOpcode (value : UInt8)
  | invalidOpcode (value : UInt8)
  | fragmentedControlFrame
  | controlFrameTooLarge (size : UInt64)
  | unmaskedClientFrame
  | maskedServerFrame
  | reservedBitsSet
  deriving DecidableEq

/-- Who has to act on an error. -/
inductive ErrorKind where
  | usage
  | handshake
  /-- The environment. -/
  | transport
  /-- The server, by breaking the framing rules. -/
  | protocol
  deriving DecidableEq

namespace Error

def kind : Error -> ErrorKind
  | usage _ | invalidHeaderValue _ _ => .usage
  | handshake _ | handshakeTooLarge _ _ => .handshake
  | transport _ => .transport
  | protocolViolation _ | invalidUtf8 | frameTooLarge _ _ | reservedOpcode _
  | invalidOpcode _ | fragmentedControlFrame | controlFrameTooLarge _
  | unmaskedClientFrame | maskedServerFrame | reservedBitsSet => .protocol

def isUsage (error : Error) : Bool :=
  error.kind == .usage

/-- The code of the close frame that a connection sends after this error. -/
def closeCode : Error -> CloseCode
  | invalidUtf8 => .invalidPayload
  | frameTooLarge _ _ => .messageTooBig
  | error => if error.kind = .protocol then .protocolError else .normal

/-- A number in hexadecimal, lower case and without leading zeros. -/
def hexText (n : Nat) : String :=
  String.ofList (Nat.toDigits 16 n)

def message : Error -> String
  | usage text => s!"Usage error: {text}"
  | handshake text => s!"Handshake failed: {text}"
  | transport text => s!"Transport error: {text}"
  | protocolViolation text => s!"Protocol violation: {text}"
  | invalidUtf8 => "Invalid UTF-8 in text frame"
  | frameTooLarge size max => s!"Frame too large: {size.toNat} bytes (max: {max.toNat})"
  | handshakeTooLarge size max => s!"Handshake too large: {size.toNat} bytes (max: {max.toNat})"
  | invalidHeaderValue header reason => s!"Invalid value for header {header}: {reason}"
  | reservedOpcode value => s!"Reserved opcode: 0x{hexText value.toNat}"
  | invalidOpcode value => s!"Invalid opcode: 0x{hexText value.toNat}"
  | fragmentedControlFrame => "Control frames cannot be fragmented"
  | controlFrameTooLarge size =>
      s!"Control frame payload too large: {size.toNat} bytes (max: 125)"
  | unmaskedClientFrame => "Client frame must be masked"
  | maskedServerFrame => "Server frame must not be masked"
  | reservedBitsSet => "Reserved bits set without negotiated extension"

def notConnected : Error :=
  usage "not connected to a websocket server"

end Error

end WebSocketClient
