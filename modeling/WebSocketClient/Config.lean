import WebSocketClient.Error

/-!
# Configuration

The limits put on what the server sends, and the settings of a connection.  A
configuration is changed by replacing its fields.
-/

namespace WebSocketClient

structure Limits where
  maxFrameSize : UInt64 := 2147483647
  maxHandshakeSize : UInt64 := 8192
  deriving DecidableEq

namespace Limits

def checkFrameSize (limits : Limits) (size : UInt64) : Except Error Unit :=
  if limits.maxFrameSize < size then
    .error (.frameTooLarge size limits.maxFrameSize)
  else
    .ok ()

def checkHandshakeSize (limits : Limits) (size : UInt64) : Except Error Unit :=
  if limits.maxHandshakeSize < size then
    .error (.handshakeTooLarge size limits.maxHandshakeSize)
  else
    .ok ()

end Limits

structure Config where
  /-- How long to wait for a close frame or for the end of the stream, in
  milliseconds. -/
  socketTimeout : Nat := 10000
  outputBufferSize : Nat := 8192
  /-- Whether the connection reports diagnostics. -/
  debug : Bool := true
  /-- The time stamp format of whoever writes the diagnostics down. -/
  dateTimeFormat : String := "%Y-%m-%d %H:%M:%S%.3f"
  limits : Limits := {}
  deriving DecidableEq

end WebSocketClient
