import WebSocketClient.Message

/-!
# Events

What a connection tells its listener.  The first event is `connected` and the
last one `closed`; the others carry what the server sent.
-/

namespace WebSocketClient

inductive Event where
  | connected
  | closed
  /-- A message that came in one frame. -/
  | message (message : Message)
  /-- One frame of a message that came in several; text is cut between
  characters. -/
  | chunk (chunk : Message) (final : Bool)
  /-- A ping with its payload, if there is any. -/
  | ping (data : Option Bytes)
  | pong (data : Option Bytes)
  deriving DecidableEq

end WebSocketClient
