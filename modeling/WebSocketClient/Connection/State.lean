/-!
# Connection states

The life of a connection: it is disconnected until an opening handshake has
succeeded, open until one side closes it, and closed for good after that.
-/

namespace WebSocketClient

inductive ConnectionState where
  | disconnected
  | connecting
  | opened
  /-- A close frame was sent and the server's is awaited. -/
  | closingLocal
  /-- The server sent a close frame. -/
  | closingRemote
  | closed
  deriving DecidableEq

namespace ConnectionState

def canSend (state : ConnectionState) : Bool :=
  state = .opened

def canConnect (state : ConnectionState) : Bool :=
  state = disconnected

def isClosing (state : ConnectionState) : Bool :=
  state = closingLocal || state = closingRemote

def isClosed (state : ConnectionState) : Bool :=
  state = closed

def name : ConnectionState -> String
  | disconnected => "Disconnected"
  | connecting => "Connecting"
  | .opened => "Open"
  | closingLocal => "ClosingLocal"
  | closingRemote => "ClosingRemote"
  | closed => "Closed"

def all : List ConnectionState :=
  [disconnected, connecting, .opened, closingLocal, closingRemote, closed]

end ConnectionState

end WebSocketClient
