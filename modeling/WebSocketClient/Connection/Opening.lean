import WebSocketClient.Connection.Basic
import WebSocketClient.Endpoint
import WebSocketClient.Handshake.Key
import WebSocketClient.Handshake.Reading
import WebSocketClient.Handshake.Request
import WebSocketClient.Handshake.Response

/-!
# Opening a connection

The opening handshake.  The caller writes the request and reads the answer under
the lock.  A failed handshake leaves the connection as it was; a complete one
makes it open for good, tells the listener and starts the receiver.
-/

namespace WebSocketClient

structure Duplex where
  source : Source
  sink : Sink

/-- What a caller brings along for an opening handshake. -/
structure Opening where
  uri : String
  /-- The random octets of the client key. -/
  nonce : Bytes
  keys : MaskKeys
  /-- The stream to use; without one the connection opens its own. -/
  stream : Option Duplex

/-!
## Streams
-/

/-- What the network makes of the attempt to open a stream. -/
inductive Dial where
  | reached (stream : Duplex)
  /-- The host has no address. -/
  | unknownHost
  /-- None of the addresses can be connected to. -/
  | refused (reason : String)
  /-- The stream that was opened cannot be set up. -/
  | unusable (reason : String)
  | timedOut

namespace Dial

/-- Open a stream to an endpoint.  There is no encryption, so the network is not asked
for a secure one. -/
def openTo (dial : Dial) (endpoint : Endpoint) : Except Error Duplex :=
  let host := endpoint.host
  let port := endpoint.port
  if endpoint.secure then
    .error (.usage "wss requires the tls-rustls or tls-native feature")
  else
    match dial with
    | reached stream => .ok stream
    | unknownHost => .error (.transport s!"unknown host: {host}")
    | refused reason =>
        .error (.transport s!"error while creating tcp connection to {host}:{port}: {reason}")
    | unusable reason => .error (.transport reason)
    | timedOut => .error (.transport s!"socket timeout while connecting to {host}:{port}")

end Dial

/-- The stream of an opening handshake: the one that was brought along, or one that is
opened. -/
def Opening.streamTo (opening : Opening) (dial : Dial) (endpoint : Endpoint) :
    Except Error Duplex :=
  match opening.stream with
  | some stream => .ok stream
  | none => dial.openTo endpoint

/-!
## The opening handshake
-/

namespace Connection

/-- Why the connection may not be opened in this state. -/
def openingFault? (state : ConnectionState) : Option Error :=
  match state with
  | .disconnected => none
  | .closed => some (.usage "websocket is closed and cannot be reused")
  | _ => some (.usage "websocket is already connected")

/-- The endpoint of a URI, the key pair, and the octets of the request. -/
def prepare (connection : Connection) (opening : Opening) :
    Except Error (Endpoint × Handshake.KeyPair × Bytes) := do
  let endpoint ← Endpoint.parse opening.uri
  let pair := Handshake.KeyPair.ofNonce opening.nonce
  let request ← Handshake.Request.encode {
    target := endpoint.target
    host := endpoint.hostHeader
    key := pair.clientKey
    protocols := connection.offered }
  return (endpoint, pair, request)

def failOpening (connection : Connection) (error : Error) : Connection :=
  let connection :=
    { connection with
      core := { connection.core with state := .disconnected }
      holder := none }
  (connection.report (.attemptFailed error)).finish (some error)

def finishOpening (connection : Connection) (attempt : Attempt) (rest : Source)
    (protocols : List String) : Connection :=
  let connection :=
    { connection with
      isConnected := true
      negotiated := connection.negotiated <|> some protocols
      holder := none
      core := { connection.core with
        state := .opened
        writer := some attempt.writer
        holdsControl := true
        holdsReceiver := true
        listener := connection.listener }
      receiver := some { source := rest, listener := connection.listener } }
  ((connection.report (.established connection.protocols)).notify connection.listener
    .connected).finish none

/-- Judge an answer of which everything has been read that can be, or wait. -/
def readAnswer? (connection : Connection) (attempt : Attempt) : Option Connection :=
  match Handshake.readLines connection.config.limits attempt.source with
  | .waiting => none
  | .ended _ => none
  | .failed error _ => some (connection.failOpening error)
  | .done lines rest =>
      match Handshake.Response.parse lines attempt.expectedAccept connection.offered with
      | .error error => some (connection.failOpening error)
      | .ok protocols => some (connection.finishOpening attempt rest protocols)

/-- Start an opening handshake; the lock is free. -/
def startOpening (connection : Connection) (opening : Opening) (dial : Dial) : Connection :=
  match openingFault? connection.core.state with
  | some error => connection.finish (some error)
  | none =>
      match connection.prepare opening with
      | .error error => connection.finish (some error)
      | .ok (endpoint, pair, request) =>
          let connection :=
            { connection with core := { connection.core with state := .connecting } }.report
              (.connecting endpoint.host endpoint.port endpoint.secure)
          match opening.streamTo dial endpoint with
          | .error error => connection.failOpening error
          | .ok stream =>
              let writer : FrameWriter := {
                role := .client
                keys := opening.keys
                output := .ofCapacity connection.config.outputBufferSize }
              let attempt : Attempt := ⟨writer, stream.source, pair.expectedAccept⟩
              { connection.record (.began request) with
                sink := stream.sink
                holder := some (.requesting attempt ⟨request, false⟩) }

end Connection

end WebSocketClient
