import WebSocketClient.Digest.Sha1
import WebSocketClient.Text.Base64
import WebSocketClient.Text.Utf8

/-!
# Handshake keys

A client sends a nonce in base-64, and the server proves that it speaks the
protocol by answering with the digest of that text and a fixed identifier.
-/

namespace WebSocketClient

namespace Handshake

/-- The identifier that is put behind the client's key. -/
def guid : String := "258EAFA5-E914-47DA-95CA-C5AB0DC85B11"

def acceptKey (key : String) : String :=
  Base64.encode (Sha1.digest (Utf8.encode (key ++ guid)))

structure KeyPair where
  clientKey : String
  expectedAccept : String
  deriving DecidableEq

def KeyPair.ofNonce (nonce : Bytes) : KeyPair :=
  let clientKey := Base64.encode nonce
  ⟨clientKey, acceptKey clientKey⟩

end Handshake

end WebSocketClient
