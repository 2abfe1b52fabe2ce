import WebSocketClient.Error
import WebSocketClient.Text.Utf8

/-!
# Decoding text in chunks

A text message may be cut anywhere, also inside a character.  The decoder holds
back the octets of a character that is not complete and puts them in front of
the next chunk, so every decoded chunk consists of whole characters.  The last
chunk must end between two characters, and the decoder is empty after it and
after every error.
-/

namespace WebSocketClient

/-- The text of a payload that arrived in one piece. -/
def decodeText (payload : Bytes) : Except Error String :=
  match Utf8.decode payload with
  | some text => .ok text
  | none => .error .invalidUtf8

structure TextDecoder where
  /-- The octets held back for the next chunk. -/
  carry : Bytes := []
  deriving DecidableEq

namespace TextDecoder

def empty : TextDecoder := {}

def hasPending (decoder : TextDecoder) : Bool :=
  !decoder.carry.isEmpty

/-- The text of one chunk, and the decoder after it.  The octets are checked first; those
of a character that is not complete are split off, and the others are decoded. -/
def decode (decoder : TextDecoder) (chunk : Bytes) (final : Bool) :
    Except Error String × TextDecoder :=
  let octets := decoder.carry ++ chunk
  match Utf8.decodeFront octets with
  | some (_, none) => (decodeText octets, empty)
  | some (_, some character) =>
      if final then
        (.error .invalidUtf8, empty)
      else
        let whole := octets.take (octets.length - character.octets.length)
        (decodeText whole, ⟨character.octets⟩)
  | none => (.error .invalidUtf8, empty)

end TextDecoder

end WebSocketClient
