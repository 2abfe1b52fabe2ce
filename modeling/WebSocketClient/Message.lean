import WebSocketClient.Opcode
import WebSocketClient.Text.Utf8

/-!
# Messages

A message, or one chunk of a message that is sent in parts: text or octets.
-/

namespace WebSocketClient

inductive Message where
  | text (content : String)
  | binary (octets : Bytes)
  deriving DecidableEq

namespace Message

def isText : Message -> Bool
  | .text _ => true
  | .binary _ => false

def isBinary (message : Message) : Bool :=
  !message.isText

def text? : Message -> Option String
  | .text content => some content
  | .binary _ => none

def binary? : Message -> Option Bytes
  | .text _ => none
  | .binary octets => some octets

/-- The octets that a message is sent as. -/
def payload : Message -> Bytes
  | .text content => Utf8.encode content
  | .binary octets => octets

/-- The opcode of the first frame of a message. -/
def opcode : Message -> Opcode
  | .text _ => .text
  | .binary _ => .binary

def length (message : Message) : Nat :=
  message.payload.length

def isEmpty (message : Message) : Bool :=
  message.payload.isEmpty

end Message

end WebSocketClient
