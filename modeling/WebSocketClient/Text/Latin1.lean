import WebSocketClient.Bytes

/-!
# ISO-8859-1

Text with one octet for each character: the octet is the code point.
-/

namespace WebSocketClient

namespace Latin1

def decode (bytes : Bytes) : String :=
  String.ofList (bytes.map fun octet => Char.ofNat octet.toNat)

def isEncodable (text : String) : Bool :=
  text.toList.all fun c => c.toNat <= 0xFF

/-- The octets of a text, reduced to eight bits each. -/
def encode (text : String) : Bytes :=
  text.toList.map fun c => UInt8.ofNat c.toNat

end Latin1

end WebSocketClient
