import WebSocketClient.Error
import WebSocketClient.Text.Blank
import WebSocketClient.Text.Latin1
import WebSocketClient.Text.Quoted

/-!
# The upgrade request

The request that opens a connection.  A value that would break the lines of the
request or has no octet for some character is refused before anything is
written, so the request has one line for each field.
-/

namespace WebSocketClient

namespace Handshake

structure Request where
  /-- The path with the query. -/
  target : String
  host : String
  key : String
  /-- The sub-protocols on offer, the preferred one first. -/
  protocols : List String
  deriving DecidableEq

namespace Request

def checkValue (field value : String) : Except Error Unit :=
  if value.toList.any fun c => c = '\r' || c = '\n' then
    .error (.invalidHeaderValue field "contains CR or LF characters")
  else if Latin1.isEncodable value then
    .ok ()
  else
    .error (.invalidHeaderValue field "contains characters outside ISO-8859-1")

/-- Refuses a sub-protocol name that is blank or would read as two names. -/
def checkProtocol (protocol : String) : Except Error Unit := do
  checkValue "Sec-WebSocket-Protocol" protocol
  if Blank.isBlankText protocol || protocol.toList.contains ',' then
    let quoted := Quoted.quote protocol
    throw (.invalidHeaderValue "Sec-WebSocket-Protocol" s!"invalid sub-protocol name {quoted}")

def check (request : Request) : Except Error Unit := do
  checkValue "Request-Target" request.target
  checkValue "Host" request.host
  checkValue "Sec-WebSocket-Key" request.key
  request.protocols.forM checkProtocol

def protocolLines (request : Request) : List String :=
  if request.protocols.isEmpty then []
  else ["Sec-WebSocket-Protocol: " ++ String.intercalate ", " request.protocols]

def lines (request : Request) : List String :=
  ["GET " ++ request.target ++ " HTTP/1.1",
    "Host: " ++ request.host,
    "Upgrade: websocket",
    "Connection: Upgrade",
    "Sec-WebSocket-Key: " ++ request.key]
    ++ request.protocolLines ++ ["Sec-WebSocket-Version: 13"]

def lineEnd : Bytes := [0x0D, 0x0A]

def encode (request : Request) : Except Error Bytes := do
  request.check
  return request.lines.flatMap (fun line => Latin1.encode line ++ lineEnd) ++ lineEnd

end Request

end Handshake

end WebSocketClient
