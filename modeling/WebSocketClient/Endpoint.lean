import WebSocketClient.Error
import WebSocketClient.Uri.Parse

/-!
# Endpoints

Where a connection goes and what its request says about it.
-/

namespace WebSocketClient

structure Endpoint where
  secure : Bool
  /-- The host name or address, an IPv6 address without brackets. -/
  host : String
  port : UInt16
  /-- The host, with the port if it is not the default one. -/
  hostHeader : String
  /-- The path, which starts with a slash, and the query. -/
  target : String
  deriving DecidableEq

namespace Endpoint

def ofLocation (secure : Bool) (location : Uri.Location) : Endpoint where
  secure := secure
  host := location.host.bare
  port := location.port.getD (Uri.SchemeKind.defaultPort secure)
  hostHeader :=
    match location.port with
    | some port =>
        let host := location.host.render
        let number := port.toNat
        s!"{host}:{number}"
    | none => location.host.render
  target :=
    match location.query with
    | some query => String.ofList (location.path ++ '?' :: query)
    | none => String.ofList location.path

def parse (uri : String) : Except Error Endpoint :=
  let trimmed := Blank.trim uri
  if trimmed.isEmpty then
    .error (.usage "uri is empty")
  else
    match Uri.parse trimmed with
    | .error fault =>
        let reason := fault.message
        .error (.usage s!"invalid uri: {reason}")
    | .ok (.other scheme) => .error (.usage s!"unsupported protocol: {scheme}")
    | .ok (.socket secure location) => .ok (ofLocation secure location)

end Endpoint

end WebSocketClient
