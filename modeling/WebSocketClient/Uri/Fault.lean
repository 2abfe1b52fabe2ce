/-!
# Faults of URIs

Why a text is not a URI, and the wording of each fault.
-/

namespace WebSocketClient

namespace Uri

inductive Fault where
  | relative
  | emptyHost
  /-- A host name with a character that no name may hold. -/
  | invalidName
  /-- A host of an unknown scheme with a character that no host may hold. -/
  | invalidHostCharacter
  | invalidPort
  | invalidIpv4
  | invalidIpv6
  deriving DecidableEq

def Fault.message : Fault -> String
  | relative => "relative URL without a base"
  | emptyHost => "empty host"
  | invalidName => "invalid international domain name"
  | invalidHostCharacter => "invalid domain character"
  | invalidPort => "invalid port number"
  | invalidIpv4 => "invalid IPv4 address"
  | invalidIpv6 => "invalid IPv6 address"

end Uri

end WebSocketClient
