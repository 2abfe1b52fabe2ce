import WebSocketClient.Text.Blank
import WebSocketClient.Uri.Fault
import WebSocketClient.Uri.Ipv6

/-!
# Hosts

A host is a name in lower case, an IPv4 address or an IPv6 address in brackets.
Names are ASCII here: their percent signs are resolved first, and a name with an
octet outside ASCII is refused.
-/

namespace WebSocketClient

namespace Uri

inductive Host where
  | name (text : String)
  | ipv4 (address : Nat)
  | ipv6 (pieces : List Nat)
  deriving DecidableEq

namespace Host

/-- The text of a host, an IPv6 address in brackets. -/
def render : Host -> String
  | name text => text
  | ipv4 address => Ipv4.render address
  | ipv6 pieces => "[" ++ Ipv6.render pieces ++ "]"

/-- The text of a host, an IPv6 address without brackets. -/
def bare : Host -> String
  | ipv6 pieces => Ipv6.render pieces
  | host => host.render

def isForbiddenInName (c : Char) : Bool :=
  c.toNat <= 0x20 || 0x7F <= c.toNat
    || ['#', '%', '/', ':', '<', '>', '?', '@', '[', '\\', ']', '^', '|'].contains c

/-- The characters that no host of an unknown scheme holds. -/
def isForbiddenInOpaque (c : Char) : Bool :=
  [Char.ofNat 0, '\t', '\n', '\r', ' ', '#', '/', ':', '<', '>', '?', '@', '[', '\\', ']', '^',
    '|'].contains c

/-- The address between brackets, if the host starts with one. -/
def bracketed (chars : List Char) : Except Fault Host :=
  if chars.getLast? = some ']' then
    match Ipv6.parse? (chars.drop 1).dropLast with
    | some pieces => .ok (.ipv6 pieces)
    | none => .error .invalidIpv6
  else
    .error .invalidIpv6

/-- The host of a scheme whose hosts are names or addresses. -/
def parse (chars : List Char) : Except Fault Host :=
  if chars.head? = some '[' then
    bracketed chars
  else
    let octets := Percent.decode chars
    let name := octets.map fun octet => (Char.ofNat octet.toNat).toLower
    if name.any isForbiddenInName then .error .invalidName
    else if name.isEmpty then .error .emptyHost
    else if Ipv4.endsInNumber name then
      match Ipv4.parse? name with
      | some address => .ok (.ipv4 address)
      | none => .error .invalidIpv4
    else
      .ok (.name (String.ofList name))

/-- Judge a host of an unknown scheme. -/
def checkOpaque (chars : List Char) : Except Fault Unit :=
  if chars.head? = some '[' then
    (bracketed chars).map fun _ => ()
  else if chars.any isForbiddenInOpaque then
    .error .invalidHostCharacter
  else
    .ok ()

end Host

end Uri

end WebSocketClient
