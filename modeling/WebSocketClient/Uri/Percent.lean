import WebSocketClient.Bytes

/-!
# Percent coding

An octet as a percent sign and two hexadecimal digits.  Each part of a URI has
its own set of characters that are written so; characters outside ASCII always
are, one octet of their UTF-8 after another.
-/

namespace WebSocketClient

namespace Percent

def digit (n : Nat) : Char :=
  if n < 10 then Char.ofNat ('0'.toNat + n) else Char.ofNat ('A'.toNat + (n - 10))

def digit? (c : Char) : Option Nat :=
  if '0' <= c && c <= '9' then some (c.toNat - '0'.toNat)
  else if 'a' <= c && c <= 'f' then some (c.toNat - 'a'.toNat + 10)
  else if 'A' <= c && c <= 'F' then some (c.toNat - 'A'.toNat + 10)
  else none

def encodeOctet (octet : UInt8) : List Char :=
  ['%', digit (octet.toNat / 16), digit (octet.toNat % 16)]

/-- Control characters and everything outside ASCII. -/
def isControl (c : Char) : Bool :=
  c.toNat < 0x20 || 0x7F <= c.toNat

def inPath (c : Char) : Bool :=
  isControl c || [' ', '"', '#', '<', '>', '?', '`', '{', '}'].contains c

def inQuery (c : Char) : Bool :=
  isControl c || [' ', '"', '#', '<', '>', '\''].contains c

def encode (set : Char -> Bool) (chars : List Char) : List Char :=
  chars.flatMap fun c =>
    if set c then (String.utf8EncodeChar c).flatMap encodeOctet else [c]

/-- The octets of a text with its percent signs resolved; a percent sign without
two digits stands for itself. -/
def decode : List Char -> Bytes
  | '%' :: a :: b :: rest =>
      match digit? a, digit? b with
      | some high, some low => UInt8.ofNat (high * 16 + low) :: decode rest
      | _, _ => 0x25 :: decode (a :: b :: rest)
  | c :: rest => String.utf8EncodeChar c ++ decode rest
  | [] => []

end Percent

end WebSocketClient
