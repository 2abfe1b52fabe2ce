import WebSocketClient.Text.Blank
import WebSocketClient.Uri.Percent

/-!
# IPv4 addresses

A host whose last label is a number is an address.  It is written as one to four
numbers in decimal, octal or hexadecimal; the last number fills all octets that
the others leave.
-/

namespace WebSocketClient

namespace Ipv4

/-- The number of digits in a base, if all of them belong to it. -/
def digits? (base : Nat) (chars : List Char) : Option Nat :=
  chars.foldlM (fun value c =>
    match Percent.digit? c with
    | some d => if d < base then some (value * base + d) else none
    | none => none) 0

/-- The number of a label: hexadecimal after `0x`, octal after another leading
zero, and decimal otherwise. -/
def number? : List Char -> Option Nat
  | [] => none
  | '0' :: 'x' :: rest | '0' :: 'X' :: rest => digits? 16 rest
  | '0' :: c :: rest => digits? 8 (c :: rest)
  | chars => digits? 10 chars

/-- The labels of a host name, without the empty label of a final dot. -/
def labels (name : List Char) : List (List Char) :=
  let labels := Split.pieces '.' name
  if labels.getLast? = some [] then labels.dropLast else labels

/-- Whether the last label is a number, so that the host has to be an address. -/
def endsInNumber (name : List Char) : Bool :=
  match (labels name).getLast? with
  | none => false
  | some label => (!label.isEmpty && label.all Char.isDigit) || (number? label).isSome

/-- The address of one to four numbers: the last one fills up what the others,
one octet each, leave. -/
def ofNumbers? (numbers : List Nat) : Option Nat :=
  match numbers.reverse with
  | [] => none
  | last :: others =>
      let leading := others.reverse
      if 4 < numbers.length || leading.any (255 < ·) || Nat.pow 256 (4 - leading.length) <= last then
        none
      else
        some (leading.foldl (fun value n => value * 256 + n) 0 * Nat.pow 256 (4 - leading.length) + last)

def parse? (name : List Char) : Option Nat := do
  let numbers ← (labels name).mapM number?
  ofNumbers? numbers

def render (address : Nat) : String :=
  String.intercalate "." <|
    [24, 16, 8, 0].map fun shift => toString (address / Nat.pow 2 shift % 256)

end Ipv4

end WebSocketClient
