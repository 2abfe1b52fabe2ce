import WebSocketClient.Bytes

/-!
# UTF-8

Text as octets.  Decoding goes octet by octet: between two octets either a
character has just ended, or an unfinished character waits for its next octet
in a known range.  An octet outside that range ends the decoding at once, so
octets are accepted exactly as long as some text starts with them.
-/

namespace WebSocketClient

namespace Utf8

def encode (text : String) : Bytes :=
  text.toList.flatMap String.utf8EncodeChar

/-- A character of which some octets are still missing. -/
structure Unfinished where
  octets : Bytes
  value : Nat
  missing : Nat
  /-- The least octet that may come next. -/
  low : UInt8
  /-- The greatest octet that may come next. -/
  high : UInt8
  deriving DecidableEq

inductive Advance where
  | finished (c : Char)
  | unfinished (rest : Unfinished)
  | invalid

/-- The first octet of a character.  The first continuation octet is restricted
where the full range would allow a longer form than needed, a surrogate, or a
number above the last code point. -/
def begin (octet : UInt8) : Advance :=
  let wait (bits missing : Nat) (low high : UInt8) : Advance :=
    .unfinished ⟨[octet], octet.toNat % Nat.pow 2 bits, missing, low, high⟩
  if octet < 0x80 then .finished (Char.ofNat octet.toNat)
  else if octet < 0xC2 then .invalid
  else if octet < 0xE0 then wait 5 1 0x80 0xBF
  else if octet = 0xE0 then wait 4 2 0xA0 0xBF
  else if octet = 0xED then wait 4 2 0x80 0x9F
  else if octet < 0xF0 then wait 4 2 0x80 0xBF
  else if octet = 0xF0 then wait 3 3 0x90 0xBF
  else if octet < 0xF4 then wait 3 3 0x80 0xBF
  else if octet = 0xF4 then wait 3 3 0x80 0x8F
  else .invalid

def Unfinished.add (character : Unfinished) (octet : UInt8) : Advance :=
  if character.low <= octet && octet <= character.high then
    let value := character.value * 64 + octet.toNat % 64
    if character.missing <= 1 then
      .finished (Char.ofNat value)
    else
      .unfinished ⟨character.octets ++ [octet], value, character.missing - 1, 0x80, 0xBF⟩
  else
    .invalid

def advance (character : Option Unfinished) (octet : UInt8) : Advance :=
  match character with
  | none => begin octet
  | some character => character.add octet

/-- Decode octets, given the characters so far, last one first, and the
unfinished character if there is one. -/
def decodeFrom (chars : List Char) (character : Option Unfinished) :
    Bytes -> Option (List Char × Option Unfinished)
  | [] => some (chars, character)
  | octet :: rest =>
      match advance character octet with
      | .finished c => decodeFrom (c :: chars) none rest
      | .unfinished character => decodeFrom chars (some character) rest
      | .invalid => none

/-- The longest text at the front and the unfinished character behind it, unless
no text starts with these octets. -/
def decodeFront (bytes : Bytes) : Option (String × Option Unfinished) :=
  (decodeFrom [] none bytes).map fun (chars, character) =>
    (String.ofList chars.reverse, character)

def decode (bytes : Bytes) : Option String :=
  match decodeFront bytes with
  | some (text, none) => some text
  | _ => none

theorem decodeFrom_append (chars : List Char) (character : Option Unfinished) (xs ys : Bytes) :
    decodeFrom chars character (xs ++ ys) =
      (decodeFrom chars character xs).bind fun (chars, character) =>
        decodeFrom chars character ys := by
  induction xs generalizing chars character with
  | nil => rfl
  | cons octet rest ih =>
      simp only [List.cons_append, decodeFrom]
      cases advance character octet with
      | finished c => exact ih ..
      | unfinished character => exact ih ..
      | invalid => rfl

/-!
## Lengths and cuts
-/

def length (text : String) : Nat :=
  text.utf8ByteSize

/-- Whether an octet goes on with a character that has begun. -/
def isContinuation (octet : UInt8) : Bool :=
  octet &&& 0xC0 == 0x80

/-- Whether a position in the octets of a text lies between two characters. -/
def isBoundary (octets : Bytes) (position : Nat) : Bool :=
  position == 0 ||
    match octets[position]? with
    | some octet => !isContinuation octet
    | none => position == octets.length

/-- Step back from a position to one between two characters.  There is nothing if
a step would go in front of the first octet. -/
def boundaryUpTo? (octets : Bytes) : (position : Nat) -> Option Nat
  | 0 => if isBoundary octets 0 then some 0 else none
  | position + 1 =>
      if isBoundary octets (position + 1) then some (position + 1)
      else boundaryUpTo? octets position

/-- A text up to a position, if that lies between two characters. -/
def front? (text : String) (position : Nat) : Option String :=
  let octets := encode text
  if isBoundary octets position then decode (octets.take position) else none

/-- A text that is longer than `room` octets is cut at the last place between two
characters that leaves no more than these. -/
def truncate? (room : Nat) (text : String) : Option String :=
  if room < length text then (boundaryUpTo? (encode text) room).bind (front? text) else some text

/-- The longest front of a text that takes at most `room` octets and ends
between two characters. -/
def truncate (room : Nat) (text : String) : String :=
  (truncate? room text).getD ""

/-- The characters from octet `start` to octet `stop`, if both positions lie
between two characters and inside the text. -/
def slice? (text : String) (start stop : Nat) : Option String :=
  let octets := encode text
  if start <= stop && stop <= octets.length then
    match decode (octets.take start), decode ((octets.drop start).take (stop - start)) with
    | some _, some part => some part
    | _, _ => none
  else
    none

end Utf8

end WebSocketClient
