import WebSocketClient.Config
import WebSocketClient.Stream.Source
import WebSocketClient.Text.Latin1

/-!
# Reading the opening handshake

The head of an HTTP message: lines up to an empty line.  A line ends in a line
feed, and one carriage return in front of it belongs to the line end.  Each line
may take one octet more than the limit leaves, which is how an overlong head is
noticed.
-/

namespace WebSocketClient

namespace Handshake

def carriageReturn : UInt8 := 13

/-- A line without its line end, if it has one. -/
def stripLineEnd? (line : Bytes) : Option Bytes :=
  match line.reverse with
  | [] => none
  | last :: front =>
      if last = Source.lineFeed then
        match front with
        | [] => some []
        | before :: text =>
            if before = carriageReturn then some text.reverse else some front.reverse
      else
        none

/-- How many octets the next line may take after `total` octets. -/
def lineBudget (limits : Limits) (total : UInt64) : UInt64 :=
  limits.maxHandshakeSize - min total limits.maxHandshakeSize + 1

/-- What a line means for the head of a message: it has `total` octets now. -/
def judgeLine (limits : Limits) (total : UInt64) (line : Bytes) : Except Error Bytes := do
  limits.checkHandshakeSize total
  match stripLineEnd? line with
  | some text => return text
  | none => throw (.handshake "connection closed during the opening handshake")

/-- Read lines after those already read, last one first. -/
def readLinesFrom (limits : Limits) : (fuel : Nat) -> List String -> (total : UInt64) -> Source ->
    Reading (List String)
  | 0, lines, _, source => .done lines.reverse source
  | fuel + 1, lines, total, source =>
      (source.line (lineBudget limits total).toNat).andThen fun line source =>
      let total := total + UInt64.ofNat line.length
      (Reading.ofExcept (judgeLine limits total line) source).andThen fun text source =>
      if text.isEmpty then
        .done lines.reverse source
      else
        readLinesFrom limits fuel (Latin1.decode text :: lines) total source

/-- Read the lines up to the empty line.  Every line takes at least one octet, so
there are no more lines than octets. -/
def readLines (limits : Limits) (source : Source) : Reading (List String) :=
  readLinesFrom limits (source.length + 1) [] 0 source

end Handshake

end WebSocketClient
