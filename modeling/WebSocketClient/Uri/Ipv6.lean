import WebSocketClient.Uri.Ipv4

/-!
# IPv6 addresses

Eight pieces of sixteen bits in hexadecimal.  Two colons in a row stand for the
pieces that are missing, once, and the last two pieces may be written as an IPv4
address.  An address is rendered with its first longest run of at least two zero
pieces left out.
-/

namespace WebSocketClient

namespace Ipv6

/-- Pieces in order, and where the missing ones belong. -/
structure Pieces where
  pieces : List Nat
  gap : Option Nat

namespace Pieces

def push (found : Pieces) (piece : Nat) : Pieces :=
  { found with pieces := found.pieces ++ [piece] }

/-- All eight pieces, if the gap accounts for those that are missing. -/
def fill? (found : Pieces) : Option (List Nat) :=
  match found.gap with
  | some gap =>
      if found.pieces.length <= 8 then
        some (found.pieces.take gap ++ List.replicate (8 - found.pieces.length) 0
          ++ found.pieces.drop gap)
      else
        none
  | none => if found.pieces.length = 8 then some found.pieces else none

end Pieces

/-- One octet of the embedded IPv4 address: decimal, without leading zeros. -/
def octet? (chars : List Char) : Option Nat :=
  match chars with
  | [] => none
  | ['0'] => some 0
  | '0' :: _ => none
  | _ =>
      match Ipv4.digits? 10 chars with
      | some n => if n <= 255 then some n else none
      | none => none

def embedded? (chars : List Char) : Option (Nat × Nat) :=
  match (Split.pieces '.' chars).map octet? with
  | [some a, some b, some c, some d] => some (a * 256 + b, c * 256 + d)
  | _ => none

def parseFrom (found : Pieces) (chars : List Char) : Option Pieces :=
  match chars with
  | [] => some found
  | c :: rest =>
      if found.pieces.length = 8 then
        none
      else if c = ':' then
        if found.gap.isSome then none
        else parseFrom ⟨found.pieces ++ [0], some (found.pieces.length + 1)⟩ rest
      else
        let isDigit (c : Char) : Bool := (Percent.digit? c).isSome
        let digits := ((c :: rest).take 4).takeWhile isDigit
        let piece := (Ipv4.digits? 16 digits).getD 0
        match _ : (c :: rest).drop digits.length with
        | [] => some (found.push piece)
        | ':' :: [] => none
        | ':' :: next :: more => parseFrom (found.push piece) (next :: more)
        | '.' :: _ =>
            if digits.isEmpty || 6 < found.pieces.length then none
            else (embedded? (c :: rest)).map fun (high, low) => (found.push high).push low
        | _ => none
termination_by chars.length
decreasing_by
  · simp
  · have h := congrArg List.length ‹List.drop _ _ = _›
    simp only [List.length_drop, List.length_cons] at h ⊢
    omega

/-- The eight pieces of an address in brackets.  A colon at the front is the
first of two. -/
def parse? (chars : List Char) : Option (List Nat) :=
  match chars with
  | [] | [_] => none
  | ':' :: ':' :: rest => (parseFrom ⟨[0], some 1⟩ rest).bind Pieces.fill?
  | ':' :: _ => none
  | _ => (parseFrom ⟨[], none⟩ chars).bind Pieces.fill?

/-!
## Rendering
-/

/-- The length of the run of zeros at each place. -/
def zeroRuns : List Nat -> List Nat
  | [] => []
  | piece :: rest =>
      let runs := zeroRuns rest
      (if piece = 0 then runs.headD 0 + 1 else 0) :: runs

def renderPiece (piece : Nat) : String :=
  String.ofList (Nat.toDigits 16 piece)

def renderPieces (pieces : List Nat) : String :=
  String.intercalate ":" (pieces.map renderPiece)

def render (pieces : List Nat) : String :=
  let runs := zeroRuns pieces
  let longest := runs.foldl max 0
  if longest < 2 then
    renderPieces pieces
  else
    let start := runs.findIdx (· = longest)
    renderPieces (pieces.take start) ++ "::" ++ renderPieces (pieces.drop (start + longest))

end Ipv6

end WebSocketClient
