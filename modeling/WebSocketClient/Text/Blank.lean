/-!
# White space, trimming and splitting

Characters with the Unicode property White_Space, texts without them at the
ends, and texts cut at a character.
-/

namespace WebSocketClient

namespace Blank

/-- The Unicode property White_Space. -/
def isBlank (c : Char) : Bool :=
  let point := c.toNat
  (0x9 <= point && point <= 0xD) || point == 0x20 || point == 0x85 || point == 0xA0
    || point == 0x1680 || (0x2000 <= point && point <= 0x200A) || point == 0x2028
    || point == 0x2029 || point == 0x202F || point == 0x205F || point == 0x3000

/-- Characters without those at both ends that a class holds of. -/
def stripChars (drop : Char -> Bool) (chars : List Char) : List Char :=
  ((chars.dropWhile drop).reverse.dropWhile drop).reverse

def trim (text : String) : String :=
  String.ofList (stripChars isBlank text.toList)

def isBlankText (text : String) : Bool :=
  text.toList.all isBlank

end Blank

namespace Split

/-- The characters before the first occurrence of `mark` and those after it. -/
def once (mark : Char) : List Char -> Option (List Char × List Char)
  | [] => none
  | c :: rest =>
      if c = mark then some ([], rest)
      else (once mark rest).map fun (before, after) => (c :: before, after)

/-- The pieces between the occurrences of `mark`; there is always one piece. -/
def pieces (mark : Char) : List Char -> List (List Char)
  | [] => [[]]
  | c :: rest =>
      if c = mark then [] :: pieces mark rest
      else
        match pieces mark rest with
        | [] => [[c]]
        | piece :: more => (c :: piece) :: more

end Split

end WebSocketClient
