import WebSocketClient.Uri.Percent

/-!
# Paths

A path is a list of segments that each end in a slash and an open last segment.
A dot segment adds nothing, and two dots take the last closed segment away; a
drive letter is never taken away.
-/

namespace WebSocketClient

namespace Uri

def isSlash (c : Char) : Bool :=
  c = '/' || c = '\\'

namespace Path

/-- A dot, plain or percent-encoded, at the front of a segment. -/
def dropDot : List Char -> Option (List Char)
  | '.' :: rest => some rest
  | '%' :: '2' :: 'e' :: rest => some rest
  | '%' :: '2' :: 'E' :: rest => some rest
  | _ => none

def isDot (segment : List Char) : Bool :=
  dropDot segment == some []

def isDotDot (segment : List Char) : Bool :=
  (dropDot segment).bind dropDot == some []

/-- A letter with a colon or a bar. -/
def isDriveLetter : List Char -> Bool
  | [letter, mark] => letter.isAlpha && (mark = ':' || mark = '|')
  | _ => false

/-- Take the last closed segment away, if it is not a drive letter.  The last
segment comes first in the list. -/
def shorten : List (List Char) -> List (List Char)
  | segment :: closed => if isDriveLetter segment then segment :: closed else closed
  | [] => []

/-- The pieces between slashes; there is always one piece. -/
def segments : List Char -> List (List Char)
  | [] => [[]]
  | c :: rest =>
      if isSlash c then [] :: segments rest
      else
        match segments rest with
        | [] => [[c]]
        | segment :: more => (c :: segment) :: more

/-- The closed segments, the last one first, and the open last segment, after
those already closed. -/
def resolve (closed : List (List Char)) : List (List Char) -> List (List Char) × List Char
  | [] => (closed, [])
  | [last] =>
      if isDotDot last then (shorten closed, [])
      else if isDot last then (closed, [])
      else (closed, last)
  | segment :: rest =>
      if isDotDot segment then resolve (shorten closed) rest
      else if isDot segment then resolve closed rest
      else resolve (segment :: closed) rest

/-- The normal form of the path that follows an authority. -/
def normalize (chars : List Char) : List Char :=
  let inner := if chars.head?.any isSlash then chars.drop 1 else chars
  let (closed, last) := resolve [] (segments inner)
  let encode := Percent.encode Percent.inPath
  '/' :: (closed.reverse.flatMap fun segment => encode segment ++ ['/']) ++ encode last

end Path

end Uri

end WebSocketClient
