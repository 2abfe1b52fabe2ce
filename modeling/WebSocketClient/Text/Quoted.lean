import WebSocketClient.Text.Graphic

/-!
# Quoted text

A text between double quotes.  The quote, the backslash and four control
characters have short escapes; other hidden characters and those that combine
with the character before them are written as `\u` and their code point in
braces, so a quoted text shows what it holds.
-/

namespace WebSocketClient

namespace Quoted

/-- A character with its code point spelt out. -/
def escapePoint (c : Char) : List Char :=
  ['\\', 'u', '{'] ++ Nat.toDigits 16 c.toNat ++ ['}']

def escape (c : Char) : List Char :=
  if c = '"' || c = '\\' then ['\\', c]
  else if c.toNat = 0 then ['\\', '0']
  else if c = '\t' then ['\\', 't']
  else if c = '\r' then ['\\', 'r']
  else if c = '\n' then ['\\', 'n']
  else if Graphic.extendsGrapheme c || Graphic.isHidden c then escapePoint c
  else [c]

def quote (text : String) : String :=
  String.ofList ('"' :: text.toList.flatMap escape ++ ['"'])

def quoteList (texts : List String) : String :=
  "[" ++ String.intercalate ", " (texts.map quote) ++ "]"

end Quoted

end WebSocketClient
