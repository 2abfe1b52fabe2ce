import WebSocketClient.Uri.Host
import WebSocketClient.Uri.Path

/-!
# URIs

The parts of a URI whose scheme names a WebSocket, and a judgement on every
other URI.  Control characters and spaces around a URI and tabs and line ends
inside it do not count.
-/

namespace WebSocketClient

namespace Uri

structure Location where
  host : Host
  /-- The port, unless it is missing or the default one. -/
  port : Option UInt16
  path : List Char
  query : Option (List Char)
  deriving DecidableEq

/-- How the part behind a scheme is read. -/
inductive SchemeKind where
  | socket (secure : Bool)
  | web
  | file
  | unknown
  deriving DecidableEq

namespace SchemeKind

def ofScheme (scheme : String) : SchemeKind :=
  match scheme with
  | "ws" => socket false
  | "wss" => socket true
  | "http" | "https" | "ftp" => web
  | "file" => file
  | _ => unknown

/-- Schemes that take backslashes for slashes. -/
def isSpecial (kind : SchemeKind) : Bool :=
  kind ≠ unknown

def defaultPort (secure : Bool) : UInt16 :=
  if secure then 443 else 80

end SchemeKind

/-!
## Scheme
-/

def isOuter (c : Char) : Bool :=
  c.toNat <= 0x20

def isInner (c : Char) : Bool :=
  c = '\t' || c = '\n' || c = '\r'

def clean (text : String) : List Char :=
  (Blank.stripChars isOuter text.toList).filter fun c => !isInner c

def isSchemeChar (c : Char) : Bool :=
  c.isAlphanum || c = '+' || c = '-' || c = '.'

/-- The scheme, in lower case, and what follows its colon. -/
def scheme? (chars : List Char) : Option (String × List Char) :=
  match Split.once ':' chars with
  | some (scheme, rest) =>
      if scheme.head?.any Char.isAlpha && scheme.all isSchemeChar then
        some (String.ofList (scheme.map Char.toLower), rest)
      else
        none
  | none => none

/-!
## Authority
-/

/-- The characters that end an authority. -/
def endsAuthority (kind : SchemeKind) (c : Char) : Bool :=
  c = '/' || c = '?' || c = '#' || (c = '\\' && kind.isSpecial)

/-- The characters before the last occurrence of `mark` and those after it. -/
def splitLast (mark : Char) (chars : List Char) : Option (List Char × List Char) :=
  (Split.once mark chars.reverse).map fun (after, before) => (before.reverse, after.reverse)

/-- Whether there are credentials in front of the host, and what follows them.
A name and password that are both empty are no credentials. -/
def dropCredentials (kind : SchemeKind) (chars : List Char) : Except Fault (Bool × List Char) :=
  let authority := chars.takeWhile fun c => !endsAuthority kind c
  let behind := chars.drop authority.length
  match splitLast '@' authority with
  | none => .ok (false, chars)
  | some ([], []) => if behind.isEmpty then .ok (false, []) else .error .emptyHost
  | some (credentials, host) =>
      .ok (!credentials.isEmpty && credentials ≠ [':'], host ++ behind)

/-- The characters of the host and what follows them; a colon in brackets belongs
to the host. -/
def splitHost (kind : SchemeKind) (inBrackets : Bool) : List Char -> List Char × List Char
  | [] => ([], [])
  | c :: rest =>
      if endsAuthority kind c || (c = ':' && !inBrackets) then
        ([], c :: rest)
      else
        let (host, after) := splitHost kind (c = '[' || (inBrackets && c ≠ ']')) rest
        (c :: host, after)

/-- The port after a host, if there is one, and what follows it. -/
def parsePort (chars : List Char) : Except Fault (Option UInt16 × List Char) :=
  match chars with
  | ':' :: rest =>
      let digits := rest.takeWhile Char.isDigit
      let after := rest.drop digits.length
      let value := digits.foldl (fun value c => value * 10 + (c.toNat - '0'.toNat)) 0
      if 65535 < value then
        .error .invalidPort
      else
        match after.head? with
        | some c =>
            if isSlash c || c = '?' || c = '#' then
              .ok (if digits.isEmpty then none else some (UInt16.ofNat value), after)
            else
              .error .invalidPort
        | none => .ok (if digits.isEmpty then none else some (UInt16.ofNat value), [])
  | _ => .ok (none, chars)

/-- The host, the port and what follows, for schemes with names or addresses as
hosts. -/
def parseAuthority (kind : SchemeKind) (chars : List Char) :
    Except Fault (Host × Option UInt16 × List Char) := do
  let (_, chars) ← dropCredentials kind chars
  let (hostChars, rest) := splitHost kind false chars
  if hostChars.isEmpty then
    throw .emptyHost
  let host ← Host.parse hostChars
  let (port, rest) ← parsePort rest
  return (host, port, rest)

def checkUnknownAuthority (chars : List Char) : Except Fault Unit := do
  let (credentials, chars) ← dropCredentials .unknown chars
  let (hostChars, rest) := splitHost .unknown false chars
  Host.checkOpaque hostChars
  if hostChars.isEmpty && rest.head? = some ':' then
    throw .emptyHost
  let _ ← parsePort rest
  if hostChars.isEmpty && credentials then
    throw .emptyHost

def checkFileHost (chars : List Char) : Except Fault Unit :=
  match chars with
  | a :: b :: rest =>
      let host := rest.takeWhile fun c => !endsAuthority .file c
      if isSlash a && isSlash b && !host.isEmpty && !Path.isDriveLetter host then
        (Host.parse host).map fun _ => ()
      else
        .ok ()
  | _ => .ok ()

/-!
## Path and query
-/

/-- The path and the query; the fragment is left out. -/
def parseTarget (chars : List Char) : List Char × Option (List Char) :=
  let chars := chars.takeWhile (· ≠ '#')
  let path := chars.takeWhile (· ≠ '?')
  let query := match chars.drop path.length with
    | [] => none
    | _ :: query => some (Percent.encode Percent.inQuery query)
  (Path.normalize path, query)

def parseLocation (secure : Bool) (chars : List Char) : Except Fault Location := do
  let kind := SchemeKind.socket secure
  let (host, port, rest) ← parseAuthority kind (chars.dropWhile isSlash)
  let port := if port = some (SchemeKind.defaultPort secure) then none else port
  let (path, query) := parseTarget rest
  return ⟨host, port, path, query⟩

end Uri

/-- A URI: its location if it names a WebSocket, and its scheme otherwise. -/
inductive Uri where
  | socket (secure : Bool) (location : Uri.Location)
  | other (scheme : String)
  deriving DecidableEq

namespace Uri

def parse (text : String) : Except Fault Uri :=
  match scheme? (clean text) with
  | none => .error .relative
  | some (scheme, rest) =>
      match SchemeKind.ofScheme scheme with
      | .socket secure => (parseLocation secure rest).map (.socket secure)
      | .web => (parseAuthority .web (rest.dropWhile isSlash)).map fun _ => .other scheme
      | .file => (checkFileHost rest).map fun _ => .other scheme
      | .unknown =>
          match rest with
          | '/' :: '/' :: authority =>
              (checkUnknownAuthority authority).map fun _ => .other scheme
          | _ => .ok (.other scheme)

end Uri

end WebSocketClient
