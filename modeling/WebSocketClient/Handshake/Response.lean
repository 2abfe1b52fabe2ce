import WebSocketClient.Error
import WebSocketClient.Text.Blank
import WebSocketClient.Text.Quoted
import WebSocketClient.Text.Utf8

/-!
# The server's answer

A connection is open once the server has answered with status 101, the two
upgrade fields, the expected accept value, and a choice of sub-protocols that
fits the offer.  The first check that fails, in this order, is the fault of the
answer.
-/

namespace WebSocketClient

namespace Handshake

inductive Fault where
  | noLines
  | malformedStatusLine (line : String)
  | notFound
  | proxyAuthentication
  | unknownStatus (code : Nat)
  | malformedHeaderLine (line : String)
  | duplicateHeader (name : String)
  /-- One of the two upgrade fields is missing. -/
  | missingHeader (name : String)
  | upgradeMismatch
  | connectionMismatch
  | missingAccept
  | unexpectedAccept (value expected : String)
  /-- The server chose a sub-protocol though none was offered. -/
  | unsolicitedProtocols (value : String)
  /-- The server chose none of the offered sub-protocols. -/
  | noProtocolAccepted (offered : List String)
  /-- The server chose only sub-protocols that were not offered. -/
  | noCommonProtocol
  deriving DecidableEq

namespace Fault

def message : Fault -> String
  | noLines =>
      "connection couldn't be established due to an invalid server opening handshake"
  | malformedStatusLine line =>
      let quoted := Quoted.quote line
      s!"malformed status line: {quoted}"
  | notFound => "connection failed: 404 not found"
  | proxyAuthentication => "connection failed: proxy authentication not supported"
  | unknownStatus code => s!"connection failed: unknown status code {code}"
  | malformedHeaderLine line =>
      let quoted := Quoted.quote line
      s!"malformed header line: {quoted}"
  | duplicateHeader name => s!"duplicate header in server opening handshake: {name}"
  | missingHeader name => s!"missing header field in server opening handshake: {name}"
  | upgradeMismatch =>
      "'Upgrade' header in server opening handshake does not match 'websocket'"
  | connectionMismatch =>
      "'Connection' header in server opening handshake does not match 'Upgrade'"
  | missingAccept =>
      "response header 'sec-websocket-accept' is missing in the server opening handshake"
  | unexpectedAccept value expected =>
      s!"unexpected 'sec-websocket-accept' header value (got: {value} expected: {expected})"
  | unsolicitedProtocols value =>
      s!"cannot talk any of the sub protocols the server has provided: {value}"
  | noProtocolAccepted offered =>
      let names := String.intercalate ", " offered
      s!"server cannot talk any of the sub protocols the client has provided: [{names}]"
  | noCommonProtocol => "couldn't find a sub protocol that both parties are speaking"

end Fault

namespace Response

/-!
## The status line
-/

def decimal? (digits : List Char) : Option Nat :=
  if !digits.isEmpty && digits.all Char.isDigit then
    some (digits.foldl (fun value digit => value * 10 + (digit.toNat - '0'.toNat)) 0)
  else
    none

def number? : List Char -> Option Nat
  | '+' :: digits => decimal? digits
  | digits => decimal? digits

/-- The status code, which stands at octets 9 to 11 of the status line. -/
def statusCode? (line : String) : Option Nat :=
  (Utf8.slice? line 9 12).bind fun digits => number? digits.toList

def checkStatusLine (line : String) : Except Fault Unit :=
  match statusCode? line with
  | none => .error (.malformedStatusLine line)
  | some 101 => .ok ()
  | some 404 => .error .notFound
  | some 407 => .error .proxyAuthentication
  | some code => .error (.unknownStatus code)

/-!
## Header fields
-/

/-- A header field: its name in lower case, and its value without white space at
the ends. -/
structure Field where
  name : String
  value : String
  deriving DecidableEq

/-- The fields that may not be repeated. -/
def singleFields : List String :=
  ["upgrade", "connection", "sec-websocket-accept", "sec-websocket-protocol"]

def field? (line : String) : Option Field :=
  (Split.once ':' line.toList).map fun (name, value) =>
    { name := String.ofList ((Blank.stripChars Blank.isBlank name).map Char.toLower)
      value := String.ofList (Blank.stripChars Blank.isBlank value) }

/-- Add the fields of further lines to those before them, last one first, and put
them all in order. -/
def addFields (fields : List Field) : List String -> Except Fault (List Field)
  | [] => .ok fields.reverse
  | line :: rest =>
      match field? line with
      | none => .error (.malformedHeaderLine line)
      | some field =>
          if singleFields.contains field.name && fields.any (fun other => other.name = field.name) then
            .error (.duplicateHeader field.name)
          else
            addFields (field :: fields) rest

def value? (fields : List Field) (name : String) : Option String :=
  (fields.find? fun field => field.name = name).map Field.value

/-- Whether two texts are equal up to the case of ASCII letters. -/
def sameIgnoringCase (a b : String) : Bool :=
  a.toList.map Char.toLower == b.toList.map Char.toLower

/-!
## Sub-protocols
-/

def protocolNames (value : String) : List String :=
  (Split.pieces ',' value.toList).map fun piece =>
    String.ofList (Blank.stripChars Blank.isBlank piece)

/-- The offered names that the server chose, in the server's order. -/
def negotiate (offered : List String) (value : String) : Except Fault (List String) :=
  if offered.isEmpty then
    if value.isEmpty then .ok [] else .error (.unsolicitedProtocols value)
  else if value.isEmpty then
    .error (.noProtocolAccepted offered)
  else
    let common := (protocolNames value).filter offered.contains
    if common.isEmpty then .error .noCommonProtocol else .ok common

/-!
## The whole answer
-/

def checkFields (fields : List Field) (expectedAccept : String) (offered : List String) :
    Except Fault (List String) :=
  match value? fields "upgrade" with
  | none => .error (.missingHeader "Upgrade")
  | some upgrade =>
    if !sameIgnoringCase upgrade "websocket" then .error .upgradeMismatch else
    match value? fields "connection" with
    | none => .error (.missingHeader "Connection")
    | some connection =>
      if !sameIgnoringCase connection "upgrade" then .error .connectionMismatch else
      match value? fields "sec-websocket-accept" with
      | none => .error .missingAccept
      | some accept =>
        if accept ≠ expectedAccept then .error (.unexpectedAccept accept expectedAccept) else
        negotiate offered ((value? fields "sec-websocket-protocol").getD "")

/-- The sub-protocols that client and server agree on, given the lines of the
answer before its empty line. -/
def negotiated (lines : List String) (expectedAccept : String) (offered : List String) :
    Except Fault (List String) :=
  match lines with
  | [] => .error .noLines
  | statusLine :: headerLines => do
      checkStatusLine statusLine
      let fields ← addFields [] headerLines
      checkFields fields expectedAccept offered

/-- Judge the lines of the server's answer; a fault is an error of the
handshake. -/
def parse (lines : List String) (expectedAccept : String) (offered : List String) :
    Except Error (List String) :=
  (negotiated lines expectedAccept offered).mapError fun fault => .handshake fault.message

end Response

end Handshake

end WebSocketClient
