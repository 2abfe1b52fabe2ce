/-!
# Close codes

The status codes of close frames.  Eight values have names; every other
sixteen-bit value is kept as it is.  A few values describe how a connection
ended and are never sent.
-/

namespace WebSocketClient

inductive CloseCode where
  | normal
  | goingAway
  | protocolError
  /-- The endpoint cannot accept this type of data. -/
  | unsupportedData
  /-- The data do not fit their type, such as text that is not UTF-8. -/
  | invalidPayload
  | policyViolation
  | messageTooBig
  /-- The server did not negotiate an extension that the client needs. -/
  | mandatoryExtension
  | other (value : UInt16)
  deriving DecidableEq

namespace CloseCode

/-- The code of a value; a named value is never `other`. -/
def ofUInt16 (value : UInt16) : CloseCode :=
  match value.toNat with
  | 1000 => normal
  | 1001 => goingAway
  | 1002 => protocolError
  | 1003 => unsupportedData
  | 1007 => invalidPayload
  | 1008 => policyViolation
  | 1009 => messageTooBig
  | 1010 => mandatoryExtension
  | _ => other value

def toUInt16 : CloseCode -> UInt16
  | normal => 1000
  | goingAway => 1001
  | protocolError => 1002
  | unsupportedData => 1003
  | invalidPayload => 1007
  | policyViolation => 1008
  | messageTooBig => 1009
  | mandatoryExtension => 1010
  | other value => value

def isReserved (code : CloseCode) : Bool :=
  let value := code.toUInt16.toNat
  (1004 <= value && value <= 1006) || value == 1015

/-- The name of a code, and the value of one that has none. -/
def label : CloseCode -> String
  | normal => "Normal"
  | goingAway => "GoingAway"
  | protocolError => "ProtocolError"
  | unsupportedData => "UnsupportedData"
  | invalidPayload => "InvalidPayload"
  | policyViolation => "PolicyViolation"
  | messageTooBig => "MessageTooBig"
  | mandatoryExtension => "MandatoryExtension"
  | other value => s!"Other({value.toNat})"

end CloseCode

end WebSocketClient
