import WebSocketClient.Error

/-!
# Opcodes

The four-bit opcode of a frame.  Six of the sixteen values have a meaning; the
others are reserved, and a number wider than four bits is no opcode at all.
-/

namespace WebSocketClient

inductive Opcode where
  | continuation
  | text
  | binary
  | close
  | ping
  | pong
  deriving DecidableEq

namespace Opcode

def toUInt8 : Opcode -> UInt8
  | continuation => 0x0
  | text => 0x1
  | binary => 0x2
  | close => 0x8
  | ping => 0x9
  | pong => 0xA

/-- The opcode of a value: reserved values and values above four bits are told
apart. -/
def ofUInt8 (value : UInt8) : Except Error Opcode :=
  match value.toNat with
  | 0x0 => .ok continuation
  | 0x1 => .ok text
  | 0x2 => .ok binary
  | 0x8 => .ok close
  | 0x9 => .ok ping
  | 0xA => .ok pong
  | n => if n < 16 then .error (.reservedOpcode value) else .error (.invalidOpcode value)

/-- Close, ping and pong frames control the connection and carry no message. -/
def isControl : Opcode -> Bool
  | close | ping | pong => true
  | continuation | text | binary => false

def startsMessage : Opcode -> Bool
  | text | binary => true
  | continuation | close | ping | pong => false

def name : Opcode -> String
  | continuation => "continuation"
  | text => "text"
  | binary => "binary"
  | close => "close"
  | ping => "ping"
  | pong => "pong"

@[simp] theorem ofUInt8_toUInt8 (opcode : Opcode) : ofUInt8 opcode.toUInt8 = .ok opcode := by
  cases opcode <;> rfl

end Opcode

end WebSocketClient
