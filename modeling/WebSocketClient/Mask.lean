import WebSocketClient.Bytes

/-!
# Masking

A masking key is four octets, and octet `i` of a payload is combined with octet
`i % 4` of the key by exclusive or.  Masking by words handles four octets at a
time, in either octet order of a word; the keys of successive frames come from
a mixed counter.
-/

namespace WebSocketClient

structure MaskKey where
  first : UInt8
  second : UInt8
  third : UInt8
  fourth : UInt8
  deriving DecidableEq

namespace MaskKey

def toBytes (key : MaskKey) : Bytes :=
  [key.first, key.second, key.third, key.fourth]

def ofBytes? : Bytes -> Option MaskKey
  | first :: second :: third :: fourth :: _ => some ⟨first, second, third, fourth⟩
  | _ => none

/-- The octet of the key that masks payload octet `index`. -/
def octet (key : MaskKey) (index : Nat) : UInt8 :=
  match index % 4 with
  | 0 => key.first
  | 1 => key.second
  | 2 => key.third
  | _ => key.fourth

def apply (key : MaskKey) (payload : Bytes) : Bytes :=
  payload.mapIdx fun index octet => octet ^^^ key.octet index

end MaskKey

/-!
## Masking by words
-/

/-- The order of the octets of a word. -/
inductive OctetOrder where
  /-- The first octet is the least significant one. -/
  | little
  /-- The first octet is the most significant one. -/
  | big
  deriving DecidableEq

namespace OctetOrder

/-- The word of four octets, first octet at the first address. -/
def word (order : OctetOrder) (a b c d : UInt8) : UInt32 :=
  match order with
  | little => a.toUInt32 ||| (b.toUInt32 <<< 8) ||| (c.toUInt32 <<< 16) ||| (d.toUInt32 <<< 24)
  | big => d.toUInt32 ||| (c.toUInt32 <<< 8) ||| (b.toUInt32 <<< 16) ||| (a.toUInt32 <<< 24)

def octets (order : OctetOrder) (word : UInt32) : Bytes :=
  match order with
  | little => [word.toUInt8, (word >>> 8).toUInt8, (word >>> 16).toUInt8, (word >>> 24).toUInt8]
  | big => [(word >>> 24).toUInt8, (word >>> 16).toUInt8, (word >>> 8).toUInt8, word.toUInt8]

end OctetOrder

namespace MaskKey

def word (key : MaskKey) (order : OctetOrder) : UInt32 :=
  order.word key.first key.second key.third key.fourth

/-- Mask or unmask a payload four octets at a time.  The tail of fewer than four
octets starts at a multiple of four, so it starts with the first octet of the
key. -/
def applyByWords (order : OctetOrder) (key : MaskKey) : Bytes -> Bytes
  | a :: b :: c :: d :: rest =>
      order.octets (order.word a b c d ^^^ key.word order) ++ applyByWords order key rest
  | tail => key.apply tail

end MaskKey

/-!
## The keys of successive frames
-/

/-- A source of masking keys: a counter whose values are mixed into keys. -/
structure MaskKeys where
  counter : UInt32
  deriving DecidableEq

namespace MaskKeys

/-- What is added to the counter for each key. -/
def stride : UInt32 := 0x9E3779B9

def mix (value : UInt32) : UInt32 :=
  let value := (value ^^^ (value >>> 16)) * 0x85EBCA6B
  let value := (value ^^^ (value >>> 13)) * 0xC2B2AE35
  value ^^^ (value >>> 16)

/-- The key of a mixed word, least significant octet first. -/
def keyOfWord (word : UInt32) : MaskKey :=
  ⟨word.toUInt8, (word >>> 8).toUInt8, (word >>> 16).toUInt8, (word >>> 24).toUInt8⟩

def next (keys : MaskKeys) : MaskKey × MaskKeys :=
  let counter := keys.counter + stride
  (keyOfWord (mix counter), ⟨counter⟩)

def take (keys : MaskKeys) : (count : Nat) -> List MaskKey
  | 0 => []
  | count + 1 => keys.next.1 :: keys.next.2.take count

end MaskKeys

end WebSocketClient
