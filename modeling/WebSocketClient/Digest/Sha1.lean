import WebSocketClient.Bytes

/-!
# SHA-1

The 160-bit digest of FIPS 180-4.  The message is padded to blocks of 64 octets,
each block is expanded to 80 words, and 80 rounds per block change five words
of state.
-/

namespace WebSocketClient

namespace Sha1

structure State where
  a : UInt32
  b : UInt32
  c : UInt32
  d : UInt32
  e : UInt32

def initial : State :=
  ⟨0x67452301, 0xEFCDAB89, 0x98BADCFE, 0x10325476, 0xC3D2E1F0⟩

def rotateLeft (word : UInt32) (count : UInt32) : UInt32 :=
  (word <<< count) ||| (word >>> (32 - count))

def pad (message : Bytes) : Bytes :=
  let zeros := (119 - message.length % 64) % 64
  message ++ 0x80 :: List.replicate zeros 0 ++ Bytes.bigEndian 8 (message.length * 8)

def words : Bytes -> List UInt32
  | a :: b :: c :: d :: rest =>
      UInt32.ofNat (Bytes.ofBigEndian [a, b, c, d]) :: words rest
  | _ => []

/-- Further words of a block, given the last sixteen, newest first. -/
def expand : (count : Nat) -> List UInt32 -> List UInt32
  | 0, _ => []
  | count + 1, window =>
      let word := rotateLeft
        (window.getD 2 0 ^^^ window.getD 7 0 ^^^ window.getD 13 0 ^^^ window.getD 15 0) 1
      word :: expand count (word :: window.take 15)

/-- The mixing function and the constant of a round. -/
def roundWord (round : Nat) (s : State) : UInt32 :=
  if round < 20 then ((s.b &&& s.c) ||| (~~~s.b &&& s.d)) + 0x5A827999
  else if round < 40 then (s.b ^^^ s.c ^^^ s.d) + 0x6ED9EBA1
  else if round < 60 then ((s.b &&& s.c) ||| (s.b &&& s.d) ||| (s.c &&& s.d)) + 0x8F1BBCDC
  else (s.b ^^^ s.c ^^^ s.d) + 0xCA62C1D6

def step (s : State) (word : UInt32 × Nat) : State :=
  ⟨rotateLeft s.a 5 + roundWord word.2 s + s.e + word.1, s.a, rotateLeft s.b 30, s.c, s.d⟩

def compress (s : State) (block : List UInt32) : State :=
  let t := (block ++ expand 64 block.reverse).zipIdx.foldl step s
  ⟨s.a + t.a, s.b + t.b, s.c + t.c, s.d + t.d, s.e + t.e⟩

def compressAll (s : State) : (blocks : Nat) -> List UInt32 -> State
  | 0, _ => s
  | blocks + 1, message => compressAll (compress s (message.take 16)) blocks (message.drop 16)

def digest (message : Bytes) : Bytes :=
  let padded := words (pad message)
  let s := compressAll initial (padded.length / 16) padded
  [s.a, s.b, s.c, s.d, s.e].flatMap fun word => Bytes.bigEndian 4 word.toNat

end Sha1

end WebSocketClient
