import WebSocketClient.Bytes
import WebSocketClient.Error

/-!
# Incoming octets

What has arrived on a stream and has not been read: chunks of any size, and how
the stream ends if it does.  Reading takes octets across chunks, so only the
octets themselves matter, never where one chunk stops and the next one starts.
-/

namespace WebSocketClient

/-- What comes after the last octet of a stream. -/
inductive Ending where
  | endOfStream
  /-- Every read fails for this reason. -/
  | failure (reason : String)
  deriving DecidableEq

structure Source where
  /-- What has arrived, in order. -/
  chunks : List Bytes := []
  /-- The end of the stream, once it is known. -/
  ending : Option Ending := none
  deriving DecidableEq

namespace Source

def bytes (source : Source) : Bytes :=
  source.chunks.flatten

def length (source : Source) : Nat :=
  source.chunks.foldr (fun chunk total => chunk.length + total) 0

def extend (source : Source) (chunks : List Bytes) (ending : Option Ending) : Source :=
  ⟨source.chunks ++ chunks, source.ending <|> ending⟩

def exhausted (source : Source) : Source :=
  { source with chunks := [] }

end Source

/-!
## Results of reading
-/

inductive Reading (α : Type) where
  | done (value : α) (rest : Source)
  /-- The stream ended before the value was complete. -/
  | ended (rest : Source)
  | failed (error : Error) (rest : Source)
  /-- More octets are needed. -/
  | waiting
  deriving DecidableEq

namespace Reading

variable {α β : Type}

def andThen (reading : Reading α) (next : α -> Source -> Reading β) : Reading β :=
  match reading with
  | done value rest => next value rest
  | ended rest => ended rest
  | failed error rest => failed error rest
  | waiting => waiting

/-- A value that was computed without reading. -/
def ofExcept (outcome : Except Error α) (rest : Source) : Reading α :=
  match outcome with
  | .ok value => done value rest
  | .error error => failed error rest

end Reading

/-!
## Reading across chunks
-/

namespace Source

/-- The first `n` octets, or all if there are fewer, and the chunks left. -/
def split (n : Nat) : List Bytes -> Bytes × List Bytes
  | [] => ([], [])
  | chunk :: rest =>
      if Bytes.hasAtLeast (n + 1) chunk then
        (chunk.take n, chunk.drop n :: rest)
      else
        let (more, rest) := split (n - chunk.length) rest
        (chunk ++ more, rest)

def lineFeed : UInt8 := 10

/-- The octets up to the first line feed and with it, but at most `n`, and the
chunks left. -/
def splitLine (n : Nat) : List Bytes -> Bytes × List Bytes
  | [] => ([], [])
  | chunk :: rest =>
      let lineLength := (chunk.takeWhile (· ≠ lineFeed)).length + 1
      if Bytes.hasAtLeast (min n lineLength) chunk then
        (chunk.take (min n lineLength), chunk.drop (min n lineLength) :: rest)
      else
        let (more, rest) := splitLine (n - chunk.length) rest
        (chunk ++ more, rest)

/-- The result of a read that the octets at hand do not satisfy; they are lost
when the stream fails. -/
def starved {α : Type} (source : Source) : Reading α :=
  match source.ending with
  | none => .waiting
  | some .endOfStream => .ended source.exhausted
  | some (.failure reason) => .failed (.transport reason) source.exhausted

def exactly (source : Source) (n : Nat) : Reading Bytes :=
  let (octets, rest) := split n source.chunks
  if octets.length = n then .done octets { source with chunks := rest } else source.starved

def octet (source : Source) : Reading UInt8 :=
  (source.exactly 1).andThen fun octets rest =>
    match octets with
    | octet :: _ => .done octet rest
    | [] => .ended rest

/-- Read a line with its line feed, but at most `n` octets; the end of the stream
ends a line too. -/
def line (source : Source) (n : Nat) : Reading Bytes :=
  let (octets, rest) := splitLine n source.chunks
  if octets.length = n || octets.getLast? = some lineFeed then
    .done octets { source with chunks := rest }
  else
    match source.ending with
    | some .endOfStream => .done octets source.exhausted
    | _ => source.starved

/-!
## The octets alone matter
-/

theorem split_fst (n : Nat) (chunks : List Bytes) :
    (split n chunks).1 = chunks.flatten.take n := by
  induction chunks generalizing n with
  | nil => simp [split]
  | cons chunk rest ih =>
      simp only [split, Bytes.hasAtLeast_iff, List.flatten_cons]
      split
      · rw [List.take_append_of_le_length (by omega)]
      · simp [ih, List.take_append, List.take_of_length_le (show chunk.length <= n by omega)]

theorem split_snd (n : Nat) (chunks : List Bytes) :
    (split n chunks).2.flatten = chunks.flatten.drop n := by
  induction chunks generalizing n with
  | nil => simp [split]
  | cons chunk rest ih =>
      simp only [split, Bytes.hasAtLeast_iff, List.flatten_cons]
      split
      · rw [List.drop_append_of_le_length (by omega)]
        simp
      · simp [ih, List.drop_append, List.drop_eq_nil_of_le (show chunk.length <= n by omega)]

theorem splitLine_append (n : Nat) (chunks : List Bytes) :
    (splitLine n chunks).1 ++ (splitLine n chunks).2.flatten = chunks.flatten := by
  induction chunks generalizing n with
  | nil => simp [splitLine]
  | cons chunk rest ih =>
      simp only [splitLine, List.flatten_cons]
      split
      · simp [← List.append_assoc]
      · simp [ih]

theorem length_eq_length_bytes (source : Source) : source.length = source.bytes.length := by
  unfold length bytes
  induction source.chunks with
  | nil => rfl
  | cons chunk rest ih =>
      rw [List.foldr_cons, List.flatten_cons, List.length_append, ih]

end Source

end WebSocketClient
