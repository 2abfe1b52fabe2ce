import WebSocketClient.Bytes

/-!
# Outgoing octets

The sending side of a stream: what has been sent on it, and what it does with
the octets of the next write.  A write takes a front of the octets offered, or
fails, or waits.  A flush asks the stream to pass on what it has taken; it
succeeds, fails or waits, and takes nothing.
-/

namespace WebSocketClient

inductive WritePolicy where
  /-- Every write takes everything. -/
  | ready
  /-- Every write takes at most `n` octets. -/
  | portions (n : Nat)
  /-- The writes take `n` more octets in all, and then fail. -/
  | failingAfter (n : Nat) (reason : String)
  | failing (reason : String)
  /-- Writes and the shutdown wait. -/
  | stalled
  deriving DecidableEq

inductive WriteAnswer where
  /-- A front of the octets is taken. -/
  | taken (front : Bytes)
  | failed (reason : String)
  | waiting
  deriving DecidableEq

inductive FlushAnswer where
  | flushed
  | failed (reason : String)
  | waiting
  deriving DecidableEq

namespace WriteAnswer

def octets : WriteAnswer -> Bytes
  | taken front => front
  | failed _ | waiting => []

end WriteAnswer

namespace WritePolicy

/-- The answer to a write, and the policy after it. -/
def answer (policy : WritePolicy) (offered : Bytes) : WriteAnswer × WritePolicy :=
  match policy with
  | ready => (.taken offered, policy)
  | portions n => (.taken (offered.take n), policy)
  | failingAfter n reason =>
      if n = 0 then
        (.failed reason, policy)
      else
        (.taken (offered.take n), failingAfter (n - offered.length) reason)
  | failing reason => (.failed reason, policy)
  | stalled => (.waiting, policy)

theorem octets_answer (policy : WritePolicy) (offered : Bytes) :
    (policy.answer offered).1.octets <+: offered := by
  cases policy with
  | ready => exact List.prefix_refl offered
  | portions n => exact List.take_prefix n offered
  | failingAfter n reason =>
      simp only [answer]
      split
      · exact List.nil_prefix
      · exact List.take_prefix n offered
  | failing reason => exact List.nil_prefix
  | stalled => exact List.nil_prefix

end WritePolicy

structure Sink where
  policy : WritePolicy := .ready
  flush : FlushAnswer := .flushed
  /-- What the writes have taken, last one first. -/
  sent : List Bytes := []
  shutDown : Bool := false
  deriving DecidableEq

namespace Sink

def content (sink : Sink) : Bytes :=
  sink.sent.reverse.flatten

def write (sink : Sink) (octets : Bytes) : WriteAnswer × Sink :=
  let (answer, policy) := sink.policy.answer octets
  (answer, { sink with policy := policy, sent := answer.octets :: sink.sent })

/-- Shut the stream down, unless it makes the caller wait. -/
def shutdown? (sink : Sink) : Option Sink :=
  match sink.policy with
  | .stalled => none
  | _ => some { sink with shutDown := true }

theorem content_write (sink : Sink) (octets : Bytes) :
    (sink.write octets).2.content = sink.content ++ (sink.write octets).1.octets := by
  simp [write, content]

end Sink

end WebSocketClient
