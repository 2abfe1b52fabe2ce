import WebSocketClient.Connection.Opening
import WebSocketClient.Proofs.Output
import WebSocketClient.Proofs.Requests

/-!
# How an opening handshake goes wrong

The parts of an opening handshake before and after the request: each can fail, and
the kind of its error says who has to act.  Reading the answer waits only while
more may arrive.
-/

namespace WebSocketClient

theorem error_of_bind {ε α β : Type} {first : Except ε α} {next : α -> Except ε β} {error : ε}
    (hbind : first >>= next = .error error) :
    first = .error error ∨ exists value, next value = .error error := by
  cases first with
  | error fault =>
      cases hbind
      exact Or.inl rfl
  | ok value => exact Or.inr ⟨value, hbind⟩

/-!
## Before the request
-/

namespace Handshake.Request

theorem kind_of_encode {request : Request} {error : Error}
    (hencode : request.encode = .error error) : error.kind = .usage := by
  rcases request.encode_refuses with ⟨_, field, reason, herror⟩ | ⟨_, hok⟩
  · rw [herror] at hencode
    cases hencode
    rfl
  · rw [hok] at hencode
    cases hencode

end Handshake.Request

theorem Endpoint.kind_of_parse {uri : String} {error : Error} (hparse : parse uri = .error error) :
    error.kind = .usage := by
  unfold parse at hparse
  simp only at hparse
  split at hparse
  · cases hparse
    rfl
  · split at hparse
    · cases hparse
      rfl
    · cases hparse
      rfl
    · cases hparse

/-!
## The answer
-/

namespace Source

theorem line_cases (source : Source) (n : Nat) :
    (exists octets rest, source.line n = .done octets rest ∧ rest.ending = source.ending) ∨
      (exists error rest, source.line n = .failed error rest ∧ error.kind = .transport) ∨
      source.line n = .waiting ∧ source.ending = none := by
  simp only [line]
  split
  case isTrue => exact Or.inl ⟨_, _, rfl, rfl⟩
  case isFalse =>
      cases hending : source.ending with
      | none => exact Or.inr (Or.inr (by simp [starved, hending]))
      | some ending =>
          cases ending with
          | endOfStream => exact Or.inl ⟨_, _, rfl, by simp [exhausted, hending]⟩
          | failure reason =>
              exact Or.inr (Or.inl ⟨.transport reason, source.exhausted,
                by simp [starved, hending], rfl⟩)

end Source

namespace Handshake

theorem kind_of_judgeLine {limits : Limits} {total : UInt64} {line : Bytes} {error : Error}
    (hjudge : judgeLine limits total line = .error error) : error.kind = .handshake := by
  unfold judgeLine at hjudge
  rcases error_of_bind hjudge with hsize | ⟨_, hline⟩
  · unfold Limits.checkHandshakeSize at hsize
    split at hsize
    · cases hsize
      rfl
    · cases hsize
  · split at hline
    · cases hline
    · cases hline
      rfl

/-- The head of an answer is complete, or cannot become complete, or the stream
has not ended. -/
theorem readLinesFrom_cases (limits : Limits) (fuel : Nat) (lines : List String) (total : UInt64)
    (source : Source) :
    (exists head rest, readLinesFrom limits fuel lines total source = .done head rest) ∨
      (exists error rest, readLinesFrom limits fuel lines total source = .failed error rest ∧
        (error.kind = .transport ∨ error.kind = .handshake)) ∨
      readLinesFrom limits fuel lines total source = .waiting ∧ source.ending = none := by
  induction fuel generalizing lines total source with
  | zero => exact Or.inl ⟨_, _, rfl⟩
  | succ fuel ih =>
      rw [readLinesFrom]
      rcases source.line_cases (lineBudget limits total).toNat with
        ⟨octets, rest, hline, hending⟩ | ⟨error, rest, hline, hkind⟩ | ⟨hline, hending⟩
      · simp only [hline, Reading.andThen]
        cases hjudge : judgeLine limits (total + UInt64.ofNat octets.length) octets with
        | error error =>
            exact Or.inr (Or.inl ⟨error, rest, rfl, Or.inr (kind_of_judgeLine hjudge)⟩)
        | ok text =>
            simp only [Reading.ofExcept]
            split
            · exact Or.inl ⟨_, _, rfl⟩
            · rw [← hending]
              exact ih _ _ rest
      · simp only [hline, Reading.andThen]
        exact Or.inr (Or.inl ⟨error, rest, rfl, Or.inl hkind⟩)
      · simp only [hline, Reading.andThen]
        exact Or.inr (Or.inr (And.intro trivial hending))

theorem kind_of_readLines {limits : Limits} {source rest : Source} {error : Error}
    (hread : readLines limits source = .failed error rest) :
    error.kind = .transport ∨ error.kind = .handshake := by
  unfold readLines at hread
  rcases readLinesFrom_cases limits (source.length + 1) [] 0 source with
    ⟨head, rest', hdone⟩ | ⟨error', rest', hfailed, hkind⟩ | ⟨hwaiting, _⟩
  · simp [hdone] at hread
  · rw [hfailed] at hread
    cases hread
    exact hkind
  · simp [hwaiting] at hread

theorem ending_of_readLines {limits : Limits} {source : Source}
    (hdone : forall lines rest, readLines limits source ≠ .done lines rest)
    (hfailed : forall error rest, readLines limits source ≠ .failed error rest) :
    readLines limits source = .waiting ∧ source.ending = none := by
  rcases readLinesFrom_cases limits (source.length + 1) [] 0 source with
    ⟨head, rest, heq⟩ | ⟨error, rest, heq, _⟩ | hwaiting
  · exact absurd heq (hdone head rest)
  · exact absurd heq (hfailed error rest)
  · exact hwaiting

theorem Response.kind_of_parse {lines : List String} {expectedAccept : String}
    {offered : List String} {error : Error}
    (hparse : parse lines expectedAccept offered = .error error) : error.kind = .handshake := by
  unfold parse at hparse
  cases hnegotiated : negotiated lines expectedAccept offered with
  | error fault =>
      rw [hnegotiated] at hparse
      cases hparse
      rfl
  | ok protocols =>
      rw [hnegotiated] at hparse
      cases hparse

end Handshake

end WebSocketClient
