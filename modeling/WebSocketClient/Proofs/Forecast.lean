import WebSocketClient.Proofs.Unattended

/-!
# What is yet to be told

What a receiver will tell its listener is settled by the octets, those that have arrived
and those that are yet to arrive: it is what the loop tells that runs over all of them.
A step of the loop tells a part of it, and whether a close frame is awaited does not
matter.
-/

namespace WebSocketClient

/-!
## Receivers that do not know of a close frame
-/

def Outcome.unaware : Outcome -> Outcome
  | closeReceived frame _ => closeReceived frame false
  | outcome => outcome

def ReceiverPhase.unaware : ReceiverPhase -> ReceiverPhase
  | exiting outcome => exiting outcome.unaware
  | phase => phase

namespace Receiver

def unaware (receiver : Receiver) : Receiver :=
  { receiver with phase := receiver.phase.unaware, awaitingClose := false }

section Unaware

variable {limits : Limits} {receiver : Receiver}

theorem holdsStream_unaware (receiver : Receiver) :
    receiver.unaware.holdsStream = receiver.holdsStream := by
  unfold holdsStream unaware
  cases receiver.phase <;> rfl

theorem unaware_of_holdsStream (hloop : receiver.holdsStream = true) :
    receiver.unaware = { receiver with awaitingClose := false } := by
  unfold holdsStream at hloop
  unfold unaware
  cases hphase : receiver.phase <;> simp [hphase, ReceiverPhase.unaware] at hloop ⊢

theorem unaware_afterMove (receiver : Receiver) (next : Move) :
    (receiver.afterMove next).unaware = receiver.unaware.afterMove next := by
  cases next with
  | supply chunks ending =>
      cases hphase : receiver.phase <;>
        simp [afterMove, unaware, Receiver.arrive, ReceiverPhase.unaware, hphase]
  | _ => rfl

theorem step?_unaware (limits : Limits) (receiver : Receiver) :
    receiver.unaware.step? limits =
      (receiver.step? limits).map fun (next, signals) => (next.unaware, signals) := by
  unfold step?
  cases hphase : receiver.phase with
  | checking => cases hstop : receiver.stop <;>
      simp [unaware, ReceiverPhase.unaware, Outcome.unaware, hphase, hstop]
  | reading =>
      simp only [unaware, ReceiverPhase.unaware, hphase, Option.map_some, readFrame]
      split
      case h_1 frame rest _ =>
          unfold takeFrame
          simp only
          split <;> rfl
      case h_4 => cases receiver.aborted <;> rfl
      all_goals rfl
  | _ => simp [unaware, ReceiverPhase.unaware, hphase]

end Unaware

/-!
## Forecasts
-/

/-- What the loop tells that starts here, and that the connection is closed if the loop
ends. -/
def foretold (limits : Limits) (receiver : Receiver) : List Event :=
  events (receiver.run limits).1 ++
    match (receiver.run limits).2.phase with
    | .exiting _ => [.closed]
    | _ => []

/-- The loop goes on or has ended of its own accord, and when these octets have arrived
its listener will have been told this. -/
structure Foretells (limits : Limits) (listener : Option ListenerId) (more : Bytes)
    (ending : Option Ending) (yet : List Event) (receiver : Receiver) : Prop where
  calm : receiver.IsCalm limits
  stop : receiver.stop = false
  listener : receiver.listener = listener
  course : receiver.holdsStream = true ∨
    exists outcome, receiver.phase = .exiting outcome ∧ outcome ≠ .stopped
  yet : exists left, receiver.source.GoesOn more ending left ∧
    (receiver.withSource left).foretold limits = yet

section Foretells

variable {limits : Limits} {listener : Option ListenerId} {more : Bytes}
  {ending : Option Ending} {yet : List Event} {receiver next : Receiver} {signals : List Signal}

theorem foretold_of_step (hstep : receiver.step? limits = some (next, signals)) :
    receiver.foretold limits = events signals ++ next.foretold limits := by
  rw [foretold, foretold, run_of_step hstep, events_append, List.append_assoc]

theorem foretold_of_exiting {outcome : Outcome} (hphase : receiver.phase = .exiting outcome) :
    receiver.foretold limits = [.closed] := by
  have hstep : receiver.step? limits = none := by simp [step?, hphase]
  rw [foretold, run_of_step_eq_none hstep, hphase]
  rfl

theorem foretold_of_parked (hphase : receiver.phase = .parked) :
    receiver.foretold limits = [] := by
  have hstep : receiver.step? limits = none := by simp [step?, hphase]
  rw [foretold, run_of_step_eq_none hstep, hphase]
  rfl

/-- The loop goes on with its next step, or ends, but not because it was told to. -/
theorem course_of_step (hstop : receiver.stop = false) (haborted : receiver.aborted = false)
    (hstep : receiver.step? limits = some (next, signals)) :
    next.holdsStream = true ∨ exists outcome, next.phase = .exiting outcome ∧ outcome ≠ .stopped := by
  unfold step? at hstep
  split at hstep
  case h_1 =>
      cases hstep
      exact Or.inl (by simp [holdsStream, hstop])
  case h_2 =>
      simp only [readFrame] at hstep
      split at hstep
      case h_1 =>
          unfold takeFrame at hstep
          simp only at hstep
          split at hstep
          case h_3 =>
              cases hstep
              exact Or.inl rfl
          all_goals
            cases hstep
            exact Or.inr ⟨_, rfl, by simp⟩
      case h_4 =>
          cases hstep
          exact Or.inl (by simp [holdsStream, haborted])
      all_goals
        cases hstep
        exact Or.inr ⟨_, rfl, by simp⟩
  case h_3 =>
      cases hstep
      exact Or.inl rfl
  all_goals cases hstep

theorem Foretells.step (hforetells : receiver.Foretells limits listener more ending yet)
    (hstep : receiver.step? limits = some (next, signals)) :
    exists later, yet = events signals ++ later ∧
      next.Foretells limits listener more ending later := by
  have hcalm := hforetells.calm
  have hstop : next.stop = false :=
    (congrArg Flags.stop (flags_step hstep)).trans hforetells.stop
  have hlistener := (listener_step hstep).trans hforetells.listener
  have hcourse := course_of_step hforetells.stop hcalm.aborted hstep
  rcases hforetells.yet with ⟨left, hgoes, hyet⟩
  rcases step?_withSource hgoes hcalm.aborted hstep with
    ⟨hphase, _, hparked, rfl⟩ | ⟨later, hlate, hlater, _⟩
  · refine ⟨yet, rfl, hcalm.step hstep, hstop, hlistener, hcourse, left, ?_, ?_⟩
    · rw [hparked]
      exact hgoes
    · rw [← hyet, hparked]
      simp [withSource, hphase]
  · refine ⟨_, ?_, hcalm.step hstep, hstop, hlistener, hcourse, later, hlater, rfl⟩
    rw [← hyet, foretold_of_step hlate]

theorem Foretells.arrive {chunks : List Bytes} {known : Option Ending}
    (hforetells : receiver.Foretells limits listener (chunks.flatten ++ more) (known <|> ending)
      yet) (hlast : known = none ∨ more = []) :
    (receiver.arrive chunks known).Foretells limits listener more ending yet := by
  rcases hforetells.yet with ⟨left, hgoes, hyet⟩
  constructor
  case calm => exact hforetells.calm.arrive chunks known
  case stop => exact hforetells.stop
  case listener => exact hforetells.listener
  case course =>
      rcases hforetells.course with hloop | ⟨outcome, hphase, hreason⟩
      · exact Or.inl (holdsStream_arrive hloop chunks known)
      · exact Or.inr ⟨outcome, by simp [Receiver.arrive, hphase], hreason⟩
  case yet => exact ⟨left, hgoes.extend hlast, by rw [withSource_arrive, hyet]⟩

/-- When the loop has ended, the end is all that is left to tell. -/
theorem Foretells.of_exiting (hforetells : receiver.Foretells limits listener more ending yet)
    {outcome : Outcome} (hphase : receiver.phase = .exiting outcome) :
    yet = [.closed] ∧ outcome ≠ .stopped := by
  rcases hforetells.yet with ⟨left, _, hyet⟩
  have hphase' : (receiver.withSource left).phase = .exiting outcome := by
    simp [withSource, hphase]
  constructor
  · rw [← hyet, foretold_of_exiting hphase']
  · rcases hforetells.course with hloop | ⟨other, hother, hreason⟩
    · simp [holdsStream, hphase] at hloop
    · cases hphase.symm.trans hother
      exact hreason

theorem Foretells.of_rest (hforetells : receiver.Foretells limits listener [] none yet)
    (hloop : receiver.holdsStream = true) (hrest : receiver.step? limits = none) : yet = [] := by
  have hphase : receiver.phase = .parked := by
    unfold step? at hrest
    unfold holdsStream at hloop
    cases hphase : receiver.phase <;> simp [hphase] at hrest hloop ⊢
  rcases hforetells.yet with ⟨left, hgoes, hyet⟩
  have hstands : Reading.Stands [] none (receiver.assembly.readFrame limits receiver.source)
      (receiver.assembly.readFrame limits left) := Assembly.readFrame_stands hgoes
  have hwaits : receiver.assembly.readFrame limits left = .waiting := by
    rw [hforetells.calm.waits hphase] at hstands
    cases hstands with
    | waiting hlate => exact hlate rfl rfl
  have hstep : (receiver.withSource left).step? limits =
      some ({ receiver with source := left, phase := .parked }, []) := by
    simp [step?, withSource, readFrame, hphase, hwaits, hforetells.calm.aborted]
  rw [← hyet, foretold_of_step hstep, foretold_of_parked rfl]
  rfl

end Foretells

end Receiver

end WebSocketClient
