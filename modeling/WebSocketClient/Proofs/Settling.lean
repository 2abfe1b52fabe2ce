import WebSocketClient.Proofs.Hearing
import WebSocketClient.Proofs.RoundTrip
import WebSocketClient.Proofs.Simulation

/-!
# Coming to rest

A connection that is left to itself comes to rest.  Its life has chapters, and
nobody goes back to an earlier one; within a chapter the holder of the lock has
ever less to write, and the receiver ever less to read.
-/

namespace WebSocketClient

namespace Holder

def chapters : Holder -> Nat
  | requesting _ _ => 8
  | awaitingAnswer _ => 7
  | sending _ _ | farewell _ _ => 3
  | leaving _ _ _ _ => 2

end Holder

namespace Receiver

/-- The chapters that are left to the receiver.  At the end of its loop it takes the
lock, for a close frame and a shutdown at most. -/
def chapters (receiver : Receiver) : Nat :=
  match receiver.phase with
  | .checking | .reading | .parked | .delivering _ | .exiting _ => 4
  | .notifying _ => 1
  | .closing | .finished => 0

theorem chapters_release (core : Core) (abort : Bool) (receiver : Receiver) :
    (core.release abort receiver).chapters <= receiver.chapters := by
  have habort (receiver : Receiver) : receiver.abort.chapters <= receiver.chapters := by
    unfold Receiver.abort
    split
    case h_1 => exact Nat.zero_le _
    case h_2 => exact Nat.le_refl _
  unfold Core.release
  simp only
  split
  case isTrue => exact habort _
  case isFalse => exact Nat.le_refl _

theorem chapters_step {limits : Limits} {receiver next : Receiver} {signals : List Signal}
    (hstep : receiver.step? limits = some (next, signals)) :
    next.chapters <= receiver.chapters := by
  have hall (other : Receiver) : other.chapters <= 4 := by
    unfold chapters
    split <;> decide
  have hloop : receiver.chapters = 4 := by
    unfold step? at hstep
    split at hstep
    case h_1 hphase => simp [chapters, hphase]
    case h_2 hphase => simp [chapters, hphase]
    case h_3 hphase => simp [chapters, hphase]
    all_goals cases hstep
  rw [hloop]
  exact hall next

end Receiver

namespace Connection

def reception (connection : Connection) : Nat :=
  (connection.receiver.map Receiver.chapters).getD 0

def chapters (connection : Connection) : Nat :=
  (connection.holder.map Holder.chapters).getD 0 + connection.reception

/-- A bound on the steps that are left to this chapter. -/
def toil (connection : Connection) : Nat :=
  let writing := match connection.holder with
    | some (.requesting attempt writing) => attempt.writer.output.work writing
    | some (.sending _ writing) | some (.farewell writing _) =>
        (connection.core.writer.map fun writer => writer.output.work writing).getD 0
    | some (.leaving writer writing _ _) => writer.output.work writing
    | some (.awaitingAnswer _) | none => 0
  writing + (connection.receiver.map Receiver.work).getD 0

def Nears (old new : Connection) : Prop :=
  new.chapters < old.chapters ∨ new.chapters = old.chapters ∧ new.toil < old.toil

/-!
## Chapters of the parts of a step
-/

theorem reception_setPhase (connection : Connection) {phase : ReceiverPhase}
    (hphase : phase = .closing ∨ phase = .finished) :
    (connection.setPhase phase).reception = 0 := by
  cases hreceiver : connection.receiver <;> rcases hphase with rfl | rfl <;>
    simp [reception, setPhase, mapReceiver, hreceiver, Receiver.chapters]

theorem chapters_finishTeardown (connection : Connection) (failure : Option Error) :
    (connection.finishTeardown failure).chapters <= connection.reception + 1 := by
  cases failure with
  | some error => exact Nat.le_trans (Nat.le_of_eq (Nat.zero_add _)) (Nat.le_succ _)
  | none =>
      cases hreceiver : connection.receiver <;> cases hlistener : connection.core.listener <;>
        simp [chapters, reception, finishTeardown, report, log, mapReceiver, hreceiver, hlistener,
          Receiver.chapters]

theorem chapters_startTeardown (connection : Connection) (failure : Option Error) :
    (connection.startTeardown failure).chapters <= connection.reception + 2 := by
  have hreception : (connection.releaseReceiver failure.isSome).reception <=
      connection.reception := by
    cases hreceiver : connection.receiver with
    | none => simp [reception, releaseReceiver, mapReceiver, hreceiver]
    | some receiver =>
        simp only [reception, releaseReceiver, mapReceiver, hreceiver, Option.map_some,
          Option.getD_some]
        exact Receiver.chapters_release _ _ _
  unfold startTeardown
  simp only
  split
  case h_1 writer _ =>
      show 2 + (connection.releaseReceiver failure.isSome).reception <= _
      omega
  case h_2 =>
      refine Nat.le_trans (chapters_finishTeardown _ failure) ?_
      show (connection.releaseReceiver failure.isSome).reception + 1 <= _
      omega

theorem chapters_startFarewell (connection : Connection) (payload : Bytes) :
    (connection.startFarewell payload).chapters <= connection.reception + 3 := by
  unfold startFarewell
  split
  case h_1 => exact Nat.le_succ_of_le (chapters_startTeardown connection none)
  case h_2 writer _ => exact Nat.le_of_eq (Nat.add_comm 3 connection.reception)

/-!
## Steps of the holder of the lock
-/

section Steps

variable {connection next : Connection}

theorem chapters_of_holder {holder : Holder} (hholder : connection.holder = some holder) :
    connection.chapters = holder.chapters + connection.reception := by
  simp [chapters, hholder]

theorem nears_requestStep {attempt : Attempt} {writing : Writing}
    (hholder : connection.holder = some (.requesting attempt writing))
    (hstep : connection.requestStep? attempt writing = some next) : connection.Nears next := by
  have hchapters := chapters_of_holder hholder
  unfold requestStep? at hstep
  split at hstep
  case h_1 output sink writing' hwrite =>
      cases hstep
      refine Or.inr (And.intro hchapters.symm ?_)
      have hless := Output.work_of_handOver_more (Output.step_eq_more.mp hwrite)
      simp only [toil, hholder]
      omega
  case h_2 =>
      cases hstep
      left
      rw [hchapters]
      exact Nat.add_lt_add_right (by decide : 7 < 8) _
  case h_3 =>
      cases hstep
      left
      rw [hchapters]
      exact Nat.add_lt_add_right (by decide : 0 < 8) _
  case h_4 => cases hstep

theorem nears_readAnswer {attempt : Attempt}
    (hholder : connection.holder = some (.awaitingAnswer attempt))
    (hstep : connection.readAnswer? attempt = some next) : connection.Nears next := by
  have hchapters := chapters_of_holder hholder
  have hfail (error : Error) : (connection.failOpening error).chapters < connection.chapters := by
    rw [hchapters]
    exact Nat.add_lt_add_right (by decide : 0 < 7) _
  unfold readAnswer? at hstep
  split at hstep
  case h_1 => cases hstep
  case h_2 => cases hstep
  case h_3 error _ _ =>
      cases hstep
      exact Or.inl (hfail error)
  case h_4 =>
      split at hstep
      case h_1 error _ =>
          cases hstep
          exact Or.inl (hfail error)
      case h_2 =>
          cases hstep
          left
          show 4 < _
          rw [hchapters]
          exact Nat.lt_of_lt_of_le (by decide) (Nat.le_add_right 7 _)

theorem nears_startTeardown {holder : Holder} (hholder : connection.holder = some holder)
    (hlong : 3 <= holder.chapters) {other : Connection}
    (hother : other.reception = connection.reception) (failure : Option Error) :
    connection.Nears (other.startTeardown failure) := by
  left
  have hchapters := chapters_startTeardown other failure
  rw [chapters_of_holder hholder]
  omega

theorem nears_sendingStep {sending : Sending} {writing : Writing}
    (hholder : connection.holder = some (.sending sending writing))
    (hstep : connection.sendingStep? sending writing = some next) : connection.Nears next := by
  have hchapters := chapters_of_holder hholder
  unfold sendingStep? at hstep
  split at hstep
  case h_1 => cases hstep
  case h_2 writer hwriter =>
      split at hstep
      case h_1 output sink writing' hwrite =>
          cases hstep
          refine Or.inr (And.intro hchapters.symm ?_)
          have hless := Output.work_of_handOver_more (Output.step_eq_more.mp hwrite)
          simp only [toil, hholder, hwriter, setOutput, Option.map_some, Option.getD_some]
          omega
      case h_2 =>
          cases hstep
          left
          rw [hchapters]
          exact Nat.add_lt_add_right (by decide : 0 < 3) _
      case h_3 =>
          cases hstep
          apply nears_startTeardown hholder (Nat.le_refl 3)
          rfl
      case h_4 => cases hstep

theorem nears_farewellStep {writing : Writing} {deadline : Nat}
    (hholder : connection.holder = some (.farewell writing deadline))
    (hstep : connection.farewellStep? writing deadline = some next) : connection.Nears next := by
  have hchapters := chapters_of_holder hholder
  unfold farewellStep? at hstep
  split at hstep
  case h_1 => cases hstep
  case h_2 writer hwriter =>
      split at hstep
      case h_1 output sink writing' hwrite =>
          cases hstep
          refine Or.inr (And.intro hchapters.symm ?_)
          have hless := Output.work_of_handOver_more (Output.step_eq_more.mp hwrite)
          simp only [toil, hholder, hwriter, setOutput, Option.map_some, Option.getD_some]
          omega
      case h_2 =>
          cases hstep
          apply nears_startTeardown hholder (Nat.le_refl 3)
          rfl
      case h_3 =>
          cases hstep
          apply nears_startTeardown hholder (Nat.le_refl 3)
          rfl
      case h_4 =>
          split at hstep
          · cases hstep
            apply nears_startTeardown hholder (Nat.le_refl 3)
            rfl
          · cases hstep

theorem nears_leavingStep {writer : FrameWriter} {writing : Writing} {deadline : Nat}
    {failure : Option Error}
    (hholder : connection.holder = some (.leaving writer writing deadline failure))
    (hstep : connection.leavingStep? writer writing deadline failure = some next) :
    connection.Nears next := by
  have hchapters := chapters_of_holder hholder
  have hover (sink : Sink) :
      connection.Nears ({ connection with sink := sink }.finishTeardown failure) := by
    left
    have hless := chapters_finishTeardown { connection with sink := sink } failure
    refine Nat.lt_of_le_of_lt hless ?_
    rw [hchapters]
    show connection.reception + 1 < 2 + connection.reception
    omega
  unfold leavingStep? at hstep
  split at hstep
  case h_1 output sink writing' hwrite =>
      cases hstep
      refine Or.inr (And.intro hchapters.symm ?_)
      have hless := Output.work_of_handOver_more (Output.shutdownStep_more.mp hwrite)
      simp only [toil, hholder]
      omega
  case h_2 =>
      cases hstep
      exact hover _
  case h_3 =>
      cases hstep
      exact hover _
  case h_4 =>
      split at hstep
      · cases hstep
        exact hover connection.sink
      · cases hstep

theorem nears_holderStep {holder : Holder} (hholder : connection.holder = some holder)
    (hstep : connection.holderStep? holder = some next) : connection.Nears next := by
  cases holder with
  | requesting attempt writing => exact nears_requestStep hholder hstep
  | awaitingAnswer attempt => exact nears_readAnswer hholder hstep
  | sending sending writing => exact nears_sendingStep hholder hstep
  | farewell writing deadline => exact nears_farewellStep hholder hstep
  | leaving writer writing deadline failure => exact nears_leavingStep hholder hstep

/-!
## Steps of the receiver
-/

theorem chapters_exit (hfree : connection.isFree = true) (outcome : Outcome) :
    (connection.exit outcome).chapters <= 3 := by
  have hholder : connection.holder = none := by simpa [isFree] using hfree
  have hfinished : (connection.setPhase .finished).chapters <= 3 := by
    rw [chapters, reception_setPhase connection (Or.inr rfl)]
    simp [setPhase, mapReceiver, hholder]
  have hclosing := reception_setPhase connection (Or.inl rfl)
  have hteardown {other : Connection} (hother : other.reception = 0) :
      (other.startTeardown none).chapters <= 3 := by
    have hless := chapters_startTeardown other none
    omega
  have hfarewell {other : Connection} (hother : other.reception = 0) (payload : Bytes) :
      (other.startFarewell payload).chapters <= 3 := by
    have hless := chapters_startFarewell other payload
    omega
  unfold exit
  split
  case isTrue => exact hfinished
  case isFalse =>
      split
      case h_1 => exact hfinished
      case h_2 => exact hteardown hclosing
      case h_3 =>
          refine hfarewell ?_ _
          exact hclosing
      case h_4 => exact hteardown hclosing
      case h_5 =>
          simp only
          split
          case isTrue =>
              refine hfarewell ?_ _
              exact hclosing
          case isFalse => exact hteardown hclosing

theorem nears_receiverStep {receiver : Receiver} (hreceiver : connection.receiver = some receiver)
    (hstep : connection.receiverStep? receiver = some next) : connection.Nears next := by
  have hreception : connection.reception = receiver.chapters := by simp [reception, hreceiver]
  have hchapters : connection.chapters =
      (connection.holder.map Holder.chapters).getD 0 + receiver.chapters := by
    rw [chapters, hreception]
  unfold receiverStep? at hstep
  split at hstep
  case h_1 outcome hphase =>
      have hlong : receiver.chapters = 4 := by simp [Receiver.chapters, hphase]
      split at hstep
      case isTrue hfree =>
          cases hstep
          have hless := chapters_exit hfree outcome
          left
          omega
      case isFalse =>
          split at hstep
          case isTrue =>
              cases hstep
              left
              have hnothing := reception_setPhase connection (Or.inr rfl)
              rw [chapters, hnothing, hchapters, hlong]
              exact Nat.lt_add_of_pos_right (by decide)
          case isFalse => cases hstep
  case h_2 listener hphase =>
      cases hstep
      left
      have hlong : receiver.chapters = 1 := by simp [Receiver.chapters, hphase]
      have hnothing := reception_setPhase (connection.notify (some listener) .closed) (Or.inr rfl)
      rw [chapters, hnothing, hchapters, hlong]
      exact Nat.lt_succ_self _
  case h_3 =>
      rcases Option.map_eq_some_iff.mp hstep with ⟨⟨after, signals⟩, hafter, rfl⟩
      rcases exists_journal_emit { connection with receiver := some after } after.listener
        signals with ⟨journal, hjournal⟩
      simp only [hjournal]
      have hwork := Receiver.work_of_step hafter
      rcases Nat.lt_or_eq_of_le (Receiver.chapters_step hafter) with hless | hsame
      · left
        rw [hchapters]
        exact Nat.add_lt_add_left hless _
      · right
        constructor
        · rw [hchapters, ← hsame]
          rfl
        · simp only [toil, hreceiver, Option.map_some, Option.getD_some]
          omega

theorem nears_of_step (hstep : connection.step? = some next) : connection.Nears next := by
  unfold step? at hstep
  cases hhold : connection.holder.bind connection.holderStep? with
  | some held =>
      rw [hhold] at hstep
      cases hstep
      rcases Option.bind_eq_some_iff.mp hhold with ⟨holder, hholder, hheld⟩
      exact nears_holderStep hholder hheld
  | none =>
      rw [hhold] at hstep
      have hreceive : connection.receiver.bind connection.receiverStep? = some next := hstep
      rcases Option.bind_eq_some_iff.mp hreceive with ⟨receiver, hreceiver, hnext⟩
      exact nears_receiverStep hreceiver hnext

end Steps

/-!
## Rest
-/

theorem nears_wellFounded : WellFounded fun new old : Connection => old.Nears new := by
  refine Subrelation.wf ?_ (InvImage.wf (fun connection => (connection.chapters, connection.toil))
    (Prod.lex Nat.lt_wfRel Nat.lt_wfRel).wf)
  intro new old hnears
  rcases hnears with hless | ⟨hsame, hless⟩
  · exact Prod.Lex.left _ _ hless
  · show Prod.Lex _ _ (new.chapters, new.toil) (old.chapters, old.toil)
    rw [hsame]
    exact Prod.Lex.right _ hless

theorem step?_eq_none_iff {connection : Connection} : connection.step? = none <->
    connection.holder.bind connection.holderStep? = none ∧
      connection.receiver.bind connection.receiverStep? = none := by
  unfold step?
  cases connection.holder.bind connection.holderStep? <;> simp

/-- A connection that is left to itself comes to rest. -/
theorem exists_rest (connection : Connection) :
    exists moves, (forall move, move ∈ moves -> move = .hold ∨ move = .receive) ∧
      (connection.play moves).step? = none := by
  induction connection using nears_wellFounded.induction with
  | _ connection ih =>
      cases hstep : connection.step? with
      | none => exact ⟨[], by simp, hstep⟩
      | some next =>
          rcases exists_move_of_step hstep with ⟨last, hlast, hnext⟩
          rcases ih next (nears_of_step hstep) with ⟨moves, hown, hrest⟩
          refine ⟨last :: moves, ?_, ?_⟩
          · intro move hmove
            rcases List.mem_cons.mp hmove with rfl | hmove
            · exact hlast
            · exact hown move hmove
          · rw [play_cons, ← hnext]
            exact hrest

end Connection

end WebSocketClient
