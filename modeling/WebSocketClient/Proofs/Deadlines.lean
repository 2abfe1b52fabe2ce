import WebSocketClient.Proofs.Afterwords
import WebSocketClient.Proofs.Parting

/-!
# Deadlines

The receiver holds the lock for its close frame and for the shutdown, and does nothing
else meanwhile.  It waits for the stream until a deadline, which is one socket timeout
ahead when it is set, and it waits twice at most.
-/

namespace WebSocketClient

namespace Holder

@[simp] theorem isCaller_arrive (holder : Holder) (chunks : List Bytes) (ending : Option Ending) :
    (holder.arrive chunks ending).isCaller = holder.isCaller := by
  cases holder <;> rfl

@[simp] theorem deadline?_arrive (holder : Holder) (chunks : List Bytes)
    (ending : Option Ending) : (holder.arrive chunks ending).deadline? = holder.deadline? := by
  cases holder <;> rfl

end Holder

namespace Connection

/-- A holder of the lock that is no caller is the receiver at the end of its loop, and a
deadline is one socket timeout ahead at most. -/
structure IsTimely (connection : Connection) : Prop where
  closing : forall holder, connection.holder = some holder -> holder.isCaller = false ->
    connection.receiver.map Receiver.phase = some .closing
  deadline : forall holder deadline, connection.holder = some holder ->
    holder.deadline? = some deadline ->
    deadline <= connection.clock + connection.config.socketTimeout

section Timely

variable {connection next : Connection}

theorem isTimely_of_free (hholder : connection.holder = none) : connection.IsTimely where
  closing holder hsome := by cases hholder.symm.trans hsome
  deadline holder _ hsome := by cases hholder.symm.trans hsome

/-- A caller waits for the stream as long as it takes. -/
theorem isTimely_of_caller {holder : Holder} (hholder : connection.holder = some holder)
    (hcaller : holder.isCaller = true) (hdeadline : holder.deadline? = none) :
    connection.IsTimely where
  closing other hother hnot := by
    cases hholder.symm.trans hother
    cases hcaller.symm.trans hnot
  deadline other _ hother hsome := by
    cases hholder.symm.trans hother
    cases hdeadline.symm.trans hsome

theorem IsTimely.keep (htimely : connection.IsTimely)
    (hholder : forall holder, next.holder = some holder -> exists before,
      connection.holder = some before ∧ before.isCaller = holder.isCaller ∧
        before.deadline? = holder.deadline?)
    (hphase : connection.receiver.map Receiver.phase = some .closing ->
      next.receiver.map Receiver.phase = some .closing)
    (hclock : connection.clock + connection.config.socketTimeout <=
      next.clock + next.config.socketTimeout) : next.IsTimely where
  closing holder hsome hnot := by
    rcases hholder holder hsome with ⟨before, hbefore, hcaller, _⟩
    exact hphase (htimely.closing before hbefore (hcaller.trans hnot))
  deadline holder deadline hsome hdeadline := by
    rcases hholder holder hsome with ⟨before, hbefore, _, hsame⟩
    exact Nat.le_trans (htimely.deadline before deadline hbefore (hsame.trans hdeadline)) hclock

/-!
## The lock is taken and given back
-/

theorem phase_releaseReceiver (hphase : connection.receiver.map Receiver.phase = some .closing)
    (abort : Bool) :
    (connection.releaseReceiver abort).receiver.map Receiver.phase = some .closing := by
  rcases Option.map_eq_some_iff.mp hphase with ⟨receiver, hreceiver, hclosing⟩
  simp only [releaseReceiver, mapReceiver, hreceiver, Option.map_some, Core.release]
  split
  · simp [Receiver.abort, hclosing]
  · simp [hclosing]

theorem isTimely_startTeardown {failure : Option Error}
    (hphase : failure = none -> connection.receiver.map Receiver.phase = some .closing) :
    (connection.startTeardown failure).IsTimely := by
  unfold startTeardown
  simp only
  split
  case h_1 =>
      constructor
      · intro holder hholder hnot
        cases hholder
        cases failure with
        | some error => cases hnot
        | none => exact phase_releaseReceiver (hphase rfl) _
      · intro holder deadline hholder hdeadline
        cases hholder
        cases hdeadline
        exact Nat.le_refl _
  case h_2 =>
      apply isTimely_of_free
      cases failure <;> rfl

theorem isTimely_startFarewell
    (hphase : connection.receiver.map Receiver.phase = some .closing) (payload : Bytes) :
    (connection.startFarewell payload).IsTimely := by
  unfold startFarewell
  split
  case h_1 => exact isTimely_startTeardown fun _ => hphase
  case h_2 =>
      constructor
      · intro holder hholder _
        exact hphase
      · intro holder deadline hholder hdeadline
        cases hholder
        cases hdeadline
        exact Nat.le_refl _

theorem isTimely_finishTeardown (failure : Option Error) :
    (connection.finishTeardown failure).IsTimely := by
  apply isTimely_of_free
  cases failure <;> rfl

theorem isTimely_exit (hreceiver : connection.receiver.isSome = true)
    (hfree : connection.isFree = true) (outcome : Outcome) :
    (connection.exit outcome).IsTimely := by
  rcases Option.isSome_iff_exists.mp hreceiver with ⟨receiver, hsome⟩
  rcases connection.exit_cases outcome with hover | ⟨closing, _, hsame, hexit⟩
  · rw [hover]
    apply isTimely_of_free
    simpa [isFree, setPhase, mapReceiver] using hfree
  · have hphase : closing.receiver.map Receiver.phase = some .closing := by
      simp [hsame, setPhase, mapReceiver, hsome]
    rcases hexit with htorn | ⟨payload, hsaying⟩
    · rw [htorn]
      exact isTimely_startTeardown fun _ => hphase
    · rw [hsaying]
      exact isTimely_startFarewell hphase payload

theorem isTimely_startOpening (hholder : connection.holder = none) (opening : Opening)
    (dial : Dial) : (connection.startOpening opening dial).IsTimely := by
  unfold startOpening
  split
  case h_1 => exact isTimely_of_free hholder
  case h_2 =>
      split
      case h_1 => exact isTimely_of_free hholder
      case h_2 =>
          simp only
          split
          case h_1 => exact isTimely_of_free rfl
          case h_2 => exact isTimely_of_caller rfl rfl rfl

theorem isTimely_startSending (hholder : connection.holder = none) (call : Call) (frame : Frame)
    (streamingAfter : Bool) : (connection.startSending call frame streamingAfter).IsTimely := by
  unfold startSending
  split
  case h_1 => exact isTimely_of_free hholder
  case h_2 => exact isTimely_of_caller rfl rfl rfl

theorem isTimely_startCall (hholder : connection.holder = none) (call : Call) (payload : Bytes) :
    (connection.startCall call payload).IsTimely := by
  unfold startCall
  split
  case isFalse => exact isTimely_of_free hholder
  case isTrue =>
      split
      case h_1 => exact isTimely_of_free hholder
      case h_2 =>
          split
          case h_1 code reason _ =>
              apply isTimely_startSending
              unfold startClosing
              cases connection.core.holdsControl <;> exact hholder
          case h_2 => exact isTimely_startSending hholder _ _ _

/-!
## Steps
-/

theorem isTimely_requestStep {attempt : Attempt} {writing : Writing}
    (hstep : connection.requestStep? attempt writing = some next) : next.IsTimely := by
  unfold requestStep? at hstep
  split at hstep
  case h_1 =>
      cases hstep
      exact isTimely_of_caller rfl rfl rfl
  case h_2 =>
      cases hstep
      exact isTimely_of_caller rfl rfl rfl
  case h_3 =>
      cases hstep
      exact isTimely_of_free rfl
  case h_4 => cases hstep

theorem isTimely_readAnswer {attempt : Attempt}
    (hstep : connection.readAnswer? attempt = some next) : next.IsTimely := by
  unfold readAnswer? at hstep
  split at hstep
  case h_3 =>
      cases hstep
      exact isTimely_of_free rfl
  case h_4 =>
      split at hstep
      case h_1 =>
          cases hstep
          exact isTimely_of_free rfl
      case h_2 =>
          cases hstep
          exact isTimely_of_free rfl
  all_goals cases hstep

theorem isTimely_sendingStep {sending : Sending} {writing : Writing}
    (hstep : connection.sendingStep? sending writing = some next) : next.IsTimely := by
  unfold sendingStep? at hstep
  split at hstep
  case h_1 => cases hstep
  case h_2 =>
      split at hstep
      case h_1 =>
          cases hstep
          exact isTimely_of_caller rfl rfl rfl
      case h_2 =>
          cases hstep
          exact isTimely_of_free rfl
      case h_3 =>
          cases hstep
          exact isTimely_startTeardown nofun
      case h_4 => cases hstep

theorem IsTimely.farewellStep (htimely : connection.IsTimely) {writing : Writing}
    {deadline : Nat} (hholder : connection.holder = some (.farewell writing deadline))
    (hstep : connection.farewellStep? writing deadline = some next) : next.IsTimely := by
  have hphase := htimely.closing _ hholder rfl
  unfold farewellStep? at hstep
  split at hstep
  case h_1 => cases hstep
  case h_2 =>
      split at hstep
      case h_1 output sink writing' _ =>
          cases hstep
          refine htimely.keep ?_ id (Nat.le_refl _)
          intro holder hsome
          cases hsome
          exact ⟨_, hholder, rfl, rfl⟩
      case h_2 =>
          cases hstep
          exact isTimely_startTeardown fun _ => hphase
      case h_3 =>
          cases hstep
          exact isTimely_startTeardown fun _ => hphase
      case h_4 =>
          split at hstep
          case isTrue =>
              cases hstep
              exact isTimely_startTeardown fun _ => hphase
          case isFalse => cases hstep

theorem IsTimely.leavingStep (htimely : connection.IsTimely) {writer : FrameWriter}
    {writing : Writing} {deadline : Nat} {failure : Option Error}
    (hholder : connection.holder = some (.leaving writer writing deadline failure))
    (hstep : connection.leavingStep? writer writing deadline failure = some next) :
    next.IsTimely := by
  unfold leavingStep? at hstep
  split at hstep
  case h_1 output sink writing' _ =>
      cases hstep
      refine htimely.keep ?_ id (Nat.le_refl _)
      intro holder hsome
      cases hsome
      exact ⟨_, hholder, rfl, rfl⟩
  case h_4 =>
      split at hstep
      case isTrue =>
          cases hstep
          exact isTimely_finishTeardown failure
      case isFalse => cases hstep
  all_goals
    cases hstep
    exact isTimely_finishTeardown failure

theorem IsTimely.holderStep (htimely : connection.IsTimely) {holder : Holder}
    (hholder : connection.holder = some holder)
    (hstep : connection.holderStep? holder = some next) : next.IsTimely := by
  cases holder with
  | requesting attempt writing => exact isTimely_requestStep hstep
  | awaitingAnswer attempt => exact isTimely_readAnswer hstep
  | sending sending writing => exact isTimely_sendingStep hstep
  | farewell writing deadline => exact htimely.farewellStep hholder hstep
  | leaving writer writing deadline failure => exact htimely.leavingStep hholder hstep

theorem IsTimely.receiverStep (htimely : connection.IsTimely) {receiver : Receiver}
    (hreceiver : connection.receiver = some receiver)
    (hstep : connection.receiverStep? receiver = some next) : next.IsTimely := by
  -- A receiver that makes a step does not hold the lock.
  have hawake (hphase : receiver.phase ≠ .closing) (hholder : next.holder = connection.holder)
      (hclock : next.clock = connection.clock) (hconfig : next.config = connection.config) :
      next.IsTimely := by
    refine htimely.keep ?_ ?_ (Nat.le_of_eq (by rw [hclock, hconfig]))
    · intro holder hsome
      exact ⟨holder, hholder ▸ hsome, rfl, rfl⟩
    · intro hclosing
      rw [hreceiver] at hclosing
      exact absurd (Option.some.inj hclosing) hphase
  rcases receiverStep?_cases hstep with
    ⟨outcome, hphase, ⟨hfree, rfl⟩ | ⟨_, _, rfl⟩⟩ | ⟨listener, hphase, rfl⟩ |
      ⟨after, signals, journal, hloop, rfl, _⟩
  · exact isTimely_exit (by rw [hreceiver]; rfl) hfree outcome
  · exact hawake (by simp [hphase]) rfl rfl rfl
  · exact hawake (by simp [hphase]) rfl rfl rfl
  · refine hawake ?_ rfl rfl rfl
    intro hclosing
    have hphase := Receiver.holdsStream_of_step hloop
    simp [Receiver.holdsStream, hclosing] at hphase

theorem IsTimely.move (htimely : connection.IsTimely) (next : Move) :
    (connection.move next).IsTimely := by
  have hsame {other : Connection} (hholder : other.holder = connection.holder)
      (hreceiver : other.receiver = connection.receiver)
      (hclock : connection.clock <= other.clock) (hconfig : other.config = connection.config) :
      other.IsTimely := by
    refine htimely.keep ?_ (fun hclosing => hreceiver ▸ hclosing) ?_
    · intro holder hsome
      exact ⟨holder, hholder ▸ hsome, rfl, rfl⟩
    · rw [hconfig]
      exact Nat.add_le_add_right hclock _
  cases next with
  | connect opening dial =>
      simp only [Connection.move]
      split
      case isTrue hfree => exact isTimely_startOpening (by simpa [isFree] using hfree) _ _
      case isFalse => exact htimely
  | call call =>
      simp only [Connection.move]
      split
      case h_1 => exact hsame rfl rfl (Nat.le_refl _) rfl
      case h_2 =>
          split
          case isTrue hfree => exact isTimely_startCall (by simpa [isFree] using hfree) _ _
          case isFalse => exact htimely
  | hold =>
      simp only [Connection.move]
      cases hstep : connection.holder.bind connection.holderStep? with
      | none => exact htimely
      | some next =>
          rcases Option.bind_eq_some_iff.mp hstep with ⟨holder, hholder, hnext⟩
          exact htimely.holderStep hholder hnext
  | receive =>
      simp only [Connection.move]
      cases hstep : connection.receiver.bind connection.receiverStep? with
      | none => exact htimely
      | some next =>
          rcases Option.bind_eq_some_iff.mp hstep with ⟨receiver, hreceiver, hnext⟩
          exact htimely.receiverStep hreceiver hnext
  | supply chunks ending =>
      refine htimely.keep ?_ ?_ (Nat.le_refl _)
      · intro holder hsome
        rcases Option.map_eq_some_iff.mp hsome with ⟨before, hbefore, rfl⟩
        exact ⟨before, hbefore, (before.isCaller_arrive chunks ending).symm,
          (before.deadline?_arrive chunks ending).symm⟩
      · intro hclosing
        rcases Option.map_eq_some_iff.mp hclosing with ⟨receiver, hreceiver, hphase⟩
        simp [Connection.move, supply, hreceiver, Receiver.arrive, hphase]
  | pass milliseconds => exact hsame rfl rfl (Nat.le_add_right _ _) rfl
  | treatWrites policy flush => exact hsame rfl rfl (Nat.le_refl _) rfl
  | setListener listener =>
      simp only [Connection.move]
      split
      · exact hsame rfl rfl (Nat.le_refl _) rfl
      · exact htimely
  | giveUp =>
      simp only [Connection.move, giveUp]
      split
      case isFalse => exact htimely
      case isTrue =>
          split
          case isTrue hfree =>
              apply isTimely_of_free
              simpa [isFree, releaseReceiver, mapReceiver] using hfree
          case isFalse => exact hsame rfl rfl (Nat.le_refl _) rfl

theorem isTimely_of_reachable (hreachable : connection.Reachable) : connection.IsTimely := by
  rcases hreachable with ⟨config, offered, listener, moves, rfl⟩
  exact play_invariant (fun _ next htimely => htimely.move next) (isTimely_of_free rfl) moves

end Timely

/-!
## The waits of the receiver
-/

def waits (connection : Connection) : Nat :=
  match connection.holder with
  | some (.farewell _ _) => 2
  | some (.leaving _ _ _ _) => 1
  | _ => 0

def deadline? (connection : Connection) : Option Nat :=
  connection.holder.bind Holder.deadline?

/-- The receiver waits until the same deadline as before, or that wait is over. -/
structure WaitsOn (old new : Connection) : Prop where
  config : new.config = old.config
  wait : new.waits < old.waits ∨ new.waits = old.waits ∧ new.deadline? = old.deadline?

theorem waitsOn_of_holder {old new : Connection} (hconfig : new.config = old.config)
    (hholder : new.holder = old.holder) : old.WaitsOn new where
  config := hconfig
  wait := Or.inr (by rw [waits, waits, deadline?, deadline?, hholder]; exact And.intro rfl rfl)

theorem WaitsOn.trans {first second third : Connection} (hfirst : first.WaitsOn second)
    (hsecond : second.WaitsOn third) : first.WaitsOn third where
  config := hsecond.config.trans hfirst.config
  wait := by
    rcases hfirst.wait with hless | ⟨hsame, hdeadline⟩ <;>
      rcases hsecond.wait with hless' | ⟨hsame', hdeadline'⟩
    · exact Or.inl (Nat.lt_trans hless' hless)
    · exact Or.inl (hsame' ▸ hless)
    · exact Or.inl (hsame ▸ hless')
    · exact Or.inr (And.intro (hsame'.trans hsame) (hdeadline'.trans hdeadline))

section Waits

variable {connection next : Connection} {listener : Option ListenerId} {yet : List Event}

theorem waitsOn_startTeardown {writing : Writing} {deadline : Nat}
    (hholder : connection.holder = some (.farewell writing deadline)) {torn : Connection}
    (hconfig : torn.config = connection.config) :
    connection.WaitsOn (torn.startTeardown none) where
  config := by
    rw [← hconfig]
    unfold startTeardown
    simp only
    split <;> rfl
  wait := by
    left
    unfold startTeardown
    simp only
    split <;> simp [waits, hholder, finishTeardown, mapReceiver]

theorem waitsOn_farewellStep {writing : Writing} {deadline : Nat}
    (hholder : connection.holder = some (.farewell writing deadline))
    (hstep : connection.farewellStep? writing deadline = some next) :
    connection.WaitsOn next := by
  unfold farewellStep? at hstep
  split at hstep
  case h_1 => cases hstep
  case h_2 =>
      split at hstep
      case h_1 =>
          cases hstep
          exact ⟨rfl, Or.inr (by simp [waits, deadline?, hholder, Holder.deadline?])⟩
      case h_4 =>
          split at hstep
          case isTrue =>
              cases hstep
              exact waitsOn_startTeardown hholder rfl
          case isFalse => cases hstep
      all_goals
        cases hstep
        exact waitsOn_startTeardown hholder rfl

theorem waitsOn_leavingStep {writer : FrameWriter} {writing : Writing} {deadline : Nat}
    (hholder : connection.holder = some (.leaving writer writing deadline none))
    (hstep : connection.leavingStep? writer writing deadline none = some next) :
    connection.WaitsOn next := by
  have hover : 0 < connection.waits := by simp [waits, hholder]
  unfold leavingStep? at hstep
  split at hstep
  case h_1 =>
      cases hstep
      exact ⟨rfl, Or.inr (by simp [waits, deadline?, hholder, Holder.deadline?])⟩
  case h_4 =>
      split at hstep
      case isTrue =>
          cases hstep
          exact ⟨rfl, Or.inl hover⟩
      case isFalse => cases hstep
  all_goals
    cases hstep
    exact ⟨rfl, Or.inl hover⟩

theorem Leaving.waitsOn_hold (hleaving : connection.Leaving listener yet) :
    connection.WaitsOn (connection.move .hold) := by
  cases hstep : connection.holder.bind connection.holderStep? with
  | none =>
      simp only [move, hstep]
      exact waitsOn_of_holder rfl rfl
  | some after =>
      simp only [move, hstep, Option.getD_some]
      rcases Option.bind_eq_some_iff.mp hstep with ⟨holder, hsome, hafter⟩
      cases hleaving with
      | farewell hholder _ _ _ _ =>
          cases hholder.symm.trans hsome
          exact waitsOn_farewellStep hholder hafter
      | leaving hholder _ _ _ _ =>
          cases hholder.symm.trans hsome
          exact waitsOn_leavingStep hholder hafter
      | notifying hholder _ _ _ _ => cases hholder.symm.trans hsome
      | left hholder _ _ _ => cases hholder.symm.trans hsome

theorem Leaving.waitsOn_receive (hleaving : connection.Leaving listener yet) :
    connection.WaitsOn (connection.move .receive) := by
  have hdone {phase : ReceiverPhase} (hphase : connection.receiver.map Receiver.phase = some phase)
      (hover : phase = .closing ∨ phase = .finished) :
      connection.WaitsOn (connection.move .receive) := by
    rw [move_receive_of_done hphase hover]
    exact waitsOn_of_holder rfl rfl
  cases hleaving with
  | farewell _ _ _ _ hphase => exact hdone hphase (Or.inl rfl)
  | leaving _ _ _ _ hphase => exact hdone hphase (Or.inl rfl)
  | left _ _ _ hphase => exact hdone hphase (Or.inr rfl)
  | notifying _ _ _ _ hphase =>
      rcases Option.map_eq_some_iff.mp hphase with ⟨receiver, hreceiver, hnotifying⟩
      simp only [move, hreceiver, Option.bind_some, receiverStep?, hnotifying, Option.getD_some]
      exact waitsOn_of_holder rfl rfl

theorem Leaving.waitsOn (hleaving : connection.Leaving listener yet) {next : Move}
    (hquiet : next.isQuiet = true) : connection.WaitsOn (connection.move next) := by
  by_cases hhold : next = .hold
  · subst hhold
    exact hleaving.waitsOn_hold
  by_cases hreceive : next = .receive
  · subst hreceive
    exact hleaving.waitsOn_receive
  have hsame := Connection.undisturbed hquiet hleaving.isDeaf (fun heq => absurd heq hhold) hreceive
  exact waitsOn_of_holder hsame.config hsame.holder

theorem clock_lt_of_farewell {writer : FrameWriter} {writing : Writing} {deadline : Nat}
    (hwriter : connection.core.writer = some writer)
    (hstep : connection.farewellStep? writing deadline = none) : connection.clock < deadline := by
  simp only [farewellStep?, hwriter] at hstep
  split at hstep
  case h_4 =>
      split at hstep
      case isTrue => cases hstep
      case isFalse hearly => exact Nat.lt_of_not_le hearly
  all_goals cases hstep

theorem clock_lt_of_leaving {writer : FrameWriter} {writing : Writing} {deadline : Nat}
    {failure : Option Error}
    (hstep : connection.leavingStep? writer writing deadline failure = none) :
    connection.clock < deadline := by
  unfold leavingStep? at hstep
  split at hstep
  case h_4 =>
      split at hstep
      case isTrue => cases hstep
      case isFalse hearly => exact Nat.lt_of_not_le hearly
  all_goals cases hstep

theorem Leaving.clock_lt (hleaving : connection.Leaving listener yet)
    (hrest : connection.step? = none) {deadline : Nat}
    (hdeadline : connection.deadline? = some deadline) : connection.clock < deadline := by
  have hhold := (step?_eq_none_iff.mp hrest).left
  cases hleaving with
  | farewell hholder hwriter _ _ _ =>
      rw [hholder] at hhold
      rw [deadline?, hholder] at hdeadline
      cases hdeadline
      exact clock_lt_of_farewell hwriter hhold
  | leaving hholder _ _ _ _ =>
      rw [hholder] at hhold
      rw [deadline?, hholder] at hdeadline
      cases hdeadline
      exact clock_lt_of_leaving hhold
  | notifying hholder _ _ _ _ =>
      rw [deadline?, hholder] at hdeadline
      cases hdeadline
  | left hholder _ _ _ =>
      rw [deadline?, hholder] at hdeadline
      cases hdeadline

theorem Leaving.waits_of_deadline?_eq_none (hleaving : connection.Leaving listener yet)
    (hnone : connection.deadline? = none) : connection.waits = 0 := by
  cases hleaving with
  | farewell hholder _ _ _ _ => simp [deadline?, hholder, Holder.deadline?] at hnone
  | leaving hholder _ _ _ _ => simp [deadline?, hholder, Holder.deadline?] at hnone
  | notifying hholder _ _ _ _ => rw [waits, hholder]
  | left hholder _ _ _ => rw [waits, hholder]

end Waits

section Leaves

variable {first connection : Connection} {listener : Option ListenerId}
  {sent : List Transmission} {told : List (ListenerId × Event)}

theorem Leaves.waitsOn_play (hleaves : first.Leaves listener sent told False connection)
    {moves : List Move} (hquiet : AreQuiet moves) :
    connection.WaitsOn (connection.play moves) := by
  induction moves generalizing connection with
  | nil => exact waitsOn_of_holder rfl rfl
  | cons next rest ih =>
      rcases hquiet.of_cons with ⟨hnext, hrest⟩
      rcases hleaves.stage with ⟨yet, hleaving, _⟩
      exact (hleaving.waitsOn hnext).trans (ih (hleaves.move hnext False.elim) hrest)

/-- When a socket timeout has passed and the connection is at rest, another wait is
over. -/
theorem Leaves.wait_over (hleaves : first.Leaves listener sent told False connection)
    (htimely : connection.IsTimely) {moves : List Move} (hquiet : AreQuiet moves)
    (hrest : (connection.play moves).step? = none)
    (hclock : connection.clock + connection.config.socketTimeout <=
      (connection.play moves).clock) :
    (connection.play moves).waits <= connection.waits - 1 := by
  rcases (hleaves.play hquiet False.elim).stage with ⟨yet, hleaving, _⟩
  rcases (hleaves.waitsOn_play hquiet).wait with hless | ⟨hsame, hdeadline⟩
  · exact Nat.le_sub_one_of_lt hless
  · cases hsome : connection.deadline? with
    | none =>
        rw [hleaving.waits_of_deadline?_eq_none (hdeadline.trans hsome)]
        exact Nat.zero_le _
    | some deadline =>
        rcases Option.bind_eq_some_iff.mp hsome with ⟨holder, hholder, hlimit⟩
        have hahead := hleaving.clock_lt hrest (hdeadline.trans hsome)
        have hbound := htimely.deadline holder deadline hholder hlimit
        omega

end Leaves

end Connection

end WebSocketClient
