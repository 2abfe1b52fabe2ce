import WebSocketClient.Proofs.Lagging
import WebSocketClient.Proofs.Standing
import WebSocketClient.Proofs.Waiting

/-!
# After the end

A caller that tears the connection down does not wait for the receiver.  If the receiver
has looked at its stop flag by then, it goes on until it has to wait, so its listener may
be told of one event more after the end, and of one only.  A receiver that tears the
connection down itself tells of nothing after the end.
-/

namespace WebSocketClient

/-- The stop flag has been looked at, and nothing has been told since. -/
def ReceiverPhase.isPastCheck : ReceiverPhase -> Bool
  | reading | delivering _ => true
  | checking | parked | exiting _ | closing | notifying _ | finished => false

/-- How many events a receiver that is to stop may still tell of. -/
def ReceiverPhase.afterwords (phase : ReceiverPhase) : Nat :=
  if phase.isPastCheck then 1 else 0

theorem ReceiverPhase.afterwords_le (phase : ReceiverPhase) : phase.afterwords <= 1 := by
  unfold afterwords
  split <;> decide

theorem events_of_diagnostics {signals : List Signal}
    (hsignals : forall signal, signal ∈ signals ->
      exists diagnostic, signal = .diagnostic diagnostic) : events signals = [] := by
  refine List.filterMap_eq_nil_iff.mpr fun signal hsignal => ?_
  rcases hsignals signal hsignal with ⟨diagnostic, rfl⟩
  rfl

/-!
## Receivers that are dismissed
-/

namespace Receiver

/-- If the receiver is in its loop, it is to stop before its next read, and it ends as
soon as it has to wait. -/
def IsDismissed (receiver : Receiver) : Prop :=
  receiver.holdsStream = true -> receiver.stop = true ∧ receiver.aborted = true

/-- What the receiver tells of before it looks at its stop flag again, if no more
arrives. -/
def afterword? (limits : Limits) (receiver : Receiver) : Option Event :=
  match receiver.phase with
  | .delivering event => some event
  | .reading => (receiver.readFrame limits).1.phase.news?
  | _ => none

variable {limits : Limits} {receiver next : Receiver} {signals : List Signal}

theorem isDismissed_of_silent (hsilent : receiver.holdsStream = false) : receiver.IsDismissed :=
  fun hloop => absurd hloop (by simp [hsilent])

theorem holdsStream_of_arrive {chunks : List Bytes} {ending : Option Ending}
    (hloop : (receiver.arrive chunks ending).holdsStream = true) : receiver.holdsStream = true := by
  unfold arrive holdsStream at hloop
  unfold holdsStream
  cases hphase : receiver.phase <;> simp [hphase] at hloop ⊢

theorem holdsStream_of_abort (hloop : receiver.abort.holdsStream = true) :
    receiver.holdsStream = true := by
  unfold abort at hloop
  split at hloop
  case h_1 => cases hloop
  case h_2 => exact hloop

theorem holdsStream_of_release {core : Core} {abort : Bool}
    (hloop : (core.release abort receiver).holdsStream = true) : receiver.holdsStream = true := by
  unfold Core.release at hloop
  simp only at hloop
  split at hloop
  case isTrue =>
      exact @holdsStream_of_abort { receiver with stop := core.holdsControl || receiver.stop } hloop
  case isFalse => exact hloop

theorem phase_release (hawake : receiver.phase ≠ .parked) (core : Core) (abort : Bool) :
    (core.release abort receiver).phase = receiver.phase := by
  unfold Core.release
  simp only
  split
  case isTrue =>
      unfold Receiver.abort
      split
      case h_1 hparked => exact absurd hparked hawake
      case h_2 => rfl
  case isFalse => rfl

theorem IsDismissed.step (hdismissed : receiver.IsDismissed)
    (hstep : receiver.step? limits = some (next, signals)) : next.IsDismissed := by
  intro _
  have hflags := flags_step hstep
  rcases hdismissed (holdsStream_of_step hstep) with ⟨hstop, haborted⟩
  exact And.intro ((congrArg Flags.stop hflags).trans hstop)
    ((congrArg Flags.aborted hflags).trans haborted)

theorem IsDismissed.release (hdismissed : receiver.IsDismissed) (core : Core) (abort : Bool) :
    (core.release abort receiver).IsDismissed := by
  intro hloop
  rcases hdismissed (holdsStream_of_release hloop) with ⟨hstop, haborted⟩
  have hflags := flags_release core abort receiver
  constructor
  · exact (congrArg Flags.stop hflags).trans (by simp [hstop])
  · exact (congrArg Flags.aborted hflags).trans (by simp [haborted])

/-- A receiver that is dismissed tells of an event at most once, and then it is past its
stop flag no more. -/
theorem IsDismissed.afterwords_step (hdismissed : receiver.IsDismissed)
    (hstep : receiver.step? limits = some (next, signals)) :
    (events signals).length + next.phase.afterwords <= receiver.phase.afterwords := by
  have hstop := (hdismissed (holdsStream_of_step hstep)).left
  rcases step_cases hstep with ⟨event, hphase, rfl, rfl⟩ | ⟨_, hlistens⟩
  · rw [hphase]
    exact Nat.le_refl 1
  · rw [events_of_diagnostics hlistens.signals, List.length_nil, Nat.zero_add]
    have hone := next.phase.afterwords_le
    unfold step? at hstep
    split at hstep
    case h_1 =>
        rw [hstop] at hstep
        cases hstep
        exact Nat.zero_le _
    case h_2 hphase =>
        rw [hphase]
        exact hone
    case h_3 hphase =>
        rw [hphase]
        exact hone
    all_goals cases hstep

end Receiver

/-!
## Hold on the receiver
-/

namespace Inventory

/-- Whoever has the writer can end the receiver, or it has been ended. -/
def Commands (inventory : Inventory) : Prop :=
  inventory.hasWriter = true -> forall flags, inventory.flags = some flags ->
    (inventory.holdsControl || flags.stop) = true ∧
      (inventory.holdsReceiver || flags.aborted) = true

theorem commands_shift {old new : Inventory} (hcommands : old.Commands)
    (hshift : Shift old new) : new.Commands := by
  cases hshift with
  | opened hbefore => exact fun _ _ _ => And.intro rfl rfl
  | torn hhas => exact fun hother => absurd hother Bool.false_ne_true
  | closing hbefore =>
      intro hhas flags hflags
      simp only at hflags
      split at hflags
      case isTrue hholds =>
          rcases Option.map_eq_some_iff.mp hflags with ⟨before, hbefore, rfl⟩
          exact hcommands hhas before hbefore
      case isFalse => exact hcommands hhas flags hflags
  | released =>
      intro hhas flags hflags
      rcases Option.map_eq_some_iff.mp hflags with ⟨before, hbefore, rfl⟩
      simpa [release] using hcommands hhas before hbefore
  | _ => exact hcommands

end Inventory

/-!
## The end
-/

namespace Outline

variable {old new : Outline}

theorem hasEnded_change (hstage : old.Stage) (hchange : Change old new)
    (hended : old.hasEnded = true) : new.hasEnded = true := by
  simp only [hasEnded, Bool.and_eq_true, decide_eq_true_eq] at hended ⊢
  rcases hended with ⟨⟨hclosed, hfree⟩, hparting⟩
  have hebb := ebb_change hstage hchange hclosed
  refine ⟨⟨hebb.state, (hebb.still hfree).left⟩, ?_⟩
  cases hchange with
  | opened htask => simp [hfree] at htask
  | part htask => simp [hfree] at htask
  | parted => rfl
  | _ => exact hparting

theorem ends_change (hstage : old.Stage) (hheard : old.Heard) (hchange : Change old new)
    (hbefore : old.hasEnded = false) (hafter : new.hasEnded = true) :
    exists listener, new.audience = some listener ∧
      new.callbacks = old.callbacks ++ toldTo listener [.closed] := by
  have hold : old.hasEnded ≠ true := by simp [hbefore]
  have hlast {byCaller : Bool} (htask : old.task = .leaving byCaller) :=
    (leaving_of_task hstage htask).right.right.left
  cases hchange with
  | abandon htask hcontent => exact ⟨old.owed, hlast htask, by simp⟩
  | part htask hcontent =>
      have hnobody : old.owed = none := by
        simpa [hasEnded] using And.right (Bool.and_eq_true_iff.mp hafter)
      exact ⟨none, by simp [hlast htask, hnobody], by simp⟩
  | @parted listener hparting =>
      exact ⟨some listener, (hheard.parting listener hparting).left, by simp⟩
  | sent htask hunsent =>
      rcases exists_writer_of_sending hstage htask with ⟨writer, hwriter⟩
      have hopen := (live_of_writer hstage hwriter).left.ne_closed.left
      simp [hasEnded, hopen] at hafter
  | nothing => exact absurd hafter hold
  | register listener _ _ => exact absurd hafter hold
  | treatWrites policy flush => exact absurd hafter hold
  | carryHeld _ _ _ _ => exact absurd hafter hold
  | carry _ _ _ _ _ => exact absurd hafter hold
  | receive _ _ _ => exact absurd hafter hold
  | tell _ _ => exact absurd hafter hold
  | _ => simp [hasEnded] at hafter

end Outline

namespace Connection

section Dismissing

variable {connection next : Connection} {receiver : Receiver}

theorem commands_of_reachable (hreachable : connection.Reachable) :
    connection.inventory.Commands := by
  refine inventory_invariant ?_ Inventory.commands_shift hreachable
  exact fun config offered listener hother => absurd hother Bool.false_ne_true

/-!
## Receivers out of their loop
-/

def IsSilent (connection : Connection) : Prop :=
  forall receiver, connection.receiver = some receiver -> receiver.holdsStream = false

theorem isSilent_setPhase {phase : ReceiverPhase}
    (hphase : phase = .closing ∨ phase = .finished) : (connection.setPhase phase).IsSilent := by
  intro after hafter
  rcases Option.map_eq_some_iff.mp hafter with ⟨before, _, rfl⟩
  rcases hphase with rfl | rfl <;> rfl

theorem isSilent_finishTeardown : (connection.finishTeardown none).IsSilent := by
  intro after hafter
  rcases Option.map_eq_some_iff.mp hafter with ⟨before, _, rfl⟩
  unfold Receiver.holdsStream
  cases connection.core.listener <;> rfl

theorem IsSilent.startTeardown (hsilent : connection.IsSilent) :
    (connection.startTeardown none).IsSilent := by
  unfold Connection.startTeardown
  simp only
  split
  case h_1 =>
      intro after hafter
      rcases Option.map_eq_some_iff.mp hafter with ⟨before, hbefore, rfl⟩
      refine Bool.eq_false_iff.mpr fun hloop => ?_
      exact Bool.eq_false_iff.mp (hsilent before hbefore) (Receiver.holdsStream_of_release hloop)
  case h_2 => exact isSilent_finishTeardown

theorem IsSilent.startFarewell (hsilent : connection.IsSilent) (payload : Bytes) :
    (connection.startFarewell payload).IsSilent := by
  unfold Connection.startFarewell
  split
  case h_1 => exact hsilent.startTeardown
  case h_2 => exact hsilent

theorem isSilent_exit (outcome : Outcome) : (connection.exit outcome).IsSilent := by
  rcases connection.exit_cases outcome with hover | ⟨closing, _, hsame, hexit⟩
  · rw [hover]
    exact isSilent_setPhase (Or.inr rfl)
  · have hclosing : closing.IsSilent := by
      unfold IsSilent
      rw [hsame]
      exact isSilent_setPhase (Or.inl rfl)
    rcases hexit with htorn | ⟨payload, hsaying⟩
    · rw [htorn]
      exact hclosing.startTeardown
    · rw [hsaying]
      exact hclosing.startFarewell payload

theorem isSilent_receiverStep (hstep : connection.receiverStep? receiver = some next) :
    next.IsSilent ∨
      receiver.phase.parting? = none ∧
        exists after signals journal,
          receiver.step? connection.config.limits = some (after, signals) ∧
            next = { connection with receiver := some after, journal := journal } := by
  rcases receiverStep?_cases hstep with
    ⟨outcome, _, ⟨_, rfl⟩ | ⟨_, _, rfl⟩⟩ | ⟨listener, _, rfl⟩ |
      ⟨after, signals, journal, hloop, hnext, _⟩
  · exact Or.inl (isSilent_exit outcome)
  · exact Or.inl (isSilent_setPhase (Or.inr rfl))
  · exact Or.inl (isSilent_setPhase (Or.inr rfl))
  · refine Or.inr (And.intro ?_ ⟨after, signals, journal, hloop, hnext⟩)
    have hphase := Receiver.holdsStream_of_step hloop
    unfold Receiver.holdsStream at hphase
    cases hphase' : receiver.phase <;> simp [hphase'] at hphase <;> rfl

/-!
## Teardowns dismiss the receiver
-/

def isSayingFarewell (connection : Connection) : Bool :=
  match connection.holder with
  | some (.farewell _ _) => true
  | _ => false

/-- On a closed connection the receiver is dismissed, and while it says farewell it is out
of its loop. -/
structure Dismisses (connection : Connection) : Prop where
  farewell : connection.isSayingFarewell = true -> connection.IsSilent
  closed : forall receiver, connection.core.state.isClosed = true ->
    connection.receiver = some receiver -> receiver.IsDismissed

theorem IsSilent.dismisses (hsilent : connection.IsSilent) : connection.Dismisses :=
  ⟨fun _ => hsilent, fun receiver _ hreceiver =>
    Receiver.isDismissed_of_silent (hsilent receiver hreceiver)⟩

theorem dismisses_of_open (hfarewell : connection.isSayingFarewell = false)
    (hstate : connection.core.state.isClosed = false) : connection.Dismisses :=
  ⟨fun hother => absurd hother (Bool.eq_false_iff.mp hfarewell),
    fun _ hother => absurd hother (Bool.eq_false_iff.mp hstate)⟩

theorem Dismisses.map (hdismisses : connection.Dismisses)
    (hfarewell : next.isSayingFarewell = true -> connection.isSayingFarewell = true)
    (hstate : next.core.state.isClosed = true -> connection.core.state.isClosed = true)
    {change : Receiver -> Receiver}
    (hloop : forall receiver, (change receiver).holdsStream = true -> receiver.holdsStream = true)
    (hkept : forall receiver, receiver.IsDismissed -> (change receiver).IsDismissed)
    (hreceiver : next.receiver = connection.receiver.map change) : next.Dismisses where
  farewell hsaying after hafter := by
    rcases Option.map_eq_some_iff.mp (hreceiver ▸ hafter) with ⟨before, hbefore, rfl⟩
    have hsilent := hdismisses.farewell (hfarewell hsaying) before hbefore
    exact Bool.eq_false_iff.mpr fun hother => Bool.eq_false_iff.mp hsilent (hloop before hother)
  closed after hclosed hafter := by
    rcases Option.map_eq_some_iff.mp (hreceiver ▸ hafter) with ⟨before, hbefore, rfl⟩
    exact hkept before (hdismisses.closed before (hstate hclosed) hbefore)

theorem Dismisses.keep (hdismisses : connection.Dismisses)
    (hholder : next.isSayingFarewell = connection.isSayingFarewell)
    (hstate : next.core.state = connection.core.state)
    (hreceiver : next.receiver = connection.receiver) : next.Dismisses :=
  hdismisses.map (fun hsaying => hholder ▸ hsaying) (fun hclosed => hstate ▸ hclosed)
    (fun _ => id) (fun _ => id) (hreceiver.trans Option.map_id'.symm)

theorem Dismisses.work (hdismisses : connection.Dismisses)
    (hholder : next.isSayingFarewell = false)
    (hstate : next.core.state = connection.core.state)
    (hreceiver : next.receiver = connection.receiver) : next.Dismisses :=
  hdismisses.map (fun hsaying => absurd hsaying (Bool.eq_false_iff.mp hholder))
    (fun hclosed => hstate ▸ hclosed) (fun _ => id) (fun _ => id)
    (hreceiver.trans Option.map_id'.symm)

theorem dismisses_startTeardown {writer : FrameWriter}
    (hwriter : connection.core.writer = some writer)
    (hcommands : connection.inventory.Commands) (error : Error) :
    (connection.startTeardown (some error)).Dismisses := by
  have hhas : connection.inventory.hasWriter = true := by simp [inventory, hwriter]
  simp only [startTeardown, hwriter]
  constructor
  · exact fun hfarewell => by cases hfarewell
  · intro after _ hafter _
    rcases Option.map_eq_some_iff.mp hafter with ⟨before, hbefore, rfl⟩
    have hflags : connection.inventory.flags = some before.flags := by
      simp [inventory, hbefore]
    have hreleased := before.flags_release connection.core true
    constructor
    · exact (congrArg Flags.stop hreleased).trans (hcommands hhas before.flags hflags).left
    · refine (congrArg Flags.aborted hreleased).trans ?_
      rw [Bool.and_true]
      exact (hcommands hhas before.flags hflags).right

theorem Dismisses.startOpening (hdismisses : connection.Dismisses) (opening : Opening)
    (dial : Dial) : (connection.startOpening opening dial).Dismisses := by
  unfold Connection.startOpening
  split
  case h_1 => exact hdismisses.keep rfl rfl rfl
  case h_2 =>
      split
      case h_1 => exact hdismisses.keep rfl rfl rfl
      case h_2 =>
          simp only
          split
          case h_1 => exact dismisses_of_open rfl rfl
          case h_2 => exact dismisses_of_open rfl rfl

theorem Dismisses.startCall (hdismisses : connection.Dismisses) (call : Call) (payload : Bytes) :
    (connection.startCall call payload).Dismisses := by
  have hsending {other : Connection} (hother : other.Dismisses) (frame : Frame) (after : Bool) :
      (other.startSending call frame after).Dismisses := by
    unfold startSending
    split
    case h_1 => exact hother.keep rfl rfl rfl
    case h_2 => exact hother.work rfl rfl rfl
  have hclosing (code : CloseCode) (reason : String) :
      (connection.startClosing code reason).Dismisses := by
    unfold startClosing
    cases connection.core.holdsControl with
    | false =>
        refine hdismisses.map id ?_ (fun _ => id) (fun _ => id) Option.map_id'.symm
        exact fun hclosed => absurd hclosed Bool.false_ne_true
    | true =>
        refine @Dismisses.map connection _ hdismisses id ?_
          (fun receiver => { receiver with awaitingClose := true }) ?_ ?_ rfl
        · exact fun hclosed => absurd hclosed Bool.false_ne_true
        · exact fun _ => id
        · exact fun _ => id
  unfold Connection.startCall
  split
  case isFalse => exact hdismisses.keep rfl rfl rfl
  case isTrue =>
      split
      case h_1 => exact hdismisses.keep rfl rfl rfl
      case h_2 frame after _ =>
          split
          case h_1 code reason _ => exact hsending (hclosing code reason) frame after
          case h_2 => exact hsending hdismisses frame after

theorem Dismisses.sendingStep (hdismisses : connection.Dismisses)
    (hcommands : connection.inventory.Commands) {sending : Sending} {writing : Writing}
    (hstep : connection.sendingStep? sending writing = some next) : next.Dismisses := by
  unfold sendingStep? at hstep
  split at hstep
  case h_1 => cases hstep
  case h_2 writer hwriter =>
      split at hstep
      case h_1 =>
          cases hstep
          exact hdismisses.work rfl rfl rfl
      case h_2 =>
          cases hstep
          exact hdismisses.work rfl rfl rfl
      case h_3 error output sink _ =>
          cases hstep
          refine dismisses_startTeardown rfl ?_ error
          rw [inventory_report, inventory_setOutput hwriter]
          exact hcommands
      case h_4 => cases hstep

theorem IsSilent.farewellStep (hsilent : connection.IsSilent) {writing : Writing}
    {deadline : Nat} (hstep : connection.farewellStep? writing deadline = some next) :
    next.IsSilent := by
  have htorn {other : Connection} (hsame : other.receiver = connection.receiver) :
      (other.startTeardown none).IsSilent := by
    apply IsSilent.startTeardown
    intro receiver hreceiver
    exact hsilent receiver (hsame ▸ hreceiver)
  unfold farewellStep? at hstep
  split at hstep
  case h_1 => cases hstep
  case h_2 =>
      split at hstep
      case h_1 =>
          cases hstep
          exact hsilent
      case h_4 =>
          split at hstep
          case isTrue =>
              cases hstep
              exact htorn rfl
          case isFalse => cases hstep
      all_goals
        cases hstep
        exact htorn rfl

theorem Dismisses.leavingStep (hdismisses : connection.Dismisses) {writer : FrameWriter}
    {writing : Writing} {deadline : Nat} {failure : Option Error}
    (hstep : connection.leavingStep? writer writing deadline failure = some next) :
    next.Dismisses := by
  have hfinished {other : Connection} (hstate : other.core.state = connection.core.state)
      (hsame : other.receiver = connection.receiver) :
      (other.finishTeardown failure).Dismisses := by
    cases failure with
    | none => exact isSilent_finishTeardown.dismisses
    | some error => exact hdismisses.work rfl hstate hsame
  unfold leavingStep? at hstep
  split at hstep
  case h_1 =>
      cases hstep
      exact hdismisses.work rfl rfl rfl
  case h_4 =>
      split at hstep
      case isTrue =>
          cases hstep
          exact hfinished rfl rfl
      case isFalse => cases hstep
  all_goals
    cases hstep
    exact hfinished rfl rfl

theorem Dismisses.holderStep (hdismisses : connection.Dismisses)
    (hcommands : connection.inventory.Commands) {holder : Holder}
    (hholder : connection.holder = some holder)
    (hstep : connection.holderStep? holder = some next) : next.Dismisses := by
  cases holder with
  | requesting attempt writing =>
      simp only [holderStep?, requestStep?] at hstep
      split at hstep
      case h_3 =>
          cases hstep
          exact dismisses_of_open rfl rfl
      case h_4 => cases hstep
      all_goals
        cases hstep
        exact hdismisses.work rfl rfl rfl
  | awaitingAnswer attempt =>
      simp only [holderStep?, readAnswer?] at hstep
      split at hstep
      case h_3 =>
          cases hstep
          exact dismisses_of_open rfl rfl
      case h_4 =>
          split at hstep
          · cases hstep
            exact dismisses_of_open rfl rfl
          · cases hstep
            exact dismisses_of_open rfl rfl
      all_goals cases hstep
  | sending sending writing => exact hdismisses.sendingStep hcommands hstep
  | farewell writing deadline =>
      have hsilent := hdismisses.farewell (by rw [isSayingFarewell, hholder])
      exact (hsilent.farewellStep hstep).dismisses
  | leaving writer writing deadline failure => exact hdismisses.leavingStep hstep

theorem Dismisses.receiverStep (hdismisses : connection.Dismisses)
    (hreceiver : connection.receiver = some receiver)
    (hstep : connection.receiverStep? receiver = some next) : next.Dismisses := by
  rcases isSilent_receiverStep hstep with hsilent | ⟨_, after, signals, journal, hloop, rfl⟩
  · exact hsilent.dismisses
  · constructor
    · intro hfarewell
      have hsilent := hdismisses.farewell hfarewell receiver hreceiver
      cases (Receiver.holdsStream_of_step hloop).symm.trans hsilent
    · intro other hclosed hother
      cases hother
      exact (hdismisses.closed receiver hclosed hreceiver).step hloop

theorem Dismisses.move (hdismisses : connection.Dismisses)
    (hcommands : connection.inventory.Commands) (next : Move) :
    (connection.move next).Dismisses := by
  cases next with
  | connect opening dial =>
      simp only [Connection.move]
      split
      · exact hdismisses.startOpening _ _
      · exact hdismisses
  | call call =>
      simp only [Connection.move]
      split
      · exact hdismisses.keep rfl rfl rfl
      · split
        · exact hdismisses.startCall _ _
        · exact hdismisses
  | hold =>
      simp only [Connection.move]
      cases hstep : connection.holder.bind connection.holderStep? with
      | none => exact hdismisses
      | some next =>
          rcases Option.bind_eq_some_iff.mp hstep with ⟨holder, hholder, hnext⟩
          exact hdismisses.holderStep hcommands hholder hnext
  | receive =>
      simp only [Connection.move]
      cases hstep : connection.receiver.bind connection.receiverStep? with
      | none => exact hdismisses
      | some next =>
          rcases Option.bind_eq_some_iff.mp hstep with ⟨receiver, hreceiver, hnext⟩
          exact hdismisses.receiverStep hreceiver hnext
  | supply chunks ending =>
      refine hdismisses.map ?_ id (fun _ => Receiver.holdsStream_of_arrive)
        (fun receiver hdismissed hloop => hdismissed (Receiver.holdsStream_of_arrive hloop)) rfl
      simp only [isSayingFarewell, Connection.move, supply]
      cases connection.holder with
      | none => exact id
      | some holder => cases holder <;> exact id
  | pass milliseconds => exact hdismisses.keep rfl rfl rfl
  | treatWrites policy flush => exact hdismisses.keep rfl rfl rfl
  | setListener listener =>
      simp only [Connection.move]
      split
      · exact hdismisses.keep rfl rfl rfl
      · exact hdismisses
  | giveUp =>
      simp only [Connection.move, giveUp]
      split
      · split
        · exact hdismisses.map id id (fun _ => Receiver.holdsStream_of_release)
            (fun _ hdismissed => hdismissed.release connection.core true) rfl
        · exact hdismisses.keep rfl rfl rfl
      · exact hdismisses

theorem dismisses_of_reachable (hreachable : connection.Reachable) : connection.Dismisses := by
  rcases hreachable with ⟨config, offered, listener, moves, rfl⟩
  have hfirst : (fresh config offered listener).Dismisses := dismisses_of_open rfl rfl
  refine (@play_invariant (fun connection => connection.Reachable ∧ connection.Dismisses) ?_ _
    (And.intro ⟨config, offered, listener, [], rfl⟩ hfirst) moves).right
  intro connection next hboth
  exact And.intro (hboth.left.play [next])
    (hboth.right.move (commands_of_reachable hboth.left) next)

end Dismissing

/-!
## After the end
-/

/-- Of the events that the receiver may still tell of, these have been told. -/
structure Dwindles (old : Connection) (receiver : Receiver) (late : List Event)
    (new : Connection) : Prop where
  receives : exists after, new.receiver = some after ∧ after.listener = receiver.listener ∧
    late.length + after.phase.afterwords <= receiver.phase.afterwords
  callbacks : new.callbacks = old.callbacks ++ toldTo receiver.listener late
  news : forall event, event ∈ late -> event.isNews = true

section Ended

variable {connection : Connection} {receiver : Receiver}

/-- Nobody holds the lock of a connection that has ended, and its receiver does not wait. -/
theorem ended_cases (hreachable : connection.Reachable) (hended : connection.hasEnded = true)
    (hreceiver : connection.receiver = some receiver) :
    connection.core.state = .closed ∧ connection.holder = none ∧
      receiver.phase.parting? = none ∧ receiver.IsDismissed ∧ receiver.phase ≠ .parked := by
  simp only [hasEnded, Bool.and_eq_true, hreceiver, Option.all_some, Option.isNone_iff_eq_none]
    at hended
  rcases hended with ⟨⟨hclosed, hfree⟩, hparting⟩
  have hstate : connection.core.state = .closed := by
    simpa [ConnectionState.isClosed] using hclosed
  have hdismissed := (dismisses_of_reachable hreachable).closed receiver hclosed hreceiver
  refine ⟨hstate, by simpa [isFree] using hfree, hparting, hdismissed, ?_⟩
  intro hparked
  have hleft := (isPatient_of_reachable hreachable receiver hreceiver hparked).right
  have hloop : receiver.holdsStream = true := by simp [Receiver.holdsStream, hparked]
  cases hleft.symm.trans (hdismissed hloop).right

theorem dwindles_of_phase {after : Receiver} {new : Connection}
    (hafter : new.receiver = some after) (hlistener : after.listener = receiver.listener)
    (hphase : after.phase = receiver.phase) (hcallbacks : new.callbacks = connection.callbacks) :
    connection.Dwindles receiver [] new where
  receives := ⟨after, hafter, hlistener, by simp [hphase]⟩
  callbacks := hcallbacks.trans (List.append_nil _).symm
  news _ hevent := absurd hevent List.not_mem_nil

theorem dwindles_receive (hreachable : connection.Reachable) (hended : connection.hasEnded = true)
    (hreceiver : connection.receiver = some receiver) :
    exists late, connection.Dwindles receiver late (connection.move .receive) := by
  rcases ended_cases hreachable hended hreceiver with
    ⟨hclosed, hholder, hparting, hdismissed, hawake⟩
  have hmove : connection.move .receive = (connection.receiverStep? receiver).getD connection := by
    simp [move, hreceiver]
  rw [hmove]
  cases hstep : connection.receiverStep? receiver with
  | none => exact ⟨[], dwindles_of_phase hreceiver rfl rfl rfl⟩
  | some next =>
      rw [Option.getD_some]
      rcases receiverStep?_cases hstep with
        ⟨outcome, _, ⟨_, rfl⟩ | ⟨hheld, _⟩⟩ | ⟨listener, hphase, _⟩ |
          ⟨after, signals, journal, hloop, rfl, hcallbacks⟩
      · have hover : connection.exit outcome = connection.setPhase .finished := by
          simp [exit, hclosed, ConnectionState.isClosed]
        rw [hover]
        refine ⟨[], ⟨{ receiver with phase := .finished }, ?_, rfl, Nat.zero_le _⟩,
          (List.append_nil _).symm, fun _ hevent => absurd hevent List.not_mem_nil⟩
        simp [setPhase, mapReceiver, hreceiver]
      · simp [isFree, hholder] at hheld
      · rw [hphase] at hparting
        cases hparting
      · refine ⟨events signals, ⟨after, rfl, Receiver.listener_step hloop,
          hdismissed.afterwords_step hloop⟩, hcallbacks, ?_⟩
        intro event hevent
        rcases Receiver.step_cases hloop with ⟨told, hphase, _, rfl⟩ | ⟨_, hlistens⟩
        · rw [List.mem_singleton.mp hevent]
          refine (heard_of_reachable hreachable).news told ?_
          simp [outline, hreceiver, hphase, ReceiverPhase.news?]
        · rw [events_of_diagnostics hlistens.signals] at hevent
          cases hevent

/-- Whatever happens after the end, at most what the receiver has passed its stop flag for
is told. -/
theorem dwindles_move (hreachable : connection.Reachable) (hended : connection.hasEnded = true)
    (hreceiver : connection.receiver = some receiver) (next : Move) :
    exists late, connection.Dwindles receiver late (connection.move next) := by
  rcases ended_cases hreachable hended hreceiver with ⟨hclosed, hholder, _, _, hawake⟩
  have hfree : connection.isFree = true := by simp [isFree, hholder]
  have hsame : connection.Dwindles receiver [] connection := dwindles_of_phase hreceiver rfl rfl rfl
  have hrefused (error : Error) :
      connection.Dwindles receiver [] (connection.finish (some error)) :=
    dwindles_of_phase hreceiver rfl rfl rfl
  cases next with
  | receive => exact dwindles_receive hreachable hended hreceiver
  | connect opening dial =>
      refine ⟨[], ?_⟩
      simp only [move, hfree, if_true, startOpening, hclosed, openingFault?]
      exact hrefused _
  | call call =>
      refine ⟨[], ?_⟩
      simp only [move, hfree, if_true, startCall, hclosed, ConnectionState.canSend]
      split
      · exact hrefused _
      · exact hrefused _
  | hold =>
      refine ⟨[], ?_⟩
      simp only [move, hholder, Option.bind_none, Option.getD_none]
      exact hsame
  | supply chunks ending =>
      refine ⟨[], dwindles_of_phase (congrArg (Option.map _) hreceiver) rfl ?_ rfl⟩
      exact Receiver.phase_afterMove hawake (.supply chunks ending)
  | pass milliseconds => exact ⟨[], dwindles_of_phase hreceiver rfl rfl rfl⟩
  | treatWrites policy flush => exact ⟨[], dwindles_of_phase hreceiver rfl rfl rfl⟩
  | setListener listener =>
      simp only [move]
      split
      · exact ⟨[], dwindles_of_phase hreceiver rfl rfl rfl⟩
      · exact ⟨[], hsame⟩
  | giveUp =>
      simp only [move, giveUp]
      split
      · rw [if_pos (show isFree { connection with isDropped := true } = true from hfree)]
        refine ⟨[], dwindles_of_phase (congrArg (Option.map _) hreceiver)
          (receiver.listener_release connection.core true) ?_ rfl⟩
        exact Receiver.phase_release hawake connection.core true
      · exact ⟨[], hsame⟩

theorem Dwindles.trans {first second third : Connection} {before after : Receiver}
    {early late : List Event} (hfirst : first.Dwindles before early second)
    (hafter : second.receiver = some after) (hsecond : second.Dwindles after late third) :
    first.Dwindles before (early ++ late) third := by
  rcases hfirst.receives with ⟨middle, hmiddle, hlistener, hcount⟩
  cases hmiddle.symm.trans hafter
  rcases hsecond.receives with ⟨last, hlast, hlistener', hcount'⟩
  constructor
  case receives =>
      refine ⟨last, hlast, hlistener'.trans hlistener, ?_⟩
      rw [List.length_append]
      omega
  case callbacks =>
      rw [hsecond.callbacks, hfirst.callbacks, hlistener, toldTo_append, List.append_assoc]
  case news =>
      intro event hevent
      rcases List.mem_append.mp hevent with hevent | hevent
      · exact hfirst.news event hevent
      · exact hsecond.news event hevent

theorem dwindles_play (hreachable : connection.Reachable) (hended : connection.hasEnded = true)
    (hreceiver : connection.receiver = some receiver) (moves : List Move) :
    exists late, connection.Dwindles receiver late (connection.play moves) := by
  induction moves generalizing connection receiver with
  | nil => exact ⟨[], dwindles_of_phase hreceiver rfl rfl rfl⟩
  | cons next rest ih =>
      rcases dwindles_move hreachable hended hreceiver next with ⟨early, hfirst⟩
      rcases hfirst.receives with ⟨after, hafter, _⟩
      have hended' : (connection.move next).hasEnded = true := by
        have hstage := stage_of_reachable hreachable
        rw [← hasEnded_outline] at hended ⊢
        exact Outline.hasEnded_change hstage (change_of_move hstage next) hended
      rcases ih (hreachable.play [next]) hended' hafter with ⟨late, hsecond⟩
      exact ⟨early ++ late, hfirst.trans hafter hsecond⟩

theorem isPastCheck_of_silent (hsilent : receiver.holdsStream = false) :
    receiver.phase.isPastCheck = false := by
  unfold Receiver.holdsStream at hsilent
  cases hphase : receiver.phase <;> simp [hphase] at hsilent <;> rfl

theorem isSilent_of_receive (hbefore : connection.hasEnded = false)
    (hafter : (connection.move .receive).hasEnded = true) :
    (connection.move .receive).IsSilent := by
  simp only [move] at hafter ⊢
  cases hstep : connection.receiver.bind connection.receiverStep? with
  | none =>
      rw [hstep] at hafter
      cases hbefore.symm.trans hafter
  | some next =>
      rw [hstep] at hafter
      rcases Option.bind_eq_some_iff.mp hstep with ⟨receiver, hreceiver, hnext⟩
      rcases isSilent_receiverStep hnext with
        hsilent | ⟨hparting, after, signals, journal, _, rfl⟩
      · exact hsilent
      · -- A step of the loop does not end the connection.
        simp only [Option.getD_some, hasEnded, Bool.and_eq_true] at hafter
        have hended : connection.hasEnded = true := by
          simp only [hasEnded, Bool.and_eq_true, hreceiver, Option.all_some, hparting]
          exact And.intro hafter.left rfl
        cases hbefore.symm.trans hended

theorem receive_of_step {after : Receiver} {signals : List Signal}
    (hreceiver : connection.receiver = some receiver)
    (hstep : receiver.step? connection.config.limits = some (after, signals)) :
    (connection.move .receive).receiver = some after ∧
      (connection.move .receive).callbacks =
        connection.callbacks ++ toldTo receiver.listener (events signals) := by
  have hmove : connection.move .receive = (connection.receiverStep? receiver).getD connection := by
    simp [move, hreceiver]
  rcases exists_journal_tell { connection with receiver := some after } receiver.listener
    signals with ⟨journal, hjournal, _, hcallbacks⟩
  rw [hmove, receiverStep?_of_holdsStream (Receiver.holdsStream_of_step hstep), hstep,
    Option.map_some, Option.getD_some]
  simp only [Receiver.listener_step hstep, hjournal]
  exact And.intro trivial hcallbacks

theorem exists_play_of_afterword {event : Event} (hreceiver : connection.receiver = some receiver)
    (hafterword : receiver.afterword? connection.config.limits = some event) :
    exists moves, (connection.play moves).callbacks =
      connection.callbacks ++ toldTo receiver.listener [event] := by
  have htell {connection : Connection} {receiver : Receiver}
      (hreceiver : connection.receiver = some receiver)
      (hphase : receiver.phase = .delivering event) :
      (connection.move .receive).callbacks =
        connection.callbacks ++ toldTo receiver.listener [event] := by
    have hstep : receiver.step? connection.config.limits =
        some ({ receiver with phase := .checking }, [.event event]) := by
      simp [Receiver.step?, hphase]
    exact (receive_of_step hreceiver hstep).right
  unfold Receiver.afterword? at hafterword
  split at hafterword
  case h_1 told hphase =>
      cases hafterword
      exact ⟨[.receive], htell hreceiver hphase⟩
  case h_2 hphase =>
      have hlistens := receiver.listens_readFrame connection.config.limits
      rcases hread : receiver.readFrame connection.config.limits with ⟨after, signals⟩
      rw [hread] at hafterword hlistens
      have hstep : receiver.step? connection.config.limits = some (after, signals) := by
        simp [Receiver.step?, hphase, hread]
      have hdelivering : after.phase = .delivering event := by
        unfold ReceiverPhase.news? at hafterword
        split at hafterword
        case h_1 told hphase =>
            cases hafterword
            exact hphase
        case h_2 => cases hafterword
      rcases receive_of_step hreceiver hstep with ⟨hnext, hsame⟩
      rw [events_of_diagnostics hlistens.signals, toldTo_nil, List.append_nil] at hsame
      refine ⟨[.receive, .receive], (htell hnext hdelivering).trans ?_⟩
      rw [hsame, hlistens.listener]
  case h_3 => cases hafterword

end Ended

/-- When the connection has been torn down its listener is told so.  What it is told later
is one event at most, and none unless the receiver has passed its stop flag, as it has not if
it tells of the end itself; an event that has arrived by then can be told. -/
theorem afterwords_of_play (config : Config) (offered : List String)
    (listener : Option ListenerId) (moves : List Move) (next : Move) :
    let before := (fresh config offered listener).play moves
    let after := before.move next
    before.hasEnded = false -> after.hasEnded = true ->
      exists receiver, after.receiver = some receiver ∧
        after.callbacks = before.callbacks ++ toldTo receiver.listener [.closed] ∧
        (forall later, exists late,
          (after.play later).callbacks = after.callbacks ++ toldTo receiver.listener late ∧
            late.length <= receiver.phase.afterwords ∧
            forall event, event ∈ late -> event.isNews = true) ∧
        (next = .receive -> receiver.phase.isPastCheck = false) ∧
        forall event, receiver.afterword? after.config.limits = some event ->
          exists later, (after.play later).callbacks =
            after.callbacks ++ toldTo receiver.listener [event] := by
  intro before after hbefore hafter
  have hreachable : before.Reachable := ⟨config, offered, listener, moves, rfl⟩
  have hstage := stage_of_reachable hreachable
  rcases Outline.ends_change hstage (heard_of_reachable hreachable) (change_of_move hstage next)
    ((hasEnded_outline before).trans hbefore) ((hasEnded_outline after).trans hafter) with
    ⟨audience, haudience, htold⟩
  rcases Option.map_eq_some_iff.mp haudience with ⟨receiver, hreceiver, rfl⟩
  refine ⟨receiver, hreceiver, htold, ?_, ?_, fun event => exists_play_of_afterword hreceiver⟩
  · intro later
    rcases dwindles_play (hreachable.play [next]) hafter hreceiver later with ⟨late, hlate⟩
    rcases hlate.receives with ⟨_, _, _, hcount⟩
    exact ⟨late, hlate.callbacks, Nat.le_trans (Nat.le_add_right _ _) hcount, hlate.news⟩
  · rintro rfl
    exact isPastCheck_of_silent (isSilent_of_receive hbefore hafter receiver hreceiver)

/-- A text that has arrived is told after the end, because the receiver has looked at its stop
flag before a ping fails. -/
theorem afterwords_of_failed_ping :
    let moves : List Move := [.supply [[0x81, 0x02, 0x68, 0x69]] none, .receive,
      .treatWrites (.failing "gone") .flushed, .call (.ping []), .hold, .hold, .hold]
    let connection := sample.play moves
    connection.hasEnded = true ∧
      connection.callbacks = [(0, .connected), (0, .closed)] ∧
        (connection.play [.receive, .receive]).callbacks =
          [(0, .connected), (0, .closed), (0, .message (.text "hi"))] := by
  decide +kernel

end Connection

end WebSocketClient
