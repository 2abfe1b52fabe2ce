import WebSocketClient.Proofs.Attending

/-!
# Waiting for octets

A receiver that waits has read all it can, and nobody has ended it.  Nobody else makes it
wait, and when octets arrive it no longer does.
-/

namespace WebSocketClient

namespace Receiver

def HasReadAll (limits : Limits) (receiver : Receiver) : Prop :=
  receiver.phase = .parked -> receiver.assembly.readFrame limits receiver.source = .waiting

/-- If the receiver waits, it is for octets, and nobody has ended it. -/
def IsPatient (limits : Limits) (receiver : Receiver) : Prop :=
  receiver.phase = .parked ->
    receiver.assembly.readFrame limits receiver.source = .waiting ∧ receiver.aborted = false

variable {limits : Limits} {receiver next : Receiver} {signals : List Signal}

theorem hasReadAll_of_phase (hphase : receiver.phase ≠ .parked) : receiver.HasReadAll limits :=
  fun hparked => absurd hparked hphase

theorem isPatient_of_phase (hphase : receiver.phase ≠ .parked) : receiver.IsPatient limits :=
  fun hparked => absurd hparked hphase

theorem IsPatient.hasReadAll (hpatient : receiver.IsPatient limits) :
    receiver.HasReadAll limits :=
  fun hparked => (hpatient hparked).left

theorem isPatient_takeFrame (receiver : Receiver) (frame : Frame) (rest : Source) :
    (receiver.takeFrame frame rest).1.IsPatient limits := by
  unfold takeFrame
  simp only
  split <;> exact isPatient_of_phase (by simp)

theorem isPatient_step (hstep : receiver.step? limits = some (next, signals)) :
    next.IsPatient limits := by
  unfold step? at hstep
  split at hstep
  case h_1 =>
      cases hstep
      apply isPatient_of_phase
      cases receiver.stop <;> simp
  case h_2 =>
      unfold readFrame at hstep
      split at hstep
      case h_1 frame rest _ =>
          rw [← (Prod.mk.inj (Option.some.inj hstep)).left]
          exact receiver.isPatient_takeFrame frame rest
      case h_4 hwaits =>
          cases hstep
          intro hparked
          cases haborted : receiver.aborted with
          | false => exact And.intro hwaits rfl
          | true => simp [haborted] at hparked
      all_goals
        cases hstep
        exact isPatient_of_phase (by simp)
  case h_3 =>
      cases hstep
      exact isPatient_of_phase (by simp)
  all_goals cases hstep

theorem isPatient_abort (receiver : Receiver) : receiver.abort.IsPatient limits := by
  unfold Receiver.abort
  split
  case h_1 => exact isPatient_of_phase (by simp)
  case h_2 hphase => exact isPatient_of_phase hphase

theorem IsPatient.release (hpatient : receiver.IsPatient limits) (core : Core) (abort : Bool) :
    (core.release abort receiver).IsPatient limits := by
  have hstopped : ({ receiver with stop := core.holdsControl || receiver.stop } :
      Receiver).IsPatient limits := hpatient
  unfold Core.release
  simp only
  split
  case isTrue => exact isPatient_abort _
  case isFalse => exact hstopped

end Receiver

namespace Connection

def HasReadAll (connection : Connection) : Prop :=
  forall receiver, connection.receiver = some receiver ->
    receiver.HasReadAll connection.config.limits

def IsPatient (connection : Connection) : Prop :=
  forall receiver, connection.receiver = some receiver ->
    receiver.IsPatient connection.config.limits

section Operations

variable {connection next : Connection}

theorem exit_cases (connection : Connection) (outcome : Outcome) :
    connection.exit outcome = connection.setPhase .finished ∨
      exists closing : Connection, closing.config = connection.config ∧
        closing.receiver = (connection.setPhase .closing).receiver ∧
        (connection.exit outcome = closing.startTeardown none ∨
          exists payload, connection.exit outcome = closing.startFarewell payload) := by
  let torn (diagnostic : Diagnostic) := (connection.setPhase .closing).report diagnostic
  unfold exit
  split
  case isTrue => exact Or.inl rfl
  case isFalse =>
      cases outcome with
      | stopped => exact Or.inl rfl
      | endOfStream => exact Or.inr ⟨torn .streamEnded, rfl, rfl, Or.inl rfl⟩
      | closeReceived frame reply =>
          cases reply with
          | true => exact Or.inr ⟨torn (.closingCompleted frame), rfl, rfl, Or.inl rfl⟩
          | false =>
              let closing := torn (.closedByServer frame)
              exact Or.inr ⟨{ closing with core := { closing.core with state := .closingRemote } },
                rfl, rfl, Or.inr ⟨answerPayload frame, rfl⟩⟩
      | failed error =>
          refine Or.inr ⟨torn (.receiverFailed error), rfl, rfl, ?_⟩
          simp only
          split
          · exact Or.inr ⟨failurePayload error, rfl⟩
          · exact Or.inl rfl

/-- A step of the receiver, out of its loop, at its last callback or in its loop. -/
theorem receiverStep?_cases {receiver : Receiver}
    (hstep : connection.receiverStep? receiver = some next) :
    (exists outcome, receiver.phase = .exiting outcome ∧
        (connection.isFree = true ∧ next = connection.exit outcome ∨
          connection.isFree = false ∧ receiver.aborted = true ∧
            next = connection.setPhase .finished)) ∨
      (exists listener, receiver.phase = .notifying listener ∧
        next = (connection.notify (some listener) .closed).setPhase .finished) ∨
      exists after signals journal,
        receiver.step? connection.config.limits = some (after, signals) ∧
          next = { connection with receiver := some after, journal := journal } ∧
          Journal.callbacks journal =
            connection.callbacks ++ toldTo receiver.listener (events signals) := by
  unfold receiverStep? at hstep
  split at hstep
  case h_1 outcome hphase =>
      refine Or.inl ⟨outcome, hphase, ?_⟩
      split at hstep
      case isTrue hfree => exact Or.inl (And.intro hfree (Option.some.inj hstep).symm)
      case isFalse hheld =>
          split at hstep
          case isTrue haborted =>
              exact Or.inr ⟨Bool.eq_false_iff.mpr hheld, haborted, (Option.some.inj hstep).symm⟩
          case isFalse => cases hstep
  case h_2 listener hphase =>
      exact Or.inr (Or.inl ⟨listener, hphase, (Option.some.inj hstep).symm⟩)
  case h_3 =>
      rcases Option.map_eq_some_iff.mp hstep with ⟨⟨after, signals⟩, hloop, rfl⟩
      rcases exists_journal_tell { connection with receiver := some after } after.listener signals
        with ⟨journal, hjournal, _, hcallbacks⟩
      refine Or.inr (Or.inr ⟨after, signals, journal, hloop, hjournal, ?_⟩)
      rw [← Receiver.listener_step hloop]
      exact hcallbacks

theorem IsPatient.mapReceiver (hpatient : connection.IsPatient) {change : Receiver -> Receiver}
    (hchange : forall receiver, receiver.IsPatient connection.config.limits ->
      (change receiver).IsPatient connection.config.limits) :
    (connection.mapReceiver change).IsPatient := by
  intro receiver hreceiver
  rcases Option.map_eq_some_iff.mp hreceiver with ⟨before, hbefore, rfl⟩
  exact hchange before (hpatient before hbefore)

theorem IsPatient.setPhase (hpatient : connection.IsPatient) {phase : ReceiverPhase}
    (hphase : phase ≠ .parked) : (connection.setPhase phase).IsPatient :=
  hpatient.mapReceiver fun _ _ => Receiver.isPatient_of_phase hphase

theorem IsPatient.releaseReceiver (hpatient : connection.IsPatient) (abort : Bool) :
    (connection.releaseReceiver abort).IsPatient :=
  hpatient.mapReceiver fun _ hbefore => hbefore.release connection.core abort

theorem IsPatient.finishTeardown (hpatient : connection.IsPatient) (failure : Option Error) :
    (connection.finishTeardown failure).IsPatient := by
  cases failure with
  | some error => exact hpatient
  | none =>
      refine hpatient.mapReceiver fun _ _ => Receiver.isPatient_of_phase ?_
      cases connection.core.listener <;> simp

theorem IsPatient.startTeardown (hpatient : connection.IsPatient) (failure : Option Error) :
    (connection.startTeardown failure).IsPatient := by
  have hreleased := hpatient.releaseReceiver failure.isSome
  unfold Connection.startTeardown
  simp only
  split
  case h_1 => exact hreleased
  case h_2 =>
      apply IsPatient.finishTeardown
      exact hreleased

theorem IsPatient.startFarewell (hpatient : connection.IsPatient) (payload : Bytes) :
    (connection.startFarewell payload).IsPatient := by
  unfold Connection.startFarewell
  split
  case h_1 => exact hpatient.startTeardown none
  case h_2 => exact hpatient

theorem IsPatient.exit (hpatient : connection.IsPatient) (outcome : Outcome) :
    (connection.exit outcome).IsPatient := by
  rcases connection.exit_cases outcome with hfinished | ⟨closing, hconfig, hreceiver, hexit⟩
  · rw [hfinished]
    exact hpatient.setPhase (by simp)
  · have hclosing : closing.IsPatient := by
      unfold IsPatient
      rw [hconfig, hreceiver]
      exact hpatient.setPhase (by simp)
    rcases hexit with htorn | ⟨payload, hsaying⟩
    · rw [htorn]
      exact hclosing.startTeardown none
    · rw [hsaying]
      exact hclosing.startFarewell payload

theorem IsPatient.receiverStep (hpatient : connection.IsPatient) {receiver : Receiver}
    (hstep : connection.receiverStep? receiver = some next) : next.IsPatient := by
  rcases receiverStep?_cases hstep with
    ⟨outcome, _, ⟨_, rfl⟩ | ⟨_, _, rfl⟩⟩ | ⟨listener, _, rfl⟩ |
      ⟨after, signals, journal, hloop, rfl, _⟩
  · exact hpatient.exit outcome
  · exact hpatient.setPhase (by simp)
  · refine IsPatient.setPhase ?_ (by simp)
    exact hpatient
  · intro other hother
    cases hother
    exact Receiver.isPatient_step hloop

theorem IsPatient.startCall (hpatient : connection.IsPatient) (call : Call) (payload : Bytes) :
    (connection.startCall call payload).IsPatient := by
  have hsending {other : Connection} (hother : other.IsPatient) (call : Call) (frame : Frame)
      (after : Bool) : (other.startSending call frame after).IsPatient := by
    unfold startSending
    split
    · exact hother
    · exact hother
  have hclosing (code : CloseCode) (reason : String) :
      (connection.startClosing code reason).IsPatient := by
    unfold startClosing
    cases connection.core.holdsControl with
    | false => exact hpatient
    | true => exact hpatient.mapReceiver fun _ hbefore => hbefore
  unfold Connection.startCall
  split
  case isFalse => exact hpatient
  case isTrue =>
      split
      case h_1 => exact hpatient
      case h_2 =>
          split
          · exact hsending (hclosing _ _) _ _ _
          · exact hsending hpatient _ _ _

theorem IsPatient.startOpening (hpatient : connection.IsPatient) (opening : Opening) (dial : Dial) :
    (connection.startOpening opening dial).IsPatient := by
  unfold Connection.startOpening
  split
  case h_1 => exact hpatient
  case h_2 =>
      split
      case h_1 => exact hpatient
      case h_2 =>
          simp only
          split
          · exact hpatient
          · exact hpatient

theorem IsPatient.readAnswer (hpatient : connection.IsPatient) {attempt : Attempt}
    (hstep : connection.readAnswer? attempt = some next) : next.IsPatient := by
  unfold readAnswer? at hstep
  split at hstep
  case h_3 =>
      cases hstep
      exact hpatient
  case h_4 =>
      split at hstep
      case h_1 =>
          cases hstep
          exact hpatient
      case h_2 =>
          cases hstep
          intro receiver hreceiver
          cases hreceiver
          exact Receiver.isPatient_of_phase (by simp)
  all_goals cases hstep

theorem IsPatient.holderStep (hpatient : connection.IsPatient) {holder : Holder}
    (hstep : connection.holderStep? holder = some next) : next.IsPatient := by
  cases holder with
  | awaitingAnswer attempt => exact hpatient.readAnswer hstep
  | requesting attempt writing =>
      simp only [holderStep?, requestStep?] at hstep
      split at hstep <;> cases hstep <;> exact hpatient
  | sending frame writing =>
      simp only [holderStep?, sendingStep?] at hstep
      split at hstep
      case h_1 => cases hstep
      case h_2 =>
          split at hstep
          case h_3 error output sink _ =>
              cases hstep
              apply IsPatient.startTeardown
              exact hpatient
          case h_4 => cases hstep
          all_goals
            cases hstep
            exact hpatient
  | farewell writing deadline =>
      simp only [holderStep?, farewellStep?] at hstep
      split at hstep
      case h_1 => cases hstep
      case h_2 =>
          split at hstep
          case h_1 =>
              cases hstep
              exact hpatient
          case h_4 =>
              split at hstep
              case isTrue =>
                  cases hstep
                  apply IsPatient.startTeardown
                  exact hpatient
              case isFalse => cases hstep
          all_goals
            cases hstep
            apply IsPatient.startTeardown
            exact hpatient
  | leaving writer writing deadline failure =>
      simp only [holderStep?, leavingStep?] at hstep
      split at hstep
      case h_1 =>
          cases hstep
          exact hpatient
      case h_4 =>
          split at hstep
          case isTrue =>
              cases hstep
              exact hpatient.finishTeardown failure
          case isFalse => cases hstep
      all_goals
        cases hstep
        apply IsPatient.finishTeardown
        exact hpatient

end Operations

theorem IsPatient.move {connection : Connection} (hpatient : connection.IsPatient) (next : Move) :
    (connection.move next).IsPatient := by
  cases next with
  | connect opening dial =>
      simp only [Connection.move]
      split
      · exact hpatient.startOpening _ _
      · exact hpatient
  | call call =>
      simp only [Connection.move]
      split
      · exact hpatient
      · split
        · exact hpatient.startCall _ _
        · exact hpatient
  | hold =>
      simp only [Connection.move]
      cases hstep : connection.holder.bind connection.holderStep? with
      | none => exact hpatient
      | some next =>
          rcases Option.bind_eq_some_iff.mp hstep with ⟨holder, _, hnext⟩
          exact hpatient.holderStep hnext
  | receive =>
      simp only [Connection.move]
      cases hstep : connection.receiver.bind connection.receiverStep? with
      | none => exact hpatient
      | some next =>
          rcases Option.bind_eq_some_iff.mp hstep with ⟨receiver, _, hnext⟩
          exact hpatient.receiverStep hnext
  | supply chunks ending =>
      exact hpatient.mapReceiver fun receiver _ =>
        Receiver.isPatient_of_phase (receiver.phase_arrive_ne_parked chunks ending)
  | pass milliseconds => exact hpatient
  | treatWrites policy flush => exact hpatient
  | setListener listener =>
      simp only [Connection.move]
      split
      · exact hpatient
      · exact hpatient
  | giveUp =>
      simp only [Connection.move, giveUp]
      split
      · split
        · exact IsPatient.releaseReceiver hpatient true
        · exact hpatient
      · exact hpatient

theorem isPatient_of_reachable {connection : Connection} (hreachable : connection.Reachable) :
    connection.IsPatient := by
  rcases hreachable with ⟨config, offered, listener, moves, rfl⟩
  have hfirst : (fresh config offered listener).IsPatient := by
    intro receiver hreceiver
    cases hreceiver
  exact play_invariant (fun _ next hpatient => hpatient.move next) hfirst moves

/-- A receiver that waits cannot go on with the octets it has. -/
theorem hasReadAll_of_reachable {connection : Connection} (hreachable : connection.Reachable) :
    connection.HasReadAll :=
  fun receiver hreceiver => (isPatient_of_reachable hreachable receiver hreceiver).hasReadAll

end Connection

end WebSocketClient
