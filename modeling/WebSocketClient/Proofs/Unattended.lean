import WebSocketClient.Proofs.Lagging
import WebSocketClient.Proofs.Settling
import WebSocketClient.Proofs.Waiting

/-!
# Connections that nobody uses

After an opening handshake, and as long as no call is made, only one party can move:
the holder of the lock, or the receiver while the lock is free.  So such a connection
has only one place to come to rest, in whatever order the two are asked to move.
-/

namespace WebSocketClient

/-- The connection moves by itself, or octets arrive. -/
def Move.isArrival : Move -> Bool
  | hold | receive | supply _ _ => true
  | connect _ _ | call _ | pass _ | treatWrites _ _ | setListener _ | giveUp => false

/-!
## What arrives
-/

namespace Source

def arrivals (moves : List Move) : Source :=
  ({} : Source).afterMoves moves

def EndsLast : Source -> List Move -> Prop
  | _, [] => True
  | source, next :: rest =>
      (source.ending = none ∨ (source.afterMove next).bytes = source.bytes) ∧
        (source.afterMove next).EndsLast rest

instance decidableEndsLast :
    (source : Source) -> (moves : List Move) -> Decidable (source.EndsLast moves)
  | _, [] => inferInstanceAs (Decidable True)
  | source, next :: rest =>
      have := decidableEndsLast (source.afterMove next) rest
      inferInstanceAs (Decidable ((source.ending = none ∨
        (source.afterMove next).bytes = source.bytes) ∧ (source.afterMove next).EndsLast rest))

section Arrivals

variable {source : Source} {next : Move} {moves : List Move}

theorem afterMove_eq (source : Source) (next : Move) :
    (source.afterMove next).bytes = source.bytes ++ (({} : Source).afterMove next).bytes ∧
      (source.afterMove next).ending =
        (source.ending <|> (({} : Source).afterMove next).ending) := by
  cases next with
  | supply chunks ending => exact And.intro (source.bytes_extend chunks ending) rfl
  | _ => exact And.intro source.goesOn_refl.bytes source.goesOn_refl.ending

theorem afterMoves_eq (source : Source) (moves : List Move) :
    (source.afterMoves moves).bytes = source.bytes ++ (arrivals moves).bytes ∧
      (source.afterMoves moves).ending = (source.ending <|> (arrivals moves).ending) := by
  unfold arrivals
  induction moves generalizing source with
  | nil => exact And.intro source.goesOn_refl.bytes source.goesOn_refl.ending
  | cons next rest ih =>
      rcases ih (source.afterMove next) with ⟨hbytes, hending⟩
      rcases ih (({} : Source).afterMove next) with ⟨hbytes', hending'⟩
      rcases afterMove_eq source next with ⟨hfirst, hknown⟩
      constructor
      · exact hbytes.trans (by rw [hfirst, List.append_assoc, ← hbytes']; rfl)
      · refine hending.trans (Eq.trans ?_ (congrArg (source.ending <|> ·) hending'.symm))
        rw [hknown]
        cases source.ending <;> rfl

theorem arrivals_cons (next : Move) (rest : List Move) :
    (arrivals (next :: rest)).bytes =
        (({} : Source).afterMove next).bytes ++ (arrivals rest).bytes ∧
      (arrivals (next :: rest)).ending =
        ((({} : Source).afterMove next).ending <|> (arrivals rest).ending) :=
  afterMoves_eq _ rest

theorem EndsLast.isOpen (hlast : source.EndsLast moves) :
    source.ending = none ∨ (arrivals moves).bytes = [] := by
  induction moves generalizing source with
  | nil => exact Or.inr rfl
  | cons next rest ih =>
      rcases hlast with ⟨hfirst, hrest⟩
      rcases afterMove_eq source next with ⟨hbytes, hending⟩
      cases hknown : source.ending with
      | none => exact Or.inl rfl
      | some known =>
          right
          have hnothing : (({} : Source).afterMove next).bytes = [] := by
            rcases hfirst with hnone | hsame
            · cases hknown.symm.trans hnone
            · exact List.append_right_eq_self.mp (hbytes.symm.trans hsame)
          rcases ih hrest with hnone | hmore
          · rw [hending, hknown] at hnone
            cases hnone
          · rw [(arrivals_cons next rest).left, hnothing, hmore]
            rfl

theorem EndsLast.goesOn (hlast : source.EndsLast moves) :
    source.GoesOn (arrivals moves).bytes (arrivals moves).ending (source.afterMoves moves) :=
  ⟨(afterMoves_eq source moves).left, (afterMoves_eq source moves).right, hlast.isOpen⟩

end Arrivals

end Source

/-!
## Connections that are left alone
-/

namespace Receiver

/-- The receiver waits only for octets, and nobody can end it. -/
structure IsCalm (limits : Limits) (receiver : Receiver) : Prop where
  aborted : receiver.aborted = false
  waits : receiver.HasReadAll limits

variable {limits : Limits} {receiver next : Receiver} {signals : List Signal}

theorem isCalm_of_phase (haborted : receiver.aborted = false) (hphase : receiver.phase ≠ .parked) :
    receiver.IsCalm limits :=
  ⟨haborted, hasReadAll_of_phase hphase⟩

theorem IsCalm.arrive (hcalm : receiver.IsCalm limits) (chunks : List Bytes)
    (ending : Option Ending) : (receiver.arrive chunks ending).IsCalm limits :=
  isCalm_of_phase hcalm.aborted (receiver.phase_arrive_ne_parked chunks ending)

theorem IsCalm.step (hcalm : receiver.IsCalm limits)
    (hstep : receiver.step? limits = some (next, signals)) : next.IsCalm limits :=
  ⟨(congrArg Flags.aborted (flags_step hstep)).trans hcalm.aborted, (isPatient_step hstep).hasReadAll⟩

end Receiver

namespace Connection

/-- No call is made after the opening handshake: whoever holds the lock is at that
handshake, or it is the receiver that tears the connection down. -/
inductive IsAlone (connection : Connection) : Prop
  | opening {holder : Holder} {attempt : Attempt} : connection.holder = some holder ->
      holder.attempt? = some attempt -> connection.receiver = none -> IsAlone connection
  | free : connection.holder = none ->
      (forall receiver, connection.receiver = some receiver ->
        receiver.IsCalm connection.config.limits) -> IsAlone connection
  | parting {holder : Holder} {receiver : Receiver} : connection.holder = some holder ->
      holder.isCaller = false -> connection.receiver = some receiver ->
      receiver.phase = .closing -> receiver.aborted = false -> IsAlone connection

section Steps

variable {connection next : Connection} {receiver : Receiver}

/-!
## Steps of a connection that nobody uses
-/

theorem isAlone_finishTeardown (hreceiver : connection.receiver = some receiver)
    (haborted : receiver.aborted = false) : (connection.finishTeardown none).IsAlone := by
  refine .free rfl ?_
  intro after hafter
  simp only [finishTeardown, mapReceiver, report, log, hreceiver, Option.map_some,
    Option.some.injEq] at hafter
  subst hafter
  refine Receiver.isCalm_of_phase haborted ?_
  cases connection.core.listener <;> simp

theorem isAlone_startTeardown (hreceiver : connection.receiver = some receiver)
    (hphase : receiver.phase = .closing) (haborted : receiver.aborted = false) :
    (connection.startTeardown none).IsAlone := by
  have hreleased : (connection.releaseReceiver false).receiver =
      some { receiver with stop := connection.core.holdsControl || receiver.stop } := by
    simp [releaseReceiver, mapReceiver, hreceiver, Core.release]
  unfold startTeardown
  simp only
  split
  case h_1 => exact .parting rfl rfl hreleased hphase haborted
  case h_2 => exact isAlone_finishTeardown hreleased haborted

theorem isAlone_startFarewell (hreceiver : connection.receiver = some receiver)
    (hphase : receiver.phase = .closing) (haborted : receiver.aborted = false)
    (payload : Bytes) : (connection.startFarewell payload).IsAlone := by
  unfold startFarewell
  split
  case h_1 => exact isAlone_startTeardown hreceiver hphase haborted
  case h_2 => exact .parting rfl rfl hreceiver hphase haborted

theorem isAlone_requestStep {attempt : Attempt} {writing : Writing}
    (hreceiver : connection.receiver = none)
    (hstep : connection.requestStep? attempt writing = some next) : next.IsAlone := by
  unfold requestStep? at hstep
  split at hstep
  case h_1 =>
      cases hstep
      exact .opening rfl rfl hreceiver
  case h_2 =>
      cases hstep
      exact .opening rfl rfl hreceiver
  case h_3 =>
      cases hstep
      exact .free rfl fun receiver hsome => by cases hreceiver.symm.trans hsome
  case h_4 => cases hstep

theorem isAlone_readAnswer {attempt : Attempt} (hreceiver : connection.receiver = none)
    (hstep : connection.readAnswer? attempt = some next) : next.IsAlone := by
  have hfailed (error : Error) : (connection.failOpening error).IsAlone :=
    .free rfl fun receiver hsome => by cases hreceiver.symm.trans hsome
  unfold readAnswer? at hstep
  split at hstep
  case h_1 => cases hstep
  case h_2 => cases hstep
  case h_3 error _ _ =>
      cases hstep
      exact hfailed error
  case h_4 =>
      split at hstep
      case h_1 error _ =>
          cases hstep
          exact hfailed error
      case h_2 =>
          cases hstep
          refine .free rfl fun receiver hsome => ?_
          cases hsome
          exact Receiver.isCalm_of_phase rfl (by simp)

theorem isAlone_farewellStep {writing : Writing} {deadline : Nat}
    (hreceiver : connection.receiver = some receiver) (hphase : receiver.phase = .closing)
    (haborted : receiver.aborted = false)
    (hstep : connection.farewellStep? writing deadline = some next) : next.IsAlone := by
  unfold farewellStep? at hstep
  split at hstep
  case h_1 => cases hstep
  case h_2 =>
      split at hstep
      case h_1 =>
          cases hstep
          exact .parting rfl rfl hreceiver hphase haborted
      case h_2 =>
          cases hstep
          exact isAlone_startTeardown hreceiver hphase haborted
      case h_3 =>
          cases hstep
          exact isAlone_startTeardown hreceiver hphase haborted
      case h_4 =>
          split at hstep
          case isTrue =>
              cases hstep
              exact isAlone_startTeardown hreceiver hphase haborted
          case isFalse => cases hstep

theorem isAlone_leavingStep {writer : FrameWriter} {writing : Writing} {deadline : Nat}
    (hreceiver : connection.receiver = some receiver) (hphase : receiver.phase = .closing)
    (haborted : receiver.aborted = false)
    (hstep : connection.leavingStep? writer writing deadline none = some next) :
    next.IsAlone := by
  unfold leavingStep? at hstep
  split at hstep
  case h_1 =>
      cases hstep
      exact .parting rfl rfl hreceiver hphase haborted
  case h_4 =>
      split at hstep
      case isTrue =>
          cases hstep
          exact isAlone_finishTeardown hreceiver haborted
      case isFalse => cases hstep
  all_goals
    cases hstep
    exact isAlone_finishTeardown hreceiver haborted

theorem isAlone_exit (hholder : connection.holder = none)
    (hreceiver : connection.receiver = some receiver) (haborted : receiver.aborted = false)
    (outcome : Outcome) : (connection.exit outcome).IsAlone := by
  have hclosing : (connection.setPhase .closing).receiver =
      some { receiver with phase := .closing } := by simp [setPhase, mapReceiver, hreceiver]
  have hfinished : (connection.setPhase .finished).IsAlone := by
    refine .free hholder fun after hafter => ?_
    simp only [setPhase, mapReceiver, hreceiver, Option.map_some, Option.some.injEq] at hafter
    subst hafter
    exact Receiver.isCalm_of_phase haborted (by simp)
  rcases connection.exit_cases outcome with hover | ⟨closing, _, hsame, hexit⟩
  · rw [hover]
    exact hfinished
  · have htearing := hsame.trans hclosing
    rcases hexit with htorn | ⟨payload, hsaying⟩
    · rw [htorn]
      exact isAlone_startTeardown htearing rfl haborted
    · rw [hsaying]
      exact isAlone_startFarewell htearing rfl haborted payload

theorem isAlone_receiverStep (hholder : connection.holder = none)
    (hreceiver : connection.receiver = some receiver)
    (hcalm : receiver.IsCalm connection.config.limits)
    (hstep : connection.receiverStep? receiver = some next) : next.IsAlone := by
  rcases receiverStep?_cases hstep with
    ⟨outcome, _, ⟨_, rfl⟩ | ⟨hheld, _⟩⟩ | ⟨listener, _, rfl⟩ |
      ⟨after, signals, journal, hloop, rfl, _⟩
  · exact isAlone_exit hholder hreceiver hcalm.aborted outcome
  · simp [isFree, hholder] at hheld
  · refine .free hholder fun after hafter => ?_
    simp only [setPhase, mapReceiver, notify, log, hreceiver, Option.map_some,
      Option.some.injEq] at hafter
    subst hafter
    exact Receiver.isCalm_of_phase hcalm.aborted (by simp)
  · refine .free hholder fun other hother => ?_
    cases hother
    exact hcalm.step hloop

theorem receiverStep?_of_closing (hphase : receiver.phase = .closing) :
    connection.receiverStep? receiver = none := by
  simp [receiverStep?, hphase, Receiver.step?]

theorem isAlone_startOpening (hidle : connection.IsIdle) (opening : Opening) (dial : Dial) :
    (connection.startOpening opening dial).IsAlone := by
  have hnobody {other : Connection} (hholder : other.holder = none)
      (hreceiver : other.receiver = none) : other.IsAlone :=
    .free hholder fun receiver hsome => by cases hreceiver.symm.trans hsome
  have hreceiver := hidle.receiver
  unfold startOpening
  split
  case h_1 => exact hnobody hidle.holder hreceiver
  case h_2 =>
      split
      case h_1 => exact hnobody hidle.holder hreceiver
      case h_2 =>
          simp only
          split
          case h_1 => exact hnobody rfl hreceiver
          case h_2 => exact .opening rfl rfl hreceiver

theorem IsAlone.supply (halone : connection.IsAlone) (chunks : List Bytes)
    (ending : Option Ending) : (connection.supply chunks ending).IsAlone := by
  cases halone with
  | opening hholder hattempt hreceiver =>
      refine .opening ?_ (Holder.attempt?_arrive hattempt chunks ending) ?_
      · simp [Connection.supply, hholder]
      · simp [Connection.supply, hreceiver]
  | free hholder hcalm =>
      refine .free (by simp [Connection.supply, hholder]) fun receiver hsome => ?_
      rcases Option.map_eq_some_iff.mp hsome with ⟨before, hbefore, rfl⟩
      exact (hcalm before hbefore).arrive chunks ending
  | @parting holder receiver hholder hcaller hreceiver hphase haborted =>
      have hsame : holder.arrive chunks ending = holder := by
        cases holder with
        | requesting _ _ => cases hcaller
        | awaitingAnswer _ => cases hcaller
        | _ => rfl
      refine @IsAlone.parting _ holder (receiver.arrive chunks ending) ?_ hcaller ?_ ?_ haborted
      · simp [Connection.supply, hholder, hsame]
      · simp [Connection.supply, hreceiver]
      · simp [Receiver.arrive, hphase]

theorem isAlone_holderStep (halone : connection.IsAlone) {holder : Holder}
    (hholder : connection.holder = some holder)
    (hstep : connection.holderStep? holder = some next) : next.IsAlone := by
  cases halone with
  | free hnone _ => cases hnone.symm.trans hholder
  | opening hsome hattempt hreceiver =>
      cases hsome.symm.trans hholder
      cases holder with
      | requesting attempt writing => exact isAlone_requestStep hreceiver hstep
      | awaitingAnswer attempt => exact isAlone_readAnswer hreceiver hstep
      | _ => cases hattempt
  | parting hsome hcaller hreceiver hphase haborted =>
      cases hsome.symm.trans hholder
      cases holder with
      | farewell writing deadline => exact isAlone_farewellStep hreceiver hphase haborted hstep
      | leaving writer writing deadline failure =>
          cases failure with
          | none => exact isAlone_leavingStep hreceiver hphase haborted hstep
          | some error => cases hcaller
      | _ => cases hcaller

theorem IsAlone.hold (halone : connection.IsAlone) : (connection.move .hold).IsAlone := by
  cases hholder : connection.holder with
  | none => simpa [Connection.move, hholder] using halone
  | some holder =>
      simp only [Connection.move, hholder, Option.bind_some]
      cases hstep : connection.holderStep? holder with
      | none => exact halone
      | some next => exact isAlone_holderStep halone hholder hstep

theorem IsAlone.receive (halone : connection.IsAlone) : (connection.move .receive).IsAlone := by
  cases hreceiver : connection.receiver with
  | none => simpa [Connection.move, hreceiver] using halone
  | some receiver =>
      simp only [Connection.move, hreceiver, Option.bind_some]
      cases hstep : connection.receiverStep? receiver with
      | none => exact halone
      | some next =>
          rw [Option.getD_some]
          cases halone with
          | opening _ _ hnone => cases hnone.symm.trans hreceiver
          | free hholder hcalm =>
              exact isAlone_receiverStep hholder hreceiver (hcalm receiver hreceiver) hstep
          | parting _ _ hsome hphase _ =>
              cases hsome.symm.trans hreceiver
              rw [receiverStep?_of_closing hphase] at hstep
              cases hstep

theorem IsAlone.move (halone : connection.IsAlone) {next : Move}
    (harrival : next.isArrival = true) : (connection.move next).IsAlone := by
  cases next with
  | hold => exact halone.hold
  | receive => exact halone.receive
  | supply chunks ending => exact halone.supply chunks ending
  | _ => cases harrival

theorem IsAlone.play (halone : connection.IsAlone) {moves : List Move}
    (harrivals : forall move, move ∈ moves -> move.isArrival = true) :
    (connection.play moves).IsAlone := by
  induction moves generalizing connection with
  | nil => exact halone
  | cons next rest ih =>
      exact ih (halone.move (harrivals next List.mem_cons_self)) fun move hmove =>
        harrivals move (List.mem_cons_of_mem next hmove)

/-!
## The one place to rest
-/

/-- While one of the two parties can move, the other one cannot. -/
theorem IsAlone.step?_eq_move (halone : connection.IsAlone) {next : Move}
    (hown : next = .hold ∨ next = .receive) :
    connection.move next = connection ∨ connection.step? = some (connection.move next) := by
  rcases hown with rfl | rfl
  · cases hhold : connection.holder.bind connection.holderStep? with
    | none => exact Or.inl (by simp [Connection.move, hhold])
    | some after => exact Or.inr (by simp [Connection.move, step?, hhold])
  · cases hreceive : connection.receiver.bind connection.receiverStep? with
    | none => exact Or.inl (by simp [Connection.move, hreceive])
    | some after =>
        right
        rcases Option.bind_eq_some_iff.mp hreceive with ⟨receiver, hreceiver, hstep⟩
        have hhold : connection.holder.bind connection.holderStep? = none := by
          cases halone with
          | free hholder _ => rw [hholder, Option.bind_none]
          | opening _ _ hnone => cases hnone.symm.trans hreceiver
          | parting _ _ hsome hphase _ =>
              cases hsome.symm.trans hreceiver
              rw [receiverStep?_of_closing hphase] at hstep
              cases hstep
        simp [Connection.move, step?, hhold, hreceive]

theorem IsAlone.play_eq_runFor (halone : connection.IsAlone) {moves : List Move}
    (hown : forall move, move ∈ moves -> move = .hold ∨ move = .receive) :
    exists fuel, connection.play moves = connection.runFor fuel := by
  induction moves generalizing connection with
  | nil => exact ⟨0, rfl⟩
  | cons next rest ih =>
      have hnext := hown next List.mem_cons_self
      have hrest : forall move, move ∈ rest -> move = .hold ∨ move = .receive :=
        fun move hmove => hown move (List.mem_cons_of_mem next hmove)
      rw [play_cons]
      rcases halone.step?_eq_move hnext with hsame | hstep
      · rw [hsame]
        exact ih halone hrest
      · have harrival : next.isArrival = true := by rcases hnext with rfl | rfl <;> rfl
        rcases ih (halone.move harrival) hrest with ⟨fuel, hfuel⟩
        exact ⟨fuel + 1, by rw [hfuel, runFor, hstep]⟩

theorem runFor_of_rest {fuel more : Nat} (hrest : (connection.runFor fuel).step? = none)
    (hmore : fuel <= more) : connection.runFor more = connection.runFor fuel := by
  induction fuel generalizing connection more with
  | zero =>
      cases more with
      | zero => rfl
      | succ more =>
          change connection.step? = none at hrest
          simp [runFor, hrest]
  | succ fuel ih =>
      cases more with
      | zero => cases hmore
      | succ more =>
          rw [runFor] at hrest ⊢
          conv => rhs; rw [runFor]
          cases hstep : connection.step? with
          | none => rfl
          | some next =>
              simp only [hstep] at hrest
              exact ih hrest (Nat.le_of_succ_le_succ hmore)

/-- However the parties take turns, the connection comes to rest in the same place. -/
theorem IsAlone.rest_unique (halone : connection.IsAlone) {moves moves' : List Move}
    (hown : forall move, move ∈ moves -> move = .hold ∨ move = .receive)
    (hown' : forall move, move ∈ moves' -> move = .hold ∨ move = .receive)
    (hrest : (connection.play moves).step? = none)
    (hrest' : (connection.play moves').step? = none) :
    connection.play moves = connection.play moves' := by
  rcases halone.play_eq_runFor hown with ⟨fuel, hfuel⟩
  rcases halone.play_eq_runFor hown' with ⟨fuel', hfuel'⟩
  rw [hfuel] at hrest ⊢
  rw [hfuel'] at hrest' ⊢
  rcases Nat.le_total fuel fuel' with hle | hle
  · exact (runFor_of_rest hrest hle).symm
  · exact runFor_of_rest hrest' hle

end Steps

end Connection

end WebSocketClient
