import WebSocketClient.Proofs.Moves

/-!
# The past of a connection

Nothing looks at the journal again, and an opening handshake brings a stream of
its own.  So a connection does the same whatever was written down before, and a
connection that is not in use does the same whatever its last stream was.
-/

namespace WebSocketClient

namespace Connection

/-- The connection as it is when these entries were there before. -/
def since (connection : Connection) (older : List Entry) : Connection :=
  { connection with journal := connection.journal ++ older }

section Since

variable (connection : Connection) (older : List Entry)

theorem core_since : (connection.since older).core = connection.core := rfl

theorem log_since (entries : List Entry) :
    (connection.since older).log entries = (connection.log entries).since older := by
  simp [since, log]

theorem report_since (diagnostic : Diagnostic) :
    (connection.since older).report diagnostic = (connection.report diagnostic).since older :=
  log_since connection older _

theorem notify_since (listener : Option ListenerId) (event : Event) :
    (connection.since older).notify listener event =
      (connection.notify listener event).since older :=
  log_since connection older _

theorem finishTeardown_since (failure : Option Error) :
    (connection.since older).finishTeardown failure =
      (connection.finishTeardown failure).since older := by
  cases hdebug : connection.config.debug <;> cases failure <;>
    simp [finishTeardown, since, report, notify, finish, record, log, mapReceiver, hdebug]

theorem startTeardown_since (failure : Option Error) :
    (connection.since older).startTeardown failure =
      (connection.startTeardown failure).since older := by
  cases hwriter : connection.core.writer with
  | some writer => simp [startTeardown, since, hwriter, releaseReceiver, mapReceiver]
  | none =>
      simp only [startTeardown, hwriter]
      rw [← finishTeardown_since]
      simp [since, hwriter, releaseReceiver, mapReceiver]

theorem failOpening_since (error : Error) :
    (connection.since older).failOpening error = (connection.failOpening error).since older := by
  cases hdebug : connection.config.debug <;>
    simp [failOpening, since, report, finish, record, log, hdebug]

theorem finishOpening_since (attempt : Attempt) (rest : Source) (protocols : List String) :
    (connection.since older).finishOpening attempt rest protocols =
      (connection.finishOpening attempt rest protocols).since older := by
  simp [finishOpening, since, report, notify, finish, record, log, Connection.protocols]

theorem startOpening_since (opening : Opening) (dial : Dial) :
    (connection.since older).startOpening opening dial =
      (connection.startOpening opening dial).since older := by
  have hprepare : (connection.since older).prepare opening = connection.prepare opening := rfl
  simp only [startOpening, core_since, hprepare]
  split
  case h_1 => rfl
  case h_2 =>
      split
      case h_1 => rfl
      case h_2 endpoint pair request _ =>
          cases opening.streamTo dial endpoint with
          | error error =>
              simp only
              rw [← failOpening_since, ← report_since]
              rfl
          | ok duplex =>
              cases hdebug : connection.config.debug <;>
                simp [since, report, record, log, hdebug]

theorem startSending_since (call : Call) (frame : Frame) (after : Bool) :
    (connection.since older).startSending call frame after =
      (connection.startSending call frame after).since older := by
  cases hwriter : connection.core.writer <;>
    simp [startSending, since, hwriter, finish, record, log]

theorem startClosing_since (code : CloseCode) (reason : String) :
    (connection.since older).startClosing code reason =
      (connection.startClosing code reason).since older := by
  cases hcontrol : connection.core.holdsControl <;>
    simp [startClosing, since, report, log, mapReceiver, hcontrol]

theorem startFarewell_since (payload : Bytes) :
    (connection.since older).startFarewell payload =
      (connection.startFarewell payload).since older := by
  cases hwriter : connection.core.writer with
  | some writer => simp [startFarewell, since, hwriter, record, log]
  | none =>
      simp only [startFarewell, hwriter]
      rw [← startTeardown_since]
      simp [since, hwriter]

theorem startCall_since (call : Call) (payload : Bytes) :
    (connection.since older).startCall call payload =
      (connection.startCall call payload).since older := by
  unfold startCall
  by_cases hsend : connection.core.state.canSend = true
  · have hsend' : (connection.since older).core.state.canSend = true := hsend
    rw [if_pos hsend, if_pos hsend', core_since]
    split
    case h_1 => rfl
    case h_2 =>
        split
        case h_1 => rw [startClosing_since, startSending_since]
        case h_2 => rw [startSending_since]
  · have hsend' : ¬ (connection.since older).core.state.canSend = true := hsend
    rw [if_neg hsend, if_neg hsend']
    rfl

theorem requestStep?_since (attempt : Attempt) (writing : Writing) :
    (connection.since older).requestStep? attempt writing =
      (connection.requestStep? attempt writing).map fun next => next.since older := by
  have hsink : (connection.since older).sink = connection.sink := rfl
  simp only [requestStep?, hsink]
  split
  case h_3 error output sink _ =>
      rw [Option.map_some, ← failOpening_since]
      rfl
  all_goals rfl

theorem readAnswer?_since (attempt : Attempt) :
    (connection.since older).readAnswer? attempt =
      (connection.readAnswer? attempt).map fun next => next.since older := by
  have hconfig : (connection.since older).config = connection.config := rfl
  have hoffered : (connection.since older).offered = connection.offered := rfl
  simp only [readAnswer?, hconfig, hoffered]
  split
  case h_3 => rw [Option.map_some, failOpening_since]
  case h_4 =>
      split
      case h_1 => rw [Option.map_some, failOpening_since]
      case h_2 => rw [Option.map_some, finishOpening_since]
  all_goals rfl

theorem finishSending_since (sending : Sending) :
    (connection.since older).finishSending sending =
      (connection.finishSending sending).since older := by
  cases hdebug : connection.config.debug <;>
    simp [finishSending, since, report, finish, record, log, hdebug]

theorem sendingStep?_since (sending : Sending) (writing : Writing) :
    (connection.since older).sendingStep? sending writing =
      (connection.sendingStep? sending writing).map fun next => next.since older := by
  have hsink : (connection.since older).sink = connection.sink := rfl
  simp only [sendingStep?, core_since, hsink]
  split
  case h_1 => rfl
  case h_2 writer _ =>
      split
      case h_2 output sink _ =>
          rw [Option.map_some, ← finishSending_since]
          rfl
      case h_3 error output sink _ =>
          rw [Option.map_some, ← startTeardown_since, ← report_since]
          rfl
      all_goals rfl

theorem farewellStep?_since (writing : Writing) (deadline : Nat) :
    (connection.since older).farewellStep? writing deadline =
      (connection.farewellStep? writing deadline).map fun next => next.since older := by
  have hsink : (connection.since older).sink = connection.sink := rfl
  have hclock : (connection.since older).clock = connection.clock := rfl
  simp only [farewellStep?, core_since, hsink, hclock]
  split
  case h_1 => rfl
  case h_2 writer _ =>
      split
      case h_1 => rfl
      case h_2 output sink _ =>
          rw [Option.map_some, ← startTeardown_since]
          rfl
      case h_3 error output sink _ =>
          rw [Option.map_some, ← startTeardown_since, ← report_since]
          rfl
      case h_4 =>
          split
          · rw [Option.map_some, ← startTeardown_since, ← report_since]
          · rfl

theorem leavingStep?_since (writer : FrameWriter) (writing : Writing) (deadline : Nat)
    (failure : Option Error) :
    (connection.since older).leavingStep? writer writing deadline failure =
      (connection.leavingStep? writer writing deadline failure).map fun next =>
        next.since older := by
  have hsink : (connection.since older).sink = connection.sink := rfl
  have hclock : (connection.since older).clock = connection.clock := rfl
  simp only [leavingStep?, hsink, hclock]
  split
  case h_1 => rfl
  case h_4 =>
      split
      · rw [Option.map_some, finishTeardown_since]
      · rfl
  all_goals
    rw [Option.map_some, ← finishTeardown_since]
    rfl

theorem holderStep?_since (holder : Holder) :
    (connection.since older).holderStep? holder =
      (connection.holderStep? holder).map fun next => next.since older := by
  cases holder with
  | requesting attempt writing => exact requestStep?_since connection older attempt writing
  | awaitingAnswer attempt => exact readAnswer?_since connection older attempt
  | sending sending writing => exact sendingStep?_since connection older sending writing
  | farewell writing deadline => exact farewellStep?_since connection older writing deadline
  | leaving writer writing deadline failure =>
      exact leavingStep?_since connection older writer writing deadline failure

theorem exit_since (outcome : Outcome) :
    (connection.since older).exit outcome = (connection.exit outcome).since older := by
  have hphase : (connection.since older).setPhase .closing =
      (connection.setPhase .closing).since older := rfl
  unfold exit
  by_cases hclosed : connection.core.state.isClosed = true
  · have hclosed' : (connection.since older).core.state.isClosed = true := hclosed
    rw [if_pos hclosed, if_pos hclosed']
    rfl
  · have hclosed' : ¬ (connection.since older).core.state.isClosed = true := hclosed
    rw [if_neg hclosed, if_neg hclosed']
    simp only [hphase, report_since]
    cases outcome with
    | stopped => rfl
    | closeReceived frame answers =>
        cases answers with
        | true => exact startTeardown_since _ older none
        | false =>
            simp only
            rw [← startFarewell_since]
            rfl
    | endOfStream => exact startTeardown_since _ older none
    | failed error =>
        simp only [startFarewell_since, startTeardown_since]
        exact (apply_ite (since · older) _ _ _).symm

theorem emit_since (listener : Option ListenerId) (signals : List Signal) :
    signals.foldl (fun connection signal => connection.emit listener signal)
        (connection.since older) =
      (signals.foldl (fun connection signal => connection.emit listener signal)
        connection).since older := by
  induction signals generalizing connection with
  | nil => rfl
  | cons signal rest ih =>
      rw [List.foldl_cons, List.foldl_cons, ← ih]
      congr 1
      cases signal with
      | diagnostic diagnostic => exact report_since connection older diagnostic
      | event event => exact notify_since connection older listener event

theorem receiverStep?_since (receiver : Receiver) :
    (connection.since older).receiverStep? receiver =
      (connection.receiverStep? receiver).map fun next => next.since older := by
  have hconfig : (connection.since older).config = connection.config := rfl
  unfold receiverStep?
  rw [hconfig]
  split
  case h_1 outcome _ =>
      by_cases hfree : connection.isFree = true
      · have hfree' : (connection.since older).isFree = true := hfree
        rw [if_pos hfree, if_pos hfree', Option.map_some, exit_since]
      · have hfree' : ¬ (connection.since older).isFree = true := hfree
        rw [if_neg hfree, if_neg hfree']
        split <;> rfl
  case h_2 listener _ =>
      rw [Option.map_some, notify_since]
      rfl
  case h_3 =>
      rw [Option.map_map]
      congr 1
      funext ⟨after, signals⟩
      exact emit_since { connection with receiver := some after } older after.listener signals

/-- Every move does the same whatever was written down before. -/
theorem move_since (next : Move) :
    (connection.since older).move next = (connection.move next).since older := by
  cases next with
  | connect opening dial =>
      by_cases hfree : connection.isFree = true
      · have hfree' : (connection.since older).isFree = true := hfree
        simp only [move, if_pos hfree, if_pos hfree']
        exact startOpening_since connection older _ _
      · have hfree' : ¬ (connection.since older).isFree = true := hfree
        simp only [move, if_neg hfree, if_neg hfree']
  | call call =>
      simp only [move]
      split
      case h_1 => rfl
      case h_2 payload _ =>
          by_cases hfree : connection.isFree = true
          · have hfree' : (connection.since older).isFree = true := hfree
            rw [if_pos hfree, if_pos hfree', startCall_since]
          · have hfree' : ¬ (connection.since older).isFree = true := hfree
            rw [if_neg hfree, if_neg hfree']
  | hold =>
      have hholder : (connection.since older).holder = connection.holder := rfl
      simp only [move, hholder]
      cases connection.holder with
      | none => rfl
      | some holder =>
          rw [Option.bind_some, Option.bind_some, holderStep?_since]
          cases connection.holderStep? holder <;> rfl
  | receive =>
      have hreceiver : (connection.since older).receiver = connection.receiver := rfl
      simp only [move, hreceiver]
      cases connection.receiver with
      | none => rfl
      | some receiver =>
          rw [Option.bind_some, Option.bind_some, receiverStep?_since]
          cases connection.receiverStep? receiver <;> rfl
  | supply chunks ending => rfl
  | pass milliseconds => rfl
  | treatWrites policy flush => rfl
  | setListener listener =>
      have howned : (connection.since older).isOwned = connection.isOwned := rfl
      cases hmine : connection.isOwned <;> simp only [move, howned, hmine] <;> rfl
  | giveUp =>
      have howned : (connection.since older).isOwned = connection.isOwned := rfl
      have hgiveUp : (connection.since older).giveUp = connection.giveUp.since older := by
        cases hholder : connection.holder <;>
          simp [giveUp, isFree, since, releaseReceiver, mapReceiver, hholder]
      cases hmine : connection.isOwned <;> simp only [move, howned, hmine, hgiveUp] <;> rfl

theorem play_since (moves : List Move) :
    (connection.since older).play moves = (connection.play moves).since older := by
  induction moves generalizing connection with
  | nil => rfl
  | cons next rest ih => rw [play_cons, play_cons, move_since, ih]

end Since

/-!
## Connections that are not in use
-/

structure IsIdle (connection : Connection) : Prop where
  state : connection.core.state = .disconnected
  holder : connection.holder = none
  receiver : connection.receiver = none

/-- The connection as it is when this was its last stream. -/
def beside (connection : Connection) (sink : Sink) : Connection :=
  { connection with sink := sink }

/-- The two do the same, and their streams differ only while neither has one. -/
def IsBeside (other connection : Connection) : Prop :=
  exists sink, other = connection.beside sink ∧ (sink = connection.sink ∨ connection.IsIdle)

section Idle

variable {connection : Connection}

theorem isBeside_self (connection : Connection) : connection.IsBeside connection :=
  ⟨connection.sink, rfl, Or.inl rfl⟩

theorem IsIdle.beside_startOpening (hidle : connection.IsIdle) (sink : Sink) (opening : Opening)
    (dial : Dial) :
    ((connection.beside sink).startOpening opening dial).IsBeside
      (connection.startOpening opening dial) := by
  have hprepare : (connection.beside sink).prepare opening = connection.prepare opening := rfl
  have hfault : openingFault? connection.core.state = none := by rw [hidle.state, openingFault?]
  have hfault' : openingFault? (connection.beside sink).core.state = none := hfault
  unfold startOpening
  rw [hprepare]
  simp only [hfault, hfault']
  split
  case h_1 => exact ⟨sink, rfl, Or.inr ⟨hidle.state, hidle.holder, hidle.receiver⟩⟩
  case h_2 =>
      split
      case h_1 => exact ⟨sink, rfl, Or.inr ⟨rfl, rfl, hidle.receiver⟩⟩
      case h_2 stream _ => exact ⟨stream.sink, rfl, Or.inl rfl⟩

theorem IsIdle.beside_move (hidle : connection.IsIdle) (sink : Sink) (next : Move) :
    ((connection.beside sink).move next).IsBeside (connection.move next) := by
  have hsame : (connection.beside sink).IsBeside connection := ⟨sink, rfl, Or.inr hidle⟩
  have hfree : connection.isFree = true := by simp [isFree, hidle.holder]
  cases next with
  | connect opening dial =>
      have hfree' : (connection.beside sink).isFree = true := hfree
      simp only [move, if_pos hfree, if_pos hfree']
      exact hidle.beside_startOpening sink _ _
  | call call =>
      have hrefused (error : Error) : ((connection.beside sink).finish (some error)).IsBeside
          (connection.finish (some error)) :=
        ⟨sink, rfl, Or.inr ⟨hidle.state, hidle.holder, hidle.receiver⟩⟩
      have hsend : ¬ connection.core.state.canSend = true := by
        simp [hidle.state, ConnectionState.canSend]
      have hsend' : ¬ (connection.beside sink).core.state.canSend = true := hsend
      have hfree' : (connection.beside sink).isFree = true := hfree
      simp only [move]
      split
      case h_1 error _ => exact hrefused error
      case h_2 =>
          rw [if_pos hfree, if_pos hfree', startCall, startCall, if_neg hsend, if_neg hsend']
          exact hrefused .notConnected
  | hold =>
      have hnone : (connection.beside sink).holder = none := hidle.holder
      simp only [move, hidle.holder, hnone, Option.bind_none, Option.getD_none]
      exact hsame
  | receive =>
      have hnone : (connection.beside sink).receiver = none := hidle.receiver
      simp only [move, hidle.receiver, hnone, Option.bind_none, Option.getD_none]
      exact hsame
  | supply chunks ending =>
      refine ⟨sink, rfl, Or.inr ⟨hidle.state, ?_, ?_⟩⟩
      · simp [move, supply, hidle.holder]
      · simp [move, supply, hidle.receiver]
  | pass milliseconds => exact ⟨sink, rfl, Or.inr { hidle with }⟩
  | treatWrites policy flush =>
      exact ⟨{ sink with policy := policy, flush := flush }, rfl, Or.inr { hidle with }⟩
  | setListener listener =>
      have howned : (connection.beside sink).isOwned = connection.isOwned := rfl
      simp only [move, howned]
      split
      · exact ⟨sink, rfl, Or.inr { hidle with }⟩
      · exact hsame
  | giveUp =>
      have howned : (connection.beside sink).isOwned = connection.isOwned := rfl
      simp only [move, howned]
      split
      · refine ⟨sink, ?_, Or.inr ?_⟩
        · simp [giveUp, isFree, beside, releaseReceiver, mapReceiver, hidle.holder]
        · simp only [giveUp, isFree, hidle.holder]
          exact ⟨hidle.state, rfl, by simp [releaseReceiver, mapReceiver, hidle.receiver]⟩
      · exact hsame

theorem IsBeside.play {other : Connection} (hbeside : other.IsBeside connection)
    (moves : List Move) : (other.play moves).IsBeside (connection.play moves) := by
  induction moves generalizing other connection with
  | nil => exact hbeside
  | cons next rest ih =>
      rcases hbeside with ⟨sink, rfl, rfl | hidle⟩
      · exact isBeside_self _
      · exact ih (hidle.beside_move sink next)

end Idle

end Connection

end WebSocketClient
