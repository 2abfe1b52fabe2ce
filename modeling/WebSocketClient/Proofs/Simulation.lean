import WebSocketClient.Proofs.Calls
import WebSocketClient.Proofs.Changes
import WebSocketClient.Proofs.Moves

/-!
# Every move is a change

What the connection does under the lock and what the receiver does without it
are taken one step at a time; each step changes the outline of the connection in
one of the ways of `Outline.Change`.
-/

namespace WebSocketClient

namespace Outline

theorem Change.to {old new new' : Outline}
    (hchange : Change old new) (heq : new' = new) : Change old new' := by
  rw [heq]
  exact hchange

theorem exists_writer_of_open {outline : Outline} (hstage : outline.Stage)
    (hstate : outline.state = .opened ∨ outline.state = .closingLocal) :
    exists writer, outline.writer = some writer ∧ outline.held = none := by
  cases hstage with
  | live _ hwriter _ hheld _ _ => exact ⟨_, hwriter, hheld⟩
  | idle hother _ _ _ => simp [hother] at hstate
  | opening hother _ _ _ _ => simp [hother] at hstate
  | leaving hother _ _ _ _ _ _ => simp [hother] at hstate
  | gone hother _ _ _ _ _ => simp [hother] at hstate

/-- When nobody holds the lock, a receiver has a connection that is open, is
closed, or waits for the server's close frame. -/
theorem live_of_free {outline : Outline} (hstage : outline.Stage) (htask : outline.task = .free)
    {listener : Option ListenerId} (haudience : outline.audience = some listener)
    (hstate : outline.state ≠ .closed) :
    (outline.state = .opened ∨ outline.state = .closingLocal) ∧
      exists writer, outline.writer = some writer ∧ outline.held = none := by
  cases hstage with
  | live hlive hwriter _ hheld _ _ =>
      refine And.intro ?_ ⟨_, hwriter, hheld⟩
      rw [htask] at hlive
      cases hopened : outline.state <;> simp [hopened, IsLive] at hlive ⊢
  | leaving hclosed _ _ _ _ _ _ => exact absurd hclosed hstate
  | gone hclosed _ _ _ _ _ => exact absurd hclosed hstate
  | idle _ _ _ hunopened => simp [hunopened.audience] at haudience
  | opening _ _ _ _ hunopened => simp [hunopened.audience] at haudience

end Outline

/-!
## Every move is a change
-/

namespace Connection

open Outline

theorem exists_receiver {connection : Connection} {listener : Option ListenerId}
    (haudience : connection.outline.audience = some listener) :
    exists receiver, connection.receiver = some receiver ∧ receiver.listener = listener :=
  Option.map_eq_some_iff.mp haudience

theorem task_outline_of_isFree {connection : Connection} (hfree : connection.isFree = true) :
    connection.outline.task = .free := by
  have hholder : connection.holder = none := by simpa [isFree] using hfree
  simp [outline, hholder]

theorem holder_of_task {connection : Connection} (htask : connection.outline.task = .free) :
    connection.holder = none := by
  cases hholder : connection.holder with
  | none => rfl
  | some holder => cases holder <;> simp [outline, hholder, Holder.task] at htask

theorem exists_sending_of_task {connection : Connection} {streaming : Bool}
    (htask : connection.outline.task = .sending streaming) :
    exists work writing, connection.holder = some (.sending work writing) ∧
      work.streamingAfter = streaming := by
  cases hholder : connection.holder with
  | none => simp [outline, hholder] at htask
  | some holder =>
      cases holder with
      | sending work writing =>
          refine ⟨work, writing, rfl, ?_⟩
          simpa [outline, hholder, Holder.task] using htask
      | _ => simp [outline, hholder, Holder.task] at htask

theorem openingFault?_eq_none {state : ConnectionState} (hfault : openingFault? state = none) :
    state = .disconnected := by
  unfold openingFault? at hfault
  split at hfault
  · rfl
  · cases hfault
  · cases hfault

theorem change_startOpening {connection : Connection} (hfree : connection.isFree = true)
    (opening : Opening) (dial : Dial) :
    Change connection.outline (connection.startOpening opening.afresh dial.afresh).outline := by
  have htask := task_outline_of_isFree hfree
  have hholder : connection.holder = none := by simpa [isFree] using hfree
  unfold startOpening
  cases hfault : openingFault? connection.core.state with
  | some error =>
      simp only
      rw [outline_finish_some]
      exact .nothing
  | none =>
      have hstate := openingFault?_eq_none hfault
      cases hprepare : connection.prepare opening.afresh with
      | error error =>
          simp only
          rw [outline_finish_some]
          exact .nothing
      | ok prepared =>
          rcases prepared with ⟨endpoint, pair, request⟩
          simp only
          cases hstream : opening.afresh.streamTo dial.afresh endpoint with
          | error error =>
              simp only
              apply (Change.failOpening (Or.inr (Or.inr ⟨htask, hstate⟩)) rfl).to
              rw [outline_failOpening, outline_report]
              rfl
          | ok stream =>
              simp only
              rw [Opening.sink_of_streamTo hstream]
              let writer : FrameWriter := {
                role := .client
                keys := opening.keys
                output := .ofCapacity connection.config.outputBufferSize }
              have hask : Change connection.outline { connection.outline with
                  state := .connecting, task := .requesting, held := some writer, rest := request
                  sink := { policy := stream.sink.policy, flush := stream.sink.flush }
                  request := request } :=
                .ask htask hstate rfl rfl
              apply hask.to
              simp [outline, report, log, record, hholder, Opening.afresh, Journal.request,
                Journal.transmissions, Journal.settled, Journal.returns, Journal.callbacks,
                Holder.task, Holder.writer?, Holder.rest, writer]

theorem outline_startCall {connection : Connection} {writer : FrameWriter} {call : Call}
    {payload : Bytes} {frame : Frame} {after : Bool}
    (hstate : connection.core.state = .opened) (hwriter : connection.core.writer = some writer)
    (hheld : connection.outline.held = none)
    (hframe : call.frame payload connection.core.streaming = .ok (frame, after)) :
    (connection.startCall call payload).outline = { connection.outline with
      state := if frame.opcode = .close then .closingLocal else .opened
      task := .sending after, writer := some (writer.start frame).2
      rest := frame.encode writer.nextKey
      transmissions := connection.outline.transmissions ++
        [⟨some call, frame, writer.nextKey⟩] } := by
  have hopened : connection.core.state.canSend = true := by simp [ConnectionState.canSend, hstate]
  have hstate' : connection.outline.state = .opened := hstate
  have hclose := Call.opcode_frame_eq_close_iff hframe
  simp only [startCall, hopened, if_true, hframe]
  cases call with
  | close code reason =>
      have hwriter' : (connection.startClosing code reason).core.writer = some writer := by
        show (connection.startClosing code reason).outline.writer = some writer
        rw [outline_startClosing]
        exact hwriter
      simp only [if_pos (hclose.mpr ⟨code, reason, rfl⟩)]
      rw [outline_startSending hwriter', outline_startClosing, ← hheld]
  | _ =>
      have hopcode : frame.opcode ≠ .close := by simp [hclose]
      simp only [if_neg hopcode]
      rw [outline_startSending hwriter, ← hheld, ← hstate']

theorem change_startCall {connection : Connection} (hstage : connection.outline.Stage)
    (hfree : connection.isFree = true) {call : Call} {payload : Bytes}
    (hpayload : call.payload = .ok payload) :
    Change connection.outline (connection.startCall call payload).outline := by
  have htask := task_outline_of_isFree hfree
  by_cases hstate : connection.core.state = .opened
  · cases hframe : call.frame payload connection.core.streaming with
    | error error =>
        simp only [startCall, hframe]
        split
        · rw [outline_finish_some]
          exact .nothing
        · rw [outline_finish_some]
          exact .nothing
    | ok framed =>
        rcases framed with ⟨frame, after⟩
        rcases exists_writer_of_open hstage (Or.inl hstate) with ⟨writer, hwriter, hheld⟩
        rw [outline_startCall hstate hwriter hheld hframe]
        exact .begin htask hstate hwriter hpayload hframe
  · have hrefused : connection.core.state.canSend = false := by
      simp [ConnectionState.canSend, hstate]
    simp only [startCall, hrefused, Bool.false_eq_true, if_false]
    rw [outline_finish_some]
    exact .nothing

/-!
## The end
-/

section Ending

variable {connection closing : Connection} {writer : FrameWriter}

theorem change_leave {sink : Sink}
    (htask : connection.outline.task = .farewell ∨ connection.outline.task = .free ∧
      (connection.outline.state = .opened ∨ connection.outline.state = .closingLocal))
    (hwriter : connection.outline.writer = some writer)
    (hcontent : sink.content = connection.outline.sink.content)
    (hclosing : closing.outline = { connection.outline with sink := sink }) :
    Change connection.outline (closing.startTeardown none).outline := by
  have hwriter' : closing.core.writer = some writer := by
    show closing.outline.writer = some writer
    rw [hclosing]
    exact hwriter
  apply (Change.leave htask hwriter hcontent).to
  rw [outline_startTeardown hwriter', hclosing]
  rfl

theorem change_startFarewell {state : ConnectionState} {payload : Bytes}
    (htask : connection.outline.task = .free) (hheld : connection.outline.held = none)
    (hwriter : connection.outline.writer = some writer)
    (hstate : connection.outline.state = .opened ∧ state = .opened ∨
      (connection.outline.state = .opened ∨ connection.outline.state = .closingLocal) ∧
        state = .closingRemote)
    (hlength : payload.length <= maxControlPayload)
    (hclosing : closing.outline = { connection.outline with state := state }) :
    Change connection.outline (closing.startFarewell payload).outline := by
  have hwriter' : closing.core.writer = some writer := by
    show closing.outline.writer = some writer
    rw [hclosing]
    exact hwriter
  apply (Change.beginFarewell htask hwriter hstate hlength).to
  rw [outline_startFarewell hwriter', hclosing, ← hheld]

end Ending

/-!
## Steps of the holder of the lock
-/

section Holding

variable {connection next : Connection}

theorem change_requestStep {attempt : Attempt} {writing : Writing}
    (hholder : connection.holder = some (.requesting attempt writing))
    (hstep : connection.requestStep? attempt writing = some next) :
    Change connection.outline next.outline := by
  have htask : connection.outline.task = .requesting :=
    task_of_holder hholder
  have hheld : connection.outline.held = some attempt.writer :=
    held_of_holder hholder
  have hrest : connection.outline.rest = writing.rest :=
    rest_of_holder hholder
  unfold requestStep? at hstep
  split at hstep
  case h_1 output sink writing' hwrite =>
      cases hstep
      apply (Change.carryHeld (Or.inl htask) hheld hrest (Output.step_eq_more.mp hwrite)).to
      simp [outline, hholder, Holder.task, Holder.writer?, Holder.rest]
  case h_2 output sink hwrite =>
      cases hstep
      rcases Output.step_done hwrite with ⟨rfl, rfl, hunsent⟩
      have hunsent' : connection.outline.unsent = [] := by
        simpa [unsent, hheld, hrest, Output.unsent] using hunsent
      apply (Change.asked htask hunsent').to
      simp [outline, hholder, Holder.task, Holder.writer?, Holder.rest]
  case h_3 error output sink hwrite =>
      cases hstep
      have hcontent := (Output.step_failed hwrite).right.content_eq
      apply (Change.failOpening (Or.inl htask) hcontent).to
      rw [outline_failOpening]
      rfl
  case h_4 hwrite => cases hstep

theorem change_readAnswer {attempt : Attempt}
    (hholder : connection.holder = some (.awaitingAnswer attempt))
    (hstep : connection.readAnswer? attempt = some next) :
    Change connection.outline next.outline := by
  have htask : connection.outline.task = .awaitingAnswer :=
    task_of_holder hholder
  have hfail (error : Error) :
      Change connection.outline (connection.failOpening error).outline := by
    apply (Change.failOpening (Or.inr (Or.inl htask)) rfl).to
    rw [outline_failOpening]
  unfold readAnswer? at hstep
  cases hread : Handshake.readLines connection.config.limits attempt.source with
  | waiting => simp [hread] at hstep
  | ended rest => simp [hread] at hstep
  | failed error rest =>
      simp only [hread, Option.some.injEq] at hstep
      rw [← hstep]
      exact hfail error
  | done lines rest =>
      simp only [hread] at hstep
      split at hstep
      case h_1 error hparse =>
          cases hstep
          exact hfail error
      case h_2 protocols hparse =>
          cases hstep
          apply (Change.opened htask).to
          rw [outline_finishOpening]
          simp [outline, hholder, Holder.writer?, Holder.rest]

theorem change_sendingStep {sending : Sending} {writing : Writing}
    (hholder : connection.holder = some (.sending sending writing))
    (hstep : connection.sendingStep? sending writing = some next) :
    Change connection.outline next.outline := by
  have htask : connection.outline.task = .sending sending.streamingAfter :=
    task_of_holder hholder
  have hheld : connection.outline.held = none :=
    held_of_holder hholder
  have hrest : connection.outline.rest = writing.rest :=
    rest_of_holder hholder
  unfold sendingStep? at hstep
  split at hstep
  · cases hstep
  · rename_i writer hwriter
    have hunsent : connection.outline.unsent = writer.output.unsent writing := by
      simp [unsent, outline, hholder, hwriter, Holder.writer?, Holder.rest, Output.unsent]
    split at hstep
    case h_1 output sink writing' hwrite =>
        cases hstep
        apply (Change.carry (Or.inl ⟨_, htask⟩) hheld hwriter hrest
          (Output.step_eq_more.mp hwrite)).to
        simp [outline, hholder, setOutput, Holder.task, Holder.writer?, Holder.rest]
    case h_2 output sink hwrite =>
        cases hstep
        rcases Output.step_done hwrite with ⟨rfl, rfl, hdone⟩
        apply (Change.sent htask (hunsent.trans hdone)).to
        rw [outline_finishSending, outline_setOutput, ← hheld]
        simp [outline, hwriter]
    case h_3 error output sink hwrite =>
        cases hstep
        rcases Output.step_failed hwrite with ⟨rfl, hfailure⟩
        have hwriter' : ((connection.setOutput writer writer.output sink).report
            (.writeFailed error)).core.writer = some writer := rfl
        rw [← hunsent] at hfailure
        apply (Change.fall htask hheld hwriter hfailure).to
        rw [outline_startTeardown hwriter', outline_report, outline_setOutput]
        rfl
    case h_4 hwrite => cases hstep

theorem change_farewellStep {writing : Writing} {deadline : Nat}
    (hholder : connection.holder = some (.farewell writing deadline))
    (hstep : connection.farewellStep? writing deadline = some next) :
    Change connection.outline next.outline := by
  have htask : connection.outline.task = .farewell :=
    task_of_holder hholder
  have hheld : connection.outline.held = none :=
    held_of_holder hholder
  have hrest : connection.outline.rest = writing.rest :=
    rest_of_holder hholder
  unfold farewellStep? at hstep
  split at hstep
  · cases hstep
  · rename_i writer hwriter
    have hkept (sink : Sink) : (connection.setOutput writer writer.output sink).outline =
        { connection.outline with sink := sink } := by
      rw [outline_setOutput]
      simp [outline, hwriter]
    split at hstep
    case h_1 output sink writing' hwrite =>
        cases hstep
        apply (Change.carry (Or.inr htask) hheld hwriter hrest (Output.step_eq_more.mp hwrite)).to
        simp [outline, hholder, setOutput, Holder.task, Holder.writer?, Holder.rest]
    case h_2 output sink hwrite =>
        cases hstep
        rcases Output.step_done hwrite with ⟨rfl, rfl, _⟩
        apply change_leave (Or.inl htask) hwriter rfl
        exact hkept connection.sink
    case h_3 error output sink hwrite =>
        cases hstep
        rcases Output.step_failed hwrite with ⟨rfl, hfailure⟩
        apply change_leave (Or.inl htask) hwriter hfailure.content_eq
        rw [outline_report]
        exact hkept sink
    case h_4 hwrite =>
        split at hstep
        · cases hstep
          apply change_leave (Or.inl htask) hwriter rfl
          exact connection.outline_report .closeTimedOut
        · cases hstep

theorem change_finishTeardown (hstage : connection.outline.Stage) {writer : FrameWriter}
    {writing : Writing} {deadline : Nat} {failure : Option Error} {sink : Sink}
    (hholder : connection.holder = some (.leaving writer writing deadline failure))
    (hcontent : sink.content = connection.sink.content) :
    Change connection.outline
      ({ connection with sink := sink }.finishTeardown failure).outline := by
  have htask : connection.outline.task = .leaving failure.isSome :=
    task_of_holder hholder
  cases failure with
  | some error =>
      apply (Change.abandon htask hcontent).to
      rw [outline_finishTeardown_some]
      rfl
  | none =>
      have haudience := (leaving_of_task hstage htask).right.right.left
      rcases exists_receiver haudience with ⟨receiver, hreceiver, _⟩
      have hreceiver' : { connection with sink := sink }.receiver = some receiver := hreceiver
      apply (Change.part htask hcontent).to
      rw [outline_finishTeardown_none hreceiver']
      rfl

theorem change_leavingStep (hstage : connection.outline.Stage) {writer : FrameWriter}
    {writing : Writing} {deadline : Nat} {failure : Option Error}
    (hholder : connection.holder = some (.leaving writer writing deadline failure))
    (hstep : connection.leavingStep? writer writing deadline failure = some next) :
    Change connection.outline next.outline := by
  have htask : connection.outline.task = .leaving failure.isSome :=
    task_of_holder hholder
  have hheld : connection.outline.held = some writer :=
    held_of_holder hholder
  have hrest : connection.outline.rest = writing.rest :=
    rest_of_holder hholder
  unfold leavingStep? at hstep
  split at hstep
  case h_1 output sink writing' hwrite =>
      cases hstep
      have hwrite' := Output.shutdownStep_more.mp hwrite
      apply (Change.carryHeld (Or.inr ⟨_, htask⟩) hheld hrest hwrite').to
      simp [outline, hholder, Holder.task, Holder.writer?, Holder.rest]
  case h_2 output sink hwrite =>
      cases hstep
      exact change_finishTeardown hstage hholder (Output.shutdownStep_done hwrite).left
  case h_3 error output sink hwrite =>
      cases hstep
      have hrefusal := (Output.handOver_failed (Output.shutdownStep_failed.mp hwrite)).right.right
      exact change_finishTeardown hstage hholder hrefusal.content_eq
  case h_4 hwrite =>
      split at hstep
      · cases hstep
        exact change_finishTeardown hstage hholder rfl
      · cases hstep

theorem change_hold (hstage : connection.outline.Stage) :
    Change connection.outline (connection.move .hold).outline := by
  cases hholder : connection.holder with
  | none =>
      simp only [move, hholder, Option.bind_none, Option.getD_none]
      exact .nothing
  | some holder =>
      simp only [move, hholder, Option.bind_some]
      cases hstep : connection.holderStep? holder with
      | none => exact .nothing
      | some next =>
          cases holder with
          | requesting attempt writing => exact change_requestStep hholder hstep
          | awaitingAnswer attempt => exact change_readAnswer hholder hstep
          | sending sending writing => exact change_sendingStep hholder hstep
          | farewell writing deadline => exact change_farewellStep hholder hstep
          | leaving writer writing deadline failure =>
              exact change_leavingStep hstage hholder hstep

end Holding

/-!
## Steps of the receiver
-/

theorem outline_setPhase_of_silent {connection : Connection} {receiver : Receiver}
    {phase : ReceiverPhase} (hreceiver : connection.receiver = some receiver)
    (hnews : phase.news? = receiver.phase.news?)
    (hparting : phase.parting? = receiver.phase.parting?) :
    (connection.setPhase phase).outline = connection.outline := by
  rw [outline_setPhase]
  simp [outline, hreceiver, hnews, hparting]

theorem change_exit {connection : Connection} (hstage : connection.outline.Stage)
    (hfree : connection.isFree = true) {receiver : Receiver} {outcome : Outcome}
    (hreceiver : connection.receiver = some receiver)
    (hphase : receiver.phase = .exiting outcome) :
    Change connection.outline (connection.exit outcome).outline := by
  have htask := task_outline_of_isFree hfree
  have hfinished : (connection.setPhase .finished).outline = connection.outline :=
    outline_setPhase_of_silent hreceiver (by rw [hphase]; rfl) (by rw [hphase]; rfl)
  have hclosing : (connection.setPhase .closing).outline = connection.outline :=
    outline_setPhase_of_silent hreceiver (by rw [hphase]; rfl) (by rw [hphase]; rfl)
  have haudience : connection.outline.audience = some receiver.listener := by
    simp [outline, hreceiver]
  unfold exit
  split
  case isTrue hclosed =>
      rw [hfinished]
      exact .nothing
  case isFalse hclosed =>
      have hstate : connection.outline.state ≠ .closed := by
        simpa [ConnectionState.isClosed, outline] using hclosed
      rcases live_of_free hstage htask haudience hstate with ⟨hlive, writer, hwriter, hheld⟩
      have hleave (diagnostic : Diagnostic) : Change connection.outline
          (((connection.setPhase .closing).report diagnostic).startTeardown none).outline := by
        apply change_leave (Or.inr ⟨htask, hlive⟩) hwriter rfl
        rw [outline_report]
        exact hclosing
      cases outcome with
      | stopped =>
          simp only
          rw [hfinished]
          exact .nothing
      | closeReceived frame reply =>
          cases reply with
          | true => exact hleave (.closingCompleted frame)
          | false =>
              have hreported := (connection.setPhase .closing).outline_report
                (.closedByServer frame)
              rw [hclosing] at hreported
              apply change_startFarewell htask hheld hwriter (Or.inr ⟨hlive, rfl⟩)
                (length_answerPayload frame)
              rw [← hreported]
              rfl
      | endOfStream => exact hleave .streamEnded
      | failed error =>
          simp only
          split
          case isTrue hopen =>
              have hopened : connection.outline.state = .opened :=
                of_decide_eq_true (Bool.and_eq_true_iff.mp hopen).right
              apply change_startFarewell htask hheld hwriter (Or.inl ⟨hopened, rfl⟩)
                (length_failurePayload error)
              rw [outline_report, hclosing, ← hopened]
          case isFalse => exact hleave (.receiverFailed error)

theorem exists_journal_emit (connection : Connection) (listener : Option ListenerId)
    (signals : List Signal) :
    exists journal,
      signals.foldl (fun connection signal => connection.emit listener signal) connection =
        { connection with journal := journal } := by
  induction signals generalizing connection with
  | nil => exact ⟨connection.journal, rfl⟩
  | cons signal rest ih =>
      rcases ih (connection.emit listener signal) with ⟨journal, hjournal⟩
      refine ⟨journal, ?_⟩
      rw [List.foldl_cons, hjournal]
      cases signal <;> rfl

theorem outline_emit_diagnostics (connection : Connection) (listener : Option ListenerId)
    {signals : List Signal}
    (hsignals : forall signal, signal ∈ signals ->
      exists diagnostic, signal = .diagnostic diagnostic) :
    (signals.foldl (fun connection signal => connection.emit listener signal) connection).outline =
      connection.outline := by
  induction signals generalizing connection with
  | nil => rfl
  | cons signal rest ih =>
      rcases hsignals signal (by simp) with ⟨diagnostic, rfl⟩
      rw [List.foldl_cons, ih _ fun other hother => hsignals other (List.mem_cons_of_mem _ hother)]
      exact outline_report connection diagnostic

theorem change_loop {connection next : Connection} {receiver : Receiver}
    (hreceiver : connection.receiver = some receiver)
    (hstep : (receiver.step? connection.config.limits).map
      (fun (receiver, signals) =>
        signals.foldl (fun connection signal => connection.emit receiver.listener signal)
          { connection with receiver := some receiver }) = some next) :
    Change connection.outline next.outline := by
  rcases Option.map_eq_some_iff.mp hstep with ⟨⟨after, signals⟩, hafter, rfl⟩
  have haudience : connection.outline.audience = some receiver.listener := by
    simp [outline, hreceiver]
  rcases Receiver.step_cases hafter with ⟨event, hphase, rfl, rfl⟩ | ⟨hparting, hlistens⟩
  · have hnews : connection.outline.news = some event := by
      simp [outline, hreceiver, hphase, ReceiverPhase.news?]
    apply (Change.tell haudience hnews).to
    simp only [List.foldl_cons, List.foldl_nil, emit]
    rw [outline_notify]
    simp [outline, hreceiver, hphase, ReceiverPhase.news?, ReceiverPhase.parting?]
  · have hparting' : connection.outline.parting = none := by
      simpa [outline, hreceiver] using hparting
    have hsome : connection.outline.audience.isSome = true := by rw [haudience]; rfl
    apply (Change.receive hsome hparting' hlistens.news).to
    simp only
    rw [outline_emit_diagnostics _ _ hlistens.signals]
    simp [outline, hreceiver, hlistens.listener, hlistens.parting, hparting]

theorem change_receive {connection : Connection} (hstage : connection.outline.Stage) :
    Change connection.outline (connection.move .receive).outline := by
  cases hreceiver : connection.receiver with
  | none =>
      simp only [move, hreceiver, Option.bind_none, Option.getD_none]
      exact .nothing
  | some receiver =>
      simp only [move, hreceiver, Option.bind_some]
      cases hstep : connection.receiverStep? receiver with
      | none => exact .nothing
      | some next =>
          simp only [Option.getD_some]
          unfold receiverStep? at hstep
          split at hstep
          case h_1 outcome hphase =>
              split at hstep
              case isTrue hfree =>
                  cases hstep
                  exact change_exit hstage hfree hreceiver hphase
              case isFalse =>
                  split at hstep
                  · cases hstep
                    rw [outline_setPhase_of_silent hreceiver (by rw [hphase]; rfl)
                      (by rw [hphase]; rfl)]
                    exact .nothing
                  · cases hstep
          case h_2 listener hphase =>
              cases hstep
              have hparting : connection.outline.parting = some listener := by
                simp [outline, hreceiver, hphase, ReceiverPhase.parting?]
              apply (Change.parted hparting).to
              rw [outline_setPhase, outline_notify]
              simp [outline, hreceiver, hphase, ReceiverPhase.news?, ReceiverPhase.parting?,
                notify, log]
          case h_3 => exact change_loop hreceiver hstep

/-!
## Any moves
-/

theorem change_call {connection : Connection} (hstage : connection.outline.Stage) (call : Call) :
    Change connection.outline (connection.move (.call call)).outline := by
  simp only [move]
  split
  case h_1 error hpayload =>
      rw [outline_finish_some]
      exact .nothing
  case h_2 payload hpayload =>
      split
      case isTrue hfree => exact change_startCall hstage hfree hpayload
      case isFalse => exact .nothing

theorem change_setListener (connection : Connection) (listener : ListenerId) :
    Change connection.outline (connection.move (.setListener listener)).outline := by
  simp only [move]
  split
  case isTrue howned =>
      have hcaller : connection.holder.any Holder.isCaller = false := by
        simpa [isOwned] using (Bool.and_eq_true_iff.mp howned).right
      apply Change.register listener
      all_goals
        intro htask
        cases hholder : connection.holder with
        | none => simp [outline, hholder] at htask
        | some holder =>
            rw [hholder] at hcaller
            cases holder <;> simp [outline, hholder, Holder.task, Holder.isCaller] at htask hcaller
  case isFalse => exact .nothing

theorem change_of_move {connection : Connection} (hstage : connection.outline.Stage)
    (next : Move) : Change connection.outline (connection.move next).outline := by
  cases next with
  | connect opening dial =>
      simp only [move]
      split
      case isTrue hfree => exact change_startOpening hfree opening dial
      case isFalse => exact .nothing
  | call call => exact change_call hstage call
  | hold => exact change_hold hstage
  | receive => exact change_receive hstage
  | supply chunks ending =>
      apply Change.nothing.to
      exact connection.outline_supply chunks ending
  | pass milliseconds => exact .nothing
  | treatWrites policy flush => exact .treatWrites policy flush
  | setListener listener => exact change_setListener connection listener
  | giveUp =>
      simp only [move]
      split
      · rw [outline_giveUp]
        exact .nothing
      · exact .nothing

theorem stage_fresh (config : Config) (offered : List String) (listener : Option ListenerId) :
    (fresh config offered listener).outline.Stage :=
  .idle rfl rfl rfl ⟨rfl, rfl, rfl, rfl, rfl, rfl, rfl, rfl, rfl⟩

/-- What holds of the outlines of unused connections and what every change keeps
holds of every connection that can be reached. -/
theorem outline_invariant {P : Outline -> Prop}
    (hfresh : forall config offered listener, P (fresh config offered listener).outline)
    (hchange : forall old new, old.Stage -> Change old new -> P old -> P new)
    {connection : Connection} (hreachable : connection.Reachable) :
    connection.outline.Stage ∧ P connection.outline := by
  rcases hreachable with ⟨config, offered, listener, moves, rfl⟩
  refine @play_invariant (fun connection => connection.outline.Stage ∧ P connection.outline) ?_ _
    ⟨stage_fresh config offered listener, hfresh config offered listener⟩ moves
  intro connection next hboth
  rcases hboth with ⟨hstage, hholds⟩
  have hnext := change_of_move hstage next
  exact And.intro (stage_change hstage hnext) (hchange _ _ hstage hnext hholds)

/-- The same when the stream is steady. -/
theorem steady_invariant {P : Outline -> Prop}
    (hfresh : forall config offered listener, P (fresh config offered listener).outline)
    (hchange : forall old new, old.Stage -> old.sink.isSteady = true ->
      new.sink.isSteady = true -> Change old new -> P old -> P new)
    {connection : Connection} (hreachable : connection.SteadilyReachable) :
    P connection.outline := by
  rcases hreachable with ⟨config, offered, listener, moves, hsteady, rfl⟩
  have hfirst := hfresh config offered listener
  have hstage := stage_fresh config offered listener
  have hsink : (fresh config offered listener).outline.sink.isSteady = true := rfl
  generalize fresh config offered listener = connection at hsteady hfirst hstage hsink ⊢
  induction moves generalizing connection with
  | nil => exact hfirst
  | cons next rest ih =>
      rcases Bool.and_eq_true_iff.mp hsteady with ⟨hnext, hrest⟩
      have hstep := change_of_move hstage next
      exact ih _ hrest (hchange _ _ hstage hsink hnext hstep hfirst) (stage_change hstage hstep)
        hnext

theorem stage_of_reachable {connection : Connection} (hreachable : connection.Reachable) :
    connection.outline.Stage :=
  (@outline_invariant (fun _ => True) (fun _ _ _ => trivial) (fun _ _ _ _ _ => trivial) _
    hreachable).left

end Connection

end WebSocketClient
