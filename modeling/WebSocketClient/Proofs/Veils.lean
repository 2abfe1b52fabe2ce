import WebSocketClient.Proofs.Journal
import WebSocketClient.Proofs.Layout
import WebSocketClient.Proofs.Moves

/-!
# Masking keys under a veil

Masking keys change octets, but not how many there are.  Nobody on this side of the
stream looks at an octet that is on its way out, so connections whose writers have
different keys do the same, except for the octets they send.
-/

namespace WebSocketClient

/-!
## Octets that cannot be told apart
-/

def Bytes.veil (octets : Bytes) : Bytes :=
  octets.map fun _ => 0

section Octets

variable (octets : Bytes)

@[simp] theorem Bytes.length_veil : (Bytes.veil octets).length = octets.length :=
  List.length_map _

@[simp] theorem Bytes.isEmpty_veil : (Bytes.veil octets).isEmpty = octets.isEmpty := by
  cases octets <;> rfl

@[simp] theorem Bytes.veil_veil : Bytes.veil (Bytes.veil octets) = Bytes.veil octets :=
  List.map_map

@[simp] theorem Bytes.drop_veil (n : Nat) :
    (Bytes.veil octets).drop n = Bytes.veil (octets.drop n) :=
  List.map_drop.symm

@[simp] theorem Bytes.veil_cons (octet : UInt8) :
    Bytes.veil (octet :: octets) = 0 :: Bytes.veil octets := rfl

theorem Bytes.hasAtLeast_veil (n : Nat) :
    hasAtLeast n (Bytes.veil octets) = hasAtLeast n octets := by
  rw [Bool.eq_iff_iff, hasAtLeast_iff, hasAtLeast_iff, length_veil]

theorem Bytes.veil_eq_of_length {octets other : Bytes} (hlength : octets.length = other.length) :
    Bytes.veil octets = Bytes.veil other := by
  rw [veil, veil, List.map_const', List.map_const', hlength]

end Octets

namespace WriteAnswer

def veil : WriteAnswer -> WriteAnswer
  | taken front => taken (Bytes.veil front)
  | failed reason => failed reason
  | waiting => waiting

@[simp] theorem octets_veil (answer : WriteAnswer) :
    answer.veil.octets = Bytes.veil answer.octets := by
  cases answer <;> rfl

end WriteAnswer

theorem WritePolicy.answer_veil (policy : WritePolicy) (offered : Bytes) :
    policy.answer (Bytes.veil offered) =
      ((policy.answer offered).1.veil, (policy.answer offered).2) := by
  cases policy with
  | failingAfter n reason =>
      by_cases hn : n = 0 <;> simp [answer, WriteAnswer.veil, Bytes.veil, hn]
  | _ => simp [answer, WriteAnswer.veil, Bytes.veil]

namespace Sink

def veil (sink : Sink) : Sink :=
  { sink with sent := sink.sent.map Bytes.veil }

@[simp] theorem veil_veil (sink : Sink) : sink.veil.veil = sink.veil := by
  simp [veil]

theorem write_veil (sink : Sink) (octets : Bytes) :
    sink.veil.write (Bytes.veil octets) = ((sink.write octets).1.veil, (sink.write octets).2.veil) := by
  simp [write, veil, WritePolicy.answer_veil]

theorem shutdown?_veil (sink : Sink) : sink.veil.shutdown? = sink.shutdown?.map veil := by
  cases hpolicy : sink.policy <;> simp [shutdown?, veil, hpolicy]

end Sink

def Writing.veil (writing : Writing) : Writing :=
  { writing with rest := Bytes.veil writing.rest }

def Output.veil (output : Output) : Output :=
  { output with buffer := Bytes.veil output.buffer }

def WriteStep.veil : WriteStep -> WriteStep
  | more output sink writing => more output.veil sink.veil writing.veil
  | done output sink => done output.veil sink.veil
  | failed error output sink => failed error output.veil sink.veil
  | waiting => waiting

namespace Output

section Writes

variable (output : Output) (sink : Sink) (writing : Writing)

theorem drain_veil : output.veil.drain sink.veil writing.veil =
    (output.drain sink writing).veil := by
  have hwrite : sink.veil.write output.veil.buffer =
      ((sink.write output.buffer).1.veil, (sink.write output.buffer).2.veil) :=
    sink.write_veil output.buffer
  unfold drain
  rw [hwrite]
  rcases sink.write output.buffer with ⟨answer, after⟩
  cases answer with
  | taken front =>
      cases front with
      | nil => rfl
      | cons octet rest =>
          simp [WriteAnswer.veil, WriteStep.veil, veil, Writing.veil]
  | failed reason => rfl
  | waiting => rfl

theorem bypass_veil : output.veil.bypass sink.veil writing.veil =
    (output.bypass sink writing).veil := by
  have hwrite : sink.veil.write writing.veil.rest =
      ((sink.write writing.rest).1.veil, (sink.write writing.rest).2.veil) :=
    sink.write_veil writing.rest
  unfold bypass
  rw [hwrite]
  rcases sink.write writing.rest with ⟨answer, after⟩
  cases answer with
  | taken front =>
      cases front with
      | nil => rfl
      | cons octet rest => simp [WriteAnswer.veil, WriteStep.veil, Writing.veil]
  | failed reason => rfl
  | waiting => rfl

theorem handOver_veil : output.veil.handOver sink.veil writing.veil =
    (output.handOver sink writing).veil := by
  have hempty : output.veil.buffer.isEmpty = output.buffer.isEmpty := Bytes.isEmpty_veil _
  have hrest : writing.veil.rest.isEmpty = writing.rest.isEmpty := Bytes.isEmpty_veil _
  have hdrain : output.veil.mustDrain writing.veil = output.mustDrain writing := by
    simp [mustDrain, veil, Writing.veil]
  have hlong : Bytes.hasAtLeast output.veil.capacity writing.veil.rest =
      Bytes.hasAtLeast output.capacity writing.rest := Bytes.hasAtLeast_veil _ _
  unfold handOver
  rw [hempty, hrest, hdrain, hlong]
  split
  · exact drain_veil output sink writing
  · split
    · rfl
    · split
      · exact bypass_veil output sink writing
      · simp [WriteStep.veil, veil, Writing.veil, Bytes.veil]

theorem flushStep_veil : output.veil.flushStep sink.veil = (output.flushStep sink).veil := by
  have hflush : sink.veil.flush = sink.flush := rfl
  unfold flushStep
  rw [hflush]
  cases sink.flush <;> rfl

theorem step_veil : output.veil.step sink.veil writing.veil = (output.step sink writing).veil := by
  unfold step
  rw [handOver_veil]
  cases output.handOver sink writing with
  | done output sink => exact flushStep_veil output sink
  | _ => rfl

theorem shutdownStep_veil : output.veil.shutdownStep sink.veil writing.veil =
    (output.shutdownStep sink writing).veil := by
  unfold shutdownStep
  rw [handOver_veil]
  cases output.handOver sink writing with
  | done output sink =>
      simp only [WriteStep.veil, Sink.shutdown?_veil]
      cases sink.shutdown? <;> rfl
  | _ => rfl

end Writes

end Output

theorem Frame.length_encode_eq (frame : Frame) {mask other : Option MaskKey}
    (hmasked : mask.isSome = other.isSome) :
    (frame.encode mask).length = (frame.encode other).length := by
  rw [encode_eq_layout, encode_eq_layout]
  cases mask with
  | none => cases other with
    | none => rfl
    | some _ => cases hmasked
  | some _ => cases other with
    | none => cases hmasked
    | some _ => simp [layout, FrameHeader.layout, FrameHeader.tail, FrameHeader.keyOctets]

namespace FrameWriter

def veil (writer : FrameWriter) : FrameWriter :=
  { writer with keys := ⟨0⟩, output := writer.output.veil }

@[simp] theorem veil_veil (writer : FrameWriter) : writer.veil.veil = writer.veil := by
  simp [veil, Output.veil]

theorem octets_start_veil (writer : FrameWriter) (frame : Frame) :
    Bytes.veil (writer.veil.start frame).1 = Bytes.veil (writer.start frame).1 := by
  apply Bytes.veil_eq_of_length
  apply frame.length_encode_eq
  cases hmask : writer.role.mustMask <;> simp [nextKey, veil, hmask]

theorem start_veil (writer : FrameWriter) (frame : Frame) :
    (writer.veil.start frame).2.veil = (writer.start frame).2.veil := by
  cases hmask : writer.role.mustMask <;> simp [start, veil, Output.veil, hmask]

end FrameWriter

/-!
## Connections under a veil
-/

def Transmission.unmasked (transmission : Transmission) : Transmission :=
  { transmission with mask := none }

def Entry.unmasked : Entry -> Entry
  | transmitting transmission => transmitting transmission.unmasked
  | entry => entry

@[simp] theorem Entry.unmasked_transmitting (call : Option Call) (frame : Frame)
    (mask : Option MaskKey) :
    (Entry.transmitting ⟨call, frame, mask⟩).unmasked = .transmitting ⟨call, frame, none⟩ := rfl

@[simp] theorem Entry.unmasked_unmasked (entry : Entry) :
    entry.unmasked.unmasked = entry.unmasked := by
  cases entry <;> rfl

def Attempt.veil (attempt : Attempt) : Attempt :=
  { attempt with writer := attempt.writer.veil }

def Core.veil (core : Core) : Core :=
  { core with writer := core.writer.map FrameWriter.veil }

@[simp] theorem Core.veil_veil (core : Core) : core.veil.veil = core.veil := by
  simp [veil, Function.comp_def]

namespace Holder

def veil : Holder -> Holder
  | requesting attempt writing => requesting attempt.veil writing.veil
  | awaitingAnswer attempt => awaitingAnswer attempt.veil
  | sending frame writing => sending frame writing.veil
  | farewell writing deadline => farewell writing.veil deadline
  | leaving writer writing deadline failure => leaving writer.veil writing.veil deadline failure

@[simp] theorem isCaller_veil (holder : Holder) : holder.veil.isCaller = holder.isCaller := by
  cases holder <;> rfl

end Holder

namespace Connection

/-- The connection with its masking keys and its octets on the way out under a veil. -/
def veil (connection : Connection) : Connection :=
  { connection with
    core := connection.core.veil
    holder := connection.holder.map Holder.veil
    sink := connection.sink.veil
    journal := connection.journal.map Entry.unmasked }

@[simp] theorem veil_veil (connection : Connection) :
    connection.veil.veil = connection.veil := by
  have hholder (holder : Holder) : holder.veil.veil = holder.veil := by
    cases holder <;> simp [Holder.veil, Attempt.veil, Writing.veil]
  simp [veil, Function.comp_def, hholder]

/-!
## Operations
-/

section Operations

variable (connection : Connection)

theorem writer_veil_of_none (hwriter : connection.core.writer = none) :
    connection.veil.core.writer = none :=
  congrArg (Option.map FrameWriter.veil) hwriter

theorem writer_veil_of_some {writer : FrameWriter}
    (hwriter : connection.core.writer = some writer) :
    connection.veil.core.writer = some writer.veil :=
  congrArg (Option.map FrameWriter.veil) hwriter

theorem report_veil (diagnostic : Diagnostic) :
    connection.veil.report diagnostic = (connection.report diagnostic).veil := by
  cases hdebug : connection.config.debug <;> simp [report, log, veil, hdebug, Entry.unmasked]

theorem notify_veil (listener : Option ListenerId) (event : Event) :
    connection.veil.notify listener event = (connection.notify listener event).veil := by
  cases listener <;> rfl

theorem finish_veil (failure : Option Error) :
    connection.veil.finish failure = (connection.finish failure).veil := rfl

theorem finishTeardown_veil (failure : Option Error) :
    connection.veil.finishTeardown failure = (connection.finishTeardown failure).veil := by
  cases hlistener : connection.core.listener <;> cases hdebug : connection.config.debug <;>
    cases failure <;> simp [finishTeardown, veil, Core.veil, report, notify, finish, record, log,
      mapReceiver, hlistener, hdebug, Entry.unmasked]

theorem startTeardown_veil (failure : Option Error) :
    connection.veil.startTeardown failure = (connection.startTeardown failure).veil := by
  cases hwriter : connection.core.writer with
  | some writer =>
      have hwriter' := connection.writer_veil_of_some hwriter
      simp only [startTeardown, hwriter, hwriter']
      rfl
  | none =>
      have hwriter' := connection.writer_veil_of_none hwriter
      simp only [startTeardown, hwriter, hwriter']
      rw [← finishTeardown_veil]
      rfl

theorem failOpening_veil (error : Error) :
    connection.veil.failOpening error = (connection.failOpening error).veil := by
  rw [failOpening, failOpening, ← finish_veil, ← report_veil]
  rfl

theorem finishOpening_veil (attempt : Attempt) (rest : Source) (protocols : List String) :
    connection.veil.finishOpening attempt.veil rest protocols =
      (connection.finishOpening attempt rest protocols).veil := by
  rw [finishOpening, finishOpening, ← finish_veil, ← notify_veil, ← report_veil]
  rfl

theorem requestStep?_veil (attempt : Attempt) (writing : Writing) :
    connection.veil.requestStep? attempt.veil writing.veil =
      (connection.requestStep? attempt writing).map veil := by
  have hstep : attempt.veil.writer.output.step connection.veil.sink writing.veil =
      (attempt.writer.output.step connection.sink writing).veil := Output.step_veil _ _ _
  unfold requestStep?
  rw [hstep]
  cases attempt.writer.output.step connection.sink writing with
  | failed error output sink =>
      simp only [WriteStep.veil, Option.map_some]
      rw [← failOpening_veil]
      rfl
  | _ => rfl

theorem readAnswer?_veil (attempt : Attempt) :
    connection.veil.readAnswer? attempt.veil = (connection.readAnswer? attempt).map veil := by
  have hconfig : connection.veil.config = connection.config := rfl
  have hoffered : connection.veil.offered = connection.offered := rfl
  have hsource : attempt.veil.source = attempt.source := rfl
  have haccept : attempt.veil.expectedAccept = attempt.expectedAccept := rfl
  unfold readAnswer?
  rw [hconfig, hoffered, hsource, haccept]
  split
  case h_3 => rw [Option.map_some, failOpening_veil]
  case h_4 =>
      split
      case h_1 => rw [Option.map_some, failOpening_veil]
      case h_2 => rw [Option.map_some, finishOpening_veil]
  all_goals rfl

theorem setOutput_veil (writer : FrameWriter) (output : Output) (sink : Sink) :
    connection.veil.setOutput writer.veil output.veil sink.veil =
      (connection.setOutput writer output sink).veil := rfl

theorem finishSending_veil (sending : Sending) :
    connection.veil.finishSending sending = (connection.finishSending sending).veil := by
  rw [finishSending, finishSending, ← finish_veil, report_veil]
  rfl

theorem sendingStep?_veil (sending : Sending) (writing : Writing) :
    connection.veil.sendingStep? sending writing.veil =
      (connection.sendingStep? sending writing).map veil := by
  cases hwriter : connection.core.writer with
  | none =>
      have hwriter' := connection.writer_veil_of_none hwriter
      simp only [sendingStep?, hwriter, hwriter', Option.map_none]
  | some writer =>
      have hwriter' := connection.writer_veil_of_some hwriter
      have hstep : writer.veil.output.step connection.veil.sink writing.veil =
          (writer.output.step connection.sink writing).veil := Output.step_veil _ _ _
      simp only [sendingStep?, hwriter, hwriter', hstep]
      cases writer.output.step connection.sink writing with
      | more output sink writing => rfl
      | done output sink =>
          simp only [WriteStep.veil, Option.map_some, setOutput_veil, finishSending_veil]
      | failed error output sink =>
          simp only [WriteStep.veil, Option.map_some, setOutput_veil, report_veil,
            startTeardown_veil]
      | waiting => rfl

theorem farewellStep?_veil (writing : Writing) (deadline : Nat) :
    connection.veil.farewellStep? writing.veil deadline =
      (connection.farewellStep? writing deadline).map veil := by
  cases hwriter : connection.core.writer with
  | none =>
      have hwriter' := connection.writer_veil_of_none hwriter
      simp only [farewellStep?, hwriter, hwriter', Option.map_none]
  | some writer =>
      have hwriter' := connection.writer_veil_of_some hwriter
      have hstep : writer.veil.output.step connection.veil.sink writing.veil =
          (writer.output.step connection.sink writing).veil := Output.step_veil _ _ _
      have hclock : connection.veil.clock = connection.clock := rfl
      simp only [farewellStep?, hwriter, hwriter', hstep, hclock]
      cases writer.output.step connection.sink writing with
      | more output sink writing => rfl
      | done output sink =>
          simp only [WriteStep.veil, Option.map_some, setOutput_veil, startTeardown_veil]
      | failed error output sink =>
          simp only [WriteStep.veil, Option.map_some, setOutput_veil, report_veil,
            startTeardown_veil]
      | waiting =>
          simp only [WriteStep.veil, report_veil, startTeardown_veil]
          split <;> rfl

theorem leavingStep?_veil (writer : FrameWriter) (writing : Writing) (deadline : Nat)
    (failure : Option Error) :
    connection.veil.leavingStep? writer.veil writing.veil deadline failure =
      (connection.leavingStep? writer writing deadline failure).map veil := by
  have hstep : writer.veil.output.shutdownStep connection.veil.sink writing.veil =
      (writer.output.shutdownStep connection.sink writing).veil := Output.shutdownStep_veil _ _ _
  have hclock : connection.veil.clock = connection.clock := rfl
  simp only [leavingStep?, hstep, hclock]
  cases writer.output.shutdownStep connection.sink writing with
  | more output sink writing => rfl
  | waiting =>
      simp only [WriteStep.veil, finishTeardown_veil]
      split <;> rfl
  | _ =>
      simp only [WriteStep.veil, Option.map_some, ← finishTeardown_veil]
      rfl

theorem holderStep?_veil (holder : Holder) :
    connection.veil.holderStep? holder.veil = (connection.holderStep? holder).map veil := by
  cases holder with
  | requesting attempt writing => exact requestStep?_veil connection attempt writing
  | awaitingAnswer attempt => exact readAnswer?_veil connection attempt
  | sending frame writing => exact sendingStep?_veil connection frame writing
  | farewell writing deadline => exact farewellStep?_veil connection writing deadline
  | leaving writer writing deadline failure =>
      exact leavingStep?_veil connection writer writing deadline failure

theorem setPhase_veil (phase : ReceiverPhase) :
    connection.veil.setPhase phase = (connection.setPhase phase).veil := rfl

/-- The close frame of the receiver is masked, so its octets differ. -/
theorem startFarewell_veil (payload : Bytes) :
    (connection.veil.startFarewell payload).veil = (connection.startFarewell payload).veil := by
  cases hwriter : connection.core.writer with
  | none =>
      have hwriter' := connection.writer_veil_of_none hwriter
      simp only [startFarewell, hwriter, hwriter', startTeardown_veil, veil_veil]
  | some writer =>
      have hoctets := writer.octets_start_veil ⟨true, .close, payload⟩
      have hstart := writer.start_veil ⟨true, .close, payload⟩
      simp [startFarewell, hwriter, veil, Core.veil, Holder.veil, Writing.veil, record, log,
        hoctets, hstart]

theorem exit_veil (outcome : Outcome) :
    (connection.veil.exit outcome).veil = (connection.exit outcome).veil := by
  have hstate : connection.veil.core.state = connection.core.state := rfl
  unfold exit
  simp only [hstate, setPhase_veil, report_veil]
  split
  case isTrue => exact veil_veil _
  case isFalse =>
      cases outcome with
      | stopped => exact veil_veil _
      | closeReceived frame answers =>
          cases answers with
          | true => simp only [startTeardown_veil, veil_veil]
          | false =>
              let closing := (connection.setPhase .closing).report (.closedByServer frame)
              exact startFarewell_veil
                { closing with core := { closing.core with state := .closingRemote } }
                (answerPayload frame)
      | endOfStream => simp only [startTeardown_veil, veil_veil]
      | failed error =>
          simp only [apply_ite veil, startFarewell_veil, startTeardown_veil, veil_veil]
          rfl

theorem emit_veil (listener : Option ListenerId) (signals : List Signal) :
    signals.foldl (fun connection signal => connection.emit listener signal) connection.veil =
      (signals.foldl (fun connection signal => connection.emit listener signal)
        connection).veil := by
  induction signals generalizing connection with
  | nil => rfl
  | cons signal rest ih =>
      rw [List.foldl_cons, List.foldl_cons, ← ih]
      cases signal with
      | diagnostic diagnostic => rw [emit, report_veil]; rfl
      | event event => rw [emit, notify_veil]; rfl

theorem receiverStep?_veil (receiver : Receiver) :
    (connection.veil.receiverStep? receiver).map veil =
      (connection.receiverStep? receiver).map veil := by
  have hfree : connection.veil.isFree = connection.isFree := Option.isNone_map
  have hconfig : connection.veil.config = connection.config := rfl
  unfold receiverStep?
  rw [hfree, hconfig]
  split
  case h_1 outcome _ =>
      split
      · rw [Option.map_some, Option.map_some, exit_veil]
      · split
        · simp only [Option.map_some, setPhase_veil, veil_veil]
        · rfl
  case h_2 listener _ => simp only [Option.map_some, notify_veil, setPhase_veil, veil_veil]
  case h_3 =>
      rw [Option.map_map, Option.map_map]
      congr 1
      funext ⟨after, signals⟩
      have hemit := emit_veil { connection with receiver := some after } after.listener signals
      exact (congrArg veil hemit).trans (veil_veil _)

theorem startClosing_veil (code : CloseCode) (reason : String) :
    connection.veil.startClosing code reason = (connection.startClosing code reason).veil := by
  have hcontrol : connection.veil.core.holdsControl = connection.core.holdsControl := rfl
  unfold startClosing
  rw [hcontrol, ← report_veil]
  cases connection.core.holdsControl <;> rfl

theorem startSending_veil (call : Call) (frame : Frame) (after : Bool) :
    (connection.veil.startSending call frame after).veil =
      (connection.startSending call frame after).veil := by
  cases hwriter : connection.core.writer with
  | none =>
      have hwriter' := connection.writer_veil_of_none hwriter
      simp only [startSending, hwriter, hwriter', finish_veil, veil_veil]
  | some writer =>
      have hoctets := writer.octets_start_veil frame
      have hstart := writer.start_veil frame
      simp [startSending, hwriter, veil, Core.veil, Holder.veil, Writing.veil, record, log,
        hoctets, hstart]

theorem startCall_veil (call : Call) (payload : Bytes) :
    (connection.veil.startCall call payload).veil = (connection.startCall call payload).veil := by
  have hstate : connection.veil.core.state = connection.core.state := rfl
  have hstreaming : connection.veil.core.streaming = connection.core.streaming := rfl
  unfold startCall
  rw [hstate, hstreaming]
  split
  · split
    · rw [finish_veil, veil_veil]
    · split
      · rw [startClosing_veil]
        exact startSending_veil _ _ _ _
      · exact startSending_veil _ _ _ _
  · rw [finish_veil, veil_veil]

end Operations

/-!
## Moves
-/

end Connection

def Move.withKeys (keys : MaskKeys) : Move -> Move
  | connect opening dial => connect { opening with keys := keys } dial
  | move => move

namespace Connection

section Moves

variable (connection : Connection) {other : Connection} (keys : MaskKeys)

theorem startOpening_veil (opening : Opening) (dial : Dial) :
    (connection.veil.startOpening { opening with keys := keys } dial).veil =
      (connection.startOpening opening dial).veil := by
  have hstate : connection.veil.core.state = connection.core.state := rfl
  have hprepare : connection.veil.prepare { opening with keys := keys } =
      connection.prepare opening := rfl
  have hconfig : connection.veil.config = connection.config := rfl
  unfold startOpening
  rw [hstate, hprepare]
  split
  case h_1 => rw [finish_veil, veil_veil]
  case h_2 =>
      split
      case h_1 => rw [finish_veil, veil_veil]
      case h_2 endpoint pair request _ =>
          let started : Connection :=
            { connection with core := { connection.core with state := .connecting } }
          have hstarted : { connection.veil with
              core := { connection.veil.core with state := .connecting } } = started.veil := rfl
          have hstream : { opening with keys := keys }.streamTo dial endpoint =
              opening.streamTo dial endpoint := rfl
          simp only [hstarted, report_veil, hstream]
          cases opening.streamTo dial endpoint with
          | error error => exact (congrArg veil (failOpening_veil _ _)).trans (veil_veil _)
          | ok stream => simp [veil, Holder.veil, Attempt.veil, FrameWriter.veil, record, log,
              report, started, Function.comp_def]

theorem bind_holderStep?_veil : connection.veil.holder.bind connection.veil.holderStep? =
    (connection.holder.bind connection.holderStep?).map veil := by
  have hholder' : connection.veil.holder = connection.holder.map Holder.veil := rfl
  rw [hholder']
  cases connection.holder with
  | none => rfl
  | some holder => exact connection.holderStep?_veil holder

theorem bind_receiverStep?_veil :
    (connection.veil.receiver.bind connection.veil.receiverStep?).map veil =
      (connection.receiver.bind connection.receiverStep?).map veil := by
  have hreceiver : connection.veil.receiver = connection.receiver := rfl
  rw [hreceiver]
  cases connection.receiver with
  | none => rfl
  | some receiver => exact connection.receiverStep?_veil receiver

/-- Every move does the same whatever the keys are, but for the octets on the way out. -/
theorem move_veil (next : Move) :
    (connection.veil.move (next.withKeys keys)).veil = (connection.move next).veil := by
  have hfree : connection.veil.isFree = connection.isFree := Option.isNone_map
  have howned : connection.veil.isOwned = connection.isOwned := by
    cases hholder : connection.holder <;> simp [isOwned, veil, hholder]
  cases next with
  | connect opening dial =>
      simp only [Move.withKeys, move, hfree]
      split
      · exact startOpening_veil connection keys opening.afresh dial.afresh
      · exact veil_veil _
  | call call =>
      simp only [Move.withKeys, move, hfree]
      split
      case h_1 => rw [finish_veil, veil_veil]
      case h_2 =>
          split
          · exact startCall_veil _ _ _
          · exact veil_veil _
  | hold =>
      simp only [Move.withKeys, move]
      rw [bind_holderStep?_veil, Option.getD_map, veil_veil]
  | receive =>
      simp only [Move.withKeys, move]
      rw [← Option.getD_map veil, ← Option.getD_map veil, bind_receiverStep?_veil, veil_veil]
  | supply chunks ending =>
      have hholder (holder : Holder) :
          holder.veil.arrive chunks ending = (holder.arrive chunks ending).veil := by
        cases holder <;> rfl
      have hsupply : connection.veil.supply chunks ending =
          (connection.supply chunks ending).veil := by
        simp [supply, veil, Function.comp_def, hholder]
      exact (congrArg veil hsupply).trans (veil_veil _)
  | pass milliseconds => exact veil_veil (connection.pass milliseconds)
  | treatWrites policy flush => exact veil_veil (connection.treatWrites policy flush)
  | setListener listener =>
      simp only [Move.withKeys, move, howned]
      split
      · exact veil_veil (connection.setListener listener)
      · exact veil_veil _
  | giveUp =>
      have hgiveUp : connection.veil.giveUp = connection.giveUp.veil := by
        have hfree' : ({ connection.veil with isDropped := true } : Connection).isFree =
            ({ connection with isDropped := true } : Connection).isFree := hfree
        simp only [giveUp, hfree']
        split <;> rfl
      simp only [Move.withKeys, move, howned, hgiveUp]
      split <;> exact veil_veil _

theorem play_veil {connection : Connection} (hsame : other.veil = connection.veil) (moves : List Move) :
    (other.play (moves.map fun next => next.withKeys keys)).veil =
      (connection.play moves).veil := by
  induction moves generalizing connection other with
  | nil => exact hsame
  | cons next rest ih =>
      apply ih
      have hother := other.move_veil keys (next.withKeys keys)
      have hkeys : (next.withKeys keys).withKeys keys = next.withKeys keys := by
        cases next <;> rfl
      rw [hkeys, hsame, connection.move_veil] at hother
      exact hother.symm

theorem step?_veil : connection.veil.step?.map veil = connection.step?.map veil := by
  unfold step?
  rw [bind_holderStep?_veil]
  cases connection.holder.bind connection.holderStep? with
  | none => exact connection.bind_receiverStep?_veil
  | some next => exact congrArg some (veil_veil next)

theorem rest_of_veil {connection : Connection} (hsame : other.veil = connection.veil)
    (hrest : other.step? = none) : connection.step? = none := by
  have hother := other.step?_veil
  rwa [hsame, connection.step?_veil, hrest, Option.map_none, Option.map_eq_none_iff] at hother

theorem callbacks_veil : connection.veil.callbacks = connection.callbacks := by
  show Journal.callbacks (connection.journal.map Entry.unmasked) =
    Journal.callbacks connection.journal
  induction connection.journal with
  | nil => rfl
  | cons entry older ih =>
      cases entry with
      | callback listener event =>
          simp only [List.map_cons, Entry.unmasked, Journal.callbacks, ih]
      | _ => exact ih

theorem transmissions_veil :
    connection.veil.transmissions = connection.transmissions.map Transmission.unmasked := by
  show Journal.transmissions (connection.journal.map Entry.unmasked) =
    (Journal.transmissions connection.journal).map Transmission.unmasked
  induction connection.journal with
  | nil => rfl
  | cons entry older ih =>
      cases entry with
      | transmitting transmission =>
          simp only [List.map_cons, Entry.unmasked, Journal.transmissions, ih, List.map_append,
            List.map_nil]
      | _ => exact ih

end Moves

end Connection

end WebSocketClient
