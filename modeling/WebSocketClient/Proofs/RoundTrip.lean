import WebSocketClient.Frame.Writing
import WebSocketClient.Proofs.Framing
import WebSocketClient.Proofs.Output

/-!
# Frames there and back

A write that succeeds has put all its octets on the stream and leaves the buffer
empty, and it succeeds on every stream that takes octets and can be flushed.  So
what frames are written as, one after another, is a row of frames, and the other
end reads these frames from it, wherever the stream cuts it into chunks.
-/

namespace WebSocketClient

/-!
## Streams that take octets
-/

namespace WritePolicy

def isWilling : WritePolicy -> Bool
  | ready => true
  | portions n => 0 < n
  | failingAfter _ _ | failing _ | stalled => false

theorem answer_of_isWilling {policy : WritePolicy} {offered : Bytes}
    (hwilling : policy.isWilling = true) (hoffered : offered ≠ []) :
    exists octet front, policy.answer offered = (.taken (octet :: front), policy) := by
  rcases List.exists_cons_of_ne_nil hoffered with ⟨octet, rest, rfl⟩
  cases policy with
  | ready => exact ⟨octet, rest, rfl⟩
  | portions n =>
      cases n with
      | zero => cases hwilling
      | succ n => exact ⟨octet, rest.take n, rfl⟩
  | failingAfter n reason => cases hwilling
  | failing reason => cases hwilling
  | stalled => cases hwilling

end WritePolicy

namespace Sink

/-- Writes and flushes succeed. -/
structure IsWilling (sink : Sink) : Prop where
  takes : sink.policy.isWilling = true
  flushes : sink.flush = .flushed

theorem write_of_isWilling {sink : Sink} {octets : Bytes} (hwilling : sink.IsWilling)
    (hoctets : octets ≠ []) : exists octet front after,
      sink.write octets = (.taken (octet :: front), after) ∧ after.IsWilling := by
  rcases WritePolicy.answer_of_isWilling hwilling.takes hoctets with ⟨octet, front, hanswer⟩
  unfold write
  rw [hanswer]
  exact ⟨octet, front, _, rfl, hwilling.takes, hwilling.flushes⟩

end Sink

/-!
## Whole writes
-/

namespace Output

variable {output output' : Output} {sink sink' : Sink} {writing writing' : Writing}

/-- A step that is not the last one leaves less to do. -/
theorem work_of_handOver_more
    (hstep : output.handOver sink writing = .more output' sink' writing') :
    output'.work writing' < output.work writing := by
  unfold handOver at hstep
  split at hstep
  case isTrue hdrains =>
      rcases drain_more hstep with ⟨hcontent, hrest, rfl, htaken⟩
      have hlength := congrArg List.length hcontent
      rw [Sink.content_write, List.append_assoc, List.length_append, List.length_append,
        List.length_append] at hlength
      have hpos := List.length_pos_iff.mpr htaken
      simp only [work, hrest]
      omega
  case isFalse hdrains =>
      split at hstep
      case isTrue => cases hstep
      case isFalse hempty =>
          split at hstep
          case isTrue hfills =>
              rcases bypass_more hstep with ⟨hcontent, rfl, rfl, htaken⟩
              have hlength := congrArg List.length hcontent
              rw [Sink.content_write, List.append_assoc, List.length_append, List.length_append,
                List.length_append] at hlength
              have hpos := List.length_pos_iff.mpr htaken
              simp only [work]
              omega
          case isFalse hfills =>
              cases hstep
              have hrest : writing.rest ≠ [] := by simpa using hempty
              have hpos := List.length_pos_iff.mpr hrest
              simp only [work, List.length_append, List.length_nil]
              omega

theorem drain_of_isWilling (hwilling : sink.IsWilling) (hbuffer : output.buffer ≠ []) :
    exists output' sink' writing',
      output.drain sink writing = .more output' sink' writing' ∧ sink'.IsWilling := by
  rcases Sink.write_of_isWilling hwilling hbuffer with ⟨octet, front, after, hwrite, hafter⟩
  unfold drain
  rw [hwrite]
  exact ⟨_, _, _, rfl, hafter⟩

theorem bypass_of_isWilling (hwilling : sink.IsWilling) (hrest : writing.rest ≠ []) :
    exists output' sink' writing',
      output.bypass sink writing = .more output' sink' writing' ∧ sink'.IsWilling := by
  rcases Sink.write_of_isWilling hwilling hrest with ⟨octet, front, after, hwrite, hafter⟩
  unfold bypass
  rw [hwrite]
  exact ⟨_, _, _, rfl, hafter⟩

theorem handOver_of_isWilling (hwilling : sink.IsWilling) (output : Output) (writing : Writing) :
    (exists output' sink' writing',
      output.handOver sink writing = .more output' sink' writing' ∧ sink'.IsWilling) ∨
      output.handOver sink writing = .done output sink := by
  unfold handOver
  split
  case isTrue hdrains =>
      refine Or.inl (drain_of_isWilling hwilling ?_)
      intro hnil
      simp [hnil] at hdrains
  case isFalse =>
      split
      case isTrue => exact Or.inr rfl
      case isFalse hempty =>
          have hrest : writing.rest ≠ [] := by simpa using hempty
          left
          split
          case isTrue => exact bypass_of_isWilling hwilling hrest
          case isFalse => exact ⟨_, _, _, rfl, hwilling⟩

theorem step_of_isWilling (hwilling : sink.IsWilling) (output : Output) (writing : Writing) :
    (exists output' sink' writing',
      output.step sink writing = .more output' sink' writing' ∧ sink'.IsWilling) ∨
      output.step sink writing = .done output sink := by
  rcases handOver_of_isWilling hwilling output writing with
    ⟨output', sink', writing', hmore, hafter⟩ | hdone
  · exact Or.inl ⟨output', sink', writing', step_eq_more.mpr hmore, hafter⟩
  · right
    rw [step, hdone]
    simp only [flushStep, hwilling.flushes]

theorem runFor_of_isWilling (fuel : Nat) (hfuel : output.work writing <= fuel)
    (hwilling : sink.IsWilling) :
    (runFor step fuel output sink writing).outcome = some (.ok ()) ∧
      (runFor step fuel output sink writing).sink.IsWilling := by
  induction fuel generalizing output sink writing with
  | zero => cases hfuel
  | succ fuel ih =>
      rw [runFor]
      rcases step_of_isWilling hwilling output writing with hmore | hdone
      · rcases hmore with ⟨output', sink', writing', hstep, hafter⟩
        have hless := work_of_handOver_more (step_eq_more.mp hstep)
        simp only [hstep]
        exact ih (by omega) hafter
      · rw [hdone]
        exact And.intro rfl hwilling

/-- A write that has succeeded has sent everything. -/
theorem content_of_runFor (fuel : Nat)
    (houtcome : (runFor step fuel output sink writing).outcome = some (.ok ())) :
    (runFor step fuel output sink writing).sink.content = sink.content ++ output.unsent writing ∧
      (runFor step fuel output sink writing).output.buffer = [] := by
  induction fuel generalizing output sink writing with
  | zero => cases houtcome
  | succ fuel ih =>
      rw [runFor] at houtcome ⊢
      cases hstep : output.step sink writing with
      | more output' sink' writing' =>
          simp only [hstep] at houtcome ⊢
          rw [← (step_more hstep).left]
          exact ih houtcome
      | done output' sink' =>
          rcases step_done hstep with ⟨rfl, rfl, hunsent⟩
          simp only [hunsent, List.append_nil, true_and]
          exact (List.append_eq_nil_iff.mp hunsent).left
      | failed error output' sink' =>
          simp only [hstep] at houtcome
          cases houtcome
      | waiting =>
          simp only [hstep] at houtcome
          cases houtcome

end Output

/-!
## Frames one after another
-/

namespace FrameWriter

variable {writer after : FrameWriter} {sink sink' : Sink} {frame : Frame} {frames : List Frame}

def writeAll? (writer : FrameWriter) (sink : Sink) : List Frame -> Option (FrameWriter × Sink)
  | [] => some (writer, sink)
  | frame :: frames =>
      let (progress, writer) := writer.write sink frame
      match progress.outcome with
      | some (.ok ()) => writer.writeAll? progress.sink frames
      | _ => none

theorem isSome_nextKey (writer : FrameWriter) : writer.nextKey.isSome = writer.role.mustMask := by
  unfold nextKey
  cases writer.role.mustMask <;> rfl

theorem role_write (writer : FrameWriter) (sink : Sink) (frame : Frame) :
    (writer.write sink frame).2.role = writer.role := by
  simp only [write, start]
  split <;> rfl

theorem progress_write (writer : FrameWriter) (sink : Sink) (frame : Frame) :
    (writer.write sink frame).1 = writer.output.write sink (frame.encode writer.nextKey) := by
  simp only [write, start]
  split <;> rfl

theorem output_write (writer : FrameWriter) (sink : Sink) (frame : Frame) :
    (writer.write sink frame).2.output = (writer.write sink frame).1.output := rfl

theorem content_of_write (hbuffer : writer.output.buffer = [])
    (houtcome : (writer.write sink frame).1.outcome = some (.ok ())) :
    (writer.write sink frame).1.sink.content = sink.content ++ frame.encode writer.nextKey ∧
      (writer.write sink frame).2.output.buffer = [] := by
  rw [output_write]
  rw [progress_write] at houtcome ⊢
  have hcontent := Output.content_of_runFor _ houtcome
  rw [Output.unsent, hbuffer, List.nil_append] at hcontent
  exact hcontent

theorem writeAll?_of_isWilling (hwilling : sink.IsWilling) (frames : List Frame) :
    exists after sink', writer.writeAll? sink frames = some (after, sink') := by
  induction frames generalizing writer sink with
  | nil => exact ⟨writer, sink, rfl⟩
  | cons frame frames ih =>
      have hwrite : (writer.write sink frame).1.outcome = some (.ok ()) ∧
          (writer.write sink frame).1.sink.IsWilling := by
        rw [progress_write]
        exact Output.runFor_of_isWilling _ (Nat.le_refl _) hwilling
      unfold writeAll?
      -- A willing stream stays willing, so the next write finds it so.
      simp only [hwrite.left]
      exact ih hwrite.right

theorem stream_of_writeAll (hbuffer : writer.output.buffer = [])
    (hlength : forall frame, frame ∈ frames -> frame.payload.length < 2 ^ 64)
    (hwrite : writer.writeAll? sink frames = some (after, sink')) :
    exists octets, Frame.Stream writer.role.mustMask frames octets ∧
      sink'.content = sink.content ++ octets := by
  induction frames generalizing writer sink with
  | nil =>
      cases hwrite
      exact ⟨[], .nil, (List.append_nil _).symm⟩
  | cons frame frames ih =>
      unfold writeAll? at hwrite
      simp only at hwrite
      split at hwrite
      case h_1 houtcome =>
          rcases content_of_write hbuffer houtcome with ⟨hcontent, hempty⟩
          rcases ih hempty (fun _ hlater => hlength _ (List.mem_cons_of_mem _ hlater)) hwrite with
            ⟨behind, hstream, hsink⟩
          rw [role_write] at hstream
          have hlaid := Frame.laidOut_encode (hlength _ List.mem_cons_self) writer.nextKey
          refine ⟨_, .cons hlaid writer.isSome_nextKey hstream, ?_⟩
          rw [hsink, hcontent, List.append_assoc]
      case h_2 => cases hwrite

/-- Frames that keep the rules are written by one end, on every stream that takes
octets and can be flushed, and read by the other end as they were, however the stream
cuts their octets into chunks. -/
theorem readAll_of_writeAll {limits : Limits} {frames : List Frame}
    (hkeeps : forall frame, frame ∈ frames -> frame.Keeps limits) (role : Role) (keys : MaskKeys)
    (capacity : Nat) (policy : WritePolicy) (flush : FlushAnswer) :
    (policy.isWilling = true -> flush = .flushed -> exists after sink,
        writeAll? ⟨role, keys, .ofCapacity capacity⟩ { policy := policy, flush := flush } frames =
          some (after, sink)) ∧
      forall after sink,
        writeAll? ⟨role, keys, .ofCapacity capacity⟩ { policy := policy, flush := flush } frames =
          some (after, sink) ->
        forall chunks : List Bytes, chunks.flatten = sink.content ->
          exists rest, Frame.readAll role.peer limits ⟨chunks, some .endOfStream⟩ =
            (frames, .ended rest) := by
  refine And.intro (fun htakes hflush => writeAll?_of_isWilling ⟨htakes, hflush⟩ frames) ?_
  intro after sink hwrite chunks hchunks
  have hlength : forall frame, frame ∈ frames -> frame.payload.length < 2 ^ 64 := by
    intro frame hframe
    exact Nat.lt_trans (hkeeps frame hframe).small (by decide)
  rcases stream_of_writeAll rfl hlength hwrite with ⟨octets, hstream, hcontent⟩
  have hmasks : role.mustMask = role.peer.expectsMasked := by cases role <;> rfl
  exact Frame.readAll_of_stream (hmasks ▸ hstream) hkeeps (hchunks.trans hcontent) rfl

/-- A message in two frames with a ping between them, masked and written through a
small buffer in portions of three octets. -/
theorem readAll_of_writeAll_in_portions :
    let frames : List Frame :=
      [⟨false, .text, [0x68, 0xC3]⟩, ⟨true, .ping, []⟩, ⟨true, .continuation, [0xA9]⟩]
    exists after sink,
      writeAll? ⟨.client, ⟨7⟩, .ofCapacity 4⟩ { policy := .portions 3 } frames =
        some (after, sink) ∧
      forall chunks : List Bytes, chunks.flatten = sink.content ->
        exists rest, Frame.readAll .server {} ⟨chunks, some .endOfStream⟩ =
          (frames, .ended rest) := by
  intro frames
  have hkeeps : forall frame, frame ∈ frames -> frame.Keeps {} := by decide +kernel
  rcases readAll_of_writeAll hkeeps .client ⟨7⟩ 4 (.portions 3) .flushed with ⟨hwilling, hread⟩
  rcases hwilling rfl rfl with ⟨after, sink, hwrite⟩
  exact ⟨after, sink, hwrite, hread after sink hwrite⟩

end FrameWriter

end WebSocketClient
