import WebSocketClient.Stream.Output

/-!
# Conservation of octets

A write moves octets from its rest to the buffer and from there to the stream.
No step of it loses an octet, repeats one or changes their order: what the
stream has, followed by what is still unsent, stays the same.  A write fails at
octets that it has not sent, of which a stream that refuses takes none, or when
everything is sent and the stream cannot be flushed.
-/

namespace WebSocketClient

/-!
## Streams that refuse
-/

namespace WritePolicy

def refuses : WritePolicy -> Bool
  | ready | stalled => false
  | portions n => n = 0
  | failingAfter n _ => n = 0
  | failing _ => true

/-- Only a refusal takes nothing of octets that are offered. -/
theorem answer_of_octets_eq_nil {policy : WritePolicy} {offered : Bytes}
    (hoffered : offered ≠ [])
    (hwait : (policy.answer offered).1 ≠ .waiting)
    (htaken : (policy.answer offered).1.octets = []) :
    policy.refuses = true ∧ (policy.answer offered).2 = policy := by
  cases policy with
  | ready => exact absurd htaken hoffered
  | portions n =>
      have hn : n = 0 := by
        simpa [answer, WriteAnswer.octets, hoffered] using htaken
      exact And.intro (by simp [refuses, hn]) rfl
  | failingAfter n reason =>
      by_cases hn : n = 0
      · simp [answer, refuses, hn]
      · simp [answer, WriteAnswer.octets, hn, hoffered] at htaken
  | failing reason => exact And.intro rfl rfl
  | stalled => exact absurd rfl hwait

theorem octets_answer_of_refuses {policy : WritePolicy} (offered : Bytes)
    (hrefuses : policy.refuses = true) :
    (policy.answer offered).1.octets = [] := by
  cases policy with
  | ready => cases hrefuses
  | portions n =>
      have hn : n = 0 := by simpa [refuses] using hrefuses
      simp [answer, WriteAnswer.octets, hn]
  | failingAfter n reason =>
      have hn : n = 0 := by simpa [refuses] using hrefuses
      simp [answer, WriteAnswer.octets, hn]
  | failing reason => rfl
  | stalled => cases hrefuses

theorem eq_stalled {policy : WritePolicy} {offered : Bytes}
    (hanswer : (policy.answer offered).1 = .waiting) : policy = .stalled := by
  cases policy with
  | stalled => rfl
  | failingAfter n reason =>
      simp only [answer] at hanswer
      split at hanswer <;> cases hanswer
  | _ => cases hanswer

end WritePolicy

namespace Sink

def hasRefused (sink : Sink) : Bool :=
  sink.sent.contains []

/-- A stream that has refused a write goes on refusing, and it can be flushed. -/
def isSteady (sink : Sink) : Bool :=
  (!sink.hasRefused || sink.policy.refuses) && sink.flush = .flushed

def isStalled (sink : Sink) : Bool :=
  sink.policy = .stalled || sink.flush = .waiting

theorem refuses_of_isSteady {sink : Sink} (hsteady : sink.isSteady = true)
    (hrefused : sink.hasRefused = true) : sink.policy.refuses = true := by
  simpa [isSteady, hrefused] using (Bool.and_eq_true_iff.mp hsteady).left

theorem flush_of_isSteady {sink : Sink} (hsteady : sink.isSteady = true) :
    sink.flush = .flushed :=
  of_decide_eq_true (Bool.and_eq_true_iff.mp hsteady).right

theorem content_write_of_octets_eq_nil {sink : Sink} {octets : Bytes}
    (htaken : (sink.write octets).1.octets = []) :
    (sink.write octets).2.content = sink.content := by
  rw [content_write, htaken, List.append_nil]

theorem octets_write (sink : Sink) (octets : Bytes) :
    (sink.write octets).1.octets <+: octets :=
  sink.policy.octets_answer octets

@[simp] theorem shutDown_write (sink : Sink) (octets : Bytes) :
    (sink.write octets).2.shutDown = sink.shutDown := rfl

theorem hasRefused_write_of_octets_eq_nil {sink : Sink} {octets : Bytes}
    (htaken : (sink.write octets).1.octets = []) :
    (sink.write octets).2.hasRefused = true := by
  change (sink.policy.answer octets).1.octets = [] at htaken
  simp [write, hasRefused, htaken]

theorem refuses_write_of_octets_eq_nil {sink : Sink} {octets : Bytes}
    (hoctets : octets ≠ [])
    (hwait : (sink.write octets).1 ≠ .waiting)
    (htaken : (sink.write octets).1.octets = []) :
    (sink.write octets).2.policy.refuses = true := by
  have hpolicy := WritePolicy.answer_of_octets_eq_nil hoctets hwait htaken
  show (sink.policy.answer octets).2.refuses = true
  rw [hpolicy.right]
  exact hpolicy.left

theorem policy_of_write_waiting {sink after : Sink} {octets : Bytes}
    (hwrite : sink.write octets = (.waiting, after)) : sink.policy = .stalled :=
  WritePolicy.eq_stalled (congrArg Prod.fst hwrite)

@[simp] theorem content_shutdown? {sink after : Sink}
    (hshut : sink.shutdown? = some after) :
    after.content = sink.content := by
  unfold shutdown? at hshut
  split at hshut
  · cases hshut
  · cases hshut
    rfl

end Sink

namespace Output

/-- The octets of a write that have not reached the stream: those in the buffer,
then those not yet in it. -/
def unsent (output : Output) (writing : Writing) : Bytes :=
  output.buffer ++ writing.rest

/-!
## One access to the stream

Emptying the buffer and writing past it offer other octets, but come to the same:
the stream takes a front of them, or the write fails with nothing taken.
-/

theorem drain_more {output output' : Output} {sink sink' : Sink} {writing writing' : Writing}
    (hdrain : output.drain sink writing = .more output' sink' writing') :
    sink'.content ++ output'.buffer = sink.content ++ output.buffer ∧
      writing'.rest = writing.rest ∧
      sink' = (sink.write output.buffer).2 ∧
      (sink.write output.buffer).1.octets ≠ [] := by
  have hinit := sink.octets_write output.buffer
  have hcontent := sink.content_write output.buffer
  unfold drain at hdrain
  generalize hwrite : sink.write output.buffer = answer at hdrain hinit hcontent
  rcases answer with ⟨answer, after⟩
  cases answer with
  | taken front =>
      cases front with
      | nil => cases hdrain
      | cons octet rest =>
          cases hdrain
          rcases hinit with ⟨tail, htail⟩
          refine ⟨?_, rfl, rfl, List.cons_ne_nil octet rest⟩
          rw [hcontent, ← htail]
          simp [WriteAnswer.octets]
  | failed reason => cases hdrain
  | waiting => cases hdrain

theorem bypass_more {output output' : Output} {sink sink' : Sink} {writing writing' : Writing}
    (hbypass : output.bypass sink writing = .more output' sink' writing') :
    sink'.content ++ writing'.rest = sink.content ++ writing.rest ∧
      output' = output ∧
      sink' = (sink.write writing.rest).2 ∧
      (sink.write writing.rest).1.octets ≠ [] := by
  have hinit := sink.octets_write writing.rest
  have hcontent := sink.content_write writing.rest
  unfold bypass at hbypass
  generalize hwrite : sink.write writing.rest = answer at hbypass hinit hcontent
  rcases answer with ⟨answer, after⟩
  cases answer with
  | taken front =>
      cases front with
      | nil => cases hbypass
      | cons octet rest =>
          cases hbypass
          rcases hinit with ⟨tail, htail⟩
          refine ⟨?_, rfl, rfl, List.cons_ne_nil octet rest⟩
          rw [hcontent, ← htail]
          simp [WriteAnswer.octets]
  | failed reason => cases hbypass
  | waiting => cases hbypass

/-- What a failure leaves behind: nothing was taken, and nothing will be. -/
structure Refusal (sink sink' : Sink) : Prop where
  content_eq : sink'.content = sink.content
  hasRefused : sink'.hasRefused = true
  refuses : sink'.policy.refuses = true

theorem refusal_of_write (sink : Sink) {octets : Bytes} (hoctets : octets ≠ [])
    (hwait : (sink.write octets).1 ≠ .waiting)
    (htaken : (sink.write octets).1.octets = []) :
    Refusal sink (sink.write octets).2 where
  content_eq := Sink.content_write_of_octets_eq_nil htaken
  hasRefused := Sink.hasRefused_write_of_octets_eq_nil htaken
  refuses := Sink.refuses_write_of_octets_eq_nil hoctets hwait htaken

theorem drain_failed {output output' : Output} {sink sink' : Sink} {writing : Writing}
    {error : Error} (hbuffer : output.buffer ≠ [])
    (hdrain : output.drain sink writing = .failed error output' sink') :
    output' = output ∧ Refusal sink sink' := by
  have hrefusal := refusal_of_write sink hbuffer
  unfold drain at hdrain
  generalize hwrite : sink.write output.buffer = answer at hdrain hrefusal
  rcases answer with ⟨answer, after⟩
  cases answer with
  | taken front =>
      cases front with
      | nil =>
          cases hdrain
          exact And.intro rfl (hrefusal (by simp) rfl)
      | cons octet rest => cases hdrain
  | failed reason =>
      cases hdrain
      exact And.intro rfl (hrefusal (by simp) rfl)
  | waiting => cases hdrain

theorem bypass_failed {output output' : Output} {sink sink' : Sink} {writing : Writing}
    {error : Error} (hrest : writing.rest ≠ [])
    (hbypass : output.bypass sink writing = .failed error output' sink') :
    output' = output ∧ Refusal sink sink' := by
  have hrefusal := refusal_of_write sink hrest
  unfold bypass at hbypass
  generalize hwrite : sink.write writing.rest = answer at hbypass hrefusal
  rcases answer with ⟨answer, after⟩
  cases answer with
  | taken front =>
      cases front with
      | nil =>
          cases hbypass
          exact And.intro rfl (hrefusal (by simp) rfl)
      | cons octet rest => cases hbypass
  | failed reason =>
      cases hbypass
      exact And.intro rfl (hrefusal (by simp) rfl)
  | waiting => cases hbypass

theorem drain_ne_done {output output' : Output} {sink sink' : Sink} {writing : Writing} :
    output.drain sink writing ≠ .done output' sink' := by
  unfold drain
  split <;> simp

theorem bypass_ne_done {output output' : Output} {sink sink' : Sink} {writing : Writing} :
    output.bypass sink writing ≠ .done output' sink' := by
  unfold bypass
  split <;> simp

/-!
## One step of handing over
-/

/-- Octets go past the buffer only when it is empty: octets that fill the buffer
alone do not fit behind others. -/
theorem buffer_eq_nil_of_bypass {output : Output} {writing : Writing}
    (hfits : (!output.buffer.isEmpty && output.mustDrain writing) = false)
    (hfills : Bytes.hasAtLeast output.capacity writing.rest = true) :
    output.buffer = [] := by
  rw [Bytes.hasAtLeast_iff] at hfills
  cases hbuffer : output.buffer with
  | nil => rfl
  | cons octet rest =>
      simp [mustDrain, hbuffer] at hfits
      omega

theorem handOver_more {output output' : Output} {sink sink' : Sink} {writing writing' : Writing}
    (hstep : output.handOver sink writing = .more output' sink' writing') :
    sink'.content ++ output'.unsent writing' = sink.content ++ output.unsent writing ∧
      sink.content <+: sink'.content := by
  unfold handOver at hstep
  split at hstep
  case isTrue hdrains =>
      rcases drain_more hstep with ⟨hcontent, hrest, hsink, _⟩
      constructor
      · simp only [unsent, hrest, ← List.append_assoc, hcontent]
      · rw [hsink, Sink.content_write]
        exact List.prefix_append ..
  case isFalse hdrains =>
      split at hstep
      · cases hstep
      · split at hstep
        case isTrue hfills =>
            rcases bypass_more hstep with ⟨hcontent, houtput, hsink, _⟩
            have hbuffer := buffer_eq_nil_of_bypass (Bool.not_eq_true _ ▸ hdrains) hfills
            constructor
            · simpa only [unsent, houtput, hbuffer, List.nil_append] using hcontent
            · rw [hsink, Sink.content_write]
              exact List.prefix_append ..
        case isFalse hfills =>
            cases hstep
            constructor
            · simp [unsent]
            · exact List.prefix_refl _

theorem handOver_done {output output' : Output} {sink sink' : Sink} {writing : Writing}
    (hstep : output.handOver sink writing = .done output' sink') :
    output' = output ∧ sink' = sink ∧ output.unsent writing = [] := by
  unfold handOver at hstep
  split at hstep
  case isTrue hdrains => exact absurd hstep drain_ne_done
  case isFalse hdrains =>
      split at hstep
      case isTrue hrest =>
          cases hstep
          refine ⟨rfl, rfl, ?_⟩
          have hrest' : writing.rest = [] := by simpa using hrest
          have hbuffer : output.buffer = [] := by simpa [mustDrain, hrest'] using hdrains
          simp [unsent, hrest', hbuffer]
      case isFalse hrest =>
          split at hstep
          · exact absurd hstep bypass_ne_done
          · cases hstep

theorem handOver_of_unsent_eq_nil {output : Output} {sink : Sink} {writing : Writing}
    (hunsent : output.unsent writing = []) :
    output.handOver sink writing = .done output sink := by
  rcases List.append_eq_nil_iff.mp hunsent with ⟨hbuffer, hrest⟩
  simp [handOver, hbuffer, hrest]

theorem handOver_failed {output output' : Output} {sink sink' : Sink} {writing : Writing}
    {error : Error} (hstep : output.handOver sink writing = .failed error output' sink') :
    output' = output ∧ output.unsent writing ≠ [] ∧ Refusal sink sink' := by
  unfold handOver at hstep
  split at hstep
  case isTrue hdrains =>
      have hbuffer : output.buffer ≠ [] := by
        intro hnil
        simp [hnil] at hdrains
      rcases drain_failed hbuffer hstep with ⟨houtput, hrefusal⟩
      exact ⟨houtput, by simp [unsent, hbuffer], hrefusal⟩
  case isFalse hdrains =>
      split at hstep
      · cases hstep
      · rename_i hempty
        have hrest : writing.rest ≠ [] := by simpa using hempty
        split at hstep
        · rcases bypass_failed hrest hstep with ⟨houtput, hrefusal⟩
          exact ⟨houtput, by simp [unsent, hrest], hrefusal⟩
        · cases hstep

theorem kind_of_handOver_failed {output output' : Output} {sink sink' : Sink} {writing : Writing}
    {error : Error} (hstep : output.handOver sink writing = .failed error output' sink') :
    error.kind = .transport := by
  unfold handOver at hstep
  split at hstep
  · unfold drain at hstep
    split at hstep <;> cases hstep <;> rfl
  · split at hstep
    · cases hstep
    · split at hstep
      · unfold bypass at hstep
        split at hstep <;> cases hstep <;> rfl
      · cases hstep

theorem handOver_more_of_refuses {output output' : Output} {sink sink' : Sink}
    {writing writing' : Writing} (hrefuses : sink.policy.refuses = true)
    (hstep : output.handOver sink writing = .more output' sink' writing') :
    sink' = sink := by
  have hwrite (octets : Bytes) : (sink.write octets).1.octets = [] :=
    WritePolicy.octets_answer_of_refuses octets hrefuses
  unfold handOver at hstep
  split at hstep
  · exact absurd (hwrite _) (drain_more hstep).right.right.right
  · split at hstep
    · cases hstep
    · split at hstep
      · exact absurd (hwrite _) (bypass_more hstep).right.right.right
      · cases hstep
        rfl

theorem policy_of_handOver_waiting {output : Output} {sink : Sink} {writing : Writing}
    (hstep : output.handOver sink writing = .waiting) : sink.policy = .stalled := by
  unfold handOver at hstep
  split at hstep
  case isTrue =>
      unfold drain at hstep
      split at hstep
      case h_4 hwrite => exact Sink.policy_of_write_waiting hwrite
      all_goals cases hstep
  case isFalse =>
      split at hstep
      case isTrue => cases hstep
      case isFalse =>
          split at hstep
          case isTrue =>
              unfold bypass at hstep
              split at hstep
              case h_4 hwrite => exact Sink.policy_of_write_waiting hwrite
              all_goals cases hstep
          case isFalse => cases hstep

/-!
## One step of a write

A step of a write hands octets over; when nothing is left, it flushes the stream.
-/

/-- What a failed write leaves behind: octets that the stream has refused, or a stream
that has everything and cannot be flushed. -/
inductive Failure (unsent : Bytes) (sink sink' : Sink) : Prop
  | refused : unsent ≠ [] -> Refusal sink sink' -> Failure unsent sink sink'
  | unflushed {reason : String} : unsent = [] -> sink' = sink -> sink.flush = .failed reason ->
      Failure unsent sink sink'

theorem Failure.content_eq {unsent : Bytes} {sink sink' : Sink}
    (hfailure : Failure unsent sink sink') : sink'.content = sink.content := by
  cases hfailure with
  | refused _ hrefusal => exact hrefusal.content_eq
  | unflushed _ hsink _ => rw [hsink]

/-- A steady stream fails only by refusing octets. -/
theorem Failure.of_isSteady {unsent : Bytes} {sink sink' : Sink}
    (hfailure : Failure unsent sink sink') (hsteady : sink.isSteady = true) :
    unsent ≠ [] ∧ Refusal sink sink' := by
  cases hfailure with
  | refused hunsent hrefusal => exact And.intro hunsent hrefusal
  | unflushed _ _ hflush => simp [Sink.flush_of_isSteady hsteady] at hflush

section Step

variable {output output' : Output} {sink sink' : Sink} {writing writing' : Writing}
  {error : Error}

theorem step_of_unsent_eq_nil (hunsent : output.unsent writing = []) :
    output.step sink writing = output.flushStep sink := by
  rw [step, handOver_of_unsent_eq_nil hunsent]

theorem step_eq_more : output.step sink writing = .more output' sink' writing' <->
    output.handOver sink writing = .more output' sink' writing' := by
  unfold step
  cases output.handOver sink writing with
  | done output sink => cases hflush : sink.flush <;> simp [flushStep, hflush]
  | more output sink writing => simp
  | failed error output sink => simp
  | waiting => simp

theorem step_more (hstep : output.step sink writing = .more output' sink' writing') :
    sink'.content ++ output'.unsent writing' = sink.content ++ output.unsent writing ∧
      sink.content <+: sink'.content :=
  handOver_more (step_eq_more.mp hstep)

theorem step_cases : (output.unsent writing = [] ∧
      output.step sink writing = output.flushStep sink) ∨
    (output.unsent writing ≠ [] ∧ output.step sink writing = output.handOver sink writing) := by
  by_cases hunsent : output.unsent writing = []
  · exact Or.inl (And.intro hunsent (step_of_unsent_eq_nil hunsent))
  · refine Or.inr (And.intro hunsent ?_)
    unfold step
    split
    case h_1 hdone => exact absurd (handOver_done hdone).right.right hunsent
    case h_2 => rfl

theorem step_done (hstep : output.step sink writing = .done output' sink') :
    output' = output ∧ sink' = sink ∧ output.unsent writing = [] := by
  rcases @step_cases output sink writing with ⟨hunsent, hflush⟩ | ⟨_, hhand⟩
  · rw [hstep, flushStep] at hflush
    split at hflush <;> cases hflush
    exact ⟨rfl, rfl, hunsent⟩
  · exact handOver_done (hhand.symm.trans hstep)

theorem step_failed (hstep : output.step sink writing = .failed error output' sink') :
    output' = output ∧ Failure (output.unsent writing) sink sink' := by
  rcases @step_cases output sink writing with ⟨hunsent, hflush⟩ | ⟨_, hhand⟩
  · rw [hstep, flushStep] at hflush
    split at hflush
    case h_2 hfailed =>
        cases hflush
        exact And.intro rfl (.unflushed hunsent rfl hfailed)
    all_goals cases hflush
  · rcases handOver_failed (hhand.symm.trans hstep) with ⟨houtput, hunsent, hrefusal⟩
    exact And.intro houtput (.refused hunsent hrefusal)

theorem kind_of_step_failed (hstep : output.step sink writing = .failed error output' sink') :
    error.kind = .transport := by
  rcases @step_cases output sink writing with ⟨_, hflush⟩ | ⟨_, hhand⟩
  · rw [hstep, flushStep] at hflush
    split at hflush <;> cases hflush
    rfl
  · exact kind_of_handOver_failed (hhand.symm.trans hstep)

theorem isStalled_of_step_waiting (hstep : output.step sink writing = .waiting) :
    sink.isStalled = true := by
  rcases @step_cases output sink writing with ⟨_, hflush⟩ | ⟨_, hhand⟩
  · rw [hstep, flushStep] at hflush
    split at hflush
    case h_3 hwaiting => simp [Sink.isStalled, hwaiting]
    all_goals cases hflush
  · simp [Sink.isStalled, policy_of_handOver_waiting (hhand.symm.trans hstep)]

end Step

/-!
## The shutdown
-/

theorem shutdownStep_more {output output' : Output} {sink sink' : Sink}
    {writing writing' : Writing} :
    output.shutdownStep sink writing = .more output' sink' writing' <->
      output.handOver sink writing = .more output' sink' writing' := by
  unfold shutdownStep
  cases output.handOver sink writing with
  | done output sink => cases hshut : sink.shutdown? <;> simp [hshut]
  | more output sink writing => simp
  | failed error output sink => simp
  | waiting => simp

theorem shutdownStep_failed {output output' : Output} {sink sink' : Sink} {writing : Writing}
    {error : Error} :
    output.shutdownStep sink writing = .failed error output' sink' <->
      output.handOver sink writing = .failed error output' sink' := by
  unfold shutdownStep
  cases output.handOver sink writing with
  | done output sink => cases hshut : sink.shutdown? <;> simp [hshut]
  | more output sink writing => simp
  | failed error output sink => simp
  | waiting => simp

theorem policy_of_shutdownStep_waiting {output : Output} {sink : Sink} {writing : Writing}
    (hstep : output.shutdownStep sink writing = .waiting) : sink.policy = .stalled := by
  unfold shutdownStep at hstep
  cases hwrite : output.handOver sink writing with
  | waiting => exact policy_of_handOver_waiting hwrite
  | more output sink writing => simp [hwrite] at hstep
  | failed error output sink => simp [hwrite] at hstep
  | done output' sink' =>
      rcases handOver_done hwrite with ⟨_, rfl, _⟩
      simp only [hwrite] at hstep
      cases hpolicy : sink'.policy with
      | stalled => rfl
      | _ => simp [Sink.shutdown?, hpolicy] at hstep

/-- The shutdown itself puts nothing on the stream. -/
theorem shutdownStep_done {output output' : Output} {sink sink' : Sink} {writing : Writing}
    (hstep : output.shutdownStep sink writing = .done output' sink') :
    sink'.content = sink.content ∧ output.unsent writing = [] := by
  unfold shutdownStep at hstep
  cases hwrite : output.handOver sink writing with
  | done output after =>
      rcases handOver_done hwrite with ⟨_, hafter, hunsent⟩
      rw [hwrite] at hstep
      cases hshut : after.shutdown? with
      | none => simp [hshut] at hstep
      | some closed =>
          simp only [hshut] at hstep
          cases hstep
          exact And.intro (by rw [Sink.content_shutdown? hshut, hafter]) hunsent
  | more output sink writing =>
      rw [hwrite] at hstep
      cases hstep
  | failed error output sink =>
      rw [hwrite] at hstep
      cases hstep
  | waiting =>
      rw [hwrite] at hstep
      cases hstep

end Output

end WebSocketClient
