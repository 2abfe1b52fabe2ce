import WebSocketClient.Proofs.Arrivals
import WebSocketClient.Proofs.Attending

/-!
# Connections that lag behind

Two connections that differ only in how much has arrived.  What the one does that has
got less, the other one can do too, so it never lags more than the octets that are yet
to arrive.  Only the reads look at the source.
-/

namespace WebSocketClient

/-!
## Another source
-/

/-- The receiver with this to read; it waits no more. -/
def Receiver.withSource (receiver : Receiver) (source : Source) : Receiver :=
  { receiver with
    source := source
    phase := match receiver.phase with
      | .parked => .reading
      | phase => phase }

def Holder.withSource (holder : Holder) (source : Source) : Holder :=
  match holder with
  | requesting attempt writing => requesting { attempt with source := source } writing
  | awaitingAnswer attempt => awaitingAnswer { attempt with source := source }
  | sending _ _ | farewell _ _ | leaving _ _ _ _ => holder

namespace Connection

def withSource (connection : Connection) (source : Source) : Connection :=
  { connection with
    holder := connection.holder.map fun (holder : Holder) => holder.withSource source
    receiver := connection.receiver.map fun (receiver : Receiver) => receiver.withSource source }

section WithSource

variable (connection : Connection) (source : Source)

theorem report_withSource (diagnostic : Diagnostic) :
    (connection.withSource source).report diagnostic =
      (connection.report diagnostic).withSource source := rfl

theorem notify_withSource (listener : Option ListenerId) (event : Event) :
    (connection.withSource source).notify listener event =
      (connection.notify listener event).withSource source := rfl

theorem setPhase_withSource {phase : ReceiverPhase} (hphase : phase ≠ .parked) :
    (connection.withSource source).setPhase phase =
      (connection.setPhase phase).withSource source := by
  cases hreceiver : connection.receiver with
  | none => simp [withSource, setPhase, mapReceiver, hreceiver]
  | some receiver =>
      cases phase with
      | parked => exact absurd rfl hphase
      | _ => simp [withSource, setPhase, mapReceiver, hreceiver, Receiver.withSource]

theorem releaseReceiver_withSource :
    (connection.withSource source).releaseReceiver false =
      (connection.releaseReceiver false).withSource source := by
  cases hreceiver : connection.receiver with
  | none => simp [withSource, releaseReceiver, mapReceiver, hreceiver]
  | some receiver =>
      simp [withSource, releaseReceiver, mapReceiver, hreceiver, Core.release, Receiver.withSource]

theorem finishTeardown_withSource :
    (connection.withSource source).finishTeardown none =
      (connection.finishTeardown none).withSource source := by
  cases hreceiver : connection.receiver with
  | none => simp [withSource, finishTeardown, report, log, mapReceiver, hreceiver]
  | some receiver =>
      cases hlistener : connection.core.listener <;>
        simp [withSource, finishTeardown, report, log, mapReceiver, hreceiver, hlistener,
          Receiver.withSource]

theorem startTeardown_withSource :
    (connection.withSource source).startTeardown none =
      (connection.startTeardown none).withSource source := by
  have hrelease := releaseReceiver_withSource connection source
  cases hwriter : connection.core.writer with
  | some writer =>
      have hwriter' : (connection.withSource source).core.writer = some writer := hwriter
      simp only [startTeardown, hwriter, hwriter', Option.isSome_none, hrelease]
      rfl
  | none =>
      have hwriter' : (connection.withSource source).core.writer = none := hwriter
      simp only [startTeardown, hwriter, hwriter', Option.isSome_none, hrelease]
      rw [← finishTeardown_withSource]
      rfl

theorem startFarewell_withSource (payload : Bytes) :
    (connection.withSource source).startFarewell payload =
      (connection.startFarewell payload).withSource source := by
  cases hwriter : connection.core.writer with
  | some writer =>
      have hwriter' : (connection.withSource source).core.writer = some writer := hwriter
      simp only [startFarewell, hwriter, hwriter']
      rfl
  | none =>
      have hwriter' : (connection.withSource source).core.writer = none := hwriter
      simp only [startFarewell, hwriter, hwriter']
      exact startTeardown_withSource connection source

theorem exit_withSource (outcome : Outcome) :
    (connection.withSource source).exit outcome = (connection.exit outcome).withSource source := by
  have hclosing : (connection.withSource source).setPhase .closing =
      (connection.setPhase .closing).withSource source := setPhase_withSource _ _ (by simp)
  have hfinished : (connection.withSource source).setPhase .finished =
      (connection.setPhase .finished).withSource source := setPhase_withSource _ _ (by simp)
  have hcore : (connection.withSource source).core = connection.core := rfl
  unfold exit
  simp only [hcore, hclosing, hfinished, report_withSource]
  split
  case isTrue => rfl
  case isFalse =>
      cases outcome with
      | stopped => rfl
      | closeReceived frame answers =>
          cases answers with
          | true => exact startTeardown_withSource _ source
          | false =>
              simp only
              rw [← startFarewell_withSource]
              rfl
      | endOfStream => exact startTeardown_withSource _ source
      | failed error =>
          simp only [startFarewell_withSource, startTeardown_withSource]
          exact (apply_ite (withSource · source) _ _ _).symm

theorem emit_withSource (listener : Option ListenerId) (signals : List Signal) :
    signals.foldl (fun connection signal => connection.emit listener signal)
        (connection.withSource source) =
      (signals.foldl (fun connection signal => connection.emit listener signal)
        connection).withSource source := by
  induction signals generalizing connection with
  | nil => rfl
  | cons signal rest ih =>
      rw [List.foldl_cons, List.foldl_cons, ← ih]
      cases signal <;> rfl

theorem requestStep?_withSource (attempt : Attempt) (writing : Writing) :
    (connection.withSource source).requestStep? { attempt with source := source } writing =
      (connection.requestStep? attempt writing).map fun next => next.withSource source := by
  have hsink : (connection.withSource source).sink = connection.sink := rfl
  simp only [requestStep?, hsink]
  split <;> rfl

theorem farewellStep?_withSource (writing : Writing) (deadline : Nat) :
    (connection.withSource source).farewellStep? writing deadline =
      (connection.farewellStep? writing deadline).map fun next => next.withSource source := by
  have hcore : (connection.withSource source).core = connection.core := rfl
  have hsink : (connection.withSource source).sink = connection.sink := rfl
  have hclock : (connection.withSource source).clock = connection.clock := rfl
  simp only [farewellStep?, hcore, hsink, hclock]
  split
  case h_1 => rfl
  case h_2 writer _ =>
      split
      case h_1 => rfl
      case h_4 =>
          split
          · rw [Option.map_some, report_withSource, startTeardown_withSource]
          · rfl
      all_goals
        rw [Option.map_some, ← startTeardown_withSource]
        rfl

theorem leavingStep?_withSource (writer : FrameWriter) (writing : Writing) (deadline : Nat) :
    (connection.withSource source).leavingStep? writer writing deadline none =
      (connection.leavingStep? writer writing deadline none).map fun next =>
        next.withSource source := by
  have hsink : (connection.withSource source).sink = connection.sink := rfl
  have hclock : (connection.withSource source).clock = connection.clock := rfl
  simp only [leavingStep?, hsink, hclock]
  split
  case h_1 => rfl
  case h_4 =>
      split
      · rw [Option.map_some, finishTeardown_withSource]
      · rfl
  all_goals
    rw [Option.map_some, ← finishTeardown_withSource]
    rfl

end WithSource

end Connection

/-!
## The loop of a receiver
-/

namespace Receiver

variable {limits : Limits} {receiver next : Receiver} {signals : List Signal} {source : Source}
  {more : Bytes} {ending : Option Ending}

theorem withSource_of_phase (hphase : receiver.phase ≠ .parked) (source : Source) :
    receiver.withSource source = { receiver with source := source } := by
  unfold withSource
  split
  case h_1 hparked => exact absurd hparked hphase
  case h_2 => rfl

theorem withSource_arrive (receiver : Receiver) (chunks : List Bytes) (ending : Option Ending)
    (source : Source) :
    (receiver.arrive chunks ending).withSource source = receiver.withSource source := by
  cases hphase : receiver.phase <;> simp [Receiver.arrive, withSource, hphase]

theorem holdsStream_of_step (hstep : receiver.step? limits = some (next, signals)) :
    receiver.holdsStream = true := by
  unfold step? at hstep
  unfold holdsStream
  cases hphase : receiver.phase <;> simp [hphase] at hstep ⊢

theorem holdsStream_withSource (hloop : receiver.holdsStream = true) (source : Source) :
    (receiver.withSource source).holdsStream = true := by
  unfold holdsStream at hloop ⊢
  unfold withSource
  cases hphase : receiver.phase <;> simp [hphase] at hloop ⊢

theorem takeFrame_withSource {rest later : Source}
    (hgoes : receiver.source.GoesOn more ending source) (hrest : rest.GoesOn more ending later)
    (frame : Frame) (htake : receiver.takeFrame frame rest = (next, signals)) :
    exists left, ({ receiver with source := source } : Receiver).takeFrame frame later =
        (next.withSource left, signals) ∧
      next.source.GoesOn more ending left ∧ next.phase ≠ .parked := by
  unfold takeFrame at htake ⊢
  simp only
  split at htake
  case h_1 haccept =>
      cases htake
      exact ⟨source, by simp [withSource], hgoes, by simp⟩
  case h_2 haccept =>
      cases htake
      exact ⟨source, by simp [withSource], hgoes, by simp⟩
  case h_3 haccept =>
      cases htake
      exact ⟨later, by simp [withSource], hrest, by simp⟩

/-- A step of the loop that does not have to wait is made in the same way when more has
arrived. -/
theorem step?_withSource (hgoes : receiver.source.GoesOn more ending source)
    (haborted : receiver.aborted = false) (hstep : receiver.step? limits = some (next, signals)) :
    (receiver.phase = .reading ∧ receiver.assembly.readFrame limits receiver.source = .waiting ∧
        next = { receiver with phase := .parked } ∧ signals = []) ∨
      exists left, (receiver.withSource source).step? limits =
          some (next.withSource left, signals) ∧
        next.source.GoesOn more ending left ∧ next.phase ≠ .parked := by
  unfold step? at hstep
  split at hstep
  case h_1 hphase =>
      cases hstep
      right
      refine ⟨source, ?_, hgoes, ?_⟩
      · cases hstop : receiver.stop <;> simp [withSource, step?, hphase, hstop]
      · cases receiver.stop <;> simp
  case h_2 hphase =>
      have hlate : (receiver.withSource source).step? limits =
          some (({ receiver with source := source } : Receiver).readFrame limits) := by
        rw [withSource_of_phase (by simp [hphase])]
        simp [step?, hphase]
      have hstands : Reading.Stands more ending
          (receiver.assembly.readFrame limits receiver.source)
          (receiver.assembly.readFrame limits source) := Assembly.readFrame_stands hgoes
      rw [hlate]
      unfold readFrame at hstep ⊢
      simp only
      generalize receiver.assembly.readFrame limits receiver.source = early at hstep hstands ⊢
      generalize receiver.assembly.readFrame limits source = late at hstands ⊢
      cases hstands with
      | done hrest =>
          rcases takeFrame_withSource hgoes hrest _ (Option.some.inj hstep) with
            ⟨left, htake, hleft, hawake⟩
          exact Or.inr ⟨left, congrArg some htake, hleft, hawake⟩
      | ended =>
          cases hstep
          exact Or.inr ⟨source, by simp [withSource], hgoes, by simp⟩
      | failed =>
          cases hstep
          exact Or.inr ⟨source, by simp [withSource], hgoes, by simp⟩
      | waiting _ =>
          cases hstep
          exact Or.inl ⟨hphase, rfl, by simp [haborted], rfl⟩
  case h_3 event hphase =>
      cases hstep
      exact Or.inr ⟨source, by simp [withSource, step?, hphase], hgoes, by simp⟩
  all_goals cases hstep

end Receiver

end WebSocketClient
