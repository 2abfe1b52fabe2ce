import WebSocketClient.Proofs.Assembling
import WebSocketClient.Receiver

/-!
# What a receiver hears

The loop of a receiver that nobody stops, on a stream whose octets are all there.
It takes frame after frame from the stream, tells the listener of each what the
transcript says, and ends at the first octets that are no frame or none that may
come.
-/

namespace WebSocketClient

def events (signals : List Signal) : List Event :=
  signals.filterMap fun signal =>
    match signal with
    | .event event => some event
    | .diagnostic _ => none

@[simp] theorem events_append (first second : List Signal) :
    events (first ++ second) = events first ++ events second := by
  simp [events]

namespace Receiver

variable {limits : Limits} {receiver next : Receiver} {signals : List Signal}

/-!
## The loop to its end
-/

def work (receiver : Receiver) : Nat :=
  3 * receiver.source.bytes.length +
    match receiver.phase with
    | .delivering _ => 3
    | .checking => 2
    | .reading => 1
    | .parked | .exiting _ | .closing | .notifying _ | .finished => 0

theorem work_of_readFrame (hphase : receiver.phase = .reading) :
    (receiver.readFrame limits).1.work < receiver.work := by
  simp only [work, hphase]
  unfold readFrame
  split
  case h_1 frame rest hread =>
      have hless := Frame.length_lt_of_read (Assembly.readFrame_eq_done hread).right
      unfold takeFrame
      split
      case h_1 => simp
      case h_2 => simp
      case h_3 =>
          show 3 * rest.bytes.length + 3 < _
          omega
  case h_2 => simp
  case h_3 => simp
  case h_4 => cases receiver.aborted <;> simp

theorem work_of_step (hstep : receiver.step? limits = some (next, signals)) :
    next.work < receiver.work := by
  unfold step? at hstep
  split at hstep
  case h_1 hphase =>
      cases hstep
      cases hstop : receiver.stop <;> simp [work, hphase]
  case h_2 hphase =>
      have hless : (receiver.readFrame limits).1.work < receiver.work := work_of_readFrame hphase
      rw [Option.some.inj hstep] at hless
      exact hless
  case h_3 event hphase =>
      cases hstep
      simp [work, hphase]
  all_goals cases hstep

def run (limits : Limits) (receiver : Receiver) : List Signal × Receiver :=
  match _hstep : receiver.step? limits with
  | some (next, signals) => (signals ++ (run limits next).1, (run limits next).2)
  | none => ([], receiver)
termination_by receiver.work
decreasing_by all_goals exact work_of_step ‹_›

theorem run_of_step (hstep : receiver.step? limits = some (next, signals)) :
    receiver.run limits = (signals ++ (next.run limits).1, (next.run limits).2) := by
  rw [run]
  split
  case h_1 next' signals' hstep' =>
      rw [hstep] at hstep'
      cases hstep'
      rfl
  case h_2 hnone =>
      rw [hstep] at hnone
      cases hnone

theorem run_of_step_eq_none (hstep : receiver.step? limits = none) :
    receiver.run limits = ([], receiver) := by
  rw [run]
  split
  case h_1 next signals hsome =>
      rw [hstep] at hsome
      cases hsome
  case h_2 => rfl

/-!
## One round
-/

section Round

variable {frame : Frame} {rest : Source} {after : Assembly} {outcome : Outcome}

theorem run_of_reading (hphase : receiver.phase = .checking) (hstop : receiver.stop = false) :
    receiver.run limits = ({ receiver with phase := .reading }).run limits := by
  have hstep : receiver.step? limits = some ({ receiver with phase := .reading }, []) := by
    simp [step?, hphase, hstop]
  rw [run_of_step hstep]
  rfl

theorem run_of_event {event : Event} (hphase : receiver.phase = .checking)
    (hstop : receiver.stop = false)
    (hread : receiver.assembly.readFrame limits receiver.source = .done frame rest)
    (haccept : receiver.assembly.accept frame = .ok (.event event, after)) :
    let next := { receiver with assembly := after, source := rest }
    events (receiver.run limits).1 = event :: events (next.run limits).1 ∧
      (receiver.run limits).2 = (next.run limits).2 := by
  intro next
  have hreading : ({ receiver with phase := .reading }).step? limits =
      some ({ next with phase := .delivering event },
        [.diagnostic (.frameReceived frame.opcode frame.fin frame.payload.length)]) := by
    simp [step?, readFrame, hread, takeFrame, haccept, next]
  have hdelivering : ({ next with phase := .delivering event }).step? limits =
      some (next, [.event event]) := by
    simp [step?, next, hphase]
  rw [run_of_reading hphase hstop, run_of_step hreading, run_of_step hdelivering]
  exact And.intro rfl rfl

theorem run_of_exit (hphase : receiver.phase = .checking) (hstop : receiver.stop = false)
    (hexit : (({ receiver with phase := .reading }).readFrame limits).1 =
      { receiver with phase := .exiting outcome })
    (hsilent : events (({ receiver with phase := .reading }).readFrame limits).2 = []) :
    events (receiver.run limits).1 = [] ∧ (receiver.run limits).2.phase = .exiting outcome := by
  have hreading : ({ receiver with phase := .reading }).step? limits =
      some ({ receiver with phase := .exiting outcome },
        (({ receiver with phase := .reading }).readFrame limits).2) := by
    rw [← hexit]
    rfl
  rw [run_of_reading hphase hstop, run_of_step hreading, run_of_step_eq_none rfl]
  simp [hsilent]

end Round

/-!
## What is left
-/

/-- What the end of the loop says about the octets that are left: they are the front
of a frame that is not complete, or begin with a close frame, or go on with nothing
that may come. -/
def Ends (limits : Limits) (awaitingClose : Bool) (unfinished : Unfinished) (left : Bytes) :
    Outcome -> Prop
  | .endOfStream => exists (frame : Frame) (mask : Option MaskKey) (missing : Bytes),
      missing ≠ [] ∧ frame.LaidOut mask (left ++ missing)
  | .closeReceived close reply => reply = awaitingClose ∧
      exists (frame : Frame) (octets behind : Bytes), left = octets ++ behind ∧
        frame.LaidOut none octets ∧ frame.Keeps limits ∧ frame.opcode = .close ∧
        IsClosePayload frame.payload close
  | .failed error => error.kind = .protocol ∧
      forall (frame : Frame) (octets behind more : Bytes), frame.LaidOut none octets ->
        frame.Keeps limits -> MayCome unfinished frame -> left ++ more ≠ octets ++ behind
  | .stopped => False

/-- The same on a stream that may also end by failing, at the latest in the middle of
a frame. -/
def EndsBy (limits : Limits) (awaitingClose : Bool) (unfinished : Unfinished) (left : Bytes)
    (ending : Option Ending) : Outcome -> Prop
  | .endOfStream => ending = some .endOfStream ∧
      Ends limits awaitingClose unfinished left .endOfStream
  | .failed error => Ends limits awaitingClose unfinished left (.failed error) ∨
      exists reason, error = .transport reason ∧ ending = some (.failure reason) ∧
        Ends limits awaitingClose unfinished left .endOfStream
  | outcome => Ends limits awaitingClose unfinished left outcome

end Receiver

namespace Assembly

variable {limits : Limits} {assembly : Assembly} {source : Source}
  {messages : List (Message × List Bytes)} {unfinished : Unfinished} {records : List Record}

theorem readFrame_of_mayCome {frame : Frame} {octets behind more : Bytes}
    (htells : assembly.Tells messages unfinished records) (hlaid : frame.LaidOut none octets)
    (hkeeps : frame.Keeps limits) (hmay : MayCome unfinished frame)
    (hbytes : source.bytes ++ more = octets ++ behind) :
    (forall error rest, assembly.readFrame limits source = .failed error rest ->
        error.kind ≠ .protocol) ∧
      forall other rest, assembly.readFrame limits source = .done other rest -> other = frame := by
  have hlate : (⟨[source.bytes ++ more], none⟩ : Source).bytes = source.bytes ++ more :=
    List.flatten_singleton
  have hjudge := (accept_of_mayCome htells hmay).left
  have houtlasts : Reading.Outlasts more (assembly.readFrame limits source)
      (assembly.readFrame limits ⟨[source.bytes ++ more], none⟩) := readFrame_outlasts hlate
  rcases readFrame_gives hlaid hkeeps hjudge (hlate.trans hbytes) rfl with ⟨rest, hread, _, _⟩
  rw [hread] at houtlasts
  constructor
  · intro error rest hfailed
    rw [hfailed] at houtlasts
    cases houtlasts with
    | broken => simp [Error.kind]
  · intro other rest hdone
    rw [hdone] at houtlasts
    cases houtlasts with
    | done _ => rfl

theorem laidOut_of_readFrame {frame : Frame} {rest : Source}
    (hread : assembly.readFrame limits source = .done frame rest) :
    frame.Keeps limits ∧ rest.ending = source.ending ∧
      exists octets, frame.LaidOut none octets ∧ source.bytes = octets ++ rest.bytes := by
  rcases Frame.read_eq_done (readFrame_eq_done hread).right with
    ⟨mask, octets, hlaid, hmask, hkeeps, hbytes, hending⟩
  cases mask with
  | some key => cases hmask
  | none => exact ⟨hkeeps, hending, octets, hlaid, hbytes⟩

/-- Octets that lack others are the front of a frame, however the stream goes on. -/
theorem isFront_of_readFrame
    (hstarved : assembly.readFrame limits source = .waiting ∨
      exists reason rest, assembly.readFrame limits source = .failed (.transport reason) rest) :
    exists (frame : Frame) (mask : Option MaskKey) (missing : Bytes),
      missing ≠ [] ∧ frame.LaidOut mask (source.bytes ++ missing) := by
  -- The same octets on a stream that ends behind them.
  let cut : Source := ⟨source.chunks, some .endOfStream⟩
  have houtlasts : Reading.Outlasts [] (assembly.readFrame limits cut)
      (assembly.readFrame limits source) := readFrame_outlasts (List.append_nil _).symm
  have hminds : (assembly.readFrame limits cut).Minds (some .endOfStream) := readFrame_minds rfl
  cases hread : assembly.readFrame limits cut with
  | ended rest =>
      have hfront := Frame.read_eq_ended (readFrame_eq_ended hread)
      exact hfront
  | waiting =>
      rw [hread] at hminds
      cases hminds with
      | waiting hnone => cases hnone
  | done frame rest =>
      rw [hread] at houtlasts
      generalize assembly.readFrame limits source = reading at hstarved houtlasts
      cases houtlasts with
      | done _ => simp at hstarved
  | failed error rest =>
      rw [hread] at hminds houtlasts
      cases hminds with
      | broken hfailure => cases hfailure
      | failed hkind =>
          generalize assembly.readFrame limits source = reading at hstarved houtlasts
          cases houtlasts with
          | broken => cases hkind
          | failed =>
              rcases hstarved with hwaiting | ⟨reason, rest', hbroken⟩
              · cases hwaiting
              · cases hbroken
                cases hkind

end Assembly

namespace Receiver

variable {limits : Limits} {receiver : Receiver} {messages : List (Message × List Bytes)}
  {unfinished : Unfinished} {records : List Record}

/-- The loop takes these octets from the stream, as the frames of these records, tells
the listener what the records say, and ends with this outcome. -/
structure Hears (limits : Limits) (receiver : Receiver) (records : List Record)
    (octets left : Bytes) (outcome : Outcome) : Prop where
  bytes : receiver.source.bytes = octets ++ left
  stream : Frame.Stream false (records.map Record.frame) octets
  keeps : forall record, record ∈ records -> record.frame.Keeps limits
  events : events (receiver.run limits).1 = records.map Record.event
  exits : (receiver.run limits).2.phase = .exiting outcome

theorem Hears.cons {frame : Frame} {rest : Source} {after : Assembly} {event : Event}
    {front octets left : Bytes} {outcome : Outcome} (hphase : receiver.phase = .checking)
    (hstop : receiver.stop = false)
    (hread : receiver.assembly.readFrame limits receiver.source = .done frame rest)
    (hlaid : frame.LaidOut none front) (hkeeps : frame.Keeps limits)
    (hbytes : receiver.source.bytes = front ++ rest.bytes)
    (haccept : receiver.assembly.accept frame = .ok (.event event, after))
    (hhears : ({ receiver with assembly := after, source := rest }).Hears limits records octets
      left outcome) :
    receiver.Hears limits (⟨frame, event⟩ :: records) (front ++ octets) left outcome := by
  rcases run_of_event hphase hstop hread haccept with ⟨hevents, hlast⟩
  refine ⟨?_, .cons hlaid rfl hhears.stream, ?_, ?_, ?_⟩
  · rw [hbytes, List.append_assoc]
    exact congrArg (front ++ ·) hhears.bytes
  · intro record hrecord
    rcases List.mem_cons.mp hrecord with rfl | hrecord
    · exact hkeeps
    · exact hhears.keeps record hrecord
  · rw [hevents, hhears.events]
    rfl
  · rw [hlast]
    exact hhears.exits

theorem verdict_cases (htells : receiver.assembly.Tells messages unfinished records) :
    (exists frame rest event after,
        receiver.assembly.readFrame limits receiver.source = .done frame rest ∧
          receiver.assembly.accept frame = .ok (.event event, after)) ∨
      (exists outcome,
        (({ receiver with phase := .reading }).readFrame limits).1 =
            { receiver with phase := .exiting outcome } ∧
          events (({ receiver with phase := .reading }).readFrame limits).2 = [] ∧
          EndsBy limits receiver.awaitingClose unfinished receiver.source.bytes
            receiver.source.ending outcome) ∨
      receiver.assembly.readFrame limits receiver.source = .waiting ∧
        receiver.source.ending = none := by
  have hminds : (receiver.assembly.readFrame limits receiver.source).Minds _ :=
    Assembly.readFrame_minds rfl
  cases hread : receiver.assembly.readFrame limits receiver.source with
  | waiting =>
      rw [hread] at hminds
      cases hminds with
      | waiting hnone => exact Or.inr (Or.inr (And.intro rfl hnone))
  | ended rest =>
      rw [hread] at hminds
      cases hminds with
      | ended hending =>
          refine Or.inr (Or.inl ⟨.endOfStream, by simp only [readFrame, hread],
            by simp only [readFrame, hread]; rfl, hending, ?_⟩)
          exact Frame.read_eq_ended (Assembly.readFrame_eq_ended hread)
  | failed error rest =>
      refine Or.inr (Or.inl ⟨.failed error, by simp only [readFrame, hread],
        by simp only [readFrame, hread]; rfl, ?_⟩)
      rw [hread] at hminds
      cases hminds with
      | @broken reason rest hfailure =>
          right
          exact ⟨reason, rfl, hfailure,
            Assembly.isFront_of_readFrame (Or.inr ⟨reason, rest, hread⟩)⟩
      | failed hkind =>
          refine Or.inl (And.intro hkind ?_)
          intro frame octets behind more hlaid hkeeps hmay hbytes
          have hfails := (Assembly.readFrame_of_mayCome htells hlaid hkeeps hmay hbytes).left
          exact hfails error rest hread hkind
  | done frame rest =>
      cases haccept : receiver.assembly.accept frame with
      | error error =>
          refine Or.inr (Or.inl ⟨.failed error, by simp only [readFrame, hread, takeFrame, haccept],
            by simp only [readFrame, hread, takeFrame, haccept]; rfl,
            Or.inl (And.intro (Assembly.kind_of_accept haccept) ?_)⟩)
          intro other octets behind more hlaid hkeeps hmay hbytes
          have hreads := (Assembly.readFrame_of_mayCome htells hlaid hkeeps hmay hbytes).right
          rcases (Assembly.accept_of_mayCome htells hmay).right with ⟨incoming, after, hmay⟩
          rw [← hreads frame rest hread, haccept] at hmay
          cases hmay
      | ok accepted =>
          rcases accepted with ⟨event | close, after⟩
          · exact Or.inl ⟨frame, rest, event, after, rfl, haccept⟩
          · rcases Assembly.laidOut_of_readFrame hread with ⟨hkeeps, _, octets, hlaid, hbytes⟩
            rcases Assembly.isClosePayload_of_accept haccept with ⟨hopcode, hpayload⟩
            exact Or.inr (Or.inl ⟨.closeReceived close receiver.awaitingClose,
              by simp only [readFrame, hread, takeFrame, haccept],
              by simp only [readFrame, hread, takeFrame, haccept]; rfl,
              rfl, frame, octets, rest.bytes, hbytes, hlaid, hkeeps, hopcode, hpayload⟩)

/-- A round tells of a frame, or the octets that are left end the loop. -/
theorem round_cases (hending : receiver.source.ending = some .endOfStream)
    (htells : receiver.assembly.Tells messages unfinished records) :
    (exists frame rest event after,
        receiver.assembly.readFrame limits receiver.source = .done frame rest ∧
          receiver.assembly.accept frame = .ok (.event event, after)) ∨
      exists outcome,
        (({ receiver with phase := .reading }).readFrame limits).1 =
            { receiver with phase := .exiting outcome } ∧
          events (({ receiver with phase := .reading }).readFrame limits).2 = [] ∧
          Ends limits receiver.awaitingClose unfinished receiver.source.bytes outcome := by
  rcases verdict_cases htells with htold | ⟨outcome, hexit, hsilent, hends⟩ | ⟨_, hnone⟩
  · exact Or.inl htold
  · refine Or.inr ⟨outcome, hexit, hsilent, ?_⟩
    cases outcome with
    | endOfStream => exact hends.right
    | closeReceived close reply => exact hends
    | stopped => exact hends
    | failed error =>
        rcases hends with hends | ⟨reason, _, hfailure, _⟩
        · exact hends
        · simp [hending] at hfailure
  · simp [hending] at hnone

theorem tells_of_round {frame : Frame} {rest : Source} {event : Event} {after : Assembly}
    (htells : receiver.assembly.Tells messages unfinished records)
    (hread : receiver.assembly.readFrame limits receiver.source = .done frame rest)
    (haccept : receiver.assembly.accept frame = .ok (.event event, after)) :
    exists messages' unfinished',
      after.Tells messages' unfinished' (records ++ [⟨frame, event⟩]) := by
  rcases htells.data with ⟨whole, tail, _, _, hfollows⟩
  have hjudge := (Assembly.readFrame_eq_done hread).left
  rcases Assembly.goesOn_of_accept hfollows hjudge haccept with ⟨completed, later, hgoes⟩
  rcases Assembly.accept_of_goesOn htells hgoes with ⟨event', after', _, haccept', htells'⟩
  rw [haccept] at haccept'
  cases haccept'
  exact ⟨_, _, htells'⟩

/-- The loop from the beginning of a round, after some records. -/
theorem exists_hears (hphase : receiver.phase = .checking) (hstop : receiver.stop = false)
    (hending : receiver.source.ending = some .endOfStream)
    (htells : receiver.assembly.Tells messages unfinished records) :
    exists messages' unfinished' more octets left outcome,
      receiver.Hears limits more octets left outcome ∧
        Transcript messages' unfinished' (records ++ more) ∧
        Ends limits receiver.awaitingClose unfinished' left outcome := by
  -- Every round reads a frame, so fewer octets are left.
  induction hlength : receiver.source.bytes.length using Nat.strongRecOn
    generalizing receiver messages unfinished records with
  | ind n ih =>
      rcases round_cases hending htells with
        ⟨frame, rest, event, after, hread, haccept⟩ | ⟨outcome, hexit, hsilent, hends⟩
      · rcases tells_of_round htells hread haccept with ⟨messages', unfinished', htells'⟩
        have hless := Frame.length_lt_of_read (Assembly.readFrame_eq_done hread).right
        rcases Assembly.laidOut_of_readFrame hread with ⟨hkeeps, hrest, front, hlaid, hbytes⟩
        let next : Receiver := { receiver with assembly := after, source := rest }
        have hphase' : next.phase = .checking := hphase
        have hstop' : next.stop = false := hstop
        have hending' : next.source.ending = some .endOfStream := hrest.trans hending
        rcases ih _ (hlength ▸ hless) hphase' hstop' hending' htells' rfl with
          ⟨messages', unfinished', more, octets, left, outcome, hhears, htranscript, hends⟩
        rw [List.append_assoc] at htranscript
        exact ⟨messages', unfinished', _, _, left, outcome,
          .cons hphase hstop hread hlaid hkeeps hbytes haccept hhears, htranscript, hends⟩
      · rcases run_of_exit hphase hstop hexit hsilent with ⟨hevents, hlast⟩
        refine ⟨messages, unfinished, [], [], _, outcome, ⟨rfl, .nil, by simp, hevents, hlast⟩, ?_,
          hends⟩
        rw [List.append_nil]
        exact htells.transcript

/-- What a receiver on a stream hears is what came, up to the octets that end the
loop. -/
theorem hears_transcript (limits : Limits) (chunks : List Bytes) (awaitingClose : Bool)
    (listener : ListenerId) :
    let receiver : Receiver :=
      { source := ⟨chunks, some .endOfStream⟩, listener := some listener, awaitingClose }
    exists messages unfinished records octets left outcome,
      receiver.Hears limits records octets left outcome ∧
        Transcript messages unfinished records ∧
        Ends limits awaitingClose unfinished left outcome := by
  intro receiver
  have htells : receiver.assembly.Tells [] none [] := Assembly.tells_nil
  exact exists_hears rfl rfl rfl htells

/-!
## Frames that go on with the messages
-/

theorem hears_of_bytes_eq_nil (hphase : receiver.phase = .checking) (hstop : receiver.stop = false)
    (hbytes : receiver.source.bytes = []) (hending : receiver.source.ending = some .endOfStream) :
    receiver.Hears limits [] [] [] .endOfStream := by
  have hread : receiver.assembly.readFrame limits receiver.source =
      .ended receiver.source.exhausted := by
    rw [Assembly.readFrame, Source.octet_of_bytes_eq_nil hbytes hending]
    rfl
  have hexit : (({ receiver with phase := .reading }).readFrame limits).1 =
      { receiver with phase := .exiting .endOfStream } := by
    simp only [readFrame, hread]
  have hsilent : events (({ receiver with phase := .reading }).readFrame limits).2 = [] := by
    simp only [readFrame, hread]
    rfl
  rcases run_of_exit hphase hstop hexit hsilent with ⟨hevents, hlast⟩
  exact ⟨hbytes, .nil, by simp, hevents, hlast⟩

theorem hears_of_allGoOn {wire : List Frame} {octets : Bytes}
    {messages' : List (Message × List Bytes)} {unfinished' : Unfinished}
    (hgo : AllGoOn unfinished wire messages' unfinished')
    (hstream : Frame.Stream false wire octets)
    (hkeeps : forall frame, frame ∈ wire -> frame.Keeps limits)
    (hphase : receiver.phase = .checking) (hstop : receiver.stop = false)
    (hbytes : receiver.source.bytes = octets) (hending : receiver.source.ending = some .endOfStream)
    (htells : receiver.assembly.Tells messages unfinished records) :
    exists more, receiver.Hears limits more octets [] .endOfStream ∧
      more.map Record.frame = wire ∧
      Transcript (messages ++ messages') unfinished' (records ++ more) := by
  induction hgo generalizing receiver messages records octets with
  | nil =>
      cases hstream
      refine ⟨[], hears_of_bytes_eq_nil hphase hstop hbytes hending, rfl, ?_⟩
      rw [List.append_nil, List.append_nil]
      exact htells.transcript
  | cons hgoes hlater ih =>
      cases hstream with
      | cons hlaid hmask hstream =>
          rw [Option.isSome_eq_false_iff, Option.isNone_iff_eq_none] at hmask
          rw [hmask] at hlaid
          have hkeep := hkeeps _ List.mem_cons_self
          rcases Assembly.accept_of_goesOn htells hgoes with
            ⟨event, after, hjudge, haccept, htells'⟩
          rcases Assembly.readFrame_gives hlaid hkeep hjudge hbytes hending with
            ⟨rest, hread, hrest, hrestEnding⟩
          let next : Receiver := { receiver with assembly := after, source := rest }
          have hphase' : next.phase = .checking := hphase
          have hstop' : next.stop = false := hstop
          rcases ih hstream (fun _ hmem => hkeeps _ (List.mem_cons_of_mem _ hmem)) hphase' hstop'
            hrest hrestEnding htells' with ⟨more, hhears, hframes, htranscript⟩
          refine ⟨_, .cons hphase hstop hread hlaid hkeep (hrest ▸ hbytes) haccept hhears, ?_, ?_⟩
          · rw [List.map_cons, hframes]
          · rw [List.append_assoc, List.append_assoc] at htranscript
            exact htranscript

/-- Messages in any parts, in frames with pings and pongs anywhere between them, are
all heard. -/
theorem hears_messages {limits : Limits} {messages : List (Message × List Bytes)}
    {wire : List Frame} {chunks : List Bytes} (hparts : ArePartsOf messages)
    (hdata : dataFrames wire = allFragments messages)
    (hcontrols : forall frame, frame ∈ wire -> frame.opcode.isControl = true ->
      (frame.opcode = .ping ∨ frame.opcode = .pong) ∧ frame.fin = true ∧
        frame.payload.length <= 125)
    (hsizes : forall frame, frame ∈ wire ->
      frame.payload.length < 2 ^ 63 ∧ frame.payload.length <= limits.maxFrameSize.toNat)
    (hchunks : chunks.flatten = wire.flatMap fun frame => frame.encode none)
    (awaitingClose : Bool) (listener : ListenerId) :
    let receiver : Receiver :=
      { source := ⟨chunks, some .endOfStream⟩, listener := some listener, awaitingClose }
    exists records, receiver.Hears limits records chunks.flatten [] .endOfStream ∧
      records.map Record.frame = wire ∧ Transcript messages none records := by
  intro receiver
  have hgo := (allGoOn_of_parts fun frame hframe hcontrol =>
    (hcontrols frame hframe hcontrol).left).left messages hparts hdata
  have hkeeps : forall frame, frame ∈ wire -> frame.Keeps limits := by
    intro frame hframe
    exact ⟨fun hcontrol => (hcontrols frame hframe hcontrol).right.left,
      fun hcontrol => (hcontrols frame hframe hcontrol).right.right,
      (hsizes frame hframe).left, (hsizes frame hframe).right⟩
  have hstream : Frame.Stream false wire chunks.flatten := by
    rw [hchunks]
    exact Frame.stream_encode none fun frame hframe =>
      Nat.lt_trans (hsizes frame hframe).left (by decide)
  have htells : receiver.assembly.Tells [] none [] := Assembly.tells_nil
  exact hears_of_allGoOn hgo hstream hkeeps rfl rfl rfl rfl htells

/-- A text cut inside a character and with an empty part, a ping and a pong among its
frames, and octets in one frame. -/
theorem hears_split_character :
    let messages : List (Message × List Bytes) :=
      [(.text "hé", [[0x68, 0xC3], [], [0xA9]]), (.binary [1], [[1]])]
    let wire : List Frame :=
      [⟨false, .text, [0x68, 0xC3]⟩, ⟨true, .ping, []⟩, ⟨false, .continuation, []⟩,
        ⟨true, .pong, [7]⟩, ⟨true, .continuation, [0xA9]⟩, ⟨true, .binary, [1]⟩]
    let receiver : Receiver :=
      { source := ⟨wire.map fun frame => frame.encode none, some .endOfStream⟩, listener := some 0 }
    exists records, receiver.Hears {} records receiver.source.bytes [] .endOfStream ∧
      records.map Record.frame = wire ∧ Transcript messages none records := by
  intro messages wire receiver
  have hcontrols : forall frame, frame ∈ wire -> frame.opcode.isControl = true ->
      (frame.opcode = .ping ∨ frame.opcode = .pong) ∧ frame.fin = true ∧
        frame.payload.length <= 125 := by decide
  have hsizes : forall frame, frame ∈ wire -> frame.payload.length < 2 ^ 63 ∧
      frame.payload.length <= ({} : Limits).maxFrameSize.toNat := by decide +kernel
  exact hears_messages (by decide +kernel) (by decide) hcontrols hsizes rfl false 0

end Receiver

end WebSocketClient
