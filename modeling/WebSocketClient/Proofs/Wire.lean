import WebSocketClient.Proofs.Framing
import WebSocketClient.Proofs.Simulation

/-!
# Octets on the wire

The octets that were handed to the output are the request and then the frames, in
the order in which their writes began.  The stream has a front of them.  A call
that comes back without an error has sent its whole frame, so only the last frame
can be incomplete; and once its write has been given up, nothing but the rest of
it can follow.
-/

namespace WebSocketClient

def Transmission.octetsOf (transmissions : List Transmission) : Bytes :=
  transmissions.flatMap octets

@[simp] theorem Transmission.octetsOf_append (first second : List Transmission) :
    octetsOf (first ++ second) = octetsOf first ++ octetsOf second :=
  List.flatMap_append

@[simp] theorem Transmission.octetsOf_singleton (transmission : Transmission) :
    octetsOf [transmission] = transmission.octets := by
  simp [octetsOf]

theorem Transmission.stream_octetsOf {transmissions : List Transmission}
    (hmasked : forall transmission, transmission ∈ transmissions -> transmission.mask.isSome = true)
    (hlength : forall transmission, transmission ∈ transmissions ->
      transmission.frame.payload.length < 2 ^ 64) :
    Frame.Stream true (transmissions.map frame) (octetsOf transmissions) := by
  induction transmissions with
  | nil => exact .nil
  | cons transmission rest ih =>
      have hlaid := Frame.laidOut_encode (hlength transmission List.mem_cons_self) transmission.mask
      exact .cons hlaid (hmasked transmission List.mem_cons_self)
        (ih (fun other hmem => hmasked other (List.mem_cons_of_mem _ hmem))
          fun other hmem => hlength other (List.mem_cons_of_mem _ hmem))

namespace Outline

open Transmission

def due (outline : Outline) : Bytes :=
  outline.request ++ octetsOf outline.transmissions

theorem unsent_of_held {outline : Outline} {writer : FrameWriter}
    (hheld : outline.held = some writer) :
    outline.unsent = writer.output.buffer ++ outline.rest := by
  simp [unsent, hheld]

theorem unsent_of_writer {outline : Outline} {writer : FrameWriter}
    (hheld : outline.held = none) (hwriter : outline.writer = some writer) :
    outline.unsent = writer.output.buffer ++ outline.rest := by
  simp [unsent, hheld, hwriter]

theorem buffer_eq_nil {outline : Outline} {buffer : Bytes}
    (hsplit : outline.unsent = buffer ++ outline.rest) (hunsent : outline.unsent = []) :
    buffer = [] := by
  rw [hsplit] at hunsent
  exact (List.append_eq_nil_iff.mp hunsent).left

/-- The stream has a front of what is due, and the rest is under way until the
connection is closed. -/
structure Wired (outline : Outline) : Prop where
  conserved : outline.sink.content ++ outline.unsent <+: outline.due
  whole : outline.state ≠ .closed -> outline.state ≠ .disconnected ->
    outline.sink.content ++ outline.unsent = outline.due
  flushed : outline.task = .free ∨ outline.task = .awaitingAnswer -> outline.state ≠ .closed ->
    outline.unsent = []
  settled : outline.audience.isSome = true ->
    outline.request ++ octetsOf outline.settled <+: outline.sink.content

/-- A frame that is being written is the only one that is not settled. -/
structure Lined (outline : Outline) : Prop where
  tail : exists last : Option Transmission, outline.transmissions = outline.settled ++ last.toList
  between : outline.task = .free -> outline.state ≠ .closed ->
    outline.transmissions = outline.settled
  during : (exists after, outline.task = .sending after) ∨ outline.task = .farewell ->
    exists last, outline.transmissions = outline.settled ++ [last]
  returns : outline.audience.isSome = true -> outline.returns = outline.settled.length + 1

/-!
## The queue of frames
-/

theorem Lined.of_unopened {outline : Outline} (hunopened : outline.Unopened)
    (htask : (forall after, outline.task ≠ .sending after) ∧ outline.task ≠ .farewell) :
    outline.Lined where
  tail := ⟨none, by simp [hunopened.transmissions, hunopened.settled]⟩
  between _ _ := by rw [hunopened.transmissions, hunopened.settled]
  during hduring := by
    rcases hduring with ⟨after, hsending⟩ | hfarewell
    · exact absurd hsending (htask.left after)
    · exact absurd hfarewell htask.right
  returns haudience := by simp [hunopened.audience] at haudience

theorem Lined.begin {outline : Outline} (hlined : outline.Lined) (htask : outline.task = .free)
    (hstate : outline.state ≠ .closed) (last : Transmission) :
    outline.transmissions ++ [last] = outline.settled ++ [last] := by
  rw [hlined.between htask hstate]

/-- On a connection that is not closed, a frame that is not settled is being
written. -/
theorem Lined.writing {outline : Outline} (hlined : outline.Lined) (hstage : outline.Stage)
    (hunsettled : outline.transmissions ≠ outline.settled) (hopen : outline.state ≠ .closed) :
    (exists after, outline.task = .sending after) ∨ outline.task = .farewell := by
  cases hstage with
  | idle _ hfree _ _ => exact absurd (hlined.between hfree hopen) hunsettled
  | opening _ _ _ _ hunopened =>
      exact absurd (hunopened.transmissions.trans hunopened.settled.symm) hunsettled
  | live hlive _ _ _ _ _ =>
      cases htask : outline.task with
      | free => exact absurd (hlined.between htask hopen) hunsettled
      | sending after => exact Or.inl ⟨after, rfl⟩
      | farewell => exact Or.inr rfl
      | _ => cases hstate : outline.state <;> simp [htask, hstate, IsLive] at hlive
  | leaving hclosed _ _ _ _ _ _ => exact absurd hclosed hopen
  | gone hclosed _ _ _ _ _ => exact absurd hclosed hopen

theorem lined_change {old new : Outline} (hstage : old.Stage)
    (hchange : Change old new) (hlined : old.Lined) : new.Lined := by
  have hnew := stage_change hstage hchange
  cases hchange with
  | nothing => exact hlined
  | register listener _ _ => exact { hlined with }
  | treatWrites policy flush => exact { hlined with }
  | ask htask hstate hrole hbuffer =>
      exact .of_unopened (opening_of_task hnew (Or.inl rfl)).right.left (by simp)
  | asked htask hunsent =>
      exact .of_unopened (opening_of_task hnew (Or.inr rfl)).right.left (by simp)
  | failOpening htask hcontent =>
      exact .of_unopened (unopened_of_disconnected hnew rfl) (by simp)
  | opened htask =>
      rcases opening_of_task hstage (Or.inr htask) with ⟨_, hunopened, _⟩
      constructor
      · exact ⟨none, by simp [hunopened.transmissions, hunopened.settled]⟩
      · intro _ _
        simp [hunopened.transmissions, hunopened.settled]
      · simp
      · intro _
        simp [hunopened.transmissions, hunopened.settled, hunopened.returns]
  | carryHeld htask hheld hrest hstep => exact { hlined with }
  | carry htask hheld hwriter hrest hstep => exact { hlined with }
  | @begin call payload frame after writer htask hstate hwriter hpayload hframe =>
      have hbegin := hlined.begin htask (by simp [hstate]) ⟨some call, frame, writer.nextKey⟩
      constructor
      · exact ⟨some _, hbegin⟩
      · intro hfree _
        cases hfree
      · intro _
        exact ⟨_, hbegin⟩
      · exact hlined.returns
  | @sent after htask hunsent =>
      rcases hlined.during (Or.inl ⟨after, htask⟩) with ⟨last, hlast⟩
      have hsettled : old.transmissions = old.settled ++ old.transmissions.getLast?.toList := by
        simp [hlast]
      constructor
      · exact ⟨none, by simpa using hsettled⟩
      · intro _ _
        exact hsettled
      · simp
      · intro haudience
        simp [hlined.returns haudience, hlast]
  | fall htask hheld hwriter hfailure =>
      exact ⟨hlined.tail, by simp, by simp, hlined.returns⟩
  | @beginFarewell payload state writer htask hwriter hstate hlength =>
      have hopen : old.state ≠ .closed := by
        rcases hstate with ⟨hstate, _⟩ | ⟨hstate | hstate, _⟩ <;> simp [hstate]
      have hbegin := hlined.begin htask hopen ⟨none, ⟨true, .close, payload⟩, writer.nextKey⟩
      constructor
      · exact ⟨some _, hbegin⟩
      · intro hfree _
        cases hfree
      · intro _
        exact ⟨_, hbegin⟩
      · exact hlined.returns
  | leave htask hwriter hcontent => exact ⟨hlined.tail, by simp, by simp, hlined.returns⟩
  | abandon htask hcontent =>
      have hclosed := (leaving_of_task hstage htask).left
      exact ⟨hlined.tail, by simp [hclosed], by simp, hlined.returns⟩
  | part htask hcontent =>
      have hclosed := (leaving_of_task hstage htask).left
      exact ⟨hlined.tail, by simp [hclosed], by simp, hlined.returns⟩
  | parted hparting => exact { hlined with }
  | receive haudience hparting hnews => exact { hlined with }
  | tell haudience hnews => exact { hlined with }

/-!
## The octets of the queue
-/

/-- A write that has sent everything has sent everything that is due. -/
theorem Wired.content_eq_due {outline : Outline} (hwired : outline.Wired)
    (hclosed : outline.state ≠ .closed) (hdisconnected : outline.state ≠ .disconnected)
    (hunsent : outline.unsent = []) : outline.sink.content = outline.due := by
  have hwhole := hwired.whole hclosed hdisconnected
  rw [hunsent, List.append_nil] at hwhole
  exact hwhole

theorem Wired.content_prefix {outline : Outline} (hwired : outline.Wired) :
    outline.sink.content <+: outline.due :=
  (List.prefix_append ..).trans hwired.conserved

theorem Wired.carry {old new : Outline} (hwired : old.Wired)
    (hcontent : new.sink.content ++ new.unsent = old.sink.content ++ old.unsent)
    (hinit : old.sink.content <+: new.sink.content) (hdue : new.due = old.due)
    (hstate : new.state = old.state) (hbusy : new.task ≠ .free ∧ new.task ≠ .awaitingAnswer)
    (hrequest : new.request = old.request) (hsettled : new.settled = old.settled)
    (haudience : new.audience = old.audience) : new.Wired where
  conserved := by
    rw [hcontent, hdue]
    exact hwired.conserved
  whole hclosed hdisconnected := by
    rw [hstate] at hclosed hdisconnected
    rw [hcontent, hdue]
    exact hwired.whole hclosed hdisconnected
  flushed htask _ := by
    rcases htask with htask | htask
    · exact absurd htask hbusy.left
    · exact absurd htask hbusy.right
  settled hsome := by
    rw [haudience] at hsome
    rw [hrequest, hsettled]
    exact (hwired.settled hsome).trans hinit

theorem Wired.flush {old new : Outline} (hwired : old.Wired)
    (hopen : old.state ≠ .closed ∧ old.state ≠ .disconnected) (hold : old.unsent = [])
    (hnew : new.unsent = []) (hcontent : new.sink.content = old.sink.content)
    (hdue : new.due = old.due)
    (hsettled : new.audience.isSome = true -> new.request ++ octetsOf new.settled = new.due) :
    new.Wired := by
  have hwhole : new.sink.content ++ new.unsent = new.due := by
    rw [hnew, List.append_nil, hcontent, hdue]
    exact hwired.content_eq_due hopen.left hopen.right hold
  constructor
  · exact hwhole ▸ List.prefix_refl _
  · intro _ _
    exact hwhole
  · intro _ _
    exact hnew
  · intro haudience
    have hsent : new.request ++ octetsOf new.settled = new.sink.content := by
      rw [hsettled haudience, ← hwhole, hnew, List.append_nil]
    exact hsent ▸ List.prefix_refl _

theorem Wired.begin {outline : Outline} (hwired : outline.Wired) (hstage : outline.Stage)
    {writer : FrameWriter} (hwriter : outline.writer = some writer)
    (htask : outline.task = .free) (state : ConnectionState) {task : Task}
    (hbusy : task ≠ .free ∧ task ≠ .awaitingAnswer) (call : Option Call) (frame : Frame) :
    Wired { outline with
      state := state, task := task, writer := some (writer.start frame).2
      rest := frame.encode writer.nextKey
      transmissions := outline.transmissions ++ [⟨call, frame, writer.nextKey⟩] } := by
  rcases live_of_writer hstage hwriter with ⟨hlive, _, hheld, _, _⟩
  have hopen := hlive.ne_closed
  have hunsent := hwired.flushed (Or.inl htask) hopen.left
  have hbuffer := buffer_eq_nil (unsent_of_writer hheld hwriter) hunsent
  have hwhole : outline.sink.content ++ frame.encode writer.nextKey =
      outline.request ++ octetsOf (outline.transmissions ++ [⟨call, frame, writer.nextKey⟩]) := by
    rw [hwired.content_eq_due hopen.left hopen.right hunsent]
    simp [due, octets]
  have hunsent' : unsent { outline with
      state := state, task := task, writer := some (writer.start frame).2
      rest := frame.encode writer.nextKey
      transmissions := outline.transmissions ++ [⟨call, frame, writer.nextKey⟩] } =
      frame.encode writer.nextKey := by
    simp [unsent, hheld, hbuffer]
  constructor
  · rw [hunsent']
    exact hwhole ▸ List.prefix_refl _
  · intro _ _
    rw [hunsent']
    exact hwhole
  · intro hfree
    simp [hbusy] at hfree
  · exact hwired.settled

theorem Wired.close {old new : Outline} (hwired : old.Wired)
    (hcontent : new.sink.content = old.sink.content) (hunsent : new.unsent <+: old.unsent)
    (hdue : new.due = old.due) (hstate : new.state = .closed)
    (hrequest : new.request = old.request) (hsettled : new.settled = old.settled)
    (haudience : new.audience = old.audience) : new.Wired where
  conserved := by
    rw [hcontent, hdue]
    exact ((List.prefix_append_right_inj _).mpr hunsent).trans hwired.conserved
  whole hclosed := absurd hstate hclosed
  flushed _ hclosed := absurd hstate hclosed
  settled hsome := by
    rw [haudience] at hsome
    rw [hrequest, hsettled, hcontent]
    exact hwired.settled hsome

theorem wired_change {old new : Outline} (hstage : old.Stage)
    (hchange : Change old new) (hlined : old.Lined) (hwired : old.Wired) :
    new.Wired := by
  have hnew := stage_change hstage hchange
  cases hchange with
  | nothing => exact hwired
  | register listener _ _ => exact { hwired with }
  | treatWrites policy flush => exact { hwired with }
  | @ask writer request policy flush htask hstate hrole hbuffer =>
      have hunopened := unopened_of_disconnected hstage hstate
      have hdue : ([] : Bytes) ++ (writer.output.buffer ++ request) =
          request ++ octetsOf old.transmissions := by
        simp [hbuffer, hunopened.transmissions, octetsOf]
      constructor
      · exact hdue ▸ List.prefix_refl _
      · intro _ _
        exact hdue
      · simp
      · simp [hunopened.audience]
  | asked htask hunsent =>
      rcases opening_of_task hstage (Or.inl htask) with ⟨hstate, hunopened, writer, hheld, _⟩
      have hbuffer := buffer_eq_nil (unsent_of_held hheld) hunsent
      refine hwired.flush (by simp [hstate]) hunsent ?_ rfl rfl ?_
      · simp [unsent, hheld, hbuffer]
      · intro haudience
        rw [hunopened.audience] at haudience
        cases haudience
  | @failOpening sink htask hcontent =>
      have hunopened := unopened_of_disconnected hnew rfl
      have hunsent : unsent { old with
          state := .disconnected, task := .free, held := none, rest := [], sink := sink } = [] := by
        simp [unsent, show old.writer = none from hunopened.writer]
      constructor
      · rw [hunsent, List.append_nil]
        exact hcontent ▸ hwired.content_prefix
      · simp
      · intro _ _
        exact hunsent
      · intro haudience
        rw [hunopened.audience] at haudience
        cases haudience
  | opened htask =>
      rcases opening_of_task hstage (Or.inr htask) with ⟨hstate, hunopened, writer, hheld, _⟩
      have hunsent := hwired.flushed (Or.inr htask) (by simp [hstate])
      refine hwired.flush (by simp [hstate]) hunsent ?_ rfl rfl ?_
      · rw [unsent_of_held hheld] at hunsent
        simpa [unsent, hheld] using hunsent
      · intro _
        simp [due, hunopened.transmissions, hunopened.settled]
  | carryHeld htask hheld hrest hstep =>
      rcases Output.handOver_more hstep with ⟨hcontent, hinit⟩
      refine hwired.carry ?_ hinit rfl rfl ?_ rfl rfl rfl
      · rw [unsent_of_held rfl, unsent_of_held hheld, hrest]
        exact hcontent
      · rcases htask with htask | ⟨byCaller, htask⟩ <;> simp [htask]
  | carry htask hheld hwriter hrest hstep =>
      rcases Output.handOver_more hstep with ⟨hcontent, hinit⟩
      refine hwired.carry ?_ hinit rfl rfl ?_ rfl rfl rfl
      · simpa [unsent, hheld, hwriter, hrest, Output.unsent] using hcontent
      · rcases htask with ⟨after, htask⟩ | htask <;> simp [htask]
  | begin htask hstate hwriter hpayload hframe =>
      exact hwired.begin hstage hwriter htask _ (by simp) _ _
  | @sent after htask hunsent =>
      rcases hlined.during (Or.inl ⟨after, htask⟩) with ⟨last, hlast⟩
      rcases exists_writer_of_sending hstage htask with ⟨writer, hwriter⟩
      rcases live_of_writer hstage hwriter with ⟨hlive, _, hheld, _, _⟩
      refine hwired.flush hlive.ne_closed hunsent ?_ rfl rfl ?_
      · have hbuffer := buffer_eq_nil (unsent_of_writer hheld hwriter) hunsent
        simp [unsent, hheld, hwriter, hbuffer]
      · intro _
        simp [due, hlast]
  | fall htask hheld hwriter hfailure =>
      refine hwired.close hfailure.content_eq ?_ rfl rfl rfl rfl rfl
      rw [unsent_of_held rfl, unsent_of_writer hheld hwriter, List.append_nil]
      exact List.prefix_append ..
  | beginFarewell htask hwriter hstate hlength =>
      exact hwired.begin hstage hwriter htask _ (by simp) _ _
  | leave htask hwriter hcontent =>
      rcases live_of_writer hstage hwriter with ⟨_, _, hheld, _, _⟩
      refine hwired.close hcontent ?_ rfl rfl rfl rfl rfl
      rw [unsent_of_held rfl, unsent_of_writer hheld hwriter, List.append_nil]
      exact List.prefix_append ..
  | abandon htask hcontent =>
      rcases leaving_of_task hstage htask with ⟨hstate, hwriter, _⟩
      refine hwired.close hcontent ?_ rfl hstate rfl rfl rfl
      simp [unsent, hwriter]
  | part htask hcontent =>
      rcases leaving_of_task hstage htask with ⟨hstate, hwriter, _⟩
      refine hwired.close hcontent ?_ rfl hstate rfl rfl rfl
      simp [unsent, hwriter]
  | parted hparting => exact { hwired with }
  | receive haudience hparting hnews => exact { hwired with }
  | tell haudience hnews => exact { hwired with }

/-!
## After the end
-/

/-- What can still happen on the wire once a connection is closed: the shutdown
sends octets that are under way. -/
structure Ebb (old new : Outline) : Prop where
  state : new.state = .closed
  request : new.request = old.request
  transmissions : new.transmissions = old.transmissions
  settled : new.settled = old.settled
  content : old.sink.content <+: new.sink.content
  still : old.task = .free -> new.task = .free ∧ new.sink.content = old.sink.content

theorem Ebb.refl {outline : Outline} (hclosed : outline.state = .closed) : outline.Ebb outline :=
  ⟨hclosed, rfl, rfl, rfl, List.prefix_refl _, fun hfree => And.intro hfree rfl⟩

theorem Ebb.trans {first second third : Outline} (hfirst : first.Ebb second)
    (hsecond : second.Ebb third) : first.Ebb third where
  state := hsecond.state
  request := hsecond.request.trans hfirst.request
  transmissions := hsecond.transmissions.trans hfirst.transmissions
  settled := hsecond.settled.trans hfirst.settled
  content := hfirst.content.trans hsecond.content
  still hfree := by
    have hstill := hfirst.still hfree
    have hstill' := hsecond.still hstill.left
    exact And.intro hstill'.left (hstill'.right.trans hstill.right)

theorem ebb_change {old new : Outline} (hstage : old.Stage)
    (hchange : Change old new) (hclosed : old.state = .closed) : old.Ebb new := by
  have hlive {writer : FrameWriter} (hwriter : old.writer = some writer) : False :=
    (live_of_writer hstage hwriter).left.ne_closed.left hclosed
  cases hchange with
  | nothing => exact .refl hclosed
  | register listener _ _ => exact { Ebb.refl hclosed with }
  | treatWrites policy flush => exact { Ebb.refl hclosed with }
  | parted hparting => exact { Ebb.refl hclosed with }
  | receive haudience hparting hnews => exact { Ebb.refl hclosed with }
  | tell haudience hnews => exact { Ebb.refl hclosed with }
  | carryHeld htask hheld hrest hstep =>
      rcases htask with htask | ⟨byCaller, htask⟩
      · simp [(opening_of_task hstage (Or.inl htask)).left] at hclosed
      · constructor
        · exact hclosed
        · rfl
        · rfl
        · rfl
        · exact (Output.handOver_more hstep).right
        · intro hfree
          simp [htask] at hfree
  | abandon htask hcontent =>
      exact ⟨hclosed, rfl, rfl, rfl, hcontent ▸ List.prefix_refl _, by simp [htask]⟩
  | part htask hcontent =>
      exact ⟨hclosed, rfl, rfl, rfl, hcontent ▸ List.prefix_refl _, by simp [htask]⟩
  | ask htask hstate hrole hbuffer => simp [hclosed] at hstate
  | asked htask hunsent =>
      simp [(opening_of_task hstage (Or.inl htask)).left] at hclosed
  | failOpening htask hcontent =>
      rcases (early_of_task hstage htask).left with hstate | hstate
      · simp [hclosed] at hstate
      · simp [hclosed] at hstate
  | opened htask => simp [(opening_of_task hstage (Or.inr htask)).left] at hclosed
  | carry htask hheld hwriter hrest hstep =>
      exact (hlive hwriter).elim
  | begin htask hstate hwriter hpayload hframe => simp [hclosed] at hstate
  | sent htask hunsent =>
      rcases exists_writer_of_sending hstage htask with ⟨writer, hwriter⟩
      exact (hlive hwriter).elim
  | fall htask hheld hwriter hfailure =>
      exact (hlive hwriter).elim
  | beginFarewell htask hwriter hstate hlength =>
      exact (hlive hwriter).elim
  | leave htask hwriter hcontent =>
      exact (hlive hwriter).elim

/-!
## A stream that is open
-/

structure Grows (old new : Outline) : Prop where
  request : new.request = old.request
  content : old.sink.content <+: new.sink.content

theorem grows_change {old new : Outline} (hstage : old.Stage)
    (hchange : Change old new) (haudience : old.audience.isSome = true) :
    old.Grows new := by
  have hopened := not_unopened haudience
  cases hchange with
  | ask htask hstate _ _ => exact absurd (unopened_of_disconnected hstage hstate) hopened
  | asked htask _ => exact absurd (opening_of_task hstage (Or.inl htask)).right.left hopened
  | failOpening htask _ => exact absurd (early_of_task hstage htask).right hopened
  | opened htask => exact absurd (opening_of_task hstage (Or.inr htask)).right.left hopened
  | carryHeld _ _ _ hstep => exact ⟨rfl, (Output.handOver_more hstep).right⟩
  | carry _ _ _ _ hstep => exact ⟨rfl, (Output.handOver_more hstep).right⟩
  | fall _ _ _ hfailure => exact ⟨rfl, hfailure.content_eq ▸ List.prefix_refl _⟩
  | leave _ _ hcontent => exact ⟨rfl, hcontent ▸ List.prefix_refl _⟩
  | abandon _ hcontent => exact ⟨rfl, hcontent ▸ List.prefix_refl _⟩
  | part _ hcontent => exact ⟨rfl, hcontent ▸ List.prefix_refl _⟩
  | _ => exact ⟨rfl, List.prefix_refl _⟩

end Outline

/-!
## Any moves
-/

namespace Connection

open Transmission

def isWriting (connection : Connection) : Bool :=
  match connection.holder with
  | some (.sending _ _) | some (.farewell _ _) => true
  | _ => false

def isLeaving (connection : Connection) : Bool :=
  match connection.holder with
  | some (.leaving _ _ _ _) => true
  | _ => false

theorem wire_invariant {connection : Connection} (hreachable : connection.Reachable) :
    connection.outline.Lined ∧ connection.outline.Wired := by
  refine (@outline_invariant (fun outline => outline.Lined ∧ outline.Wired) ?_ ?_ _
    hreachable).right
  · intro config offered listener
    refine And.intro (.of_unopened ⟨rfl, rfl, rfl, rfl, rfl, rfl, rfl, rfl, rfl⟩
      (by simp [outline, fresh])) ?_
    constructor <;> simp [outline, fresh, Outline.unsent, Sink.content]
  · intro old new hstage hchange hboth
    exact And.intro (Outline.lined_change hstage hchange hboth.left)
      (Outline.wired_change hstage hchange hboth.left hboth.right)

theorem ebb_play {connection : Connection} (hreachable : connection.Reachable)
    (hclosed : connection.outline.state = .closed) (moves : List Move) :
    connection.outline.Ebb (connection.play moves).outline := by
  induction moves generalizing connection with
  | nil => exact .refl hclosed
  | cons next rest ih =>
      have hstage := stage_of_reachable hreachable
      have hebb := Outline.ebb_change hstage (change_of_move hstage next) hclosed
      exact hebb.trans (ih (hreachable.play [next]) hebb.state)

/-- Once there is a receiver, the stream keeps what it has. -/
theorem grows_play {connection : Connection} (hreachable : connection.Reachable)
    (hreceiver : connection.receiver.isSome = true) (moves : List Move) :
    connection.outline.Grows (connection.play moves).outline := by
  induction moves generalizing connection with
  | nil => exact ⟨rfl, List.prefix_refl _⟩
  | cons next rest ih =>
      have hstage := stage_of_reachable hreachable
      have hchange := change_of_move hstage next
      rcases Option.isSome_iff_exists.mp hreceiver with ⟨receiver, hsome⟩
      have haudience : connection.outline.audience = some receiver.listener := by
        simp [outline, hsome]
      have hnext := Outline.grows_change hstage hchange (haudience ▸ rfl)
      have haudience' := Outline.audience_change hstage hchange haudience
      have hreceiver' : (connection.move next).receiver.isSome = true := by
        simpa [outline] using congrArg Option.isSome haudience'
      have hrest := ih (hreachable.play [next]) hreceiver'
      exact ⟨hrest.request.trans hnext.request, hnext.content.trans hrest.content⟩

theorem not_writing_of_isWriting {connection : Connection}
    (hwriting : connection.isWriting = false) :
    (forall after, connection.outline.task ≠ .sending after) ∧
      connection.outline.task ≠ .farewell := by
  cases hholder : connection.holder with
  | none => simp [outline, hholder]
  | some holder =>
      cases holder <;> simp [isWriting, hholder] at hwriting <;>
        simp [outline, hholder, Holder.task]

/-- A frame that nobody writes any more and that is not settled has been given
up. -/
theorem closed_of_unsettled {connection : Connection} (hreachable : connection.Reachable)
    (hwriting : connection.isWriting = false)
    (hunsettled : connection.transmissions ≠ connection.settled) :
    connection.outline.state = .closed := by
  have hlined := (wire_invariant hreachable).left
  apply Decidable.byContradiction
  intro hopen
  have htask := not_writing_of_isWriting hwriting
  have hstage := stage_of_reachable hreachable
  rcases hlined.writing hstage hunsettled hopen with ⟨after, hsending⟩ | hfarewell
  · exact htask.left after hsending
  · exact htask.right hfarewell

theorem free_of_isLeaving {connection : Connection} (hreachable : connection.Reachable)
    (hclosed : connection.outline.state = .closed) (hleaving : connection.isLeaving = false) :
    connection.outline.task = .free := by
  cases stage_of_reachable hreachable with
  | idle hstate _ _ _ => simp [hclosed] at hstate
  | opening hstate _ _ _ _ => simp [hclosed] at hstate
  | live hlive _ _ _ _ _ => exact absurd hclosed hlive.ne_closed.left
  | leaving _ htask _ _ _ _ _ =>
      cases hholder : connection.holder with
      | none => simp [outline, hholder] at htask
      | some holder =>
          cases holder <;> simp [isLeaving, hholder] at hleaving <;>
            simp [outline, hholder, Holder.task] at htask
  | gone _ htask _ _ _ _ => exact htask

/-- The octets on the stream after the request are those of the settled frames
and of a front of the last frame.  Once nobody writes that frame any more, the
shutdown may send more of it, and nothing else follows. -/
theorem wire_of_reachable {connection : Connection} (hreachable : connection.Reachable)
    (hconnected : connection.receiver.isSome = true) :
    connection.sink.content <+: connection.request ++ octetsOf connection.transmissions ∧
      exists (last : Option Transmission) (front : Bytes),
        connection.transmissions = connection.settled ++ last.toList ∧
        connection.returns = connection.settled.length + 1 ∧
        connection.sink.content = connection.request ++ (octetsOf connection.settled ++ front) ∧
        front <+: octetsOf last.toList ∧
        (connection.isWriting = false -> last.isSome = true -> forall moves,
          (connection.play moves).transmissions = connection.transmissions ∧
            exists more, (connection.play moves).sink.content = connection.sink.content ++ more ∧
              front ++ more <+: octetsOf last.toList ∧
              (connection.isLeaving = false -> more = [])) := by
  rcases wire_invariant hreachable with ⟨hlined, hwired⟩
  have haudience : connection.outline.audience.isSome = true := by
    simpa [outline] using hconnected
  rcases hlined.tail with ⟨last, hlast⟩
  rcases hwired.settled haudience with ⟨front, hfront⟩
  have hcontent : connection.sink.content =
      connection.request ++ (octetsOf connection.settled ++ front) := by
    rw [← List.append_assoc]
    exact hfront.symm
  -- What is due starts with the request and the settled frames, too.
  have hdue : connection.outline.due = connection.request ++
      (octetsOf connection.settled ++ octetsOf last.toList) := by
    rw [Outline.due, hlast, octetsOf_append]
    rfl
  have hwithin {more : Bytes} (hinit : connection.sink.content ++ more <+:
      connection.outline.due) : front ++ more <+: octetsOf last.toList := by
    rw [hdue, hcontent] at hinit
    simpa [List.append_assoc, List.prefix_append_right_inj] using hinit
  refine And.intro hwired.content_prefix ⟨last, front, hlast, hlined.returns haudience, hcontent,
    ?_, ?_⟩
  · have hinit := hwired.content_prefix
    rw [← List.append_nil front]
    apply hwithin
    rw [List.append_nil]
    exact hinit
  · intro hwriting hsome moves
    have hunsettled : connection.transmissions ≠ connection.settled := by
      rcases Option.isSome_iff_exists.mp hsome with ⟨frame, rfl⟩
      intro hsame
      have hlast' : connection.transmissions = connection.settled ++ [frame] := hlast
      rw [hsame] at hlast'
      simp at hlast'
    have hclosed := closed_of_unsettled hreachable hwriting hunsettled
    have hebb := ebb_play hreachable hclosed moves
    have hlater := (wire_invariant (hreachable.play moves)).right.content_prefix
    rcases hebb.content with ⟨more, hmore⟩
    refine And.intro hebb.transmissions ⟨more, hmore.symm, ?_, ?_⟩
    · apply hwithin
      have hsame : (connection.play moves).outline.due = connection.outline.due := by
        rw [Outline.due, hebb.request, hebb.transmissions]
        rfl
      rw [← hsame]
      exact hmore ▸ hlater
    · intro hleaving
      have hstill := (hebb.still (free_of_isLeaving hreachable hclosed hleaving)).right
      rw [← hmore] at hstill
      simpa using hstill

/-- A ping of which the stream takes seven octets; the shutdown cannot send the
rest. -/
def cutMoves : List Move :=
  [.treatWrites (.failingAfter 7 "broken pipe") .flushed, .call (.ping [1, 2, 3]), .hold, .hold,
    .hold]

theorem wire_of_cut_ping :
    (sample.play cutMoves).isWriting = false ∧
      (sample.play cutMoves).transmissions ≠ (sample.play cutMoves).settled ∧
      (sample.play cutMoves).sink.content <+:
        (sample.play cutMoves).request ++ octetsOf (sample.play cutMoves).transmissions := by
  have hreachable := sample_steadilyReachable.reachable.play cutMoves
  exact ⟨by decide +kernel, by decide +kernel,
    (wire_of_reachable hreachable (by decide +kernel)).left⟩

end Connection

end WebSocketClient
