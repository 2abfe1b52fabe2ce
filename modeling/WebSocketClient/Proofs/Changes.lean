import WebSocketClient.Proofs.Outline
import WebSocketClient.Proofs.Output

/-!
# Changes

An outline changes in a few ways only, and every move of a connection is one of
them.  So a law of the outline is proved change by change and holds after any
moves.
-/

namespace WebSocketClient

namespace FrameWriter

@[simp] theorem role_start (writer : FrameWriter) (frame : Frame) :
    (writer.start frame).2.role = writer.role := by
  cases hmask : writer.role.mustMask <;> simp [start, hmask]

@[simp] theorem output_start (writer : FrameWriter) (frame : Frame) :
    (writer.start frame).2.output = writer.output := by
  cases hmask : writer.role.mustMask <;> simp [start, hmask]

end FrameWriter

namespace Outline

/-!
## Changes
-/

/-- What one move can do to an outline. -/
inductive Change (old : Outline) : Outline -> Prop
  | nothing : Change old old
  | register (listener : ListenerId) :
      old.task ≠ .requesting -> old.task ≠ .awaitingAnswer ->
      Change old { old with registered := some listener }
  | treatWrites (policy : WritePolicy) (flush : FlushAnswer) :
      Change old { old with
        sink := { old.sink with policy := policy, flush := flush } }
  /-- A caller starts an opening handshake. -/
  | ask {writer : FrameWriter} {request : Bytes} {policy : WritePolicy} {flush : FlushAnswer} :
      old.task = .free -> old.state = .disconnected ->
      writer.role = .client -> writer.output.buffer = [] ->
      Change old { old with
        state := .connecting, task := .requesting, held := some writer, rest := request,
        sink := { policy := policy, flush := flush }, request := request }
  /-- The request has reached the stream. -/
  | asked : old.task = .requesting -> old.unsent = [] ->
      Change old { old with task := .awaitingAnswer, rest := [] }
  /-- The opening handshake fails, perhaps for want of a stream. -/
  | failOpening {sink : Sink} :
      old.task = .requesting ∨ old.task = .awaitingAnswer ∨
        old.task = .free ∧ old.state = .disconnected ->
      sink.content = old.sink.content ->
      Change old { old with
        state := .disconnected, task := .free, held := none, rest := [], sink := sink }
  /-- The opening handshake is complete. -/
  | opened : old.task = .awaitingAnswer ->
      Change old { old with
        state := .opened, task := .free, writer := old.held, held := none
        owed := old.registered, audience := some old.registered, news := none, parting := none
        settled := old.settled ++ old.transmissions.getLast?.toList
        returns := old.returns + 1
        callbacks := old.callbacks ++ (old.registered.map fun id => (id, .connected)).toList }
  /-- A step of a write that the holder of the lock has taken the writer for. -/
  | carryHeld {writer : FrameWriter} {output : Output} {sink : Sink} {writing writing' : Writing} :
      old.task = .requesting ∨ (exists byCaller, old.task = .leaving byCaller) ->
      old.held = some writer -> old.rest = writing.rest ->
      writer.output.handOver old.sink writing = .more output sink writing' ->
      Change old { old with
        held := some { writer with output := output }, rest := writing'.rest, sink := sink }
  /-- A step of a frame. -/
  | carry {writer : FrameWriter} {output : Output} {sink : Sink} {writing writing' : Writing} :
      (exists after, old.task = .sending after) ∨ old.task = .farewell ->
      old.held = none -> old.writer = some writer -> old.rest = writing.rest ->
      writer.output.handOver old.sink writing = .more output sink writing' ->
      Change old { old with
        writer := some { writer with output := output }, rest := writing'.rest, sink := sink }
  /-- A call starts to write its frame. -/
  | begin {call : Call} {payload : Bytes} {frame : Frame} {after : Bool} {writer : FrameWriter} :
      old.task = .free -> old.state = .opened -> old.writer = some writer ->
      call.payload = .ok payload -> call.frame payload old.streaming = .ok (frame, after) ->
      Change old { old with
        state := if frame.opcode = .close then .closingLocal else .opened
        task := .sending after, writer := some (writer.start frame).2
        rest := frame.encode writer.nextKey
        transmissions := old.transmissions ++ [⟨some call, frame, writer.nextKey⟩] }
  /-- A call has sent its frame. -/
  | sent {after : Bool} : old.task = .sending after -> old.unsent = [] ->
      Change old { old with
        task := .free, streaming := after, rest := []
        settled := old.settled ++ old.transmissions.getLast?.toList
        returns := old.returns + 1 }
  /-- A call's frame fails, and the call starts to tear the connection down. -/
  | fall {after : Bool} {writer : FrameWriter} {sink : Sink} :
      old.task = .sending after -> old.held = none -> old.writer = some writer ->
      Output.Failure old.unsent old.sink sink ->
      Change old { old with
        state := .closed, task := .leaving true, streaming := false, writer := none
        held := some writer, rest := [], sink := sink }
  /-- The receiver starts to write a close frame. -/
  | beginFarewell {payload : Bytes} {state : ConnectionState} {writer : FrameWriter} :
      old.task = .free -> old.writer = some writer ->
      old.state = .opened ∧ state = .opened ∨
        (old.state = .opened ∨ old.state = .closingLocal) ∧ state = .closingRemote ->
      payload.length <= maxControlPayload ->
      Change old { old with
        state := state, task := .farewell, writer := some (writer.start ⟨true, .close, payload⟩).2
        rest := Frame.encode ⟨true, .close, payload⟩ writer.nextKey
        transmissions := old.transmissions ++ [⟨none, ⟨true, .close, payload⟩, writer.nextKey⟩] }
  /-- The receiver starts to tear the connection down, with or without a close
  frame before. -/
  | leave {writer : FrameWriter} {sink : Sink} :
      old.task = .farewell ∨
        old.task = .free ∧ (old.state = .opened ∨ old.state = .closingLocal) ->
      old.writer = some writer -> sink.content = old.sink.content ->
      Change old { old with
        state := .closed, task := .leaving false, streaming := false, writer := none
        held := some writer, rest := [], sink := sink }
  /-- A caller has torn the connection down. -/
  | abandon {sink : Sink} : old.task = .leaving true -> sink.content = old.sink.content ->
      Change old { old with
        task := .free, held := none, rest := [], sink := sink, owed := none
        callbacks := old.callbacks ++ (old.owed.map fun id => (id, .closed)).toList }
  /-- The receiver has torn the connection down. -/
  | part {sink : Sink} : old.task = .leaving false -> sink.content = old.sink.content ->
      Change old { old with
        task := .free, held := none, rest := [], sink := sink, owed := none
        news := none, parting := old.owed }
  /-- The receiver tells its listener of the end. -/
  | parted {listener : ListenerId} : old.parting = some listener ->
      Change old { old with
        parting := none, callbacks := old.callbacks ++ [(listener, .closed)] }
  /-- The receiver goes on in its loop. -/
  | receive {news : Option Event} : old.audience.isSome = true -> old.parting = none ->
      (forall event, news = some event -> event.isNews = true) ->
      Change old { old with news := news }
  /-- The receiver tells its listener what the server sent. -/
  | tell {listener : Option ListenerId} {event : Event} :
      old.audience = some listener -> old.news = some event ->
      Change old { old with
        news := none
        callbacks := old.callbacks ++ (listener.map fun id => (id, event)).toList }

end Outline

/-!
## Stages

A connection goes from one stage to the next and never back, except that a
failed opening handshake leads back to the first.
-/

namespace Outline

structure Unopened (outline : Outline) : Prop where
  writer : outline.writer = none
  audience : outline.audience = none
  owed : outline.owed = none
  news : outline.news = none
  parting : outline.parting = none
  transmissions : outline.transmissions = []
  settled : outline.settled = []
  returns : outline.returns = 0
  callbacks : outline.callbacks = []

def IsLive : ConnectionState -> Task -> Prop
  | .opened, .free | .closingLocal, .free => True
  | .opened, .sending _ | .closingLocal, .sending _ => True
  | .opened, .farewell | .closingRemote, .farewell => True
  | _, _ => False

theorem IsLive.ne_closed {state : ConnectionState} {task : Task} (hlive : IsLive state task) :
    state ≠ .closed ∧ state ≠ .disconnected := by
  constructor
  · rintro rfl
    exact hlive
  · rintro rfl
    exact hlive

inductive Stage (outline : Outline) : Prop
  | idle : outline.state = .disconnected -> outline.task = .free -> outline.held = none ->
      outline.Unopened -> Stage outline
  | opening {writer : FrameWriter} : outline.state = .connecting ->
      outline.task = .requesting ∨ outline.task = .awaitingAnswer ->
      outline.held = some writer -> writer.role = .client -> outline.Unopened -> Stage outline
  | live {writer : FrameWriter} : IsLive outline.state outline.task ->
      outline.writer = some writer -> writer.role = .client -> outline.held = none ->
      outline.audience = some outline.owed -> outline.parting = none -> Stage outline
  | leaving {writer : FrameWriter} {byCaller : Bool} : outline.state = .closed ->
      outline.task = .leaving byCaller -> outline.held = some writer -> writer.role = .client ->
      outline.writer = none -> outline.audience = some outline.owed -> outline.parting = none ->
      Stage outline
  | gone {listener : Option ListenerId} : outline.state = .closed -> outline.task = .free ->
      outline.held = none -> outline.writer = none -> outline.owed = none ->
      outline.audience = some listener -> Stage outline

section Stage

variable {outline : Outline}

theorem opening_of_task (hstage : outline.Stage)
    (htask : outline.task = .requesting ∨ outline.task = .awaitingAnswer) :
    outline.state = .connecting ∧ outline.Unopened ∧
      exists writer, outline.held = some writer ∧ writer.role = .client := by
  cases hstage with
  | opening hstate _ hheld hrole hunopened =>
      exact And.intro hstate ⟨hunopened, _, hheld, hrole⟩
  | idle _ hother _ _ => simp [hother] at htask
  | live hlive _ _ _ _ _ => rcases htask with htask | htask <;> simp [htask, IsLive] at hlive
  | leaving _ hother _ _ _ _ _ => simp [hother] at htask
  | gone _ hother _ _ _ _ => simp [hother] at htask

theorem task_of_connecting (hstage : outline.Stage) (hstate : outline.state = .connecting) :
    outline.task = .requesting ∨ outline.task = .awaitingAnswer := by
  cases hstage with
  | opening _ htask _ _ _ => exact htask
  | idle hother _ _ _ => simp [hstate] at hother
  | live hlive _ _ _ _ _ => simp [hstate, IsLive] at hlive
  | leaving hother _ _ _ _ _ _ => simp [hstate] at hother
  | gone hother _ _ _ _ _ => simp [hstate] at hother

theorem live_of_writer (hstage : outline.Stage) {writer : FrameWriter}
    (hwriter : outline.writer = some writer) :
    IsLive outline.state outline.task ∧ writer.role = .client ∧ outline.held = none ∧
      outline.audience = some outline.owed ∧ outline.parting = none := by
  cases hstage with
  | live hlive hother hrole hheld haudience hparting =>
      rw [hwriter] at hother
      cases hother
      exact ⟨hlive, hrole, hheld, haudience, hparting⟩
  | idle _ _ _ hunopened => simp [hunopened.writer] at hwriter
  | opening _ _ _ _ hunopened => simp [hunopened.writer] at hwriter
  | leaving _ _ _ _ hnone _ _ => simp [hnone] at hwriter
  | gone _ _ _ hnone _ _ => simp [hnone] at hwriter

theorem exists_writer_of_sending (hstage : outline.Stage) {after : Bool}
    (htask : outline.task = .sending after) : exists writer, outline.writer = some writer := by
  cases hstage with
  | live _ hwriter _ _ _ _ => exact ⟨_, hwriter⟩
  | idle _ hother _ _ => simp [htask] at hother
  | opening _ hother _ _ _ => simp [htask] at hother
  | leaving _ hother _ _ _ _ _ => simp [htask] at hother
  | gone _ hother _ _ _ _ => simp [htask] at hother

theorem leaving_of_task (hstage : outline.Stage) {byCaller : Bool}
    (htask : outline.task = .leaving byCaller) :
    outline.state = .closed ∧ outline.writer = none ∧ outline.audience = some outline.owed ∧
      outline.parting = none ∧
        exists writer, outline.held = some writer ∧ writer.role = .client := by
  cases hstage with
  | leaving hstate _ hheld hrole hwriter haudience hparting =>
      exact ⟨hstate, hwriter, haudience, hparting, _, hheld, hrole⟩
  | idle _ hother _ _ => simp [htask] at hother
  | opening _ hother _ _ _ => simp [htask] at hother
  | live hlive _ _ _ _ _ => simp [htask, IsLive] at hlive
  | gone _ hother _ _ _ _ => simp [htask] at hother

theorem unopened_of_disconnected (hstage : outline.Stage) (hstate : outline.state = .disconnected) :
    outline.Unopened := by
  cases hstage with
  | idle _ _ _ hunopened => exact hunopened
  | opening hother _ _ _ _ => simp [hstate] at hother
  | live hlive _ _ _ _ _ => simp [hstate, IsLive] at hlive
  | leaving hother _ _ _ _ _ _ => simp [hstate] at hother
  | gone hother _ _ _ _ _ => simp [hstate] at hother

theorem early_of_task (hstage : outline.Stage)
    (htask : outline.task = .requesting ∨ outline.task = .awaitingAnswer ∨
      outline.task = .free ∧ outline.state = .disconnected) :
    (outline.state = .connecting ∨ outline.state = .disconnected) ∧ outline.Unopened := by
  rcases htask with htask | htask | ⟨_, hstate⟩
  · rcases opening_of_task hstage (Or.inl htask) with ⟨hstate, hunopened, _⟩
    exact And.intro (Or.inl hstate) hunopened
  · rcases opening_of_task hstage (Or.inr htask) with ⟨hstate, hunopened, _⟩
    exact And.intro (Or.inl hstate) hunopened
  · exact And.intro (Or.inr hstate) (unopened_of_disconnected hstage hstate)

/-- The stage shows in a part of the outline only. -/
theorem stage_frame {new : Outline} (hstage : outline.Stage) (hstate : new.state = outline.state)
    (htask : new.task = outline.task) (hwriter : new.writer = outline.writer)
    (hheld : new.held = outline.held) (haudience : new.audience = outline.audience)
    (howed : new.owed = outline.owed) (hparting : new.parting = outline.parting)
    (hunopened : outline.Unopened -> new.Unopened) : new.Stage := by
  cases hstage with
  | idle hdisconnected hfree hnone hold =>
      exact .idle (hstate.trans hdisconnected) (htask.trans hfree) (hheld.trans hnone)
        (hunopened hold)
  | opening hconnecting hwork hsome hrole hold =>
      exact .opening (hstate.trans hconnecting) (htask ▸ hwork) (hheld.trans hsome) hrole
        (hunopened hold)
  | live hlive hsome hrole hnone hlistener hsilent =>
      refine .live ?_ (hwriter.trans hsome) hrole (hheld.trans hnone) ?_ (hparting.trans hsilent)
      · rw [hstate, htask]
        exact hlive
      · rw [haudience, howed]
        exact hlistener
  | leaving hclosed hwork hsome hrole hnone hlistener hsilent =>
      refine .leaving (hstate.trans hclosed) (htask.trans hwork) (hheld.trans hsome) hrole
        (hwriter.trans hnone) ?_ (hparting.trans hsilent)
      rw [haudience, howed]
      exact hlistener
  | gone hclosed hfree hnone hnoWriter hnobody hlistener =>
      exact .gone (hstate.trans hclosed) (htask.trans hfree) (hheld.trans hnone)
        (hwriter.trans hnoWriter) (howed.trans hnobody) (haudience.trans hlistener)

theorem stage_of_parting (hstage : outline.Stage) {listener : ListenerId}
    (hparting : outline.parting = some listener) (callbacks : List (ListenerId × Event)) :
    Stage { outline with parting := none, callbacks := callbacks } := by
  cases hstage with
  | gone hstate htask hheld hwriter howed haudience =>
      exact .gone hstate htask hheld hwriter howed haudience
  | idle _ _ _ hunopened => simp [hunopened.parting] at hparting
  | opening _ _ _ _ hunopened => simp [hunopened.parting] at hparting
  | live _ _ _ _ _ hnone => simp [hnone] at hparting
  | leaving _ _ _ _ _ _ hnone => simp [hnone] at hparting

end Stage

theorem not_unopened {outline : Outline} (haudience : outline.audience.isSome = true) :
    ¬ outline.Unopened := by
  intro hunopened
  simp [hunopened.audience] at haudience

/-- Every change leads from a stage to a stage. -/
theorem stage_change {old new : Outline} (hstage : old.Stage)
    (hchange : Change old new) : new.Stage := by
  cases hchange with
  | nothing => exact hstage
  | register listener _ _ =>
      exact stage_frame hstage rfl rfl rfl rfl rfl rfl rfl fun hunopened => { hunopened with }
  | treatWrites policy flush =>
      exact stage_frame hstage rfl rfl rfl rfl rfl rfl rfl fun hunopened => { hunopened with }
  | ask htask hstate hrole hbuffer =>
      have hunopened := unopened_of_disconnected hstage hstate
      exact .opening rfl (Or.inl rfl) rfl hrole { hunopened with }
  | asked htask hunsent =>
      rcases opening_of_task hstage (Or.inl htask) with
        ⟨hstate, hunopened, writer, hheld, hrole⟩
      exact .opening hstate (Or.inr rfl) hheld hrole { hunopened with }
  | failOpening htask hcontent =>
      have hunopened := (early_of_task hstage htask).right
      exact .idle rfl rfl rfl { hunopened with }
  | opened htask =>
      rcases opening_of_task hstage (Or.inr htask) with ⟨_, hunopened, writer, hheld, hrole⟩
      exact .live trivial hheld hrole rfl rfl rfl
  | carryHeld htask hheld hrest hstep =>
      rcases htask with htask | ⟨byCaller, htask⟩
      · rcases opening_of_task hstage (Or.inl htask) with
          ⟨hstate, hunopened, writer, hold, hrole⟩
        rw [hheld] at hold
        cases hold
        exact .opening hstate (Or.inl htask) rfl hrole { hunopened with }
      · rcases leaving_of_task hstage htask with
          ⟨hstate, hwriter, haudience, hparting, writer, hold, hrole⟩
        rw [hheld] at hold
        cases hold
        exact .leaving hstate htask rfl hrole hwriter haudience hparting
  | carry htask hheld hwriter hrest hstep =>
      rcases live_of_writer hstage hwriter with ⟨hlive, hrole, hnone, haudience, hparting⟩
      exact .live hlive rfl hrole hnone haudience hparting
  | @begin call payload frame after writer htask hstate hwriter hpayload hframe =>
      rcases live_of_writer hstage hwriter with ⟨_, hrole, hnone, haudience, hparting⟩
      refine .live ?_ rfl (by rw [FrameWriter.role_start, hrole]) hnone haudience hparting
      simp only
      split <;> trivial
  | sent htask hunsent =>
      rcases exists_writer_of_sending hstage htask with ⟨writer, hwriter⟩
      rcases live_of_writer hstage hwriter with ⟨hlive, hrole, hheld, haudience, hparting⟩
      refine .live ?_ hwriter hrole hheld haudience hparting
      rw [htask] at hlive
      cases hstate : old.state <;> simp [hstate, IsLive] at hlive ⊢
  | fall htask hheld hwriter hfailure =>
      rcases live_of_writer hstage hwriter with ⟨_, hrole, _, haudience, hparting⟩
      exact .leaving rfl rfl rfl hrole rfl haudience hparting
  | beginFarewell htask hwriter hstate hlength =>
      rcases live_of_writer hstage hwriter with ⟨_, hrole, hnone, haudience, hparting⟩
      refine .live ?_ rfl (by rw [FrameWriter.role_start, hrole]) hnone haudience hparting
      rcases hstate with ⟨_, rfl⟩ | ⟨_, rfl⟩ <;> trivial
  | leave htask hwriter hcontent =>
      rcases live_of_writer hstage hwriter with ⟨_, hrole, _, haudience, hparting⟩
      exact .leaving rfl rfl rfl hrole rfl haudience hparting
  | abandon htask hcontent =>
      rcases leaving_of_task hstage htask with ⟨hstate, hwriter, haudience, _, _⟩
      exact .gone hstate rfl rfl hwriter rfl haudience
  | part htask hcontent =>
      rcases leaving_of_task hstage htask with ⟨hstate, hwriter, haudience, _, _⟩
      exact .gone hstate rfl rfl hwriter rfl haudience
  | parted hparting => exact stage_of_parting hstage hparting _
  | receive haudience hparting hnews =>
      exact stage_frame hstage rfl rfl rfl rfl rfl rfl rfl fun hunopened =>
        absurd hunopened (not_unopened haudience)
  | tell haudience hnews =>
      exact stage_frame hstage rfl rfl rfl rfl rfl rfl rfl fun hunopened =>
        absurd hunopened (not_unopened (by rw [haudience]; rfl))

theorem audience_change {old new : Outline} (hstage : old.Stage)
    (hchange : Change old new) {listener : Option ListenerId}
    (haudience : old.audience = some listener) : new.audience = some listener := by
  cases hchange with
  | opened htask =>
      have hunopened := (opening_of_task hstage (Or.inr htask)).right.left
      simp [hunopened.audience] at haudience
  | _ => exact haudience

end Outline

end WebSocketClient
