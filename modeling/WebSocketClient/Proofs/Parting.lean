import WebSocketClient.Proofs.Attending
import WebSocketClient.Proofs.Farewells
import WebSocketClient.Proofs.Settling

/-!
# Parting from the server

How a connection ends that is left alone with its server.  When the receiver's loop
has ended, an open connection sends what is due for its end, and one that is closing
sends nothing more.  Then the connection is closed, and its listener is told so after
everything else.
-/

namespace WebSocketClient

namespace Connection

open Transmission

/-- What a connection in this state sends when the loop has ended. -/
def SaysGoodbye (state : ConnectionState) (outcome : Outcome) (payload : Option Bytes) : Prop :=
  state = .opened ∧ Farewell outcome payload ∨ state = .closingLocal ∧ payload = none

def goodbye (key : MaskKey) (payload : Option Bytes) : List Transmission :=
  payload.toList.map fun payload => ⟨none, ⟨true, .close, payload⟩, some key⟩

theorem SaysGoodbye.stream {state : ConnectionState} {outcome : Outcome} {payload : Option Bytes}
    (hgoodbye : SaysGoodbye state outcome payload) {key : MaskKey} :
    Frame.Stream true (payload.toList.map fun payload => ⟨true, .close, payload⟩)
      (octetsOf (goodbye key payload)) := by
  cases payload with
  | none => exact .nil
  | some payload =>
      have hshort : payload.length <= 125 := by
        rcases hgoodbye with ⟨_, hfarewell⟩ | ⟨_, hnone⟩
        · exact hfarewell.length_le
        · cases hnone
      refine @stream_octetsOf (goodbye key (some payload)) ?_ ?_
      · simp [goodbye]
      · intro transmission hmem
        rw [List.mem_singleton.mp hmem]
        exact Nat.lt_of_le_of_lt hshort (by decide)

/-!
## Writes that succeed
-/

/-- The receiver's close frame fails or is given up in this move. -/
def losesFrame (connection : Connection) : Move -> Bool
  | .hold =>
      match connection.holder, connection.core.writer with
      | some (.farewell writing deadline), some writer =>
          match writer.output.step connection.sink writing with
          | .failed _ _ _ => true
          | .waiting => deadline <= connection.clock
          | .more _ _ _ | .done _ _ => false
      | _, _ => false
  | _ => false

def writesSucceed : Connection -> List Move -> Bool
  | _, [] => true
  | connection, next :: moves =>
      !connection.losesFrame next && writesSucceed (connection.move next) moves

theorem writesSucceed_cons {connection : Connection} {next : Move} {moves : List Move} :
    connection.writesSucceed (next :: moves) = true <->
      connection.losesFrame next = false ∧ (connection.move next).writesSucceed moves = true := by
  rw [writesSucceed, Bool.and_eq_true, Bool.not_eq_true']

theorem writesSucceed_of_append {connection : Connection} {front rest : List Move}
    (hsucceed : connection.writesSucceed (front ++ rest) = true) :
    (connection.play front).writesSucceed rest = true := by
  induction front generalizing connection with
  | nil => exact hsucceed
  | cons next front ih => exact ih (writesSucceed_cons.mp hsucceed).right

/-!
## Octets under way
-/

section Unsent

variable {connection : Connection} {writer : FrameWriter} {writing : Writing} {deadline : Nat}

theorem unsent_of_farewell (hholder : connection.holder = some (.farewell writing deadline))
    (hwriter : connection.core.writer = some writer) :
    connection.outline.unsent = writer.output.unsent writing := by
  simp [outline, Outline.unsent, hholder, hwriter, Holder.writer?, Holder.rest, Output.unsent]

theorem unsent_of_leaving {failure : Option Error}
    (hholder : connection.holder = some (.leaving writer writing deadline failure)) :
    connection.outline.unsent = writer.output.unsent writing := by
  simp [outline, Outline.unsent, hholder, Holder.writer?, Holder.rest, Output.unsent]

theorem unsent_of_left (hholder : connection.holder = none)
    (hwriter : connection.core.writer = none) : connection.outline.unsent = [] := by
  simp [outline, Outline.unsent, hholder, hwriter]

end Unsent

/-!
## The way out
-/

/-- How far a connection has come that is about to leave, and what its listener is
still to be told. -/
inductive Leaving (listener : Option ListenerId) (connection : Connection) : List Event -> Prop
  | farewell {writer : FrameWriter} {writing : Writing} {deadline : Nat} :
      connection.holder = some (.farewell writing deadline) ->
      connection.core.writer = some writer -> connection.core.state ≠ .closed ->
      connection.core.listener = listener ->
      connection.receiver.map Receiver.phase = some .closing ->
      Leaving listener connection [.closed]
  | leaving {writer : FrameWriter} {writing : Writing} {deadline : Nat} :
      connection.holder = some (.leaving writer writing deadline none) ->
      connection.core.writer = none -> connection.core.state = .closed ->
      connection.core.listener = listener ->
      connection.receiver.map Receiver.phase = some .closing ->
      Leaving listener connection [.closed]
  | notifying {id : ListenerId} :
      connection.holder = none -> connection.core.writer = none ->
      connection.core.state = .closed -> listener = some id ->
      connection.receiver.map Receiver.phase = some (.notifying id) ->
      Leaving listener connection [.closed]
  | left :
      connection.holder = none -> connection.core.writer = none ->
      connection.core.state = .closed ->
      connection.receiver.map Receiver.phase = some .finished -> Leaving listener connection []

section Leaves

variable (first : Connection) (listener : Option ListenerId) (sent : List Transmission)
  (told : List (ListenerId × Event)) (whole : Prop)

/-- The connection leaves: it sends these frames, all their octets if the writes
succeed, and in the end its listener has been told this. -/
structure Leaves (connection : Connection) : Prop where
  stage : exists yet, connection.Leaving listener yet ∧
    connection.callbacks ++ toldTo listener yet = told
  transmissions : connection.transmissions = first.transmissions ++ sent
  conserved : whole ->
    connection.sink.content ++ connection.outline.unsent = first.sink.content ++ octetsOf sent
  flushed : whole -> connection.core.state = .closed -> connection.outline.unsent = []

end Leaves

section Steps

variable {first connection : Connection} {listener : Option ListenerId}
  {sent : List Transmission} {told : List (ListenerId × Event)} {whole : Prop}

theorem leaves_startTeardown {writer : FrameWriter} (hwriter : connection.core.writer = some writer)
    (hlistener : connection.core.listener = listener)
    (hphase : connection.receiver.map Receiver.phase = some .closing)
    (hcallbacks : connection.callbacks ++ toldTo listener [.closed] = told)
    (htransmissions : connection.transmissions = first.transmissions ++ sent)
    (hcontent : whole -> connection.sink.content = first.sink.content ++ octetsOf sent ∧
      writer.output.buffer = []) :
    first.Leaves listener sent told whole (connection.startTeardown none) := by
  have hstart : connection.startTeardown none = { connection.releaseReceiver false with
      isConnected := false
      core := { (connection.releaseReceiver false).core with
        state := .closed, streaming := false, writer := none }
      holder := some (.leaving writer ⟨[], false⟩
        (connection.clock + connection.config.socketTimeout) none) } := by
    simp [startTeardown, hwriter]
  rw [hstart]
  have hclosing : (connection.releaseReceiver false).receiver.map Receiver.phase =
      some .closing := by
    cases hreceiver : connection.receiver <;>
      simp [hreceiver, releaseReceiver, mapReceiver, Core.release] at hphase ⊢
    exact hphase
  constructor
  case stage => exact ⟨[.closed], .leaving rfl rfl rfl hlistener hclosing, hcallbacks⟩
  case transmissions => exact htransmissions
  case conserved =>
      intro hwhole
      rcases hcontent hwhole with ⟨hsent, hbuffer⟩
      rw [unsent_of_leaving rfl, Output.unsent, hbuffer]
      exact (List.append_nil _).trans hsent
  case flushed =>
      intro hwhole _
      rw [unsent_of_leaving rfl, Output.unsent, (hcontent hwhole).right]
      rfl

theorem leaves_finishTeardown (hwriter : connection.core.writer = none)
    (hstate : connection.core.state = .closed) (hlistener : connection.core.listener = listener)
    (hphase : connection.receiver.map Receiver.phase = some .closing)
    (hcallbacks : connection.callbacks ++ toldTo listener [.closed] = told)
    (htransmissions : connection.transmissions = first.transmissions ++ sent)
    (hcontent : whole -> connection.sink.content = first.sink.content ++ octetsOf sent) :
    first.Leaves listener sent told whole (connection.finishTeardown none) := by
  rcases Option.map_eq_some_iff.mp hphase with ⟨receiver, hreceiver, _⟩
  have houtline := outline_finishTeardown_none hreceiver
  have hunsent : (connection.finishTeardown none).outline.unsent = [] :=
    unsent_of_left rfl hwriter
  constructor
  case stage =>
      have hsame : (connection.finishTeardown none).callbacks = connection.callbacks :=
        congrArg Outline.callbacks houtline
      rw [hsame]
      cases listener with
      | none =>
          refine ⟨[], .left rfl hwriter hstate ?_, hcallbacks⟩
          simp [finishTeardown, report, log, mapReceiver, hreceiver, hlistener]
      | some id =>
          refine ⟨[.closed], .notifying rfl hwriter hstate rfl ?_, hcallbacks⟩
          simp [finishTeardown, report, log, mapReceiver, hreceiver, hlistener]
  case transmissions => exact (congrArg Outline.transmissions houtline).trans htransmissions
  case conserved =>
      intro hwhole
      rw [hunsent, List.append_nil]
      exact hcontent hwhole
  case flushed =>
      intro _ _
      exact hunsent

theorem leaves_farewellStep {writer : FrameWriter} {writing : Writing} {deadline : Nat}
    (hleaves : first.Leaves listener sent told whole connection)
    (hholder : connection.holder = some (.farewell writing deadline))
    (hwriter : connection.core.writer = some writer) (hstate : connection.core.state ≠ .closed)
    (hlistener : connection.core.listener = listener)
    (hphase : connection.receiver.map Receiver.phase = some .closing)
    (hcallbacks : connection.callbacks ++ toldTo listener [.closed] = told)
    (hsucceed : whole -> connection.losesFrame .hold = false) {next : Connection}
    (hstep : connection.farewellStep? writing deadline = some next) :
    first.Leaves listener sent told whole next := by
  have hunsent := unsent_of_farewell hholder hwriter
  simp only [farewellStep?, hwriter] at hstep
  split at hstep
  case h_1 output sink writing' hwrite =>
      cases hstep
      rcases Output.step_more hwrite with ⟨hcontent, _⟩
      refine ⟨⟨[.closed], .farewell rfl rfl hstate hlistener hphase, hcallbacks⟩,
        hleaves.transmissions, ?_, ?_⟩
      · intro hwhole
        rw [unsent_of_farewell rfl rfl]
        refine hcontent.trans ?_
        rw [← hunsent]
        exact hleaves.conserved hwhole
      · intro _ hclosed
        exact absurd hclosed hstate
  case h_2 output sink hwrite =>
      cases hstep
      rcases Output.step_done hwrite with ⟨rfl, rfl, hnothing⟩
      refine leaves_startTeardown rfl hlistener hphase hcallbacks hleaves.transmissions ?_
      intro hwhole
      have hconserved := hleaves.conserved hwhole
      rw [hunsent, hnothing, List.append_nil] at hconserved
      exact And.intro hconserved (List.append_eq_nil_iff.mp hnothing).left
  case h_3 error output sink hwrite =>
      cases hstep
      refine leaves_startTeardown rfl hlistener hphase ?_ ?_ ?_
      · rw [callbacks_report]
        exact hcallbacks
      · rw [transmissions_report]
        exact hleaves.transmissions
      · intro hwhole
        have hfails := hsucceed hwhole
        simp [losesFrame, hholder, hwriter, hwrite] at hfails
  case h_4 hwrite =>
      split at hstep
      case isTrue hlate =>
          cases hstep
          refine leaves_startTeardown hwriter hlistener hphase ?_ ?_ ?_
          · rw [callbacks_report]
            exact hcallbacks
          · rw [transmissions_report]
            exact hleaves.transmissions
          · intro hwhole
            have hfails := hsucceed hwhole
            simp [losesFrame, hholder, hwriter, hwrite, hlate] at hfails
      case isFalse => cases hstep

theorem leaves_leavingStep {writer : FrameWriter} {writing : Writing} {deadline : Nat}
    (hleaves : first.Leaves listener sent told whole connection)
    (hholder : connection.holder = some (.leaving writer writing deadline none))
    (hwriter : connection.core.writer = none) (hstate : connection.core.state = .closed)
    (hlistener : connection.core.listener = listener)
    (hphase : connection.receiver.map Receiver.phase = some .closing)
    (hcallbacks : connection.callbacks ++ toldTo listener [.closed] = told) {next : Connection}
    (hstep : connection.leavingStep? writer writing deadline none = some next) :
    first.Leaves listener sent told whole next := by
  have hunsent := unsent_of_leaving hholder
  have hflushed (hwhole : whole) :
      connection.sink.content = first.sink.content ++ octetsOf sent ∧
        writer.output.handOver connection.sink writing =
          .done writer.output connection.sink := by
    have hconserved := hleaves.conserved hwhole
    have hnothing := hleaves.flushed hwhole hstate
    rw [hnothing, List.append_nil] at hconserved
    exact And.intro hconserved (Output.handOver_of_unsent_eq_nil (hunsent.symm.trans hnothing))
  unfold leavingStep? at hstep
  split at hstep
  case h_1 output sink writing' hwrite =>
      cases hstep
      have hmore := Output.shutdownStep_more.mp hwrite
      refine ⟨⟨[.closed], .leaving rfl hwriter hstate hlistener hphase, hcallbacks⟩,
        hleaves.transmissions, ?_, ?_⟩
      · intro hwhole
        simp [(hflushed hwhole).right] at hmore
      · intro hwhole _
        simp [(hflushed hwhole).right] at hmore
  case h_2 output sink hwrite =>
      cases hstep
      refine leaves_finishTeardown hwriter hstate hlistener hphase hcallbacks
        hleaves.transmissions ?_
      intro hwhole
      exact (Output.shutdownStep_done hwrite).left.trans (hflushed hwhole).left
  case h_3 error output sink hwrite =>
      cases hstep
      refine leaves_finishTeardown hwriter hstate hlistener hphase hcallbacks
        hleaves.transmissions ?_
      intro hwhole
      have hfailed := Output.shutdownStep_failed.mp hwrite
      simp [(hflushed hwhole).right] at hfailed
  case h_4 =>
      split at hstep
      case isTrue =>
          cases hstep
          exact leaves_finishTeardown hwriter hstate hlistener hphase hcallbacks
            hleaves.transmissions fun hwhole => (hflushed hwhole).left
      case isFalse => cases hstep

theorem Leaves.hold (hleaves : first.Leaves listener sent told whole connection)
    (hsucceed : whole -> connection.losesFrame .hold = false) :
    first.Leaves listener sent told whole (connection.move .hold) := by
  rcases hleaves.stage with ⟨yet, hstage, hcallbacks⟩
  cases hstage with
  | @farewell writer writing deadline hholder hwriter hstate hlistener hphase =>
      simp only [move, hholder, Option.bind_some, holderStep?]
      cases hstep : connection.farewellStep? writing deadline with
      | none => exact hleaves
      | some next =>
          exact leaves_farewellStep hleaves hholder hwriter hstate hlistener hphase hcallbacks
            hsucceed hstep
  | @leaving writer writing deadline hholder hwriter hstate hlistener hphase =>
      simp only [move, hholder, Option.bind_some, holderStep?]
      cases hstep : connection.leavingStep? writer writing deadline none with
      | none => exact hleaves
      | some next =>
          exact leaves_leavingStep hleaves hholder hwriter hstate hlistener hphase hcallbacks hstep
  | notifying hholder _ _ _ _ =>
      simp only [move, hholder, Option.bind_none, Option.getD_none]
      exact hleaves
  | left hholder _ _ _ =>
      simp only [move, hholder, Option.bind_none, Option.getD_none]
      exact hleaves

/-- A receiver that holds the lock or has ended makes no step of its own. -/
theorem move_receive_of_done {phase : ReceiverPhase}
    (hphase : connection.receiver.map Receiver.phase = some phase)
    (hdone : phase = .closing ∨ phase = .finished) : connection.move .receive = connection := by
  rcases Option.map_eq_some_iff.mp hphase with ⟨receiver, hreceiver, rfl⟩
  rcases hdone with hdone | hdone <;>
    simp [move, hreceiver, receiverStep?, Receiver.step?, hdone]

theorem Leaves.receive (hleaves : first.Leaves listener sent told whole connection) :
    first.Leaves listener sent told whole (connection.move .receive) := by
  rcases hleaves.stage with ⟨yet, hstage, hcallbacks⟩
  cases hstage with
  | farewell _ _ _ _ hphase =>
      rw [move_receive_of_done hphase (Or.inl rfl)]
      exact hleaves
  | leaving _ _ _ _ hphase =>
      rw [move_receive_of_done hphase (Or.inl rfl)]
      exact hleaves
  | @notifying id hholder hwriter hstate hlistener hphase =>
      rcases Option.map_eq_some_iff.mp hphase with ⟨receiver, hreceiver, hnotifying⟩
      have hmove : connection.move .receive =
          (connection.notify (some id) .closed).setPhase .finished := by
        simp [move, hreceiver, receiverStep?, hnotifying]
      rw [hmove]
      have hunsent : ((connection.notify (some id) .closed).setPhase .finished).outline.unsent =
          connection.outline.unsent := rfl
      constructor
      case stage =>
          refine ⟨[], .left hholder hwriter hstate ?_, ?_⟩
          · simp [setPhase, mapReceiver, notify, log, hreceiver]
          · rw [← hcallbacks, hlistener, toldTo_nil, List.append_nil]
            rfl
      case transmissions => exact hleaves.transmissions
      case conserved => exact hleaves.conserved
      case flushed => exact hleaves.flushed
  | left _ _ _ hphase =>
      rw [move_receive_of_done hphase (Or.inr rfl)]
      exact hleaves

theorem Leaving.undisturbed {yet : List Event} (hleaving : connection.Leaving listener yet)
    {next : Move} {after : Connection} (hsame : connection.Undisturbed next after) :
    after.Leaving listener yet := by
  have hphase {phase : ReceiverPhase}
      (hbefore : connection.receiver.map Receiver.phase = some phase) (hawake : phase ≠ .parked) :
      after.receiver.map Receiver.phase = some phase := by
    rcases Option.map_eq_some_iff.mp hbefore with ⟨receiver, hreceiver, rfl⟩
    rw [hsame.receiver, hreceiver, Option.map_some, Option.map_some,
      Receiver.phase_afterMove hawake]
  have hcore := hsame.core
  cases hleaving with
  | farewell hholder hwriter hstate hlistener hbefore =>
      exact .farewell (hsame.holder.trans hholder) (by rw [hcore, hwriter])
        (by rw [hcore]; exact hstate) (by rw [hcore, hlistener]) (hphase hbefore (by simp))
  | leaving hholder hwriter hstate hlistener hbefore =>
      exact .leaving (hsame.holder.trans hholder) (by rw [hcore, hwriter]) (by rw [hcore, hstate])
        (by rw [hcore, hlistener]) (hphase hbefore (by simp))
  | notifying hholder hwriter hstate hlistener hbefore =>
      exact .notifying (hsame.holder.trans hholder) (by rw [hcore, hwriter])
        (by rw [hcore, hstate]) hlistener (hphase hbefore (by simp))
  | left hholder hwriter hstate hbefore =>
      exact .left (hsame.holder.trans hholder) (by rw [hcore, hwriter]) (by rw [hcore, hstate])
        (hphase hbefore (by simp))

theorem Leaving.isDeaf {yet : List Event} (hleaving : connection.Leaving listener yet) :
    connection.isDeaf := by
  intro chunks ending
  cases hleaving with
  | farewell hholder _ _ _ _ => rw [hholder]; rfl
  | leaving hholder _ _ _ _ => rw [hholder]; rfl
  | notifying hholder _ _ _ _ => rw [hholder]; rfl
  | left hholder _ _ _ => rw [hholder]; rfl

theorem Leaves.move (hleaves : first.Leaves listener sent told whole connection) {next : Move}
    (hquiet : next.isQuiet = true)
    (hsucceed : whole -> connection.losesFrame next = false) :
    first.Leaves listener sent told whole (connection.move next) := by
  by_cases hhold : next = .hold
  · subst hhold
    exact hleaves.hold hsucceed
  by_cases hreceive : next = .receive
  · subst hreceive
    exact hleaves.receive
  rcases hleaves.stage with ⟨yet, hstage, hcallbacks⟩
  have hsame := undisturbed hquiet hstage.isDeaf (fun heq => absurd heq hhold) hreceive
  have hunsent : (connection.move next).outline.unsent = connection.outline.unsent := by
    simp [outline, Outline.unsent, hsame.holder, hsame.core]
  constructor
  case stage => exact ⟨yet, hstage.undisturbed hsame, by rw [hsame.callbacks, hcallbacks]⟩
  case transmissions => exact hsame.transmissions.trans hleaves.transmissions
  case conserved =>
      rw [hsame.content, hunsent]
      exact hleaves.conserved
  case flushed =>
      rw [hsame.core, hunsent]
      exact hleaves.flushed

theorem Leaves.play (hleaves : first.Leaves listener sent told whole connection)
    {moves : List Move} (hquiet : AreQuiet moves)
    (hsucceed : whole -> connection.writesSucceed moves = true) :
    first.Leaves listener sent told whole (connection.play moves) := by
  induction moves generalizing connection with
  | nil => exact hleaves
  | cons next rest ih =>
      rcases hquiet.of_cons with ⟨hnext, hrest⟩
      have hleaves' := hleaves.move hnext fun hwhole =>
        (writesSucceed_cons.mp (hsucceed hwhole)).left
      exact ih hleaves' hrest fun hwhole => (writesSucceed_cons.mp (hsucceed hwhole)).right

end Steps

/-!
## The end of the loop
-/

def allTold (first : Connection) (start : Receiver) (records : List Record) :
    List (ListenerId × Event) :=
  first.callbacks ++ toldTo start.listener (start.inHand ++ records.map Record.event ++ [.closed])

/-- The receiver has taken the lock to end the connection, and nothing has been sent. -/
structure HasTaken (first : Connection) (listener : Option ListenerId)
    (told : List (ListenerId × Event)) (connection : Connection) : Prop where
  writer : exists writer, connection.core.writer = some writer ∧ writer.role = .client ∧
    writer.output.buffer = []
  state : connection.core.state ≠ .closed
  owed : connection.core.listener = listener
  phase : connection.receiver.map Receiver.phase = some .closing
  callbacks : connection.callbacks ++ toldTo listener [.closed] = told
  transmissions : connection.transmissions = first.transmissions
  content : connection.sink.content = first.sink.content

section Ends

variable {first connection : Connection} {listener : Option ListenerId}
  {told : List (ListenerId × Event)} {whole : Prop}

theorem HasTaken.report (htaken : first.HasTaken listener told connection)
    (diagnostic : Diagnostic) : first.HasTaken listener told (connection.report diagnostic) :=
  { htaken with
    callbacks := (congrArg (· ++ _) (callbacks_report connection diagnostic)).trans htaken.callbacks
    transmissions := (transmissions_report connection diagnostic).trans htaken.transmissions }

theorem HasTaken.leaves_startTeardown (htaken : first.HasTaken listener told connection) :
    exists key,
      first.Leaves listener (goodbye key none) told whole (connection.startTeardown none) := by
  rcases htaken.writer with ⟨writer, hwriter, _, hbuffer⟩
  refine ⟨writer.keys.next.1, Connection.leaves_startTeardown hwriter htaken.owed htaken.phase
    htaken.callbacks ?_ fun _ => And.intro ?_ hbuffer⟩
  · exact htaken.transmissions.trans (List.append_nil _).symm
  · exact htaken.content.trans (List.append_nil _).symm

theorem HasTaken.leaves_startFarewell (htaken : first.HasTaken listener told connection)
    (payload : Bytes) : exists key,
      first.Leaves listener (goodbye key (some payload)) told whole
        (connection.startFarewell payload) := by
  rcases htaken.writer with ⟨writer, hwriter, hrole, hbuffer⟩
  have hkey : writer.nextKey = some writer.keys.next.1 := by
    simp [FrameWriter.nextKey, hrole, Role.mustMask]
  have houtline := outline_startFarewell hwriter payload
  have hstart : connection.startFarewell payload =
      { connection.record (.transmitting ⟨none, ⟨true, .close, payload⟩, writer.nextKey⟩) with
        core := { connection.core with writer := some (writer.start ⟨true, .close, payload⟩).2 }
        holder := some (.farewell ⟨Frame.encode ⟨true, .close, payload⟩ writer.nextKey, false⟩
          (connection.clock + connection.config.socketTimeout)) } := by
    simp only [startFarewell, hwriter]
    rfl
  refine ⟨writer.keys.next.1, ?_⟩
  rw [hstart] at houtline ⊢
  constructor
  case stage =>
      exact ⟨[.closed], .farewell rfl rfl htaken.state htaken.owed htaken.phase,
        htaken.callbacks⟩
  case transmissions =>
      refine (congrArg Outline.transmissions houtline).trans ?_
      rw [hkey]
      exact congrArg (· ++ _) htaken.transmissions
  case conserved =>
      intro _
      rw [unsent_of_farewell rfl rfl, Output.unsent, FrameWriter.output_start, hbuffer, hkey]
      refine (congrArg (· ++ _) htaken.content).trans ?_
      simp [goodbye, Transmission.octets]
  case flushed =>
      intro _ hclosed
      exact absurd hclosed htaken.state

variable {start : Receiver} {earlier records : List Record} {arrived : Source} {outcome : Outcome}

theorem hasTaken_setPhase (hreachable : connection.Reachable) (hholder : connection.holder = none)
    {receiver : Receiver} (hreceiver : connection.receiver = some receiver)
    (hopen : connection.core.state ≠ .closed) :
    connection.HasTaken receiver.listener
      (connection.callbacks ++ toldTo receiver.listener [.closed])
      (connection.setPhase .closing) := by
  have hstage := stage_of_reachable hreachable
  have htask : connection.outline.task = .free := by simp [outline, hholder]
  have haudience : connection.outline.audience = some receiver.listener := by
    simp [outline, hreceiver]
  rcases Outline.live_of_free hstage htask haudience hopen with ⟨_, writer, hwriter, hheld⟩
  rcases Outline.live_of_writer hstage hwriter with ⟨_, hrole, _, howed, _⟩
  constructor
  case writer =>
      have hflushed := (wire_invariant hreachable).right.flushed (Or.inl htask) hopen
      exact ⟨writer, hwriter, hrole,
        Outline.buffer_eq_nil (Outline.unsent_of_writer hheld hwriter) hflushed⟩
  case state => exact hopen
  case owed => exact Option.some.inj (howed.symm.trans haudience)
  case phase => simp [setPhase, mapReceiver, hreceiver]
  all_goals rfl

theorem HasHeard.hasTaken (hreachable : connection.Reachable)
    (hheard : first.HasHeard start earlier arrived records outcome connection)
    (hopen : first.core.state ≠ .closed) :
    first.HasTaken start.listener (first.allTold start records)
      (connection.setPhase .closing) := by
  rcases hheard.exits with ⟨receiver, hreceiver, _, hlistener⟩
  have hopen' : connection.core.state ≠ .closed := by rwa [hheard.core]
  have htaken := hasTaken_setPhase hreachable hheard.holder hreceiver hopen'
  rw [hlistener] at htaken
  refine { htaken with
    callbacks := ?_, transmissions := hheard.transmissions, content := hheard.content }
  rw [allTold, toldTo_append, ← List.append_assoc, ← hheard.callbacks]
  rfl

theorem HasTaken.leaves_exit_closeReceived {payload : Bytes} {close : Option CloseFrame}
    {reply : Bool} (htaken : first.HasTaken listener told (connection.setPhase .closing))
    (hclose : IsClosePayload payload close)
    (hup : connection.core.state = .opened ∧ reply = false ∨
      connection.core.state = .closingLocal ∧ reply = true) :
    exists payload key, SaysGoodbye connection.core.state (.closeReceived close reply) payload ∧
      first.Leaves listener (goodbye key payload) told whole
        (connection.exit (.closeReceived close reply)) := by
  unfold exit
  rcases hup with ⟨hup, rfl⟩ | ⟨hup, rfl⟩
  · rw [if_neg (by simp [ConnectionState.isClosed, hup])]
    have hanswering : first.HasTaken listener told
        { (connection.setPhase .closing).report (.closedByServer close) with
          core := { connection.core with state := .closingRemote } } :=
      { htaken.report (.closedByServer close) with state := by simp }
    rcases hanswering.leaves_startFarewell (answerPayload close) with ⟨key, hleaves⟩
    exact ⟨some (answerPayload close), key,
      Or.inl (And.intro hup (farewell_answerPayload hclose)), hleaves⟩
  · rw [if_neg (by simp [ConnectionState.isClosed, hup])]
    rcases (htaken.report (.closingCompleted close)).leaves_startTeardown with ⟨key, hleaves⟩
    exact ⟨none, key, Or.inr (And.intro hup rfl), hleaves⟩

theorem HasTaken.leaves_exit_failed {error : Error}
    (htaken : first.HasTaken listener told (connection.setPhase .closing))
    (hkind : error.kind = .protocol ∨ exists reason, error = .transport reason)
    (hup : connection.core.state = .opened ∨ connection.core.state = .closingLocal) :
    exists payload key, SaysGoodbye connection.core.state (.failed error) payload ∧
      first.Leaves listener (goodbye key payload) told whole (connection.exit (.failed error)) := by
  have hreported := htaken.report (.receiverFailed error)
  have hsilently : exists key, first.Leaves listener (goodbye key none) told whole
      (((connection.setPhase .closing).report (.receiverFailed error)).startTeardown none) :=
    hreported.leaves_startTeardown
  have hsame : ((connection.setPhase .closing).report (.receiverFailed error)).core =
      connection.core := rfl
  unfold exit
  simp only [hsame]
  rcases hup with hup | hup
  · rw [if_neg (by simp [ConnectionState.isClosed, hup])]
    rcases hkind with hprotocol | ⟨reason, rfl⟩
    · rcases hreported.leaves_startFarewell (failurePayload error) with ⟨key, hleaves⟩
      rw [if_pos (by simp [hprotocol, hup])]
      exact ⟨some (failurePayload error), key,
        Or.inl (And.intro hup (farewell_failurePayload hprotocol)), hleaves⟩
    · rcases hsilently with ⟨key, hleaves⟩
      rw [if_neg (by simp [Error.kind])]
      exact ⟨none, key, Or.inl (And.intro hup .broken), hleaves⟩
  · rw [if_neg (by simp [ConnectionState.isClosed, hup])]
    rcases hsilently with ⟨key, hleaves⟩
    rw [if_neg (by simp [hup])]
    exact ⟨none, key, Or.inr (And.intro hup rfl), hleaves⟩

/-- A connection whose loop has ended leaves. -/
theorem HasHeard.leaves (hreachable : connection.Reachable)
    (hheard : first.HasHeard start earlier arrived records outcome connection)
    (hup : first.core.state = .opened ∧ start.awaitingClose = false ∨
      first.core.state = .closingLocal ∧ start.awaitingClose = true) :
    exists payload key, SaysGoodbye first.core.state outcome payload ∧
      first.Leaves start.listener (goodbye key payload) (first.allTold start records) whole
        (connection.move .receive) := by
  have hopen : first.core.state ≠ .closed := by
    rcases hup with ⟨hup, _⟩ | ⟨hup, _⟩ <;> simp [hup]
  have htaken := hheard.hasTaken hreachable hopen
  rcases hheard.exits with ⟨receiver, hreceiver, hphase, _⟩
  have hmove : connection.move .receive = connection.exit outcome := by
    simp [Connection.move, hreceiver, receiverStep?, hphase, isFree, hheard.holder]
  rw [hmove]
  rcases hheard.reads with ⟨messages, unfinished, octets, left, _, _, _, _, hends⟩
  rw [← hheard.core] at hup hopen ⊢
  cases outcome with
  | stopped => exact hends.elim
  | endOfStream =>
      rcases (htaken.report .streamEnded).leaves_startTeardown with ⟨key, hleaves⟩
      unfold exit
      rw [if_neg (by simpa [ConnectionState.isClosed] using hopen)]
      refine ⟨none, key, ?_, hleaves⟩
      exact hup.imp (fun hup => And.intro hup.left .ended) fun hup => And.intro hup.left rfl
  | closeReceived close reply =>
      rcases hends with ⟨rfl, frame, front, behind, _, _, _, _, hclose⟩
      exact htaken.leaves_exit_closeReceived hclose hup
  | failed error =>
      refine htaken.leaves_exit_failed ?_ (hup.imp And.left And.left)
      rcases hends with hends | ⟨reason, hreason, _⟩
      · exact Or.inl hends.left
      · exact Or.inr ⟨reason, hreason⟩

end Ends

/-!
## At rest
-/

section Rest

variable {first connection : Connection} {start : Receiver} {earlier records : List Record}
  {arrived : Source} {outcome : Outcome} {listener : Option ListenerId}
  {sent : List Transmission} {told : List (ListenerId × Event)} {whole : Prop}

/-- The listener has been told of these records, and what is left is a frame that is not
complete. -/
structure AwaitsMore (first : Connection) (start : Receiver) (earlier : List Record)
    (arrived : Source) (records : List Record) (connection : Connection) : Prop
    extends Attends first start earlier arrived records connection where
  ending : arrived.ending = none
  cut : exists octets left, arrived.bytes = octets ++ left ∧
    Frame.Stream false (records.map Record.frame) octets ∧ Frame.IsCutOff left

theorem Attends.awaitsMore (hattends : first.Attends start earlier arrived records connection)
    (hrest : connection.step? = none) :
    first.AwaitsMore start earlier arrived records connection := by
  rcases hattends.receives with ⟨receiver, hreceiver, hreads, _⟩
  have hstep := (step?_eq_none_iff.mp hrest).right
  rw [hreceiver, Option.bind_some, receiverStep?_of_holdsStream hreads.loop,
    Option.map_eq_none_iff] at hstep
  have hparked : receiver.phase = .parked := by
    have hloop := hreads.loop
    unfold Receiver.step? at hstep
    unfold Receiver.holdsStream at hloop
    cases hphase : receiver.phase <;> simp [hphase] at hstep hloop ⊢
  rcases hreads.waits hparked with ⟨hending, hcut⟩
  rcases hreads.bytes with ⟨octets, hbytes, hstream⟩
  exact { hattends with ending := hending, cut := ⟨octets, _, hbytes, hstream, hcut⟩ }

theorem HasHeard.not_rest
    (hheard : first.HasHeard start earlier arrived records outcome connection) :
    connection.step? ≠ none := by
  intro hrest
  rcases hheard.exits with ⟨receiver, hreceiver, hphase, _⟩
  have hstep := (step?_eq_none_iff.mp hrest).right
  simp [hreceiver, receiverStep?, hphase, isFree, hheard.holder] at hstep

def AwaitsWrites (connection : Connection) : Prop :=
  connection.isFree = false ∧ connection.sink.isStalled = true

theorem awaitsWrites_of_farewell {writer : FrameWriter} {writing : Writing} {deadline : Nat}
    (hholder : connection.holder = some (.farewell writing deadline))
    (hwriter : connection.core.writer = some writer)
    (hstep : connection.farewellStep? writing deadline = none) : connection.AwaitsWrites := by
  refine And.intro (by simp [isFree, hholder]) ?_
  simp only [farewellStep?, hwriter] at hstep
  split at hstep
  case h_4 hwait => exact Output.isStalled_of_step_waiting hwait
  all_goals cases hstep

theorem awaitsWrites_of_leaving {writer : FrameWriter} {writing : Writing} {deadline : Nat}
    {failure : Option Error}
    (hholder : connection.holder = some (.leaving writer writing deadline failure))
    (hstep : connection.leavingStep? writer writing deadline failure = none) :
    connection.AwaitsWrites := by
  refine And.intro (by simp [isFree, hholder]) ?_
  unfold leavingStep? at hstep
  split at hstep
  case h_4 hwait =>
      simp [Sink.isStalled, Output.policy_of_shutdownStep_waiting hwait]
  all_goals cases hstep

/-- A connection that leaves has left, or has to wait for the stream. -/
theorem Leaves.rest (hleaves : first.Leaves listener sent told whole connection)
    (hrest : connection.step? = none) :
    connection.AwaitsWrites ∨
      connection.Leaving listener [] ∧ connection.callbacks = told := by
  rcases step?_eq_none_iff.mp hrest with ⟨hhold, hreceive⟩
  rcases hleaves.stage with ⟨yet, hstage, hcallbacks⟩
  cases hstage with
  | farewell hholder hwriter _ _ _ =>
      rw [hholder] at hhold
      exact Or.inl (awaitsWrites_of_farewell hholder hwriter hhold)
  | leaving hholder _ _ _ _ =>
      rw [hholder] at hhold
      exact Or.inl (awaitsWrites_of_leaving hholder hhold)
  | notifying _ _ _ _ hphase =>
      rcases Option.map_eq_some_iff.mp hphase with ⟨receiver, hreceiver, hnotifying⟩
      simp [hreceiver, receiverStep?, hnotifying] at hreceive
  | left hholder hwriter hstate hphase =>
      rw [toldTo_nil, List.append_nil] at hcallbacks
      exact Or.inr (And.intro (.left hholder hwriter hstate hphase) hcallbacks)

end Rest

/-!
## How a connection ends
-/

/-- The connection has ended: it has sent what the end of the loop calls for, is closed,
and its listener was told so at last. -/
structure HasParted (first : Connection) (start : Receiver) (records : List Record)
    (outcome : Outcome) (whole : Prop) (connection : Connection) : Prop where
  state : connection.core.state = .closed
  isConnected : connection.isConnected = false
  isFree : connection.isFree = true
  callbacks : connection.callbacks = first.allTold start records
  sent : exists payload key, SaysGoodbye first.core.state outcome payload ∧
    connection.transmissions = first.transmissions ++ goodbye key payload ∧
    (whole -> exists octets, connection.sink.content = first.sink.content ++ octets ∧
      Frame.Stream true (payload.toList.map fun payload => ⟨true, .close, payload⟩) octets)

section Parting

variable {first connection : Connection} {start : Receiver} {earlier records : List Record}
  {arrived : Source} {outcome : Outcome} {whole : Prop}

theorem Leaves.hasParted {payload : Option Bytes} {key : MaskKey}
    (hreachable : connection.Reachable)
    (hleaves : first.Leaves start.listener (goodbye key payload) (first.allTold start records)
      whole connection)
    (hgoodbye : SaysGoodbye first.core.state outcome payload)
    (hleft : connection.Leaving start.listener [])
    (htold : connection.callbacks = first.allTold start records) :
    first.HasParted start records outcome whole connection := by
  cases hleft with
  | left hholder hwriter hstate hphase =>
      constructor
      case state => exact hstate
      case isConnected =>
          have hcomplete := complete_of_reachable hreachable
          refine hcomplete.isConnected.trans ?_
          simp [inventory, hwriter]
      case isFree => simp [Connection.isFree, hholder]
      case callbacks => exact htold
      case sent =>
          refine ⟨payload, key, hgoodbye, hleaves.transmissions, ?_⟩
          intro hwhole
          have hconserved := hleaves.conserved hwhole
          rw [unsent_of_left hholder hwriter, List.append_nil] at hconserved
          exact ⟨_, hconserved, hgoodbye.stream⟩

theorem HasHeard.hasParted (hreachable : connection.Reachable)
    (hheard : first.HasHeard start earlier arrived records outcome connection)
    (hup : first.core.state = .opened ∧ start.awaitingClose = false ∨
      first.core.state = .closingLocal ∧ start.awaitingClose = true)
    {moves : List Move} (hquiet : AreQuiet moves)
    (hsucceed : whole -> connection.writesSucceed moves = true)
    (hrest : (connection.play moves).step? = none) :
    (connection.play moves).AwaitsWrites ∨
      first.HasParted start records outcome whole (connection.play moves) := by
  rcases hheard.play hquiet with hstill | ⟨front, rest, rfl, hlater⟩
  · exact absurd hrest hstill.not_rest
  · have hplay : connection.play (front ++ .receive :: rest) =
        ((connection.play front).move .receive).play rest := by
      rw [play_append]
      rfl
    have hquiet' : AreQuiet rest := fun move hmove =>
      hquiet move (List.mem_append_right _ (List.mem_cons_of_mem _ hmove))
    rcases hlater.leaves (hreachable.play front) hup with ⟨payload, key, hgoodbye, hleaves⟩
    have hgone := hleaves.play hquiet' fun hwhole =>
      (writesSucceed_cons.mp (writesSucceed_of_append (hsucceed hwhole))).right
    rw [hplay] at hrest ⊢
    rcases hgone.rest hrest with hwaits | ⟨hleft, htold⟩
    · exact Or.inl hwaits
    · refine Or.inr (hgone.hasParted ?_ hgoodbye hleft htold)
      rw [← hplay]
      exact hreachable.play _

theorem flags_of_isConnected (hreachable : first.Reachable) (hfree : first.isFree = true)
    (hkept : first.isDropped = false) (hconnected : first.isConnected = true)
    (hstart : first.receiver = some start) :
    first.core.state = .opened ∧ start.flags = ⟨false, false, false⟩ ∨
      first.core.state = .closingLocal ∧ start.flags = ⟨false, true, false⟩ := by
  have hcomplete := complete_of_reachable hreachable
  have hflags : first.inventory.flags = some start.flags := by simp [inventory, hstart]
  have hup := (atRest hreachable hfree hkept).isConnected.symm.trans hconnected
  simp only [isUp, Bool.or_eq_true, decide_eq_true_eq] at hup
  rcases hup with hup | hup
  · exact Or.inl (And.intro hup
      (Option.some.inj (hflags.symm.trans (hcomplete.opened hkept hup))))
  · exact Or.inr (And.intro hup
      (Option.some.inj (hflags.symm.trans (hcomplete.closing hkept hup))))

end Parting

/-- A connection that is left alone with its server comes to rest.  Then it awaits more
from the server, or has to wait for the stream with its close frame or the shutdown, or
the receiver's loop has ended at some point and the connection has parted as the end of
the loop calls for. -/
theorem parting_of_play {first : Connection} (hreachable : first.Reachable)
    (hfree : first.isFree = true) (hkept : first.isDropped = false)
    (hconnected : first.isConnected = true) {start : Receiver}
    (hstart : first.receiver = some start) (hreads : start.holdsStream = true)
    (chunks : List Bytes) (ending : Option Ending) {moves : List Move} (hquiet : AreQuiet moves) :
    let course := .supply chunks ending :: moves
    (exists more, (forall move, move ∈ more -> move = .hold ∨ move = .receive) ∧
        (first.play (course ++ more)).step? = none) ∧
      exists messages unfinished earlier, start.assembly.Tells messages unfinished earlier ∧
        ((first.play course).step? = none ->
          (exists records, first.AwaitsMore start earlier (start.source.afterMoves course) records
              (first.play course)) ∨
            (first.play course).AwaitsWrites ∨
            exists front rest records outcome, course = front ++ rest ∧
              first.HasHeard start earlier (start.source.afterMoves front) records outcome
                (first.play front) ∧
              first.HasParted start records outcome (first.writesSucceed course = true)
                (first.play course)) := by
  intro course
  constructor
  · rcases exists_rest (first.play course) with ⟨more, hown, hrest⟩
    exact ⟨more, hown, by rwa [play_append]⟩
  rcases exists_tells hreachable hstart with ⟨messages, unfinished, earlier, htells⟩
  refine ⟨messages, unfinished, earlier, htells, ?_⟩
  intro hrest
  have hup := flags_of_isConnected hreachable hfree hkept hconnected hstart
  have hflags : start.flags = ⟨false, start.awaitingClose, false⟩ := by
    rcases hup with ⟨_, hflags⟩ | ⟨_, hflags⟩ <;>
      rw [hflags, show start.awaitingClose = _ from congrArg Flags.awaitingClose hflags]
  have hup' : first.core.state = .opened ∧ start.awaitingClose = false ∨
      first.core.state = .closingLocal ∧ start.awaitingClose = true :=
    hup.imp (And.imp_right (congrArg Flags.awaitingClose))
      (And.imp_right (congrArg Flags.awaitingClose))
  have hholder : first.holder = none := by simpa [isFree] using hfree
  have hattends := attends_supply hholder hstart hreads hflags htells chunks ending
  rcases hattends.play hquiet with
    ⟨records, hlater⟩ | ⟨front, rest, records, outcome, rfl, hheard⟩
  · exact Or.inl ⟨_, hlater.awaitsMore hrest⟩
  · have hcourse : course = (.supply chunks ending :: front) ++ rest := rfl
    have hquiet' : AreQuiet rest := fun move hmove => hquiet move (List.mem_append_right _ hmove)
    have hreachable' := hreachable.play (.supply chunks ending :: front)
    have hsucceed : first.writesSucceed course = true ->
        (first.play (.supply chunks ending :: front)).writesSucceed rest = true := by
      rw [hcourse]
      exact writesSucceed_of_append
    rw [hcourse, play_append] at hrest ⊢
    right
    rcases hheard.hasParted hreachable' hup' hquiet' hsucceed hrest with hwaits | hparted
    · exact Or.inl hwaits
    · exact Or.inr ⟨_, rest, _, outcome, rfl, hheard, hparted⟩

/-- The server closes with code 1000, and the connection answers: a close frame
with a key, the code masked with the first two octets of the key. -/
theorem parting_of_answered_close :
    let start : Receiver := { source := ⟨[[]], none⟩, listener := some 0 }
    let moves : List Move := [.receive, .receive, .receive, .hold, .hold, .hold, .hold, .receive]
    let course := .supply [[0x88, 0x02], [0x03, 0xE8]] none :: moves
    sample.receiver = some start ∧ AreQuiet moves ∧ (sample.play course).step? = none ∧
      sample.writesSucceed course = true ∧
      (sample.play course).sink.content =
        sample.sink.content ++ [0x88, 0x82, 0x0E, 0x2F, 0xCA, 0x92, 0x0D, 0xC7] ∧
      exists records outcome,
        sample.HasParted start records outcome (sample.writesSucceed course = true)
          (sample.play course) := by
  intro start moves course
  have hquiet : AreQuiet moves := by
    unfold AreQuiet
    decide
  have hrest : (sample.play course).step? = none := by decide +kernel
  have hsucceed : sample.writesSucceed course = true := by decide +kernel
  have hcontent : (sample.play course).sink.content =
      sample.sink.content ++ [0x88, 0x82, 0x0E, 0x2F, 0xCA, 0x92, 0x0D, 0xC7] := by
    decide +kernel
  have hclosed : (sample.play course).core.state = .closed := by decide +kernel
  have hfree : (sample.play course).isFree = true := by decide +kernel
  rcases (parting_of_play sample_steadilyReachable.reachable rfl rfl rfl rfl rfl _ _ hquiet).right
    with ⟨_, _, _, _, hcases⟩
  refine ⟨rfl, hquiet, hrest, hsucceed, hcontent, ?_⟩
  rcases hcases hrest with
    ⟨_, hawaits⟩ | hwaits | ⟨_, _, records, outcome, _, _, hparted⟩
  · have hopened : (sample.play course).core.state = .opened := by
      rw [hawaits.core]
      rfl
    simp [hclosed] at hopened
  · exact absurd (hwaits.left.symm.trans hfree) Bool.false_ne_true
  · exact ⟨records, outcome, hparted⟩

end Connection

end WebSocketClient
