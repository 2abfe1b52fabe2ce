import WebSocketClient.Proofs.Attending
import WebSocketClient.Proofs.Simulation

/-!
# Calling while the server sends

The server does not come between the calls and their frames.  While a connection is
open, the frames of the calls follow from the calls alone, whatever the server sends.
-/

namespace WebSocketClient

/-!
## The frames of calls
-/

/-- The frames of calls on an open connection, one call after another, given the masking
keys and whether an outgoing sequence is in progress. -/
def Call.speak (keys : MaskKeys) (streaming : Bool) : List Call -> List Transmission
  | [] => []
  | call :: rest =>
      match call.payload with
      | .error _ => speak keys streaming rest
      | .ok payload =>
          match call.frame payload streaming with
          | .error _ => speak keys streaming rest
          | .ok (frame, after) =>
              ⟨some call, frame, some keys.next.1⟩ :: speak keys.next.2 after rest

/-- The server, the clock, the stream or the owner of the connection does something. -/
def Move.isOutside : Move -> Bool
  | supply _ _ | pass _ | treatWrites _ _ | setListener _ | giveUp => true
  | connect _ _ | call _ | hold | receive => false

namespace Connection

/-- The call that is made in this move.  A call that has to wait for the lock is not
made yet. -/
def makes (connection : Connection) : Move -> List Call
  | .call call => if connection.isFree then [call] else []
  | _ => []

def made : Connection -> List Move -> List Call
  | _, [] => []
  | connection, next :: moves => connection.makes next ++ (connection.move next).made moves

theorem makes_of_isOutside {connection : Connection} {next : Move}
    (houtside : next.isOutside = true) : connection.makes next = [] := by
  cases next with
  | call call => cases houtside
  | _ => rfl

def spoken (connection : Connection) : List Transmission :=
  connection.transmissions.filter fun transmission => transmission.call.isSome

theorem spoken_of_transmissions {connection next : Connection}
    (hsame : next.transmissions = connection.transmissions) : next.spoken = connection.spoken := by
  rw [spoken, spoken, hsame]

/-!
## Moves that do not touch the output
-/

/-- The second connection is in the same state with the same output, and the same frame is
under way. -/
structure Abides (old new : Connection) : Prop where
  state : new.core.state = old.core.state
  writer : new.core.writer = old.core.writer
  streaming : new.core.streaming = old.core.streaming
  transmissions : new.transmissions = old.transmissions
  holder : new.holder = old.holder ∨
    exists chunks ending, new.holder = old.holder.map fun holder => holder.arrive chunks ending

theorem abides_refl (connection : Connection) : connection.Abides connection :=
  ⟨rfl, rfl, rfl, rfl, Or.inl rfl⟩

theorem abides_of_isOutside (connection : Connection) {next : Move}
    (houtside : next.isOutside = true) : connection.Abides (connection.move next) := by
  cases next with
  | supply chunks ending => exact ⟨rfl, rfl, rfl, rfl, Or.inr ⟨chunks, ending, rfl⟩⟩
  | pass milliseconds => exact { connection.abides_refl with }
  | treatWrites policy flush => exact { connection.abides_refl with }
  | setListener listener =>
      simp only [move]
      split
      · exact { connection.abides_refl with }
      · exact connection.abides_refl
  | giveUp =>
      simp only [move, giveUp]
      split
      · split
        · exact { connection.abides_refl with }
        · exact { connection.abides_refl with }
      · exact connection.abides_refl
  | _ => cases houtside

theorem abides_receive (connection : Connection) :
    (connection.isFree = true ∧
        exists outcome, connection.move .receive = connection.exit outcome) ∨
      connection.Abides (connection.move .receive) := by
  simp only [move]
  cases hreceiver : connection.receiver with
  | none => exact Or.inr connection.abides_refl
  | some receiver =>
      rw [Option.bind_some]
      unfold receiverStep?
      split
      case h_1 outcome hphase =>
          cases hfree : connection.isFree with
          | true => exact Or.inl (And.intro rfl ⟨outcome, rfl⟩)
          | false =>
              right
              cases receiver.aborted with
              | true => exact { connection.abides_refl with }
              | false => exact connection.abides_refl
      case h_2 => exact Or.inr { connection.abides_refl with }
      case h_3 =>
          right
          cases hstep : receiver.step? connection.config.limits with
          | none => exact connection.abides_refl
          | some stepped =>
              rcases stepped with ⟨next, signals⟩
              rcases exists_journal_tell { connection with receiver := some next } next.listener
                signals with ⟨journal, hjournal, htransmissions, _⟩
              simp only [Option.map_some, Option.getD_some]
              rw [hjournal]
              exact { connection.abides_refl with transmissions := htransmissions }

end Connection

/-!
## Connections that were open all along
-/

namespace Outline

variable {old new : Outline}

/-- A connection that has been open cannot be opened again. -/
theorem opened_of_change (hstage : old.Stage) (hchange : Change old new)
    (haudience : old.audience.isSome = true) :
    new.audience.isSome = true ∧ (new.state = .opened -> old.state = .opened) := by
  cases hchange with
  | opened htask =>
      have hunopened := (opening_of_task hstage (Or.inr htask)).right.left
      simp [hunopened.audience] at haudience
  | ask _ _ _ _ => exact And.intro haudience (by simp)
  | failOpening _ _ => exact And.intro haudience (by simp)
  | fall _ _ _ _ => exact And.intro haudience (by simp)
  | leave _ _ _ => exact And.intro haudience (by simp)
  | begin _ hstate _ _ _ => exact And.intro haudience fun _ => hstate
  | beginFarewell _ _ hstate _ =>
      refine And.intro haudience fun hopened => ?_
      rcases hstate with ⟨hstate, _⟩ | ⟨_, hremote⟩
      · exact hstate
      · cases hremote.symm.trans hopened
  | _ => exact And.intro haudience id

end Outline

namespace Connection

theorem isSome_receiver_move {connection : Connection} (hreachable : connection.Reachable)
    (hreceiver : connection.receiver.isSome = true) (next : Move) :
    (connection.move next).receiver.isSome = true := by
  have hstage := stage_of_reachable hreachable
  have haudience : connection.outline.audience.isSome = true := by
    simpa [outline] using hreceiver
  simpa [outline] using (Outline.opened_of_change hstage (change_of_move hstage next)
    haudience).left

theorem opened_of_play {connection : Connection} (hreachable : connection.Reachable)
    (hreceiver : connection.receiver.isSome = true) {moves : List Move}
    (hopened : (connection.play moves).core.state = .opened) :
    connection.core.state = .opened := by
  induction moves generalizing connection with
  | nil => exact hopened
  | cons next rest ih =>
      have hstage := stage_of_reachable hreachable
      have haudience : connection.outline.audience.isSome = true := by
        simpa [outline] using hreceiver
      have hlater := isSome_receiver_move hreachable hreceiver next
      exact (Outline.opened_of_change hstage (change_of_move hstage next) haudience).right
        (ih (hreachable.play [next]) hlater hopened)

/-!
## Frames of an open connection
-/

/-- The connection is open and calls can be made on it, with these keys for their frames
once the one under way is sent. -/
structure Speaks (keys : MaskKeys) (streaming : Bool) (connection : Connection) : Prop where
  state : connection.core.state = .opened
  writer : exists writer, connection.core.writer = some writer ∧ writer.role = .client ∧
    writer.keys = keys
  turn : connection.holder = none ∧ connection.core.streaming = streaming ∨
    exists frame writing, connection.holder = some (.sending frame writing) ∧
      frame.streamingAfter = streaming

/-- The receiver sends its close frame, so no call can be made. -/
def IsSilenced (connection : Connection) : Prop :=
  exists writing deadline, connection.holder = some (.farewell writing deadline)

section Speaking

variable {keys : MaskKeys} {streaming : Bool} {connection next : Connection}

theorem Speaks.finish (hspeaks : connection.Speaks keys streaming) (failure : Option Error) :
    (connection.finish failure).Speaks keys streaming :=
  { hspeaks with }

theorem Speaks.abide (hspeaks : connection.Speaks keys streaming)
    (habides : connection.Abides next) :
    next.Speaks keys streaming ∧ next.spoken = connection.spoken := by
  refine And.intro ⟨habides.state.trans hspeaks.state, ?_, ?_⟩
    (spoken_of_transmissions habides.transmissions)
  · rw [habides.writer]
    exact hspeaks.writer
  · rw [habides.streaming]
    rcases hspeaks.turn with ⟨hholder, hsame⟩ | ⟨frame, writing, hholder, hafter⟩
    · refine Or.inl (And.intro ?_ hsame)
      rcases habides.holder with hnext | ⟨_, _, hnext⟩ <;> rw [hnext, hholder]
      rfl
    · refine Or.inr ⟨frame, writing, ?_, hafter⟩
      rcases habides.holder with hnext | ⟨_, _, hnext⟩ <;> rw [hnext, hholder]
      rfl

theorem Speaks.startSending (hspeaks : connection.Speaks keys streaming) (call : Call)
    (frame : Frame) (after : Bool) :
    (connection.startSending call frame after).Speaks keys.next.2 after ∧
      (connection.startSending call frame after).spoken =
        connection.spoken ++ [⟨some call, frame, some keys.next.1⟩] := by
  rcases hspeaks.writer with ⟨writer, hwriter, hrole, hkeys⟩
  have hkey : writer.nextKey = some keys.next.1 := by
    simp [FrameWriter.nextKey, hrole, Role.mustMask, hkeys]
  have hstart : (writer.start frame).2.keys = keys.next.2 := by
    simp [FrameWriter.start, hrole, Role.mustMask, hkeys]
  simp only [Connection.startSending, hwriter, hkey]
  constructor
  · exact ⟨hspeaks.state, ⟨_, rfl, (writer.role_start frame).trans hrole, hstart⟩,
      Or.inr ⟨_, _, rfl, rfl⟩⟩
  · simp [spoken, transmissions, record, log, Journal.transmissions]

theorem state_startSending (connection : Connection) (call : Call) (frame : Frame) (after : Bool) :
    (connection.startSending call frame after).core.state = connection.core.state := by
  unfold Connection.startSending
  split <;> rfl

theorem Speaks.startCall (hspeaks : connection.Speaks keys streaming)
    (hfree : connection.isFree = true) {call : Call} {payload : Bytes}
    (hpayload : call.payload = .ok payload)
    (hopened : (connection.startCall call payload).core.state = .opened) :
    exists frames keys' streaming', (connection.startCall call payload).Speaks keys' streaming' ∧
      (connection.startCall call payload).spoken = connection.spoken ++ frames ∧
      forall rest, Call.speak keys streaming (call :: rest) =
        frames ++ Call.speak keys' streaming' rest := by
  have hstreaming : connection.core.streaming = streaming := by
    rcases hspeaks.turn with ⟨_, hsame⟩ | ⟨_, _, hsome, _⟩
    · exact hsame
    · simp [isFree, hsome] at hfree
  have hsend : connection.core.state.canSend = true := by
    simp [hspeaks.state, ConnectionState.canSend]
  unfold Connection.startCall at hopened ⊢
  rw [if_pos hsend, hstreaming] at hopened ⊢
  cases hframe : call.frame payload streaming with
  | error error =>
      refine ⟨[], keys, streaming, hspeaks.finish _, (List.append_nil _).symm, fun rest => ?_⟩
      simp [Call.speak, hpayload, hframe]
  | ok framed =>
      rcases framed with ⟨frame, after⟩
      simp only [hframe] at hopened ⊢
      split at hopened
      case h_1 code reason _ =>
          rw [state_startSending] at hopened
          cases hopened
      case h_2 =>
          rcases hspeaks.startSending call frame after with ⟨hnext, hspoken⟩
          refine ⟨_, _, _, hnext, hspoken, fun rest => ?_⟩
          simp [Call.speak, hpayload, hframe]

theorem state_startTeardown (connection : Connection) (failure : Option Error) :
    (connection.startTeardown failure).core.state = .closed := by
  unfold startTeardown
  simp only
  split
  case h_1 => rfl
  case h_2 => cases failure <;> rfl

theorem Speaks.sendingStep {frame : Sending} {writing : Writing}
    (hspeaks : connection.Speaks keys streaming)
    (hholder : connection.holder = some (.sending frame writing))
    (hstep : connection.sendingStep? frame writing = some next)
    (hopened : next.core.state = .opened) :
    next.Speaks keys streaming ∧ next.spoken = connection.spoken := by
  have hafter : frame.streamingAfter = streaming := by
    rcases hspeaks.turn with ⟨hnone, _⟩ | ⟨other, _, hsome, hafter⟩
    · cases hnone.symm.trans hholder
    · cases hsome.symm.trans hholder
      exact hafter
  rcases hspeaks.writer with ⟨writer, hwriter, hrole, hkeys⟩
  simp only [sendingStep?, hwriter] at hstep
  split at hstep
  case h_1 =>
      cases hstep
      exact And.intro ⟨hspeaks.state, ⟨_, rfl, hrole, hkeys⟩, Or.inr ⟨_, _, rfl, hafter⟩⟩ rfl
  case h_2 output sink _ =>
      cases hstep
      constructor
      · exact ⟨hspeaks.state, ⟨_, rfl, hrole, hkeys⟩, Or.inl (And.intro rfl hafter)⟩
      · apply spoken_of_transmissions
        exact transmissions_report (connection.setOutput writer output sink)
          (.frameSent frame.opcode frame.fin frame.length)
  case h_3 error output sink _ =>
      cases hstep
      rw [state_startTeardown] at hopened
      cases hopened
  case h_4 => cases hstep

theorem spoken_startFarewell {writer : FrameWriter} (hwriter : connection.core.writer = some writer)
    (payload : Bytes) : (connection.startFarewell payload).spoken = connection.spoken := by
  have htransmissions : (connection.startFarewell payload).transmissions =
      connection.transmissions ++ [⟨none, ⟨true, .close, payload⟩, writer.nextKey⟩] :=
    congrArg Outline.transmissions (outline_startFarewell hwriter payload)
  simp [spoken, htransmissions]

theorem Speaks.hold (hspeaks : connection.Speaks keys streaming)
    (hopened : (connection.move .hold).core.state = .opened) :
    (connection.move .hold).Speaks keys streaming ∧
      (connection.move .hold).spoken = connection.spoken := by
  simp only [Connection.move] at hopened ⊢
  rcases hspeaks.turn with ⟨hholder, _⟩ | ⟨frame, writing, hholder, _⟩
  · rw [hholder]
    exact And.intro hspeaks rfl
  · simp only [hholder, Option.bind_some, holderStep?] at hopened ⊢
    cases hstep : connection.sendingStep? frame writing with
    | none => exact And.intro hspeaks rfl
    | some next =>
        rw [hstep] at hopened
        exact hspeaks.sendingStep hholder hstep hopened

theorem Speaks.exit (hspeaks : connection.Speaks keys streaming) {outcome : Outcome}
    (hopened : (connection.exit outcome).core.state = .opened) :
    ((connection.exit outcome).Speaks keys streaming ∨ (connection.exit outcome).IsSilenced) ∧
      (connection.exit outcome).spoken = connection.spoken := by
  rcases hspeaks.writer with ⟨writer, hwriter, _⟩
  have hopen : ¬ connection.core.state.isClosed = true := by
    simp [ConnectionState.isClosed, hspeaks.state]
  unfold Connection.exit at hopened ⊢
  rw [if_neg hopen] at hopened ⊢
  cases outcome with
  | stopped => exact And.intro (Or.inl { hspeaks with }) rfl
  | endOfStream =>
      rw [state_startTeardown] at hopened
      cases hopened
  | closeReceived close reply =>
      cases reply with
      | true =>
          rw [state_startTeardown] at hopened
          cases hopened
      | false =>
          simp [startFarewell, setPhase, mapReceiver, report, record, log, hwriter] at hopened
  | failed error =>
      simp only at hopened ⊢
      split at hopened
      case isTrue hreports =>
          rw [if_pos hreports]
          have hwriter' : ((connection.setPhase .closing).report
              (.receiverFailed error)).core.writer = some writer := hwriter
          constructor
          · right
            simp only [startFarewell, hwriter']
            exact ⟨_, _, rfl⟩
          · refine (spoken_startFarewell hwriter' _).trans (spoken_of_transmissions ?_)
            exact transmissions_report (connection.setPhase .closing) (.receiverFailed error)
      case isFalse hsilent =>
          rw [state_startTeardown] at hopened
          cases hopened

theorem Speaks.receive (hspeaks : connection.Speaks keys streaming)
    (hopened : (connection.move .receive).core.state = .opened) :
    ((connection.move .receive).Speaks keys streaming ∨ (connection.move .receive).IsSilenced) ∧
      (connection.move .receive).spoken = connection.spoken := by
  rcases connection.abides_receive with ⟨_, outcome, hexit⟩ | habides
  · rw [hexit] at hopened ⊢
    exact hspeaks.exit hopened
  · exact (hspeaks.abide habides).imp_left Or.inl

/-- Every move of an open connection either makes a call, whose frame follows from it, or
leaves the frames of calls alone. -/
theorem Speaks.move (hspeaks : connection.Speaks keys streaming) {next : Move}
    (hopened : (connection.move next).core.state = .opened) :
    (connection.move next).IsSilenced ∧ connection.makes next = [] ∧
        (connection.move next).spoken = connection.spoken ∨
      exists frames keys' streaming', (connection.move next).Speaks keys' streaming' ∧
        (connection.move next).spoken = connection.spoken ++ frames ∧
        forall rest, Call.speak keys streaming (connection.makes next ++ rest) =
          frames ++ Call.speak keys' streaming' rest := by
  have hquiet {after : Connection} (hafter : after.Speaks keys streaming)
      (hspoken : after.spoken = connection.spoken) (hmakes : connection.makes next = []) :
      exists frames keys' streaming', after.Speaks keys' streaming' ∧
        after.spoken = connection.spoken ++ frames ∧
        forall rest, Call.speak keys streaming (connection.makes next ++ rest) =
          frames ++ Call.speak keys' streaming' rest := by
    refine ⟨[], keys, streaming, hafter, hspoken.trans (List.append_nil _).symm, fun rest => ?_⟩
    rw [hmakes]
    rfl
  by_cases houtside : next.isOutside = true
  · rcases hspeaks.abide (connection.abides_of_isOutside houtside) with ⟨hnext, hspoken⟩
    exact Or.inr (hquiet hnext hspoken (makes_of_isOutside houtside))
  cases next with
  | connect opening dial =>
      have hfault : openingFault? connection.core.state =
          some (.usage "websocket is already connected") := by rw [hspeaks.state]; rfl
      right
      simp only [Connection.move, startOpening, hfault]
      split
      · exact hquiet (hspeaks.finish _) rfl rfl
      · exact hquiet hspeaks rfl rfl
  | call call =>
      right
      simp only [Connection.move, makes] at hopened ⊢
      cases hpayload : call.payload with
      | error error =>
          simp only
          refine ⟨[], keys, streaming, hspeaks.finish _, (List.append_nil _).symm, fun rest => ?_⟩
          split
          · simp [Call.speak, hpayload]
          · rfl
      | ok payload =>
          rw [hpayload] at hopened
          simp only at hopened ⊢
          split at hopened
          case isTrue hfree =>
              rw [if_pos hfree, if_pos hfree]
              exact hspeaks.startCall hfree hpayload hopened
          case isFalse hbusy =>
              rw [if_neg hbusy, if_neg hbusy]
              exact ⟨[], keys, streaming, hspeaks, (List.append_nil _).symm, fun rest => rfl⟩
  | hold =>
      rcases hspeaks.hold hopened with ⟨hnext, hspoken⟩
      exact Or.inr (hquiet hnext hspoken rfl)
  | receive =>
      rcases hspeaks.receive hopened with ⟨hnext | hsilenced, hspoken⟩
      · exact Or.inr (hquiet hnext hspoken rfl)
      · exact Or.inl ⟨hsilenced, rfl, hspoken⟩
  | _ => exact absurd rfl houtside

theorem IsSilenced.abide (hsilenced : connection.IsSilenced) (habides : connection.Abides next) :
    next.IsSilenced ∧ next.spoken = connection.spoken := by
  rcases hsilenced with ⟨writing, deadline, hholder⟩
  refine And.intro ⟨writing, deadline, ?_⟩ (spoken_of_transmissions habides.transmissions)
  rcases habides.holder with hnext | ⟨_, _, hnext⟩ <;> rw [hnext, hholder]
  rfl

theorem IsSilenced.hold (hsilenced : connection.IsSilenced)
    (hopened : (connection.move .hold).core.state = .opened) :
    (connection.move .hold).IsSilenced ∧ (connection.move .hold).spoken = connection.spoken := by
  rcases hsilenced with ⟨writing, deadline, hholder⟩
  simp only [Connection.move, hholder, Option.bind_some, holderStep?] at hopened ⊢
  cases hstep : connection.farewellStep? writing deadline with
  | none => exact And.intro ⟨writing, deadline, hholder⟩ rfl
  | some next =>
      rw [hstep] at hopened
      have hclosed {other : Connection} (hsome : some (other.startTeardown none) = some next) :
          False := by
        cases hsome
        rw [Option.getD_some, state_startTeardown] at hopened
        cases hopened
      unfold farewellStep? at hstep
      split at hstep
      case h_1 => cases hstep
      case h_2 =>
          split at hstep
          case h_1 =>
              cases hstep
              exact And.intro ⟨_, _, rfl⟩ rfl
          case h_2 => exact (hclosed hstep).elim
          case h_3 => exact (hclosed hstep).elim
          case h_4 =>
              split at hstep
              case isTrue => exact (hclosed hstep).elim
              case isFalse => cases hstep

theorem IsSilenced.move (hsilenced : connection.IsSilenced) {next : Move}
    (hopened : (connection.move next).core.state = .opened) :
    (connection.move next).IsSilenced ∧ connection.makes next = [] ∧
      (connection.move next).spoken = connection.spoken := by
  have hbusy : connection.isFree = false := by
    rcases hsilenced with ⟨writing, deadline, hholder⟩
    simp [isFree, hholder]
  by_cases houtside : next.isOutside = true
  · rcases hsilenced.abide (connection.abides_of_isOutside houtside) with ⟨hnext, hspoken⟩
    exact ⟨hnext, makes_of_isOutside houtside, hspoken⟩
  cases next with
  | connect opening dial =>
      simp only [Connection.move, hbusy]
      exact ⟨hsilenced, rfl, rfl⟩
  | call call =>
      simp only [Connection.move, makes, hbusy]
      split
      · exact ⟨hsilenced, rfl, rfl⟩
      · exact ⟨hsilenced, rfl, rfl⟩
  | hold =>
      rcases hsilenced.hold hopened with ⟨hnext, hspoken⟩
      exact ⟨hnext, rfl, hspoken⟩
  | receive =>
      rcases connection.abides_receive with ⟨hfree, _⟩ | habides
      · exact absurd (hbusy.symm.trans hfree) Bool.false_ne_true
      · rcases hsilenced.abide habides with ⟨hnext, hspoken⟩
        exact ⟨hnext, rfl, hspoken⟩
  | _ => exact absurd rfl houtside

/-!
## Any moves
-/

theorem IsSilenced.play (hreachable : connection.Reachable)
    (hreceiver : connection.receiver.isSome = true) (hsilenced : connection.IsSilenced)
    {moves : List Move} (hopened : (connection.play moves).core.state = .opened) :
    connection.made moves = [] ∧ (connection.play moves).spoken = connection.spoken := by
  induction moves generalizing connection with
  | nil => exact And.intro rfl rfl
  | cons next rest ih =>
      have hreachable' : (connection.move next).Reachable := hreachable.play [next]
      have hreceiver' := isSome_receiver_move hreachable hreceiver next
      rcases hsilenced.move (opened_of_play hreachable' hreceiver' hopened) with
        ⟨hlater, hmakes, hspoken⟩
      rcases ih hreachable' hreceiver' hlater hopened with ⟨hmade, hsame⟩
      constructor
      · rw [made, hmakes, hmade]
        rfl
      · exact hsame.trans hspoken

theorem Speaks.play (hreachable : connection.Reachable)
    (hreceiver : connection.receiver.isSome = true) (hspeaks : connection.Speaks keys streaming)
    {moves : List Move} (hopened : (connection.play moves).core.state = .opened) :
    (connection.play moves).spoken =
      connection.spoken ++ Call.speak keys streaming (connection.made moves) := by
  induction moves generalizing connection keys streaming with
  | nil => exact (List.append_nil _).symm
  | cons next rest ih =>
      have hreachable' : (connection.move next).Reachable := hreachable.play [next]
      have hreceiver' := isSome_receiver_move hreachable hreceiver next
      rcases hspeaks.move (opened_of_play hreachable' hreceiver' hopened) with
        ⟨hsilenced, hmakes, hspoken⟩ | ⟨frames, keys', streaming', hnext, hspoken, hfollows⟩
      · rcases hsilenced.play hreachable' hreceiver' hopened with ⟨hmade, hsame⟩
        rw [made, hmakes, hmade, play_cons, hsame, hspoken]
        exact (List.append_nil _).symm
      · rw [made, hfollows, play_cons, ih hreachable' hreceiver' hnext hopened, hspoken,
          List.append_assoc]

/-- A connection that stays open sends the frames that follow from the calls. -/
theorem spoken_of_play (hreachable : connection.Reachable) (hfree : connection.isFree = true)
    (hreceiver : connection.receiver.isSome = true) :
    exists keys, forall moves, (connection.play moves).core.state = .opened ->
      (connection.play moves).spoken =
        connection.spoken ++ Call.speak keys connection.core.streaming (connection.made moves) := by
  by_cases hstate : connection.core.state = .opened
  · rcases Outline.exists_writer_of_open (stage_of_reachable hreachable) (Or.inl hstate) with
      ⟨writer, hwriter, _⟩
    have hrole := (Outline.live_of_writer (stage_of_reachable hreachable) hwriter).right.left
    have hholder : connection.holder = none := by simpa [isFree] using hfree
    have hspeaks : connection.Speaks writer.keys connection.core.streaming :=
      ⟨hstate, ⟨writer, hwriter, hrole, rfl⟩, Or.inl (And.intro hholder rfl)⟩
    exact ⟨writer.keys, fun moves hopened => hspeaks.play hreachable hreceiver hopened⟩
  · exact ⟨⟨0⟩, fun moves hopened => absurd (opened_of_play hreachable hreceiver hopened) hstate⟩

end Speaking

end Connection

end WebSocketClient
