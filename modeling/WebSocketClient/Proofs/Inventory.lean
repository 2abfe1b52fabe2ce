import WebSocketClient.Proofs.Returning

/-!
# What a connection has

The parts of a connection that come and go with its state: the writer, the hold on
the receiver and on its flags, the sub-protocols agreed on, and what the receiver
has taken in.  They are changed one after another, and every move changes them in
one of a few ways.
-/

namespace WebSocketClient

structure Flags where
  stop : Bool := false
  awaitingClose : Bool := false
  aborted : Bool := false

def Receiver.flags (receiver : Receiver) : Flags :=
  ⟨receiver.stop, receiver.awaitingClose, receiver.aborted⟩

def Assembly.Takes (before after : Assembly) : Prop :=
  exists limits source frame rest event,
    before.readFrame limits source = .done frame rest ∧
      before.accept frame = .ok (.event event, after)

structure Inventory where
  state : ConnectionState
  isConnected : Bool
  negotiated : Option (List String)
  hasWriter : Bool
  streaming : Bool
  holdsControl : Bool
  holdsReceiver : Bool
  /-- The flags of the receiver, once there is one. -/
  flags : Option Flags
  assembly : Option Assembly
  isDropped : Bool

def Connection.inventory (connection : Connection) : Inventory where
  state := connection.core.state
  isConnected := connection.isConnected
  negotiated := connection.negotiated
  hasWriter := connection.core.writer.isSome
  streaming := connection.core.streaming
  holdsControl := connection.core.holdsControl
  holdsReceiver := connection.core.holdsReceiver
  flags := connection.receiver.map Receiver.flags
  assembly := connection.receiver.map Receiver.assembly
  isDropped := connection.isDropped

namespace Inventory

def release (inventory : Inventory) (abort : Bool) : Inventory :=
  { inventory with
    holdsControl := false
    holdsReceiver := false
    flags := inventory.flags.map fun flags => { flags with
      stop := inventory.holdsControl || flags.stop
      aborted := inventory.holdsReceiver && abort || flags.aborted } }

/-- What one move can do to an inventory. -/
inductive Shift (old : Inventory) : Inventory -> Prop
  | nothing : Shift old old
  /-- An opening handshake begins or fails. -/
  | attempt {state : ConnectionState} : old.state = .disconnected ∨ old.state = .connecting ->
      state = .disconnected ∨ state = .connecting -> Shift old { old with state := state }
  | opened {protocols : List String} : old.state = .connecting ->
      Shift old { old with
        state := .opened, isConnected := true, hasWriter := true
        negotiated := old.negotiated <|> some protocols
        holdsControl := true, holdsReceiver := true, flags := some {}, assembly := some {} }
  /-- A frame is sent. -/
  | sent {after : Bool} : old.hasWriter = true -> Shift old { old with streaming := after }
  /-- A caller starts the closing handshake. -/
  | closing : old.state = .opened ->
      Shift old { old with
        state := .closingLocal
        flags := if old.holdsControl then
            old.flags.map fun flags => { flags with awaitingClose := true }
          else old.flags }
  /-- The receiver answers a close frame. -/
  | answering : old.state = .opened ∨ old.state = .closingLocal ->
      Shift old { old with state := .closingRemote }
  | torn {abort : Bool} : old.hasWriter = true ->
      Shift old { old.release abort with
        state := .closed, isConnected := false, hasWriter := false, streaming := false }
  /-- The receiver takes a frame in. -/
  | taken {before after : Assembly} : old.assembly = some before -> before.Takes after ->
      Shift old { old with assembly := some after }
  /-- The user gives the connection up, with the lock free or held. -/
  | dropped : Shift old { old with isDropped := true }
  | released : Shift old ({ old with isDropped := true }.release true)

theorem Shift.to {old new new' : Inventory} (hshift : Shift old new) (heq : new' = new) :
    Shift old new' := by
  rw [heq]
  exact hshift

end Inventory

/-!
## Inventories of the parts of a move
-/

namespace Receiver

theorem flags_abort (receiver : Receiver) :
    receiver.abort.flags = { receiver.flags with aborted := true } := by
  unfold abort
  split <;> rfl

theorem flags_release (core : Core) (abort : Bool) (receiver : Receiver) :
    (core.release abort receiver).flags = { receiver.flags with
      stop := core.holdsControl || receiver.stop
      aborted := core.holdsReceiver && abort || receiver.aborted } := by
  unfold Core.release
  simp only
  split
  case isTrue habort =>
      rw [flags_abort, habort]
      rfl
  case isFalse habort =>
      have hkept : (core.holdsReceiver && abort) = false := by simpa using habort
      rw [hkept]
      rfl

theorem flags_takeFrame (receiver : Receiver) (frame : Frame) (rest : Source) :
    (receiver.takeFrame frame rest).1.flags = receiver.flags := by
  unfold takeFrame
  split <;> rfl

theorem flags_readFrame (limits : Limits) (receiver : Receiver) :
    (receiver.readFrame limits).1.flags = receiver.flags := by
  unfold readFrame
  split
  case h_1 => exact flags_takeFrame receiver _ _
  all_goals rfl

@[simp] theorem assembly_abort (receiver : Receiver) :
    receiver.abort.assembly = receiver.assembly := by
  unfold abort
  split <;> rfl

@[simp] theorem assembly_release (core : Core) (abort : Bool) (receiver : Receiver) :
    (core.release abort receiver).assembly = receiver.assembly := by
  unfold Core.release
  split <;> simp

theorem assembly_step {limits : Limits} {receiver next : Receiver} {signals : List Signal}
    (hstep : receiver.step? limits = some (next, signals)) :
    next.assembly = receiver.assembly ∨ receiver.assembly.Takes next.assembly := by
  unfold step? at hstep
  split at hstep
  case h_1 =>
      cases hstep
      exact Or.inl rfl
  case h_2 =>
      unfold readFrame at hstep
      split at hstep
      case h_1 frame rest hread =>
          unfold takeFrame at hstep
          split at hstep
          case h_1 =>
              cases hstep
              exact Or.inl rfl
          case h_2 =>
              cases hstep
              exact Or.inl rfl
          case h_3 event after haccept =>
              cases hstep
              exact Or.inr ⟨limits, receiver.source, frame, rest, event, hread, haccept⟩
      all_goals
        cases hstep
        exact Or.inl rfl
  case h_3 =>
      cases hstep
      exact Or.inl rfl
  all_goals cases hstep

theorem flags_step {limits : Limits} {receiver next : Receiver} {signals : List Signal}
    (hstep : receiver.step? limits = some (next, signals)) : next.flags = receiver.flags := by
  unfold step? at hstep
  split at hstep
  case h_1 =>
      cases hstep
      rfl
  case h_2 =>
      have hread := flags_readFrame limits receiver
      rw [Option.some.inj hstep] at hread
      exact hread
  case h_3 =>
      cases hstep
      rfl
  all_goals cases hstep

end Receiver

namespace Connection

open Inventory

@[simp] theorem inventory_report (connection : Connection) (diagnostic : Diagnostic) :
    (connection.report diagnostic).inventory = connection.inventory := rfl

@[simp] theorem inventory_finish (connection : Connection) (failure : Option Error) :
    (connection.finish failure).inventory = connection.inventory := rfl

@[simp] theorem inventory_notify (connection : Connection) (listener : Option ListenerId)
    (event : Event) : (connection.notify listener event).inventory = connection.inventory := rfl

theorem inventory_setPhase (connection : Connection) (phase : ReceiverPhase) :
    (connection.setPhase phase).inventory = connection.inventory := by
  cases hreceiver : connection.receiver <;>
    simp [inventory, setPhase, mapReceiver, hreceiver, Receiver.flags]

theorem inventory_failOpening (connection : Connection) (error : Error) :
    (connection.failOpening error).inventory =
      { connection.inventory with state := .disconnected } := rfl

theorem inventory_setOutput {connection : Connection} {writer : FrameWriter}
    (hwriter : connection.core.writer = some writer) (output : Output) (sink : Sink) :
    (connection.setOutput writer output sink).inventory = connection.inventory := by
  simp [inventory, setOutput, hwriter]

theorem inventory_releaseReceiver (connection : Connection) (abort : Bool) :
    (connection.releaseReceiver abort).inventory = connection.inventory.release abort := by
  cases hreceiver : connection.receiver with
  | none => simp [inventory, releaseReceiver, mapReceiver, Inventory.release, hreceiver]
  | some receiver =>
      have hflags := Receiver.flags_release connection.core abort receiver
      simp only [Receiver.flags, Flags.mk.injEq] at hflags
      simp [inventory, releaseReceiver, mapReceiver, Inventory.release, hreceiver,
        Receiver.flags, hflags]

theorem inventory_finishTeardown (connection : Connection) (failure : Option Error) :
    (connection.finishTeardown failure).inventory = connection.inventory := by
  cases failure with
  | some error => rfl
  | none =>
      cases hreceiver : connection.receiver <;>
        simp [inventory, finishTeardown, report, log, mapReceiver, hreceiver, Receiver.flags]

theorem inventory_startTeardown {connection : Connection} {writer : FrameWriter}
    (hwriter : connection.core.writer = some writer) (failure : Option Error) :
    (connection.startTeardown failure).inventory =
      { connection.inventory.release failure.isSome with
        state := .closed, isConnected := false, hasWriter := false, streaming := false } := by
  have hreleased := connection.inventory_releaseReceiver failure.isSome
  simp only [startTeardown, hwriter]
  rw [← hreleased]
  rfl

theorem inventory_startClosing (connection : Connection) (code : CloseCode) (reason : String) :
    (connection.startClosing code reason).inventory = { connection.inventory with
      state := .closingLocal
      flags := if connection.inventory.holdsControl then
          connection.inventory.flags.map fun flags => { flags with awaitingClose := true }
        else connection.inventory.flags } := by
  cases hcontrol : connection.core.holdsControl <;> cases hreceiver : connection.receiver <;>
    simp [inventory, startClosing, report, log, mapReceiver, hcontrol, hreceiver, Receiver.flags]

theorem inventory_startSending {connection : Connection} {writer : FrameWriter}
    (hwriter : connection.core.writer = some writer) (call : Call) (frame : Frame)
    (streamingAfter : Bool) :
    (connection.startSending call frame streamingAfter).inventory = connection.inventory := by
  simp [startSending, inventory, hwriter, record, log]

theorem inventory_startFarewell {connection : Connection} {writer : FrameWriter}
    (hwriter : connection.core.writer = some writer) (payload : Bytes) :
    (connection.startFarewell payload).inventory = connection.inventory := by
  simp [startFarewell, inventory, hwriter, record, log]

theorem inventory_supply (connection : Connection) (chunks : List Bytes)
    (ending : Option Ending) :
    (connection.supply chunks ending).inventory = connection.inventory := by
  cases hreceiver : connection.receiver <;>
    simp [inventory, supply, hreceiver, Receiver.arrive, Receiver.flags]

/-!
## Every move is a shift
-/

section Shifts

variable {connection next : Connection}

theorem shift_startOpening (opening : Opening) (dial : Dial) :
    Shift connection.inventory (connection.startOpening opening dial).inventory := by
  unfold startOpening
  split
  case h_1 => exact .nothing
  case h_2 hfault =>
      have hstate : connection.inventory.state = .disconnected := openingFault?_eq_none hfault
      split
      case h_1 => exact .nothing
      case h_2 =>
          simp only
          split
          case h_1 =>
              apply (Shift.attempt (Or.inl hstate) (Or.inl rfl)).to
              rw [inventory_failOpening, inventory_report]
              rfl
          case h_2 => exact .attempt (Or.inl hstate) (Or.inr rfl)

theorem shift_startCall (hstage : connection.outline.Stage) (call : Call) (payload : Bytes) :
    Shift connection.inventory (connection.startCall call payload).inventory := by
  unfold startCall
  split
  case isFalse => exact .nothing
  case isTrue hsend =>
      have hstate : connection.core.state = .opened := by
        simpa [ConnectionState.canSend] using hsend
      rcases Outline.exists_writer_of_open hstage (Or.inl hstate) with ⟨writer, hwriter, _⟩
      split
      case h_1 => exact .nothing
      case h_2 frame after _ =>
          split
          case h_1 code reason _ =>
              have hwriter' : (connection.startClosing code reason).core.writer = some writer := by
                show (connection.startClosing code reason).outline.writer = some writer
                rw [outline_startClosing]
                exact hwriter
              apply (Shift.closing hstate).to
              rw [inventory_startSending hwriter', inventory_startClosing]
          case h_2 =>
              apply Shift.nothing.to
              exact inventory_startSending hwriter call frame after

theorem shift_requestStep {attempt : Attempt} {writing : Writing}
    (hstate : connection.inventory.state = .connecting)
    (hstep : connection.requestStep? attempt writing = some next) :
    Shift connection.inventory next.inventory := by
  unfold requestStep? at hstep
  split at hstep
  case h_1 =>
      cases hstep
      exact .nothing
  case h_2 =>
      cases hstep
      exact .nothing
  case h_3 =>
      cases hstep
      exact .attempt (Or.inr hstate) (Or.inl rfl)
  case h_4 => cases hstep

theorem shift_readAnswer {attempt : Attempt} (hstate : connection.inventory.state = .connecting)
    (hstep : connection.readAnswer? attempt = some next) :
    Shift connection.inventory next.inventory := by
  unfold readAnswer? at hstep
  split at hstep
  case h_1 => cases hstep
  case h_2 => cases hstep
  case h_3 =>
      cases hstep
      exact .attempt (Or.inr hstate) (Or.inl rfl)
  case h_4 =>
      split at hstep
      case h_1 =>
          cases hstep
          exact .attempt (Or.inr hstate) (Or.inl rfl)
      case h_2 =>
          cases hstep
          exact .opened hstate

theorem shift_sendingStep {sending : Sending} {writing : Writing}
    (hstep : connection.sendingStep? sending writing = some next) :
    Shift connection.inventory next.inventory := by
  unfold sendingStep? at hstep
  split at hstep
  case h_1 => cases hstep
  case h_2 writer hwriter =>
      have hhas : connection.inventory.hasWriter = true := by simp [inventory, hwriter]
      split at hstep
      case h_1 output sink writing' _ =>
          cases hstep
          exact Shift.nothing.to (inventory_setOutput hwriter output sink)
      case h_2 output sink _ =>
          cases hstep
          apply (Shift.sent hhas).to
          rw [← inventory_setOutput hwriter output sink]
          rfl
      case h_3 error output sink _ =>
          cases hstep
          apply (Shift.torn hhas).to
          rw [inventory_startTeardown rfl, inventory_report, inventory_setOutput hwriter]
      case h_4 => cases hstep

theorem shift_farewellStep {writing : Writing} {deadline : Nat}
    (hstep : connection.farewellStep? writing deadline = some next) :
    Shift connection.inventory next.inventory := by
  unfold farewellStep? at hstep
  split at hstep
  case h_1 => cases hstep
  case h_2 writer hwriter =>
      have hhas : connection.inventory.hasWriter = true := by simp [inventory, hwriter]
      split at hstep
      case h_1 output sink writing' _ =>
          cases hstep
          exact Shift.nothing.to (inventory_setOutput hwriter output sink)
      case h_2 output sink _ =>
          cases hstep
          apply (Shift.torn hhas).to
          rw [inventory_startTeardown rfl, inventory_setOutput hwriter]
      case h_3 error output sink _ =>
          cases hstep
          apply (Shift.torn hhas).to
          rw [inventory_startTeardown rfl, inventory_report, inventory_setOutput hwriter]
      case h_4 =>
          split at hstep
          case isTrue =>
              cases hstep
              have hwriter' : (connection.report .closeTimedOut).core.writer = some writer :=
                hwriter
              apply (Shift.torn hhas).to
              rw [inventory_startTeardown hwriter', inventory_report]
          case isFalse => cases hstep

theorem shift_leavingStep {writer : FrameWriter} {writing : Writing} {deadline : Nat}
    {failure : Option Error}
    (hstep : connection.leavingStep? writer writing deadline failure = some next) :
    Shift connection.inventory next.inventory := by
  have hfinish (sink : Sink) : ({ connection with sink := sink }.finishTeardown failure).inventory =
      connection.inventory :=
    inventory_finishTeardown { connection with sink := sink } failure
  unfold leavingStep? at hstep
  split at hstep
  case h_1 =>
      cases hstep
      exact .nothing
  case h_2 output sink _ =>
      cases hstep
      exact Shift.nothing.to (hfinish sink)
  case h_3 error output sink _ =>
      cases hstep
      exact Shift.nothing.to (hfinish sink)
  case h_4 =>
      split at hstep
      case isTrue =>
          cases hstep
          exact Shift.nothing.to (hfinish connection.sink)
      case isFalse => cases hstep

theorem shift_hold (hstage : connection.outline.Stage) :
    Shift connection.inventory (connection.move .hold).inventory := by
  cases hholder : connection.holder with
  | none =>
      simp only [move, hholder, Option.bind_none, Option.getD_none]
      exact .nothing
  | some holder =>
      have htask := task_of_holder hholder
      simp only [move, hholder, Option.bind_some]
      cases hstep : connection.holderStep? holder with
      | none => exact .nothing
      | some next =>
          cases holder with
          | requesting attempt writing =>
              exact shift_requestStep (Outline.opening_of_task hstage (Or.inl htask)).left hstep
          | awaitingAnswer attempt =>
              exact shift_readAnswer (Outline.opening_of_task hstage (Or.inr htask)).left hstep
          | sending sending writing => exact shift_sendingStep hstep
          | farewell writing deadline => exact shift_farewellStep hstep
          | leaving writer writing deadline failure => exact shift_leavingStep hstep

theorem shift_exit (hstage : connection.outline.Stage) (hfree : connection.isFree = true)
    {receiver : Receiver} (hreceiver : connection.receiver = some receiver) (outcome : Outcome) :
    Shift connection.inventory (connection.exit outcome).inventory := by
  have htask := task_outline_of_isFree hfree
  have haudience : connection.outline.audience = some receiver.listener := by
    simp [outline, hreceiver]
  unfold exit
  split
  case isTrue => exact Shift.nothing.to (inventory_setPhase connection .finished)
  case isFalse hopen =>
      have hstate : connection.outline.state ≠ .closed := by
        simpa [ConnectionState.isClosed, outline] using hopen
      rcases Outline.live_of_free hstage htask haudience hstate with ⟨hlive, writer, hwriter, _⟩
      have hwriter : connection.core.writer = some writer := hwriter
      have hhas : connection.inventory.hasWriter = true := by simp [inventory, hwriter]
      have hteardown {closing : Connection} (hclosing : closing.inventory = connection.inventory)
          (hsame : closing.core.writer = some writer) :
          Shift connection.inventory (closing.startTeardown none).inventory := by
        apply (Shift.torn hhas).to
        rw [inventory_startTeardown hsame, hclosing]
      have hclosing := inventory_setPhase connection .closing
      split
      case h_1 => exact Shift.nothing.to (inventory_setPhase connection .finished)
      case h_2 => exact hteardown hclosing hwriter
      case h_3 frame =>
          have hlive' : connection.inventory.state = .opened ∨
              connection.inventory.state = .closingLocal := hlive
          apply (Shift.answering hlive').to
          refine (@inventory_startFarewell _ writer ?_ _).trans ?_
          · exact hwriter
          · rw [← hclosing]
            rfl
      case h_4 => exact hteardown hclosing hwriter
      case h_5 error =>
          simp only
          split
          case isTrue =>
              apply Shift.nothing.to
              refine (@inventory_startFarewell _ writer ?_ _).trans hclosing
              exact hwriter
          case isFalse => exact hteardown hclosing hwriter

theorem shift_receive (hstage : connection.outline.Stage) :
    Shift connection.inventory (connection.move .receive).inventory := by
  cases hreceiver : connection.receiver with
  | none =>
      simp only [move, hreceiver, Option.bind_none, Option.getD_none]
      exact .nothing
  | some receiver =>
      simp only [move, hreceiver, Option.bind_some]
      cases hstep : connection.receiverStep? receiver with
      | none => exact .nothing
      | some next =>
          rw [Option.getD_some]
          unfold receiverStep? at hstep
          split at hstep
          case h_1 outcome _ =>
              split at hstep
              case isTrue hfree =>
                  cases hstep
                  exact shift_exit hstage hfree hreceiver outcome
              case isFalse =>
                  split at hstep
                  · cases hstep
                    exact Shift.nothing.to (inventory_setPhase connection .finished)
                  · cases hstep
          case h_2 listener _ =>
              cases hstep
              apply Shift.nothing.to
              rw [inventory_setPhase, inventory_notify]
          case h_3 =>
              rcases Option.map_eq_some_iff.mp hstep with ⟨⟨after, signals⟩, hafter, rfl⟩
              rcases exists_journal_emit { connection with receiver := some after } after.listener
                signals with ⟨journal, hjournal⟩
              simp only [hjournal]
              have hflags := Receiver.flags_step hafter
              rcases Receiver.assembly_step hafter with hsame | htakes
              · apply Shift.nothing.to
                simp [inventory, hreceiver, hflags, hsame]
              · have hbefore : connection.inventory.assembly = some receiver.assembly := by
                  simp [inventory, hreceiver]
                apply (Shift.taken hbefore htakes).to
                simp [inventory, hreceiver, hflags]

theorem shift_move (hstage : connection.outline.Stage) (next : Move) :
    Shift connection.inventory (connection.move next).inventory := by
  cases next with
  | connect opening dial =>
      simp only [move]
      split
      · exact shift_startOpening opening.afresh dial.afresh
      · exact .nothing
  | call call =>
      simp only [move]
      split
      · exact .nothing
      · split
        · exact shift_startCall hstage call _
        · exact .nothing
  | hold => exact shift_hold hstage
  | receive => exact shift_receive hstage
  | supply chunks ending => exact Shift.nothing.to (inventory_supply connection chunks ending)
  | pass milliseconds => exact .nothing
  | treatWrites policy flush => exact .nothing
  | setListener listener =>
      simp only [move]
      split
      · exact .nothing
      · exact .nothing
  | giveUp =>
      simp only [move]
      split
      case isFalse => exact .nothing
      case isTrue =>
          simp only [giveUp]
          split
          case isTrue =>
              apply Shift.released.to
              exact inventory_releaseReceiver { connection with isDropped := true } true
          case isFalse => exact .dropped

end Shifts

/-- What holds of an inventory at first and what every shift keeps holds after any
moves. -/
theorem inventory_invariant {P : Inventory -> Prop}
    (hfresh : forall config offered listener, P (fresh config offered listener).inventory)
    (hshift : forall {old new : Inventory}, P old -> Shift old new -> P new)
    {connection : Connection} (hreachable : connection.Reachable) : P connection.inventory := by
  rcases hreachable with ⟨config, offered, listener, moves, rfl⟩
  refine (@play_invariant
    (fun connection => connection.outline.Stage ∧ P connection.inventory) ?_ _
    (And.intro (stage_fresh config offered listener) (hfresh config offered listener))
    moves).right
  intro connection next hboth
  exact And.intro (Outline.stage_change hboth.left (change_of_move hboth.left next))
    (hshift hboth.right (shift_move hboth.left next))

end Connection

end WebSocketClient
