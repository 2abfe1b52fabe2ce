import WebSocketClient.Proofs.Inventory

/-!
# Connections at rest

Whenever the lock is free, what a connection has fits its state: the writer and
the hold on the receiver are there exactly while it is open or closing, and the
receiver knows whether a close frame is awaited.  So a call on an open connection
always finds its writer.
-/

namespace WebSocketClient

namespace Inventory

/-- What is there fits the state, also while the lock is held. -/
structure Complete (inventory : Inventory) : Prop where
  isConnected : inventory.isConnected = inventory.hasWriter
  hasWriter : inventory.hasWriter = true <->
    inventory.state = .opened ∨ inventory.state = .closingLocal ∨ inventory.state = .closingRemote
  negotiated : inventory.negotiated.isSome = true <->
    inventory.state ≠ .disconnected ∧ inventory.state ≠ .connecting
  streaming : inventory.streaming = true -> inventory.hasWriter = true
  early : inventory.state = .disconnected ∨ inventory.state = .connecting ->
    inventory.holdsControl = false ∧ inventory.holdsReceiver = false
  control : inventory.isDropped = false ->
    inventory.holdsControl = inventory.hasWriter ∧ inventory.holdsReceiver = inventory.hasWriter
  opened : inventory.isDropped = false -> inventory.state = .opened ->
    inventory.flags = some ⟨false, false, false⟩
  closing : inventory.isDropped = false -> inventory.state = .closingLocal ->
    inventory.flags = some ⟨false, true, false⟩

section Complete

variable {old new : Inventory}

theorem Complete.nothing (hcomplete : old.Complete)
    (hstate : old.state = .disconnected ∨ old.state = .connecting) :
    old.hasWriter = false ∧ old.negotiated.isSome = false := by
  constructor
  · apply Bool.eq_false_iff.mpr
    intro hhas
    rcases hcomplete.hasWriter.mp hhas with hother | hother | hother <;>
      simp [hother] at hstate
  · apply Bool.eq_false_iff.mpr
    intro hsome
    rcases hcomplete.negotiated.mp hsome with ⟨hdisconnected, hconnecting⟩
    exact hstate.elim hdisconnected hconnecting

theorem Complete.live (hcomplete : old.Complete) (hhas : old.hasWriter = true) :
    old.negotiated.isSome = true := by
  apply hcomplete.negotiated.mpr
  rcases hcomplete.hasWriter.mp hhas with hstate | hstate | hstate <;> simp [hstate]

theorem complete_shift (hcomplete : old.Complete) (hshift : Shift old new) : new.Complete := by
  cases hshift with
  | nothing => exact hcomplete
  | @attempt state hbefore hafter =>
      rcases hcomplete.nothing hbefore with ⟨hnone, hnothing⟩
      refine { hcomplete with
        hasWriter := ?_, negotiated := ?_, early := fun _ => hcomplete.early hbefore
        opened := ?_, closing := ?_ } <;>
        rcases hafter with rfl | rfl <;> simp [hnone, hnothing]
  | @opened protocols hbefore =>
      constructor <;> simp
  | sent hhas => exact { hcomplete with streaming := fun _ => hhas }
  | closing hbefore =>
      have hhas := hcomplete.hasWriter.mpr (Or.inl hbefore)
      refine { hcomplete with
        hasWriter := ?_, negotiated := ?_, early := ?_, opened := ?_, closing := ?_ }
      · simp [hhas]
      · simp [hcomplete.live hhas]
      · simp
      · simp
      · intro hkept _
        simp [(hcomplete.control hkept).left, hhas, hcomplete.opened hkept hbefore]
  | answering hbefore =>
      have hhas := hcomplete.hasWriter.mpr (hbefore.imp_right Or.inl)
      refine { hcomplete with
        hasWriter := ?_, negotiated := ?_, early := ?_, opened := ?_, closing := ?_ }
      · simp [hhas]
      · simp [hcomplete.live hhas]
      · simp
      · simp
      · simp
  | torn hhas =>
      have hsome := hcomplete.live hhas
      constructor <;> simp [release, hsome]
  | taken _ _ => exact { hcomplete with }
  | dropped =>
      refine { hcomplete with control := ?_, opened := ?_, closing := ?_ } <;> simp
  | released =>
      refine { hcomplete with early := ?_, control := ?_, opened := ?_, closing := ?_ } <;>
        simp [release]

theorem negotiated_shift (hshift : Shift old new) {protocols : List String}
    (hnegotiated : old.negotiated = some protocols) : new.negotiated = some protocols := by
  cases hshift with
  | opened hbefore => simp [hnegotiated]
  | _ => exact hnegotiated

end Complete

end Inventory

namespace Connection

theorem complete_of_reachable {connection : Connection} (hreachable : connection.Reachable) :
    connection.inventory.Complete := by
  refine inventory_invariant ?_ Inventory.complete_shift hreachable
  intro config offered listener
  constructor <;> simp [inventory, fresh]

theorem negotiated_play {connection : Connection} (hreachable : connection.Reachable)
    {protocols : List String} (hnegotiated : connection.negotiated = some protocols)
    (moves : List Move) : (connection.play moves).negotiated = some protocols := by
  induction moves generalizing connection with
  | nil => exact hnegotiated
  | cons next rest ih =>
      have hshift := shift_move (stage_of_reachable hreachable) next
      exact ih (hreachable.play [next]) (Inventory.negotiated_shift hshift hnegotiated)

/-!
## With a free lock
-/

def isUp (connection : Connection) : Bool :=
  connection.core.state = .opened || connection.core.state = .closingLocal

/-- What a connection has while the lock is free and the user has not given it
up. -/
structure AtRest (connection : Connection) : Prop where
  state : connection.core.state ∈ [.disconnected, .opened, .closingLocal, .closed]
  isConnected : connection.isConnected = connection.isUp
  writer : connection.core.writer.isSome = connection.isUp
  holdsControl : connection.core.holdsControl = connection.isUp
  holdsReceiver : connection.core.holdsReceiver = connection.isUp
  listener : connection.core.state = .disconnected ∨ connection.core.state = .closed ->
    connection.core.listener = none
  streaming : connection.core.streaming = true -> connection.isUp = true
  awaitingClose : connection.core.holdsControl = true -> exists receiver,
    connection.receiver = some receiver ∧
      receiver.awaitingClose = decide (connection.core.state = .closingLocal)
  negotiated : connection.negotiated.isSome = decide (connection.core.state ≠ .disconnected)

/-- A call that gets as far as its frame finds the writer, when it takes the lock
and at every step of the write. -/
structure FindsWriter (connection : Connection) (call : Call) : Prop where
  start : forall payload frame streaming, connection.isFree = true ->
    connection.core.state = .opened -> call.payload = .ok payload ->
      call.frame payload connection.core.streaming = .ok (frame, streaming) ->
        exists writer work writing, connection.core.writer = some writer ∧
          (connection.move (.call call)).holder = some (.sending work writing) ∧
            writing.rest = frame.encode writer.nextKey
  step : forall work writing, connection.holder = some (.sending work writing) ->
    connection.core.writer.isSome = true

section Standing

variable {connection : Connection}

theorem state_of_free (hreachable : connection.Reachable) (hfree : connection.isFree = true) :
    connection.core.state ∈ [.disconnected, .opened, .closingLocal, .closed] := by
  have htask := task_outline_of_isFree hfree
  have hstate : connection.outline.state ∈ [.disconnected, .opened, .closingLocal, .closed] := by
    cases stage_of_reachable hreachable with
    | idle hstate _ _ _ => simp [hstate]
    | opening _ hother _ _ _ => simp [htask] at hother
    | live hlive _ _ _ _ _ =>
        rw [htask] at hlive
        cases hstate : connection.outline.state <;> simp [hstate, Outline.IsLive] at hlive ⊢
    | leaving hstate _ _ _ _ _ _ => simp [hstate]
    | gone hstate _ _ _ _ _ => simp [hstate]
  exact hstate

theorem listener_of_free (hreachable : connection.Reachable) (hfree : connection.isFree = true)
    (hstate : connection.core.state = .disconnected ∨ connection.core.state = .closed) :
    connection.core.listener = none := by
  have htask := task_outline_of_isFree hfree
  have hstate' : connection.outline.state = .disconnected ∨ connection.outline.state = .closed :=
    hstate
  have howed : connection.outline.owed = none := by
    cases stage_of_reachable hreachable with
    | idle _ _ _ hunopened => exact hunopened.owed
    | opening hother _ _ _ _ => simp [hother] at hstate'
    | live hlive _ _ _ _ _ =>
        exact absurd hstate' (not_or.mpr (And.intro hlive.ne_closed.right hlive.ne_closed.left))
    | leaving _ hother _ _ _ _ _ => simp [htask] at hother
    | gone _ _ _ _ howed _ => exact howed
  exact howed

theorem atRest (hreachable : connection.Reachable) (hfree : connection.isFree = true)
    (hkept : connection.isDropped = false) : connection.AtRest := by
  have hstate := state_of_free hreachable hfree
  have hcomplete := complete_of_reachable hreachable
  have hremote : connection.inventory.state ≠ .closingRemote ∧
      connection.inventory.state ≠ .connecting := by
    show connection.core.state ≠ .closingRemote ∧ connection.core.state ≠ .connecting
    constructor <;> intro hother <;> simp [hother] at hstate
  have hwriter : connection.inventory.hasWriter = connection.isUp := by
    rw [Bool.eq_iff_iff, hcomplete.hasWriter]
    simp [hremote.left, isUp]
    rfl
  have hcontrol := hcomplete.control hkept
  rw [hwriter] at hcontrol
  constructor
  case state => exact hstate
  case isConnected => exact hcomplete.isConnected.trans hwriter
  case writer => exact hwriter
  case holdsControl => exact hcontrol.left
  case holdsReceiver => exact hcontrol.right
  case listener => exact listener_of_free hreachable hfree
  case streaming =>
      intro hstreaming
      rw [← hwriter]
      exact hcomplete.streaming hstreaming
  case awaitingClose =>
      intro hholds
      have hup : connection.isUp = true := hcontrol.left.symm.trans hholds
      simp only [isUp, Bool.or_eq_true, decide_eq_true_eq] at hup
      rcases hup with hopened | hclosing
      · rcases Option.map_eq_some_iff.mp (hcomplete.opened hkept hopened) with
          ⟨receiver, hreceiver, hflags⟩
        have hstate : connection.core.state = .opened := hopened
        have hawaiting : receiver.awaitingClose = false := congrArg Flags.awaitingClose hflags
        exact ⟨receiver, hreceiver, by simp [hstate, hawaiting]⟩
      · rcases Option.map_eq_some_iff.mp (hcomplete.closing hkept hclosing) with
          ⟨receiver, hreceiver, hflags⟩
        have hstate : connection.core.state = .closingLocal := hclosing
        have hawaiting : receiver.awaitingClose = true := congrArg Flags.awaitingClose hflags
        exact ⟨receiver, hreceiver, by simp [hstate, hawaiting]⟩
  case negotiated =>
      rw [Bool.eq_iff_iff, decide_eq_true_eq]
      exact hcomplete.negotiated.trans (and_iff_left hremote.right)

theorem findsWriter (hreachable : connection.Reachable) (call : Call) :
    connection.FindsWriter call := by
  have hstage := stage_of_reachable hreachable
  constructor
  case start =>
      intro payload frame streaming hfree hopened hpayload hframe
      rcases Outline.exists_writer_of_open hstage (Or.inl hopened) with ⟨writer, hwriter, hheld⟩
      have hmove : connection.move (.call call) = connection.startCall call payload := by
        simp [move, hpayload, hfree]
      have houtline := outline_startCall hopened hwriter hheld hframe
      have htask : (connection.startCall call payload).outline.task = .sending streaming := by
        rw [houtline]
      rcases exists_sending_of_task htask with ⟨work, writing, hholder, _⟩
      have hrest : (connection.startCall call payload).outline.rest =
          frame.encode writer.nextKey := by
        rw [houtline]
      refine ⟨writer, work, writing, hwriter, by rw [hmove, hholder], ?_⟩
      rw [← hrest, rest_of_holder hholder]
      rfl
  case step =>
      intro work writing hholder
      have htask := task_of_holder hholder
      rcases Outline.exists_writer_of_sending hstage htask with ⟨writer, hwriter⟩
      have hwriter' : connection.core.writer = some writer := hwriter
      simp [hwriter']

theorem closed_play (hreachable : connection.Reachable) (hclosed : connection.core.state = .closed)
    (moves : List Move) : (connection.play moves).core.state = .closed :=
  (ebb_play hreachable hclosed moves).state

end Standing

/-- Whenever the lock is free, what a connection has fits its state.  What was
agreed on stays, a closed connection stays closed, and no call misses the
writer. -/
theorem standing_of_reachable {connection : Connection} (hreachable : connection.Reachable) :
    (connection.isFree = true -> connection.isDropped = false -> connection.AtRest) ∧
      (forall protocols moves, connection.negotiated = some protocols ->
        (connection.play moves).negotiated = some protocols) ∧
      (forall moves, connection.core.state = .closed ->
        (connection.play moves).core.state = .closed) ∧
      forall call, connection.FindsWriter call := by
  refine ⟨atRest hreachable, ?_, ?_, findsWriter hreachable⟩
  · intro protocols moves hnegotiated
    exact negotiated_play hreachable hnegotiated moves
  · intro moves hclosed
    exact closed_play hreachable hclosed moves

/-- A close frame has been sent and the server's is awaited. -/
theorem standing_of_closing_sample :
    let connection := sample.play (.call (.close .normal "") :: List.replicate 3 .hold)
    connection.isFree = true ∧ connection.isDropped = false ∧
      connection.core.state = .closingLocal ∧ connection.AtRest ∧
      forall moves, (connection.play moves).negotiated = some [] := by
  intro connection
  have hreachable : connection.Reachable := sample_steadilyReachable.reachable.play _
  have hfree : connection.isFree = true := by decide +kernel
  have hkept : connection.isDropped = false := by decide +kernel
  have hstate : connection.core.state = .closingLocal := by decide +kernel
  have hnegotiated : connection.negotiated = some [] := by decide +kernel
  rcases standing_of_reachable hreachable with ⟨hrest, hstays, _⟩
  exact ⟨hfree, hkept, hstate, hrest hfree hkept, fun moves => hstays _ moves hnegotiated⟩

end Connection

end WebSocketClient
