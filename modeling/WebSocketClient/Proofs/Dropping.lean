import WebSocketClient.Proofs.Deadlines
import WebSocketClient.Proofs.Sequencing

/-!
# Dropping a connection

The user gives up a connection that has come to rest.  If the lock is free its receiver
waits for octets, and ends there.  Otherwise the receiver holds the lock to tear the
connection down, and goes on with that alone.
-/

namespace WebSocketClient

namespace Holder

theorem task_of_not_isCaller {holder : Holder} (hnot : holder.isCaller = false) :
    holder.task = .farewell ∨ holder.task = .leaving false := by
  cases holder with
  | farewell writing deadline => exact Or.inl rfl
  | leaving writer writing deadline failure => exact Or.inr (congrArg Task.leaving hnot)
  | _ => cases hnot

end Holder

namespace Outline

theorem live_of_farewell {outline : Outline} (hstage : outline.Stage)
    (htask : outline.task = .farewell) :
    exists writer, outline.writer = some writer ∧ IsLive outline.state outline.task ∧
      outline.audience = some outline.owed := by
  cases hstage with
  | live hlive hwriter _ _ haudience _ => exact ⟨_, hwriter, hlive, haudience⟩
  | idle _ hother _ _ => simp [htask] at hother
  | opening _ hother _ _ _ => simp [htask] at hother
  | leaving _ hother _ _ _ _ _ => simp [htask] at hother
  | gone _ hother _ _ _ _ => simp [htask] at hother

end Outline

namespace Connection

open Transmission

/-- The frame that was begun last is the receiver's close frame, if it is the receiver that
holds the lock and if that frame is not settled. -/
theorem close_of_unsettled {connection : Connection} (hreachable : connection.Reachable)
    (htask : connection.outline.task = .farewell ∨ connection.outline.task = .leaving false) :
    exists last : Option Transmission,
      connection.transmissions = connection.settled ++ last.toList ∧
        forall transmission, last = some transmission ->
          transmission.call = none ∧ transmission.frame.opcode = .close := by
  rcases frames_invariant hreachable with ⟨hlined, hsequenced, hsigned⟩
  rcases hlined.tail with ⟨last, hlast⟩
  refine ⟨last, hlast, ?_⟩
  rintro transmission rfl
  have hcall := hsigned.receiving htask transmission hlast
  have hmem : transmission ∈ connection.outline.transmissions := by simp [hlast]
  exact And.intro hcall ((hsequenced.fit transmission hmem).opcode_eq_close hcall)

/-!
## With a free lock
-/

structure IsOver (connection : Connection) : Prop where
  holder : connection.holder = none
  receiver : forall receiver, connection.receiver = some receiver ->
    receiver.phase = .closing ∨ receiver.phase = .finished

section Free

variable {connection : Connection} {receiver : Receiver}

theorem IsOver.move (hover : connection.IsOver) {next : Move} (hquiet : next.isQuiet = true) :
    (connection.move next).IsOver ∧
      (connection.move next).callbacks = connection.callbacks ∧
      (connection.move next).sink.content = connection.sink.content := by
  by_cases hreceive : next = .receive
  · subst hreceive
    have hsame : connection.move .receive = connection := by
      cases hreceiver : connection.receiver with
      | none => simp [Connection.move, hreceiver]
      | some receiver =>
          exact move_receive_of_done (by rw [hreceiver]; rfl) (hover.receiver receiver hreceiver)
    rw [hsame]
    exact ⟨hover, rfl, rfl⟩
  have hdeaf : connection.isDeaf := by
    intro chunks ending
    rw [hover.holder]
    rfl
  have hsame := undisturbed hquiet hdeaf (fun _ => hover.holder) hreceive
  refine ⟨⟨hsame.holder.trans hover.holder, ?_⟩, hsame.callbacks, hsame.content⟩
  intro after hafter
  rw [hsame.receiver] at hafter
  rcases Option.map_eq_some_iff.mp hafter with ⟨before, hbefore, rfl⟩
  have hphase := hover.receiver before hbefore
  rwa [Receiver.phase_afterMove (by rcases hphase with hphase | hphase <;> simp [hphase])]

theorem IsOver.play (hover : connection.IsOver) {moves : List Move} (hquiet : AreQuiet moves) :
    (connection.play moves).callbacks = connection.callbacks ∧
      (connection.play moves).sink.content = connection.sink.content := by
  induction moves generalizing connection with
  | nil => exact And.intro rfl rfl
  | cons next rest ih =>
      rcases hquiet.of_cons with ⟨hnext, hrest⟩
      rcases hover.move hnext with ⟨hover', hcallbacks, hcontent⟩
      rcases ih hover' hrest with ⟨hcallbacks', hcontent'⟩
      exact And.intro (hcallbacks'.trans hcallbacks) (hcontent'.trans hcontent)

theorem phase_of_rest (hfree : connection.isFree = true) (hrest : connection.step? = none)
    (hreceiver : connection.receiver = some receiver) :
    receiver.phase = .parked ∨ receiver.phase = .closing ∨ receiver.phase = .finished := by
  have hstep := (step?_eq_none_iff.mp hrest).right
  rw [hreceiver, Option.bind_some] at hstep
  cases hphase : receiver.phase with
  | parked => exact Or.inl rfl
  | closing => exact Or.inr (Or.inl rfl)
  | finished => exact Or.inr (Or.inr rfl)
  | _ => simp [receiverStep?, Receiver.step?, hphase, hfree] at hstep

theorem holdsReceiver_of_parked (hreachable : connection.Reachable)
    (hfree : connection.isFree = true) (hkept : connection.isDropped = false)
    (hreceiver : connection.receiver = some receiver) (hparked : receiver.phase = .parked) :
    connection.core.holdsReceiver = true := by
  have hatRest := atRest hreachable hfree hkept
  rw [hatRest.holdsReceiver]
  cases hstate : connection.core.state with
  | disconnected =>
      have hunopened :=
        Outline.unopened_of_disconnected (stage_of_reachable hreachable) hstate
      have hnobody : connection.receiver.map Receiver.listener = none := hunopened.audience
      simp [hreceiver] at hnobody
  | closed =>
      have hended : connection.hasEnded = true := by
        simp [hasEnded, hstate, hfree, hreceiver, hparked, ConnectionState.isClosed,
          ReceiverPhase.parting?]
      rcases ended_cases hreachable hended hreceiver with ⟨_, _, _, _, hawake⟩
      exact absurd hparked hawake
  | opened => simp [isUp, hstate]
  | closingLocal => simp [isUp, hstate]
  | _ => simpa [hstate] using hatRest.state

theorem isOver_giveUp (hreachable : connection.Reachable) (hkept : connection.isDropped = false)
    (hrest : connection.step? = none) (hfree : connection.isFree = true) :
    connection.giveUp.IsOver ∧ connection.giveUp.callbacks = connection.callbacks ∧
      connection.giveUp.sink.content = connection.sink.content := by
  have hgiveUp : connection.giveUp =
      releaseReceiver { connection with isDropped := true } true :=
    if_pos hfree
  rw [hgiveUp]
  refine ⟨⟨by simpa [isFree, releaseReceiver, mapReceiver] using hfree, ?_⟩, rfl, rfl⟩
  intro after hafter
  rcases Option.map_eq_some_iff.mp hafter with ⟨receiver, hreceiver, rfl⟩
  rcases phase_of_rest hfree hrest hreceiver with hparked | hdone
  · have hholds := holdsReceiver_of_parked hreachable hfree hkept hreceiver hparked
    right
    simp [Core.release, hholds, Receiver.abort, hparked]
  · rwa [Receiver.phase_release (by rcases hdone with hdone | hdone <;> simp [hdone])]

end Free

/-!
## While the receiver holds the lock
-/

/-- The connection is closed, and all that its listener has been told since is the end. -/
structure HasLeft (first : Connection) (listener : Option ListenerId) (connection : Connection) :
    Prop where
  state : connection.core.state = .closed
  isFree : connection.isFree = true
  callbacks : connection.callbacks = first.callbacks ++ toldTo listener [.closed]

/-- Nothing has been sent but more octets of the frame in question, and nothing was told but
the end. -/
structure TrailsOff (first : Connection) (listener : Option ListenerId)
    (last : Option Transmission) (front : Bytes) (connection : Connection) : Prop where
  transmissions : connection.transmissions = first.transmissions
  content : exists more, connection.sink.content = first.sink.content ++ more ∧
    front ++ more <+: octetsOf last.toList
  callbacks : connection.callbacks = first.callbacks ∨
    connection.callbacks = first.callbacks ++ toldTo listener [.closed]

section Held

variable {first connection : Connection} {listener : Option ListenerId}
  {told : List (ListenerId × Event)}

/-- A connection whose lock the receiver holds is about to leave. -/
theorem leaving_of_held (hreachable : connection.Reachable) {holder : Holder}
    (hholder : connection.holder = some holder) (hnot : holder.isCaller = false) :
    exists receiver, connection.receiver = some receiver ∧
      connection.Leaving receiver.listener [.closed] := by
  have hstage := stage_of_reachable hreachable
  have hphase := (isTimely_of_reachable hreachable).closing holder hholder hnot
  have htask := task_of_holder hholder
  have hlistener (haudience : connection.outline.audience = some connection.core.listener) :
      exists receiver, connection.receiver = some receiver ∧
        receiver.listener = connection.core.listener :=
    Option.map_eq_some_iff.mp haudience
  cases holder with
  | requesting attempt writing => cases hnot
  | awaitingAnswer attempt => cases hnot
  | sending sending writing => cases hnot
  | farewell writing deadline =>
      rcases Outline.live_of_farewell hstage htask with ⟨writer, hwriter, hlive, haudience⟩
      rcases hlistener haudience with ⟨receiver, hreceiver, howed⟩
      have hopen := hlive.ne_closed.left
      exact ⟨receiver, hreceiver, .farewell hholder hwriter hopen howed.symm hphase⟩
  | leaving writer writing deadline failure =>
      cases failure with
      | some error => cases hnot
      | none =>
          rcases Outline.leaving_of_task hstage htask with ⟨hstate, hwriter, haudience, _⟩
          rcases hlistener haudience with ⟨receiver, hreceiver, howed⟩
          exact ⟨receiver, hreceiver, .leaving hholder hwriter hstate howed.symm hphase⟩

theorem leaves_giveUp (hreachable : connection.giveUp.Reachable) {holder : Holder}
    (hholder : connection.holder = some holder) (hnot : holder.isCaller = false) :
    exists receiver, connection.receiver = some receiver ∧
      connection.Leaves receiver.listener []
        (connection.callbacks ++ toldTo receiver.listener [.closed]) False connection.giveUp := by
  have hgiveUp : connection.giveUp = { connection with isDropped := true } :=
    if_neg (by simp [isFree, hholder])
  rw [hgiveUp] at hreachable ⊢
  rcases leaving_of_held hreachable hholder hnot with ⟨receiver, hreceiver, hleaving⟩
  refine ⟨receiver, hreceiver, ⟨_, hleaving, rfl⟩, ?_, False.elim, False.elim⟩
  rw [List.append_nil]
  rfl

/-- At rest the teardown is over, unless it waits for a stalled stream. -/
theorem Leaves.hasLeft
    (hleaves : first.Leaves listener [] (first.callbacks ++ toldTo listener [.closed]) False
      connection) (hrest : connection.step? = none)
    (hover : connection.sink.isStalled = false ∨ connection.waits = 0) :
    first.HasLeft listener connection := by
  rcases hleaves.rest hrest with ⟨hheld, hstalled⟩ | ⟨hleft, htold⟩
  · rcases hover with hgoes | hnone
    · exact absurd (hgoes.symm.trans hstalled) Bool.false_ne_true
    · rcases hleaves.stage with ⟨yet, hleaving, _⟩
      cases hleaving with
      | farewell hholder _ _ _ _ => simp [waits, hholder] at hnone
      | leaving hholder _ _ _ _ => simp [waits, hholder] at hnone
      | notifying hholder _ _ _ _ => simp [isFree, hholder] at hheld
      | left hholder _ _ _ => simp [isFree, hholder] at hheld
  · cases hleft with
    | left hholder _ hstate _ => exact ⟨hstate, by simp [isFree, hholder], htold⟩

theorem Leaves.callbacks_cases
    (hleaves : first.Leaves listener [] (first.callbacks ++ toldTo listener [.closed]) False
      connection) :
    connection.callbacks = first.callbacks ∨
      connection.callbacks = first.callbacks ++ toldTo listener [.closed] := by
  rcases hleaves.stage with ⟨yet, hleaving, hcallbacks⟩
  cases hleaving with
  | left _ _ _ _ =>
      rw [toldTo_nil, List.append_nil] at hcallbacks
      exact Or.inr hcallbacks
  | _ => exact Or.inl (List.append_cancel_right hcallbacks)

theorem content_of_same_transmissions (hreachable : connection.Reachable)
    (hreceiver : connection.receiver.isSome = true) {last : Option Transmission}
    (hlast : connection.transmissions = connection.settled ++ last.toList) {front : Bytes}
    (hcontent : connection.sink.content =
      connection.request ++ (octetsOf connection.settled ++ front)) {moves : List Move}
    (hsame : (connection.play moves).transmissions = connection.transmissions) :
    exists more, (connection.play moves).sink.content = connection.sink.content ++ more ∧
      front ++ more <+: octetsOf last.toList := by
  have hgrows := grows_play hreachable hreceiver moves
  have hrequest : (connection.play moves).request = connection.request := hgrows.request
  rcases hgrows.content with ⟨more, hmore⟩
  change connection.sink.content ++ more = (connection.play moves).sink.content at hmore
  refine ⟨more, hmore.symm, ?_⟩
  have hdue : (connection.play moves).sink.content <+:
      (connection.play moves).request ++ octetsOf (connection.play moves).transmissions :=
    (wire_invariant (hreachable.play moves)).right.content_prefix
  rw [← hmore, hrequest, hsame, hlast, hcontent, octetsOf_append] at hdue
  simpa [List.append_assoc, List.prefix_append_right_inj] using hdue

end Held

/-!
## The drop
-/

section Drop

variable {first connection : Connection}

theorem move_giveUp (howned : connection.isOwned = true) :
    connection.move .giveUp = connection.giveUp :=
  if_pos howned

theorem clock_giveUp (connection : Connection) :
    connection.giveUp.clock = connection.clock ∧ connection.giveUp.config = connection.config := by
  unfold giveUp
  simp only
  split <;> exact And.intro rfl rfl

theorem waits_le (connection : Connection) : connection.waits <= 2 := by
  unfold waits
  split <;> decide

theorem Leaves.hasLeft_of_clock {listener : Option ListenerId} (hreachable : connection.Reachable)
    (hleaves : first.Leaves listener [] (first.callbacks ++ toldTo listener [.closed]) False
      connection) {moves more : List Move} (hquiet : AreQuiet moves) (hmore : AreQuiet more)
    (hrest : (connection.play moves).step? = none)
    (hrest' : ((connection.play moves).play more).step? = none)
    (hclock : connection.clock + connection.config.socketTimeout <=
      (connection.play moves).clock)
    (hclock' : (connection.play moves).clock + connection.config.socketTimeout <=
      ((connection.play moves).play more).clock) :
    first.HasLeft listener ((connection.play moves).play more) := by
  have hlater := hleaves.play hquiet False.elim
  have hconfig := (hleaves.waitsOn_play hquiet).config
  have hwait := hleaves.wait_over (isTimely_of_reachable hreachable) hquiet hrest hclock
  have hwait' := hlater.wait_over (isTimely_of_reachable (hreachable.play moves)) hmore hrest'
    (by rwa [hconfig])
  have htwo := connection.waits_le
  exact (hlater.play hmore False.elim).hasLeft hrest' (Or.inr (by omega))

end Drop

/-- After a drop with a free lock nothing is told and nothing is sent any more, whatever the
server sends, however long it takes and however writes are treated.  A drop while the receiver
holds the lock leaves the receiver to it.  Of its close frame, if there is one under way, more
octets may follow and nothing else, and the listener is told of the end and of nothing else.
That is done when the connection has come to rest on a stream that does not stall, or has come
to rest twice, a socket timeout having passed each time. -/
theorem silence_of_drop {connection : Connection} (hreachable : connection.Reachable)
    (howned : connection.isOwned = true) (hrest : connection.step? = none) :
    (connection.isFree = true -> forall moves, AreQuiet moves ->
      (connection.giveUp.play moves).callbacks = connection.callbacks ∧
        (connection.giveUp.play moves).sink.content = connection.sink.content) ∧
      (connection.isFree = false -> exists receiver last front,
        connection.receiver = some receiver ∧
          connection.transmissions = connection.settled ++ last.toList ∧
          (forall transmission, last = some transmission ->
            transmission.call = none ∧ transmission.frame.opcode = .close) ∧
          connection.sink.content =
            connection.request ++ (octetsOf connection.settled ++ front) ∧
          forall moves, AreQuiet moves ->
            let later := connection.giveUp.play moves
            connection.TrailsOff receiver.listener last front later ∧
              (exists own, (forall move, move ∈ own -> move = .hold ∨ move = .receive) ∧
                (later.play own).step? = none) ∧
              (later.step? = none -> later.sink.isStalled = false ->
                connection.HasLeft receiver.listener later) ∧
              (later.step? = none ->
                connection.clock + connection.config.socketTimeout <= later.clock ->
                forall more, AreQuiet more -> (later.play more).step? = none ->
                  later.clock + connection.config.socketTimeout <= (later.play more).clock ->
                  connection.HasLeft receiver.listener (later.play more))) := by
  rcases Bool.and_eq_true_iff.mp howned with ⟨hkept, hnobody⟩
  rw [Bool.not_eq_true'] at hkept hnobody
  constructor
  · intro hfree moves hquiet
    rcases isOver_giveUp hreachable hkept hrest hfree with ⟨hover, hcallbacks, hcontent⟩
    rcases hover.play hquiet with ⟨hcallbacks', hcontent'⟩
    exact And.intro (hcallbacks'.trans hcallbacks) (hcontent'.trans hcontent)
  · intro hheld
    have hdropped : connection.giveUp.Reachable := move_giveUp howned ▸ hreachable.play [.giveUp]
    rcases Option.isSome_iff_exists.mp (by simpa [isFree] using hheld) with ⟨holder, hholder⟩
    have hnot : holder.isCaller = false := by simpa [hholder] using hnobody
    have htask := task_of_holder hholder ▸ holder.task_of_not_isCaller hnot
    rcases leaves_giveUp hdropped hholder hnot with ⟨receiver, hreceiver, hleaves⟩
    rcases close_of_unsettled hreachable htask with ⟨last, hlast, hclose⟩
    have haudience : connection.outline.audience.isSome = true := by simp [outline, hreceiver]
    rcases (wire_invariant hreachable).right.settled haudience with ⟨front, hfront⟩
    have hcontent : connection.sink.content =
        connection.request ++ (octetsOf connection.settled ++ front) := by
      rw [← List.append_assoc]
      exact hfront.symm
    refine ⟨receiver, last, front, hreceiver, hlast, hclose, hcontent, ?_⟩
    intro moves hquiet later
    have hlater := hleaves.play hquiet False.elim
    have hsame : later.transmissions = connection.transmissions := by
      rw [hlater.transmissions, List.append_nil]
    have hplay : later = connection.play (.giveUp :: moves) := by
      rw [play_cons, move_giveUp howned]
    refine ⟨⟨hsame, ?_, hlater.callbacks_cases⟩, exists_rest later, ?_, ?_⟩
    · rw [hplay] at hsame ⊢
      have hsome : connection.receiver.isSome = true := by rw [hreceiver]; rfl
      exact content_of_same_transmissions hreachable hsome hlast hcontent hsame
    · intro hstill hgoes
      exact hlater.hasLeft hstill (Or.inl hgoes)
    · intro hstill hclock more hmore hstill' hclock'
      rcases connection.clock_giveUp with ⟨hnow, hconfig⟩
      rw [← hnow, ← hconfig] at hclock
      rw [← hconfig] at hclock'
      exact hleaves.hasLeft_of_clock hdropped hquiet hmore hstill hstill' hclock hclock'

/-- A text arrives after a drop with a free lock, and is not told; and the answer to the
server's close frame cannot be written, is given up, and the stream is left. -/
theorem silence_of_stalled_answer :
    let idle := sample.play [.receive, .receive]
    let hi : List Move := [.supply [[0x81, 0x02, 0x68, 0x69]] none, .receive, .receive]
    let stalled := sample.play [.treatWrites .stalled .flushed,
      .supply [[0x88, 0x02, 0x03, 0xE8]] none,
      .receive, .receive, .receive, .hold]
    let moves : List Move := [.pass 10000, .hold]
    let more : List Move := [.pass 10000, .hold, .receive]
    (idle.isOwned = true ∧ idle.step? = none ∧ idle.isFree = true ∧
        (idle.giveUp.play hi).callbacks = idle.callbacks) ∧
      stalled.isOwned = true ∧ stalled.step? = none ∧ stalled.isFree = false ∧
        stalled.HasLeft (some 0) ((stalled.giveUp.play moves).play more) := by
  intro idle hi stalled moves more
  have hidle : idle.Reachable := sample_steadilyReachable.reachable.play _
  have hstalled : stalled.Reachable := sample_steadilyReachable.reachable.play _
  have hrest : idle.step? = none := by decide +kernel
  have hrest' : stalled.step? = none := by decide +kernel
  have hheld : stalled.isFree = false := by decide +kernel
  refine ⟨⟨by decide +kernel, hrest, by decide +kernel, ?_⟩, by decide +kernel, hrest', hheld, ?_⟩
  · have hquiet : AreQuiet hi := by
      unfold AreQuiet
      decide
    exact ((silence_of_drop hidle (by decide +kernel) hrest).left (by decide +kernel) hi
      hquiet).left
  · have hquiet : AreQuiet moves := by
      unfold AreQuiet
      decide
    have hmore : AreQuiet more := by
      unfold AreQuiet
      decide
    have hlistener : stalled.receiver.map Receiver.listener = some (some 0) := by decide +kernel
    rcases (silence_of_drop hstalled (by decide +kernel) hrest').right hheld with
      ⟨receiver, _, _, hreceiver, _, _, _, hlater⟩
    rw [hreceiver] at hlistener
    rw [← Option.some.inj hlistener]
    exact (hlater moves hquiet).right.right.right (by decide +kernel) (by decide +kernel) more hmore
      (by decide +kernel) (by decide +kernel)

end Connection

end WebSocketClient
