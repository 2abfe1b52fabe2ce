import WebSocketClient.Proofs.Listening
import WebSocketClient.Proofs.Wire

/-!
# How a call comes back

A call that holds the lock writes its frame, and if the write fails it tears the
connection down before it comes back.  Meanwhile nobody else sends anything.  So
there are three ways for a call to come back: its frame has been sent, it has
been refused and nothing has changed, or the connection is closed.
-/

namespace WebSocketClient

/-!
## The wire during a call
-/

namespace Outline

/-- What happens to the wire while a call holds the lock: its frame goes on. -/
structure Carries (old new : Outline) : Prop where
  request : new.request = old.request
  transmissions : new.transmissions = old.transmissions
  audience : new.audience = old.audience
  content : old.sink.content <+: new.sink.content

theorem Carries.refl (outline : Outline) : outline.Carries outline :=
  ⟨rfl, rfl, rfl, List.prefix_refl _⟩

theorem Carries.trans {first second third : Outline} (hfirst : first.Carries second)
    (hsecond : second.Carries third) : first.Carries third where
  request := hsecond.request.trans hfirst.request
  transmissions := hsecond.transmissions.trans hfirst.transmissions
  audience := hsecond.audience.trans hfirst.audience
  content := hfirst.content.trans hsecond.content

theorem carries_change {old new : Outline}
    (hchange : Change old new)
    (hcalling : (exists after, old.task = .sending after) ∨ old.task = .leaving true) :
    old.Carries new := by
  have hbusy : old.task ≠ .free ∧ old.task ≠ .requesting ∧ old.task ≠ .awaitingAnswer ∧
      old.task ≠ .farewell ∧ old.task ≠ .leaving false := by
    rcases hcalling with ⟨after, htask⟩ | htask <;> simp [htask]
  cases hchange with
  | carryHeld htask hheld hrest hstep => exact ⟨rfl, rfl, rfl, (Output.handOver_more hstep).right⟩
  | carry htask hheld hwriter hrest hstep =>
      exact ⟨rfl, rfl, rfl, (Output.handOver_more hstep).right⟩
  | fall htask hheld hwriter hfailure =>
      exact ⟨rfl, rfl, rfl, hfailure.content_eq ▸ List.prefix_refl _⟩
  | abandon htask hcontent => exact ⟨rfl, rfl, rfl, hcontent ▸ List.prefix_refl _⟩
  | ask htask hstate hrole hbuffer => exact absurd htask hbusy.left
  | asked htask hunsent => exact absurd htask hbusy.right.left
  | failOpening htask hcontent => simp [hbusy] at htask
  | opened htask => exact absurd htask hbusy.right.right.left
  | begin htask hstate hwriter hpayload hframe => exact absurd htask hbusy.left
  | beginFarewell htask hwriter hstate hlength => exact absurd htask hbusy.left
  | leave htask hwriter hcontent => simp [hbusy] at htask
  | part htask hcontent => exact absurd htask hbusy.right.right.right.right
  | _ => exact ⟨rfl, rfl, rfl, List.prefix_refl _⟩

end Outline

/-!
## The end as listeners hear it
-/

def Journal.endings (journal : List Entry) : List (ListenerId × Event) :=
  (callbacks journal).filter fun told => told.2 = .closed

namespace Connection

theorem endings_of_hasTold {connection : Connection} {listener : ListenerId}
    (htold : connection.outline.HasTold listener) :
    Journal.endings connection.journal =
      if connection.outline.hasEnded then [(listener, .closed)] else [] := by
  rcases htold with ⟨later, hcallbacks, _, hclosed⟩
  have hcallbacks' : Journal.callbacks connection.journal =
      (listener, .connected) :: later.map (fun event => (listener, event)) := hcallbacks
  have hlater : later.filter (fun event => event = .closed) =
      List.replicate (later.count .closed) .closed :=
    List.filter_eq ..
  rw [Journal.endings, hcallbacks', List.filter_cons_of_neg (by simp), List.filter_map]
  simp only [Function.comp_def, hlater, hclosed]
  split <;> rfl

/-- The listener of the connection is told of the end once, and nobody else is. -/
theorem endings_eq {connection : Connection} (hreachable : connection.Reachable)
    {listener : Option ListenerId} (haudience : connection.outline.audience = some listener) :
    Journal.endings connection.journal =
      if connection.outline.hasEnded then (listener.map fun id => (id, .closed)).toList
      else [] := by
  have hheard := heard_of_reachable hreachable
  cases listener with
  | none =>
      have hsilent : Journal.callbacks connection.journal = [] :=
        hheard.silent (by rw [haudience]; rfl)
      simp [Journal.endings, hsilent]
  | some id => exact endings_of_hasTold (hheard.told id haudience)

/-!
## Moves of others
-/

theorem exists_receive_of_busy {connection : Connection} (hbusy : connection.isFree = false) :
    exists receiver journal, connection.move .receive =
      { connection with receiver := receiver, journal := journal } := by
  show exists receiver journal,
    (connection.receiver.bind connection.receiverStep?).getD connection =
      { connection with receiver := receiver, journal := journal }
  cases hstep : connection.receiver.bind connection.receiverStep? with
  | none => exact ⟨connection.receiver, connection.journal, rfl⟩
  | some next =>
      rcases Option.bind_eq_some_iff.mp hstep with ⟨receiver, _, hreceive⟩
      rw [Option.getD_some]
      unfold receiverStep? at hreceive
      split at hreceive
      case h_1 outcome hphase =>
          rw [hbusy] at hreceive
          simp only [Bool.false_eq_true, if_false] at hreceive
          split at hreceive
          · cases hreceive
            exact ⟨_, _, rfl⟩
          · cases hreceive
      case h_2 listener hphase =>
          cases hreceive
          exact ⟨_, _, rfl⟩
      case h_3 =>
          rcases Option.map_eq_some_iff.mp hreceive with ⟨⟨after, signals⟩, _, rfl⟩
          rcases exists_journal_emit { connection with receiver := some after } after.listener
            signals with ⟨journal, hjournal⟩
          exact ⟨some after, journal, hjournal⟩

/-- While a call holds the lock and does not read the stream, nobody else gets at
what the lock protects. -/
theorem move_of_busy {connection : Connection} {holder : Holder}
    (hholder : connection.holder = some holder) (hcaller : holder.isCaller = true)
    (hdeaf : forall chunks ending, holder.arrive chunks ending = holder) {next : Move}
    (hnext : next ≠ .hold) :
    (connection.move next).holder = connection.holder ∧
      (connection.move next).core = connection.core ∧
      (connection.move next).isConnected = connection.isConnected := by
  have hbusy : connection.isFree = false := by simp [isFree, hholder]
  have howned : connection.isOwned = false := by simp [isOwned, hholder, hcaller]
  cases next with
  | connect opening dial => simp [move, hbusy]
  | call call =>
      simp only [move, hbusy, Bool.false_eq_true, if_false]
      split
      · exact ⟨rfl, rfl, rfl⟩
      · exact ⟨rfl, rfl, rfl⟩
  | hold => exact absurd rfl hnext
  | receive =>
      rcases exists_receive_of_busy hbusy with ⟨receiver, journal, hreceive⟩
      rw [hreceive]
      exact ⟨rfl, rfl, rfl⟩
  | supply chunks ending =>
      refine ⟨?_, rfl, rfl⟩
      simp [move, supply, hholder, hdeaf]
  | pass milliseconds => exact ⟨rfl, rfl, rfl⟩
  | treatWrites policy flush => exact ⟨rfl, rfl, rfl⟩
  | setListener listener => simp [move, howned]
  | giveUp => simp [move, howned]

/-!
## A call at work
-/

/-- How far a call has come that holds the lock. -/
inductive Underway (state : ConnectionState) (streaming : Bool) (connection : Connection) : Prop
  /-- It writes its frame. -/
  | sending {work : Sending} {writing : Writing} :
      connection.holder = some (.sending work writing) -> work.streamingAfter = streaming ->
      connection.core.state = state -> Underway state streaming connection
  /-- The write has failed, and it shuts the stream down. -/
  | leaving {writer : FrameWriter} {writing : Writing} {deadline : Nat} {error : Error} :
      connection.holder = some (.leaving writer writing deadline (some error)) ->
      error.kind = .transport -> connection.core.state = .closed ->
      connection.isConnected = false -> Underway state streaming connection

inductive Back (state : ConnectionState) (streaming : Bool) (connection : Connection) : Prop
  | sent {older : List Entry} :
      connection.journal = .returned none :: older -> connection.holder = none ->
      connection.core.state = state -> connection.core.streaming = streaming ->
      Back state streaming connection
  | failed {error : Error} {older : List Entry} :
      connection.journal = .returned (some error) :: older -> connection.holder = none ->
      error.kind = .transport -> connection.core.state = .closed ->
      connection.isConnected = false -> connection.outline.parting = none ->
      Back state streaming connection

section Underway

variable {connection next : Connection} {state : ConnectionState} {streaming : Bool}

theorem Underway.task (hunderway : connection.Underway state streaming) :
    (exists after, connection.outline.task = .sending after) ∨
      connection.outline.task = .leaving true := by
  cases hunderway with
  | sending hholder _ _ => exact Or.inl ⟨_, task_of_holder hholder⟩
  | leaving hholder _ _ _ => exact Or.inr (task_of_holder hholder)

theorem Underway.isFree (hunderway : connection.Underway state streaming) :
    connection.isFree = false := by
  cases hunderway with
  | sending hholder _ _ => simp [Connection.isFree, hholder]
  | leaving hholder _ _ _ => simp [Connection.isFree, hholder]

theorem Back.isFree (hback : connection.Back state streaming) : connection.isFree = true := by
  cases hback with
  | sent _ hholder _ _ => simp [Connection.isFree, hholder]
  | failed _ hholder _ _ _ _ => simp [Connection.isFree, hholder]

theorem underway_sendingStep {work : Sending} {writing : Writing}
    (hstreaming : work.streamingAfter = streaming) (hstate : connection.core.state = state)
    (hstep : connection.sendingStep? work writing = some next) :
    next.Underway state streaming ∨ next.Back state streaming := by
  unfold sendingStep? at hstep
  split at hstep
  · cases hstep
  · rename_i writer hwriter
    split at hstep
    case h_1 output sink writing' hwrite =>
        cases hstep
        exact Or.inl (.sending rfl hstreaming hstate)
    case h_2 output sink hwrite =>
        cases hstep
        exact Or.inr (.sent rfl rfl hstate hstreaming)
    case h_3 error output sink hwrite =>
        cases hstep
        exact Or.inl (.leaving rfl (Output.kind_of_step_failed hwrite) rfl rfl)
    case h_4 hwrite => cases hstep

theorem underway_leavingStep {writer : FrameWriter} {writing : Writing} {deadline : Nat}
    {error : Error} (hkind : error.kind = .transport) (hstate : connection.core.state = .closed)
    (hconnected : connection.isConnected = false) (hparting : connection.outline.parting = none)
    (hstep : connection.leavingStep? writer writing deadline (some error) = some next) :
    next.Underway state streaming ∨ next.Back state streaming := by
  have hover (sink : Sink) : Back state streaming
      ({ connection with sink := sink }.finishTeardown (some error)) :=
    .failed rfl rfl hkind hstate hconnected hparting
  unfold leavingStep? at hstep
  split at hstep
  case h_1 output sink writing' hwrite =>
      cases hstep
      exact Or.inl (.leaving rfl hkind hstate hconnected)
  case h_2 output sink hwrite =>
      cases hstep
      exact Or.inr (hover sink)
  case h_3 error' output sink hwrite =>
      cases hstep
      exact Or.inr (hover sink)
  case h_4 hwrite =>
      split at hstep
      · cases hstep
        exact Or.inr (hover connection.sink)
      · cases hstep

/-- After any move the call is still at work or comes back. -/
theorem Underway.move (hunderway : connection.Underway state streaming)
    (hstage : connection.outline.Stage) (next : Move) :
    (connection.move next).Underway state streaming ∨
      (connection.move next).Back state streaming := by
  by_cases hnext : next = .hold
  · subst hnext
    cases hunderway with
    | @sending work writing hholder hstreaming hstate =>
        simp only [Connection.move, hholder, Option.bind_some, holderStep?]
        cases hstep : connection.sendingStep? work writing with
        | none => exact Or.inl (.sending hholder hstreaming hstate)
        | some after => exact underway_sendingStep hstreaming hstate hstep
    | @leaving writer writing deadline error hholder hkind hstate hconnected =>
        have htask : connection.outline.task = .leaving true := task_of_holder hholder
        rcases Outline.leaving_of_task hstage htask with ⟨_, _, _, hparting, _⟩
        simp only [Connection.move, hholder, Option.bind_some, holderStep?]
        cases hstep : connection.leavingStep? writer writing deadline (some error) with
        | none => exact Or.inl (.leaving hholder hkind hstate hconnected)
        | some after => exact underway_leavingStep hkind hstate hconnected hparting hstep
  · left
    cases hunderway with
    | sending hholder hstreaming hstate =>
        rcases move_of_busy hholder rfl (fun _ _ => rfl) hnext with ⟨hsame, hcore, _⟩
        exact .sending (hsame.trans hholder) hstreaming (by rw [hcore, hstate])
    | leaving hholder hkind hstate hconnected =>
        rcases move_of_busy hholder rfl (fun _ _ => rfl) hnext with ⟨hsame, hcore, hopen⟩
        exact .leaving (hsame.trans hholder) hkind (by rw [hcore, hstate]) (hopen.trans hconnected)

end Underway

/-!
## The moves of a call
-/

def isReleasedBy : Connection -> List Move -> Bool
  | connection, [] => connection.isFree
  | connection, next :: moves => !connection.isFree && isReleasedBy (connection.move next) moves

/-- A call that is made now has come back after these moves.  Bad arguments bring
it back at once.  Otherwise it takes the lock, which has to be free, and comes
back when the lock is free again. -/
def hasReturned (connection : Connection) (call : Call) (moves : List Move) : Bool :=
  match call.payload with
  | .error _ => moves.isEmpty
  | .ok _ => connection.isFree && (connection.move (.call call)).isReleasedBy moves

theorem eq_nil_of_isReleasedBy {connection : Connection} (hfree : connection.isFree = true)
    {moves : List Move} (hreleased : connection.isReleasedBy moves = true) : moves = [] := by
  cases moves with
  | nil => rfl
  | cons next rest => simp [isReleasedBy, hfree] at hreleased

theorem back_of_isReleasedBy {connection : Connection} {state : ConnectionState}
    {streaming : Bool} (hunderway : connection.Underway state streaming)
    (hreachable : connection.Reachable) {moves : List Move}
    (hreleased : connection.isReleasedBy moves = true) :
    (connection.play moves).Back state streaming ∧
      connection.outline.Carries (connection.play moves).outline := by
  induction moves generalizing connection with
  | nil =>
      rw [isReleasedBy, hunderway.isFree] at hreleased
      cases hreleased
  | cons next rest ih =>
      -- If the call comes back with this move, the lock is free, so no move is left.
      have hstage := stage_of_reachable hreachable
      have hcarries := Outline.carries_change (change_of_move hstage next) hunderway.task
      have hrest := (Bool.and_eq_true_iff.mp hreleased).right
      rcases hunderway.move hstage next with hstill | hback
      · rcases ih hstill (hreachable.play [next]) hrest with ⟨hback, hmore⟩
        exact And.intro hback (hcarries.trans hmore)
      · rw [eq_nil_of_isReleasedBy hback.isFree hrest]
        exact And.intro hback hcarries

/-!
## The start of a call
-/

theorem move_call_of_payload_eq_error {connection : Connection} {call : Call} {error : Error}
    (hpayload : call.payload = .error error) :
    connection.move (.call call) = connection.finish (some error) := by
  simp only [move, hpayload]

theorem exists_refusal_of_state {connection : Connection} (hfree : connection.isFree = true)
    (hstate : connection.core.state ≠ .opened) (call : Call) :
    exists error, error.kind = .usage ∧
      connection.move (.call call) = connection.finish (some error) := by
  cases hpayload : call.payload with
  | error error =>
      exact ⟨error, Call.kind_of_payload_eq_error hpayload,
        move_call_of_payload_eq_error hpayload⟩
  | ok payload =>
      refine ⟨.notConnected, rfl, ?_⟩
      simp [move, hpayload, hfree, startCall, ConnectionState.canSend, hstate]

end Connection

def Call.stateAfter : Call -> ConnectionState
  | close _ _ => .closingLocal
  | send _ | stream _ _ | ping _ | pong _ => .opened

theorem Call.stateAfter_eq {call : Call} {payload : Bytes} {streaming after : Bool}
    {frame : Frame} (hframe : call.frame payload streaming = .ok (frame, after)) :
    call.stateAfter = if frame.opcode = .close then .closingLocal else .opened := by
  have hclose := opcode_frame_eq_close_iff hframe
  cases call with
  | close code reason => rw [if_pos (hclose.mpr ⟨code, reason, rfl⟩), stateAfter]
  | _ =>
      have hopcode : frame.opcode ≠ .close := by simp [hclose]
      rw [if_neg hopcode, stateAfter]

namespace Connection

/-- A call has handed the octets of the frame that it asks for to the output of an open
connection, masked with the next key.  No payload in memory is as long as the bound on it. -/
structure Transmits (before after : Connection) (call : Call) (frame : Frame) (key : MaskKey)
    (streaming : Bool) (octets : Bytes) : Prop where
  opened : before.core.state = .opened
  asks : call.Asks before.core.streaming frame streaming
  masked : before.core.writer.bind FrameWriter.nextKey = some key
  laidOut : call.asked.length < 2 ^ 64 -> frame.LaidOut (some key) octets
  transmissions : after.transmissions = before.transmissions ++ [⟨some call, frame, some key⟩]

structure Turn (before after : Connection) (call : Call) (frame : Frame) (key : MaskKey)
    (streaming : Bool) : Prop where
  reachable : before.Reachable
  free : before.isFree = true
  transmits : before.Transmits after call frame key streaming (frame.encode (some key))
  request : after.outline.request = before.outline.request
  audience : after.outline.audience = before.outline.audience
  content : before.sink.content <+: after.sink.content

section Start

variable {connection : Connection} {call : Call} {payload : Bytes}

theorem exists_turn (hreachable : connection.Reachable) (hfree : connection.isFree = true)
    (hpayload : call.payload = .ok payload) (hstate : connection.core.state = .opened)
    {frame : Frame} {streaming : Bool}
    (hframe : call.frame payload connection.core.streaming = .ok (frame, streaming)) :
    exists key, connection.Turn (connection.startCall call payload) call frame key streaming ∧
      (connection.startCall call payload).Underway call.stateAfter streaming := by
  have hstage := stage_of_reachable hreachable
  rcases Outline.exists_writer_of_open hstage (Or.inl hstate) with ⟨writer, hwriter, hheld⟩
  have hwriter' : connection.core.writer = some writer := hwriter
  have hkey : writer.nextKey = some writer.keys.next.1 := by
    have hrole := (Outline.live_of_writer hstage hwriter).right.left
    simp [FrameWriter.nextKey, hrole, Role.mustMask]
  have hasks := Call.asks_of_frame hpayload hframe
  have houtline := outline_startCall hstate hwriter' hheld hframe
  have htransmits : connection.Transmits (connection.startCall call payload) call frame
      writer.keys.next.1 streaming (frame.encode (some writer.keys.next.1)) := by
    refine ⟨hstate, hasks, ?_, fun hlength => ?_, ?_⟩
    · rw [hwriter', Option.bind_some, hkey]
    · exact Frame.laidOut_encode (hasks.payload_eq ▸ hlength) _
    · show (connection.startCall call payload).outline.transmissions = _
      rw [houtline, hkey]
      rfl
  have hsink : (connection.startCall call payload).outline.sink = connection.outline.sink := by
    rw [houtline]
  have hcontent : connection.outline.sink.content <+:
      (connection.startCall call payload).outline.sink.content :=
    hsink ▸ List.prefix_refl _
  refine ⟨writer.keys.next.1,
    ⟨hreachable, hfree, htransmits, by rw [houtline], by rw [houtline], hcontent⟩, ?_⟩
  have htask : (connection.startCall call payload).outline.task = .sending streaming := by
    rw [houtline]
  rcases exists_sending_of_task htask with ⟨work, writing, hholder, hstreaming⟩
  refine .sending hholder hstreaming ?_
  show (connection.startCall call payload).outline.state = _
  rw [houtline, Call.stateAfter_eq hframe]

theorem startCall_cases (hreachable : connection.Reachable) (hfree : connection.isFree = true)
    (hpayload : call.payload = .ok payload) :
    (exists error, error.kind = .usage ∧
        connection.startCall call payload = connection.finish (some error)) ∨
      exists frame key streaming,
        connection.Turn (connection.startCall call payload) call frame key streaming ∧
          (connection.startCall call payload).Underway call.stateAfter streaming := by
  by_cases hstate : connection.core.state = .opened
  · cases hframe : call.frame payload connection.core.streaming with
    | error error =>
        left
        refine ⟨error, Call.kind_of_frame_eq_error hframe, ?_⟩
        simp [startCall, hstate, ConnectionState.canSend, hframe]
    | ok framed =>
        right
        rcases framed with ⟨frame, streaming⟩
        rcases exists_turn hreachable hfree hpayload hstate hframe with ⟨key, hturn, hunderway⟩
        exact ⟨frame, key, streaming, hturn, hunderway⟩
  · left
    refine ⟨.notConnected, rfl, ?_⟩
    simp [startCall, ConnectionState.canSend, hstate]

end Start

/-!
## Any call
-/

structure Sends (before after : Connection) (call : Call) : Prop where
  frame : exists frame key streaming octets,
    before.Transmits after call frame key streaming octets ∧
      after.sink.content = before.sink.content ++ octets ∧ after.core.streaming = streaming
  state : after.core.state = call.stateAfter

/-- A call has failed.  It has told the listener of the end before it came back,
and the connection refuses all further calls. -/
structure Fails (before after : Connection) (call : Call) (older : List Entry) : Prop where
  frame : exists frame key streaming octets front,
    before.Transmits after call frame key streaming octets ∧ front <+: octets ∧
      after.sink.content = before.sink.content ++ front
  state : after.core.state = .closed
  isConnected : after.isConnected = false
  untold : Journal.endings before.journal = []
  told : Journal.endings older = (before.core.listener.map fun id => (id, .closed)).toList
  refuses : forall (moves : List Move) (other : Call), exists error, error.kind = .usage ∧
    (after.play moves).move (.call other) = (after.play moves).finish (some error)

/-- What a call has done that comes back with this failure or with none.  A
refused call has done nothing but come back. -/
def HasDone (before after : Connection) (call : Call) (older : List Entry) : Option Error -> Prop
  | none => before.Sends after call
  | some error =>
      match error.kind with
      | .usage => after = before.finish (some error)
      | .transport => before.Fails after call older
      | .handshake | .protocol => False

section Turn

variable {before after later : Connection} {call : Call} {frame : Frame} {key : MaskKey}
  {streaming : Bool}

theorem Turn.carry (hturn : before.Turn after call frame key streaming)
    (hcarries : after.outline.Carries later.outline) :
    before.Turn later call frame key streaming where
  reachable := hturn.reachable
  free := hturn.free
  transmits :=
    { hturn.transmits with
      transmissions := hcarries.transmissions.trans hturn.transmits.transmissions }
  request := hcarries.request.trans hturn.request
  audience := hcarries.audience.trans hturn.audience
  content := hturn.content.trans hcarries.content

/-- What is due during the turn is what the stream had before, and then the
frame. -/
theorem Turn.due_eq (hturn : before.Turn after call frame key streaming) :
    after.outline.due = before.sink.content ++ frame.encode (some key) := by
  have hopened : before.outline.state = .opened := hturn.transmits.opened
  have hwired := (wire_invariant hturn.reachable).right
  have hunsent := hwired.flushed (Or.inl (task_outline_of_isFree hturn.free)) (by simp [hopened])
  have hcontent := hwired.content_eq_due (by simp [hopened]) (by simp [hopened]) hunsent
  have htransmissions : after.outline.transmissions =
      before.outline.transmissions ++ [⟨some call, frame, some key⟩] :=
    hturn.transmits.transmissions
  show _ = before.outline.sink.content ++ _
  rw [hcontent, Outline.due, hturn.request, htransmissions, Outline.due]
  simp [Transmission.octets]

theorem Turn.sends (hturn : before.Turn after call frame key streaming)
    (hafter : after.Reachable) (hholder : after.holder = none)
    (hstate : after.core.state = call.stateAfter) (hstreaming : after.core.streaming = streaming) :
    before.Sends after call := by
  have hopen : after.outline.state ≠ .closed ∧ after.outline.state ≠ .disconnected := by
    show after.core.state ≠ .closed ∧ after.core.state ≠ .disconnected
    rw [hstate]
    cases call <;> simp [Call.stateAfter]
  have htask : after.outline.task = .free := by simp [outline, hholder]
  have hwired := (wire_invariant hafter).right
  have hunsent := hwired.flushed (Or.inl htask) hopen.left
  have hcontent := hwired.content_eq_due hopen.left hopen.right hunsent
  rw [hturn.due_eq] at hcontent
  exact ⟨⟨frame, key, streaming, _, hturn.transmits, hcontent, hstreaming⟩, hstate⟩

theorem Turn.fails (hturn : before.Turn after call frame key streaming)
    (hafter : after.Reachable) (hholder : after.holder = none)
    (hstate : after.core.state = .closed) (hconnected : after.isConnected = false)
    (hparting : after.outline.parting = none) {error : Error} {older : List Entry}
    (hjournal : after.journal = .returned (some error) :: older) :
    before.Fails after call older := by
  have hopened : before.outline.state = .opened := hturn.transmits.opened
  have hclosed : after.outline.state = .closed := hstate
  have htask : after.outline.task = .free := by simp [outline, hholder]
  have hstage := stage_of_reachable hturn.reachable
  rcases Outline.exists_writer_of_open hstage (Or.inl hopened) with ⟨writer, hwriter, _⟩
  have hlistener := (Outline.live_of_writer hstage hwriter).right.right.right.left
  constructor
  · -- The shutdown sends octets of the frame, too, so the front is that of both.
    have hinit : after.sink.content <+: after.outline.due :=
      (wire_invariant hafter).right.content_prefix
    rcases hturn.content with ⟨front, hfront⟩
    refine ⟨frame, key, streaming, _, front, hturn.transmits, ?_, hfront.symm⟩
    rw [hturn.due_eq, ← hfront] at hinit
    exact (List.prefix_append_right_inj _).mp hinit
  · exact hstate
  · exact hconnected
  · rw [endings_eq hturn.reachable hlistener,
      Outline.hasEnded_eq_false_of_state (by simp [hopened])]
    rfl
  · have hended : after.outline.hasEnded = true := by
      simp [Outline.hasEnded, hclosed, htask, hparting]
    have hsame : Journal.endings older = Journal.endings after.journal := by
      rw [hjournal]
      rfl
    rw [hsame, endings_eq hafter (hturn.audience.trans hlistener), hended]
    rfl
  · intro moves other
    have hebb := ebb_play hafter hclosed moves
    have hholder' := holder_of_task (hebb.still htask).left
    apply exists_refusal_of_state (by simp [isFree, hholder'])
    show (after.play moves).outline.state ≠ .opened
    simp [hebb.state]

theorem hasDone_of_finish {connection : Connection} {error : Error}
    (hkind : error.kind = .usage) (hafter : after = connection.finish (some error)) :
    exists failure older, after.journal = .returned failure :: older ∧
      connection.HasDone after call older failure := by
  refine ⟨some error, connection.journal, by rw [hafter]; rfl, ?_⟩
  simp only [HasDone, hkind]
  exact hafter

theorem Turn.hasDone (hturn : before.Turn after call frame key streaming)
    (hafter : after.Reachable) (hback : after.Back call.stateAfter streaming) :
    exists failure older, after.journal = .returned failure :: older ∧
      before.HasDone after call older failure := by
  cases hback with
  | sent hjournal hholder hstate hstreaming =>
      exact ⟨_, _, hjournal, hturn.sends hafter hholder hstate hstreaming⟩
  | failed hjournal hholder hkind hstate hconnected hparting =>
      refine ⟨_, _, hjournal, ?_⟩
      simp only [HasDone, hkind]
      exact hturn.fails hafter hholder hstate hconnected hparting hjournal

end Turn

/-- A call comes back in one of three ways.  It has sent exactly its frame on an
open connection, or it has been refused and nothing has changed but that it came
back, or a write or a flush of the stream has failed after a front of the frame and
the connection is closed. -/
theorem returned_of_call {connection : Connection} (hreachable : connection.Reachable)
    (call : Call) {moves : List Move} (hreturned : connection.hasReturned call moves = true) :
    exists (failure : Option Error) (older : List Entry),
      (connection.play (.call call :: moves)).journal = .returned failure :: older ∧
        connection.HasDone (connection.play (.call call :: moves)) call older failure := by
  unfold hasReturned at hreturned
  cases hpayload : call.payload with
  | error error =>
      simp only [hpayload, List.isEmpty_iff] at hreturned
      subst hreturned
      exact hasDone_of_finish (Call.kind_of_payload_eq_error hpayload)
        (move_call_of_payload_eq_error hpayload)
  | ok payload =>
      simp only [hpayload, Bool.and_eq_true] at hreturned
      rcases hreturned with ⟨hfree, hreleased⟩
      have hmove : connection.move (.call call) = connection.startCall call payload := by
        simp [move, hpayload, hfree]
      have hstart : (connection.startCall call payload).Reachable := by
        rw [← hmove]
        exact hreachable.play [.call call]
      rw [play_cons, hmove]
      rw [hmove] at hreleased
      rcases startCall_cases hreachable hfree hpayload with
        ⟨error, hkind, hrefusal⟩ | ⟨frame, key, streaming, hturn, hunderway⟩
      · have hfree' : (connection.finish (some error)).isFree = true := hfree
        rw [hrefusal] at hreleased ⊢
        rw [eq_nil_of_isReleasedBy hfree' hreleased]
        exact hasDone_of_finish hkind rfl
      · rcases back_of_isReleasedBy hunderway hstart hreleased with ⟨hback, hcarries⟩
        exact (hturn.carry hcarries).hasDone (hstart.play moves) hback

/-- A ping of which the stream takes seven octets. -/
theorem returned_of_cut_ping :
    let before := sample.play [.treatWrites (.failingAfter 7 "broken pipe") .flushed]
    let after := before.play (.call (.ping [1, 2, 3]) :: List.replicate 4 .hold)
    before.hasReturned (.ping [1, 2, 3]) (List.replicate 4 .hold) = true ∧
      exists older, after.journal = .returned (some (.transport "broken pipe")) :: older ∧
        before.Fails after (.ping [1, 2, 3]) older := by
  intro before after
  have hreachable : before.Reachable := sample_steadilyReachable.reachable.play _
  have hreturned : before.hasReturned (.ping [1, 2, 3]) (List.replicate 4 .hold) = true := by
    decide +kernel
  have hhead : after.journal.head? = some (.returned (some (.transport "broken pipe"))) := by
    decide +kernel
  rcases returned_of_call hreachable (.ping [1, 2, 3]) hreturned with
    ⟨failure, older, hjournal, hdone⟩
  have hfailure : failure = some (.transport "broken pipe") := by
    have hjournal' : after.journal = .returned failure :: older := hjournal
    simpa [hjournal'] using hhead
  subst hfailure
  exact And.intro hreturned ⟨older, hjournal, hdone⟩

end Connection

end WebSocketClient
