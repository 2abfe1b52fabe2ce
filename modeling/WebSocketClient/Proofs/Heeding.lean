import WebSocketClient.Proofs.Forecast
import WebSocketClient.Proofs.Parting

/-!
# Listening while calls are made

Calls do not come between the server and the listener.  As long as their frames do not
fail, the receiver goes on as if nobody called, and when the connection comes to rest
its listener has been told what the octets of the server foretold.
-/

namespace WebSocketClient

/-- The user does not give the connection up. -/
def Move.isKind : Move -> Bool
  | giveUp => false
  | _ => true

namespace Connection

/-!
## Calls that succeed
-/

def failsCall (connection : Connection) : Move -> Bool
  | .hold =>
      match connection.holder, connection.core.writer with
      | some (.sending _ writing), some writer =>
          match writer.output.step connection.sink writing with
          | .failed _ _ _ => true
          | .more _ _ _ | .done _ _ | .waiting => false
      | _, _ => false
  | _ => false

def callsSucceed : Connection -> List Move -> Bool
  | _, [] => true
  | connection, next :: moves =>
      !connection.failsCall next && callsSucceed (connection.move next) moves

theorem callsSucceed_cons {connection : Connection} {next : Move} {moves : List Move} :
    connection.callsSucceed (next :: moves) = true <->
      connection.failsCall next = false ∧ (connection.move next).callsSucceed moves = true := by
  rw [callsSucceed, Bool.and_eq_true, Bool.not_eq_true']

/-!
## What calls leave alone
-/

/-- The connection can be used, at most a call holds the lock, and this is its receiver
but for what it knows of a close frame. -/
structure Listens (first : Connection) (receiver : Receiver) (connection : Connection) :
    Prop where
  config : connection.config = first.config
  isUp : connection.isUp = true
  busy : forall holder, connection.holder = some holder ->
    exists frame writing, holder = .sending frame writing
  receiver : connection.receiver.map Receiver.unaware = some receiver

section Calls

variable {first connection next : Connection} {receiver : Receiver}

theorem Listens.state (hlistens : first.Listens receiver connection) :
    connection.core.state = .opened ∨ connection.core.state = .closingLocal := by
  simpa [Connection.isUp] using hlistens.isUp

theorem Listens.startClosing (hlistens : first.Listens receiver connection) (code : CloseCode)
    (reason : String) :
    first.Listens receiver (connection.startClosing code reason) ∧
      (connection.startClosing code reason).callbacks = connection.callbacks := by
  unfold Connection.startClosing
  rw [callbacks_report]
  cases connection.core.holdsControl with
  | false => exact And.intro ⟨hlistens.config, rfl, hlistens.busy, hlistens.receiver⟩ rfl
  | true =>
      refine And.intro ⟨hlistens.config, rfl, hlistens.busy, ?_⟩ rfl
      refine Eq.trans ?_ hlistens.receiver
      exact Option.map_map _ _ _

theorem Listens.startSending (hlistens : first.Listens receiver connection) (call : Call)
    (frame : Frame) (after : Bool) :
    first.Listens receiver (connection.startSending call frame after) ∧
      (connection.startSending call frame after).callbacks = connection.callbacks := by
  unfold Connection.startSending
  split
  case h_1 => exact And.intro { hlistens with } rfl
  case h_2 =>
      refine And.intro ⟨hlistens.config, hlistens.isUp, ?_, hlistens.receiver⟩ rfl
      intro holder hholder
      exact ⟨_, _, (Option.some.inj hholder).symm⟩

theorem Listens.startCall (hlistens : first.Listens receiver connection) (call : Call)
    (payload : Bytes) :
    first.Listens receiver (connection.startCall call payload) ∧
      (connection.startCall call payload).callbacks = connection.callbacks := by
  unfold Connection.startCall
  split
  case isFalse => exact And.intro { hlistens with } rfl
  case isTrue =>
      split
      case h_1 => exact And.intro { hlistens with } rfl
      case h_2 frame after _ =>
          split
          case h_1 code reason _ =>
              rcases hlistens.startClosing code reason with ⟨hclosing, hsame⟩
              rcases hclosing.startSending (.close code reason) frame after with ⟨hnext, hnothing⟩
              exact And.intro hnext (hnothing.trans hsame)
          case h_2 => exact hlistens.startSending call frame after

theorem Listens.startOpening (hlistens : first.Listens receiver connection) (opening : Opening)
    (dial : Dial) :
    first.Listens receiver (connection.startOpening opening dial) ∧
      (connection.startOpening opening dial).callbacks = connection.callbacks := by
  have hfault : exists error, openingFault? connection.core.state = some error := by
    rcases hlistens.state with hstate | hstate <;> exact ⟨_, by rw [hstate]; rfl⟩
  rcases hfault with ⟨error, hfault⟩
  simp only [Connection.startOpening, hfault]
  exact And.intro { hlistens with } rfl

theorem Listens.sendingStep (hlistens : first.Listens receiver connection) {frame : Sending}
    {writing : Writing} (hholder : connection.holder = some (.sending frame writing))
    (hsucceeds : connection.failsCall .hold = false)
    (hstep : connection.sendingStep? frame writing = some next) :
    first.Listens receiver next ∧ next.callbacks = connection.callbacks := by
  cases hwriter : connection.core.writer with
  | none => simp [sendingStep?, hwriter] at hstep
  | some writer =>
      simp only [sendingStep?, hwriter] at hstep
      simp only [failsCall, hholder, hwriter] at hsucceeds
      split at hstep
      case h_1 =>
          cases hstep
          refine And.intro ⟨hlistens.config, hlistens.isUp, ?_, hlistens.receiver⟩ rfl
          intro holder hsome
          exact ⟨_, _, (Option.some.inj hsome).symm⟩
      case h_2 output sink _ =>
          cases hstep
          refine And.intro ⟨hlistens.config, hlistens.isUp, by simp [finishSending, finish, record,
            log], hlistens.receiver⟩ ?_
          exact callbacks_report (connection.setOutput writer output sink)
            (.frameSent frame.opcode frame.fin frame.length)
      case h_3 hfails => simp [hfails] at hsucceeds
      case h_4 => cases hstep

theorem Listens.hold (hlistens : first.Listens receiver connection)
    (hsucceeds : connection.failsCall .hold = false) :
    first.Listens receiver (connection.move .hold) ∧
      (connection.move .hold).callbacks = connection.callbacks := by
  simp only [Connection.move]
  cases hholder : connection.holder with
  | none => exact And.intro hlistens rfl
  | some holder =>
      rcases hlistens.busy holder hholder with ⟨frame, writing, rfl⟩
      simp only [Option.bind_some, holderStep?]
      cases hstep : connection.sendingStep? frame writing with
      | none => exact And.intro hlistens rfl
      | some next => exact hlistens.sendingStep hholder hsucceeds hstep

theorem Listens.move (hlistens : first.Listens receiver connection) {next : Move}
    (hkind : next.isKind = true) (hsucceeds : connection.failsCall next = false)
    (hreceive : next ≠ .receive) :
    first.Listens (receiver.afterMove next) (connection.move next) ∧
      (connection.move next).callbacks = connection.callbacks := by
  cases next with
  | receive => exact absurd rfl hreceive
  | giveUp => cases hkind
  | hold => exact hlistens.hold hsucceeds
  | connect opening dial =>
      simp only [Connection.move]
      split
      · exact hlistens.startOpening opening.afresh dial.afresh
      · exact And.intro hlistens rfl
  | call call =>
      simp only [Connection.move]
      split
      case h_1 => exact And.intro { hlistens with } rfl
      case h_2 payload _ =>
          split
          · exact hlistens.startCall call payload
          · exact And.intro hlistens rfl
  | supply chunks ending =>
      refine And.intro ⟨hlistens.config, hlistens.isUp, ?_, ?_⟩ rfl
      · intro holder hholder
        rcases Option.map_eq_some_iff.mp hholder with ⟨before, hbefore, rfl⟩
        rcases hlistens.busy before hbefore with ⟨frame, writing, rfl⟩
        exact ⟨frame, writing, rfl⟩
      · rcases Option.map_eq_some_iff.mp hlistens.receiver with ⟨before, hbefore, rfl⟩
        simp only [Connection.move, supply, hbefore, Option.map_some, Option.some.injEq]
        exact before.unaware_afterMove (.supply chunks ending)
  | pass milliseconds => exact And.intro { hlistens with } rfl
  | treatWrites policy flush => exact And.intro { hlistens with } rfl
  | setListener listener =>
      simp only [Connection.move]
      split
      · exact And.intro { hlistens with } rfl
      · exact And.intro hlistens rfl

end Calls

/-!
## What the receiver does
-/

section Receiving

variable {first connection : Connection} {receiver : Receiver} {listener : Option ListenerId}
  {sent : List Transmission} {told : List (ListenerId × Event)} {whole : Prop}
  {outcome : Outcome}

theorem Listens.receive (hlistens : first.Listens receiver connection)
    (hloop : receiver.holdsStream = true) :
    connection.move .receive = connection ∧ receiver.step? first.config.limits = none ∨
      exists next signals, receiver.step? first.config.limits = some (next, signals) ∧
        first.Listens next (connection.move .receive) ∧
        (connection.move .receive).callbacks =
          connection.callbacks ++ toldTo receiver.listener (events signals) := by
  rcases Option.map_eq_some_iff.mp hlistens.receiver with ⟨own, hown, rfl⟩
  rw [Receiver.holdsStream_unaware] at hloop
  rw [Receiver.step?_unaware, ← hlistens.config]
  simp only [Connection.move, hown, Option.bind_some, receiverStep?_of_holdsStream hloop]
  cases hstep : own.step? connection.config.limits with
  | none => exact Or.inl (And.intro rfl rfl)
  | some stepped =>
      rcases stepped with ⟨next, signals⟩
      rcases exists_journal_tell { connection with receiver := some next } next.listener
        signals with ⟨journal, hjournal, _, hcallbacks⟩
      right
      refine ⟨next.unaware, signals, rfl, ?_, ?_⟩
      · rw [Option.map_some, Option.getD_some, hjournal]
        exact ⟨hlistens.config, hlistens.isUp, hlistens.busy, rfl⟩
      · rw [Option.map_some, Option.getD_some, hjournal]
        refine hcallbacks.trans ?_
        rw [Receiver.listener_step hstep]
        rfl

/-- Whatever has ended the loop, the listener is to be told that the connection is
closed. -/
theorem HasTaken.leaves_exit
    (htaken : first.HasTaken listener told (connection.setPhase .closing))
    (hreason : outcome ≠ .stopped) :
    exists sent, first.Leaves listener sent told whole (connection.exit outcome) := by
  have hstate : connection.core.state ≠ .closed := htaken.state
  have hopen : ¬ connection.core.state.isClosed = true := by
    simpa [ConnectionState.isClosed] using hstate
  unfold exit
  rw [if_neg hopen]
  cases outcome with
  | stopped => exact absurd rfl hreason
  | endOfStream =>
      rcases (htaken.report .streamEnded).leaves_startTeardown with ⟨key, hleaves⟩
      exact ⟨_, hleaves⟩
  | closeReceived close reply =>
      cases reply with
      | true =>
          rcases (htaken.report (.closingCompleted close)).leaves_startTeardown with
            ⟨key, hleaves⟩
          exact ⟨_, hleaves⟩
      | false =>
          have hanswering : first.HasTaken listener told
              { (connection.setPhase .closing).report (.closedByServer close) with
                core := { connection.core with state := .closingRemote } } :=
            { htaken.report (.closedByServer close) with state := by simp }
          rcases hanswering.leaves_startFarewell (answerPayload close) with ⟨key, hleaves⟩
          exact ⟨_, hleaves⟩
  | failed error =>
      have hfailing := htaken.report (.receiverFailed error)
      simp only
      split
      · rcases hfailing.leaves_startFarewell (failurePayload error) with ⟨key, hleaves⟩
        exact ⟨_, hleaves⟩
      · rcases hfailing.leaves_startTeardown with ⟨key, hleaves⟩
        exact ⟨_, hleaves⟩

theorem Listens.exists_exiting (hlistens : first.Listens receiver connection)
    (hphase : receiver.phase = .exiting outcome) (hreason : outcome ≠ .stopped) :
    exists own outcome, connection.receiver = some own ∧ own.phase = .exiting outcome ∧
      outcome ≠ .stopped ∧ own.listener = receiver.listener ∧ own.aborted = receiver.aborted := by
  rcases Option.map_eq_some_iff.mp hlistens.receiver with ⟨own, hown, rfl⟩
  change own.phase.unaware = _ at hphase
  cases hexit : own.phase with
  | exiting other =>
      rw [hexit] at hphase
      refine ⟨own, other, hown, hexit, ?_, rfl, rfl⟩
      rintro rfl
      cases hphase
      exact hreason rfl
  | _ => simp [hexit, ReceiverPhase.unaware] at hphase

/-- A receiver whose loop has ended waits for the lock and then takes it. -/
theorem Listens.exit (hreachable : connection.Reachable)
    (hlistens : first.Listens receiver connection) (hphase : receiver.phase = .exiting outcome)
    (hreason : outcome ≠ .stopped) (haborted : receiver.aborted = false) :
    connection.move .receive = connection ∨
      exists base sent, Leaves base receiver.listener sent
        (connection.callbacks ++ toldTo receiver.listener [.closed]) False
        (connection.move .receive) := by
  rcases hlistens.exists_exiting hphase hreason with
    ⟨own, other, hown, hexit, hother, hlistener, hsame⟩
  rw [← hsame] at haborted
  rw [← hlistener]
  simp only [Connection.move, hown, Option.bind_some, receiverStep?, hexit, haborted]
  cases hfree : connection.isFree with
  | false => exact Or.inl (by simp)
  | true =>
      have hholder : connection.holder = none := by simpa [isFree] using hfree
      have hopen : connection.core.state ≠ .closed := by
        rcases hlistens.state with hstate | hstate <;> simp [hstate]
      have htaken := hasTaken_setPhase hreachable hholder hown hopen
      rcases htaken.leaves_exit hother with ⟨sent, hleaves⟩
      exact Or.inr ⟨connection, sent, hleaves⟩

theorem Listens.rest (hlistens : first.Listens receiver connection)
    (hfree : connection.isFree = true) (hrest : connection.step? = none) :
    (receiver.holdsStream = true -> receiver.step? first.config.limits = none) ∧
      forall outcome, outcome ≠ .stopped -> receiver.phase ≠ .exiting outcome := by
  have hreceive := (step?_eq_none_iff.mp hrest).right
  constructor
  · intro hloop
    rcases Option.map_eq_some_iff.mp hlistens.receiver with ⟨own, hown, rfl⟩
    rw [Receiver.holdsStream_unaware] at hloop
    rw [hown, Option.bind_some, receiverStep?_of_holdsStream hloop, Option.map_eq_none_iff]
      at hreceive
    rw [Receiver.step?_unaware, ← hlistens.config, hreceive]
    rfl
  · intro outcome hreason hphase
    rcases hlistens.exists_exiting hphase hreason with ⟨own, other, hown, hexit, _⟩
    simp [hown, receiverStep?, hexit, hfree] at hreceive

/-!
## Calls at the end
-/

theorem Leaves.finish (hleaves : first.Leaves listener sent told whole connection)
    (error : Error) : first.Leaves listener sent told whole (connection.finish (some error)) := by
  have houtline := outline_finish_some connection error
  have hunsent := congrArg Outline.unsent houtline
  rcases hleaves.stage with ⟨yet, hstage, hcallbacks⟩
  constructor
  case stage =>
      refine ⟨yet, ?_, hcallbacks⟩
      cases hstage with
      | farewell hholder hwriter hstate howed hphase =>
          exact .farewell hholder hwriter hstate howed hphase
      | leaving hholder hwriter hstate howed hphase =>
          exact .leaving hholder hwriter hstate howed hphase
      | notifying hholder hwriter hstate hsome hphase =>
          exact .notifying hholder hwriter hstate hsome hphase
      | left hholder hwriter hstate hphase => exact .left hholder hwriter hstate hphase
  case transmissions => exact hleaves.transmissions
  case conserved =>
      rw [hunsent]
      exact hleaves.conserved
  case flushed =>
      rw [hunsent]
      exact hleaves.flushed

theorem Leaving.state {yet : List Event} (hleaving : connection.Leaving listener yet)
    (hfree : connection.isFree = true) : connection.core.state = .closed := by
  have hholder : connection.holder = none := by simpa [isFree] using hfree
  cases hleaving with
  | farewell hsome _ _ _ _ => cases hholder.symm.trans hsome
  | leaving hsome _ _ _ _ => cases hholder.symm.trans hsome
  | notifying _ _ hstate _ _ => exact hstate
  | left _ _ hstate _ => exact hstate

theorem Leaves.kindMove (hleaves : first.Leaves listener sent told whole connection)
    {next : Move} (hkind : next.isKind = true)
    (hsucceed : whole -> connection.losesFrame next = false) :
    first.Leaves listener sent told whole (connection.move next) := by
  rcases hleaves.stage with ⟨yet, hstage, _⟩
  cases next with
  | giveUp => cases hkind
  | connect opening dial =>
      simp only [Connection.move]
      split
      case isTrue hfree =>
          have hfault : openingFault? connection.core.state =
              some (.usage "websocket is closed and cannot be reused") := by
            rw [hstage.state hfree, openingFault?]
          simp only [startOpening, hfault]
          exact hleaves.finish _
      case isFalse => exact hleaves
  | call call =>
      simp only [Connection.move]
      split
      case h_1 => exact hleaves.finish _
      case h_2 =>
          split
          case isTrue hfree =>
              have hsend : ¬ connection.core.state.canSend = true := by
                simp [hstage.state hfree, ConnectionState.canSend]
              rw [startCall, if_neg hsend]
              exact hleaves.finish _
          case isFalse => exact hleaves
  | _ => exact hleaves.move rfl hsucceed

end Receiving

/-!
## Any moves
-/

/-- The listener has been told a part of this, and will be told the rest of it when these
octets have arrived. -/
inductive Heeds (first : Connection) (listener : Option ListenerId) (more : Bytes)
    (ending : Option Ending) (told : List (ListenerId × Event)) (connection : Connection) : Prop
  | listening {receiver : Receiver} {yet : List Event} : first.Listens receiver connection ->
      receiver.Foretells first.config.limits listener more ending yet ->
      connection.callbacks ++ toldTo listener yet = told ->
      Heeds first listener more ending told connection
  | leaving {base : Connection} {sent : List Transmission} :
      base.Leaves listener sent told False connection ->
      Heeds first listener more ending told connection

section Moves

variable {first connection : Connection} {listener : Option ListenerId} {more : Bytes}
  {ending : Option Ending} {told : List (ListenerId × Event)}

theorem Heeds.receive (hreachable : connection.Reachable)
    (hheeds : first.Heeds listener more ending told connection) :
    first.Heeds listener more ending told (connection.move .receive) := by
  cases hheeds with
  | leaving hleaves => exact .leaving hleaves.receive
  | @listening receiver yet hlistens hforetells htold =>
      rcases hforetells.course with hloop | ⟨outcome, hphase, hreason⟩
      · rcases hlistens.receive hloop with
          ⟨hsame, _⟩ | ⟨next, signals, hstep, hnext, hcallbacks⟩
        · rw [hsame]
          exact .listening hlistens hforetells htold
        · rcases hforetells.step hstep with ⟨later, rfl, hlater⟩
          refine .listening hnext hlater ?_
          rw [hcallbacks, hforetells.listener, List.append_assoc, ← toldTo_append]
          exact htold
      · rcases hlistens.exit hreachable hphase hreason hforetells.calm.aborted with
          hsame | ⟨base, sent, hleaves⟩
        · rw [hsame]
          exact .listening hlistens hforetells htold
        · rw [hforetells.listener, ← (hforetells.of_exiting hphase).left, htold] at hleaves
          exact .leaving hleaves

theorem Heeds.move (hreachable : connection.Reachable) {next : Move}
    (hheeds : first.Heeds listener ((({} : Source).afterMove next).bytes ++ more)
      ((({} : Source).afterMove next).ending <|> ending) told connection)
    (hlast : (({} : Source).afterMove next).ending = none ∨ more = [])
    (hkind : next.isKind = true) (hsucceeds : connection.failsCall next = false) :
    first.Heeds listener more ending told (connection.move next) := by
  by_cases hreceive : next = .receive
  · subst hreceive
    exact hheeds.receive hreachable
  cases hheeds with
  | leaving hleaves => exact .leaving (hleaves.kindMove hkind nofun)
  | @listening receiver yet hlistens hforetells htold =>
      rcases hlistens.move hkind hsucceeds hreceive with ⟨hnext, hsame⟩
      refine .listening hnext ?_ (by rw [hsame, htold])
      cases next with
      | supply chunks known =>
          rw [show (({} : Source).afterMove (.supply chunks known)).bytes = chunks.flatten from
            Source.bytes_extend _ _ _] at hforetells
          exact hforetells.arrive hlast
      | _ => exact hforetells

theorem Heeds.play (hreachable : connection.Reachable) {source : Source} {moves : List Move}
    (hheeds : first.Heeds listener (Source.arrivals moves).bytes (Source.arrivals moves).ending
      told connection)
    (hlast : source.EndsLast moves) (hkind : forall move, move ∈ moves -> move.isKind = true)
    (hsucceeds : connection.callsSucceed moves = true) :
    first.Heeds listener [] none told (connection.play moves) := by
  induction moves generalizing connection source with
  | nil => exact hheeds
  | cons next rest ih =>
      rcases Source.arrivals_cons next rest with ⟨hbytes, hending⟩
      rw [hbytes, hending] at hheeds
      rcases callsSucceed_cons.mp hsucceeds with ⟨hnext, hrest⟩
      refine ih (hreachable.play [next]) (hheeds.move hreachable ?_ (hkind next
        List.mem_cons_self) hnext) hlast.right (fun move hmove =>
          hkind move (List.mem_cons_of_mem next hmove)) hrest
      refine hlast.right.isOpen.imp_left fun hnone => ?_
      rw [(Source.afterMove_eq source next).right] at hnone
      cases hsource : source.ending with
      | none => rwa [hsource] at hnone
      | some known => simp [hsource] at hnone

theorem Heeds.rest
    (hheeds : first.Heeds listener [] none told connection) (hfree : connection.isFree = true)
    (hrest : connection.step? = none) : connection.callbacks = told := by
  cases hheeds with
  | leaving hleaves =>
      rcases hleaves.rest hrest with hwaits | ⟨_, htold⟩
      · exact absurd (hwaits.left.symm.trans hfree) Bool.false_ne_true
      · exact htold
  | @listening receiver yet hlistens hforetells htold =>
      rcases hlistens.rest hfree hrest with ⟨hwaits, hnotExiting⟩
      rcases hforetells.course with hloop | ⟨outcome, hphase, hreason⟩
      · rw [hforetells.of_rest hloop (hwaits hloop), toldTo_nil, List.append_nil] at htold
        exact htold
      · exact absurd hphase (hnotExiting outcome hreason)

/-- Nobody gives the connection up, nothing arrives after the end of the stream, the frames
of all calls are written, and in the end nothing moves any more. -/
structure IsHeardOut (first : Connection) (source : Source) (moves : List Move) : Prop where
  kind : forall move, move ∈ moves -> move.isKind = true
  last : source.EndsLast moves
  succeeds : first.callsSucceed moves = true
  free : (first.play moves).isFree = true
  rest : (first.play moves).step? = none

/-- When a connection in use comes to rest, its listener has been told what the octets that
have arrived foretold, whatever calls were made. -/
theorem callbacks_of_rest {first : Connection} (hreachable : first.Reachable)
    (hfree : first.isFree = true) (hkept : first.isDropped = false)
    (hconnected : first.isConnected = true) {start : Receiver}
    (hstart : first.receiver = some start) (hloop : start.holdsStream = true) {moves : List Move}
    (hheard : first.IsHeardOut start.source moves) {whole : Source}
    (hbytes : whole.bytes = (start.source.afterMoves moves).bytes)
    (hending : whole.ending = (start.source.afterMoves moves).ending) :
    (first.play moves).callbacks = first.callbacks ++
      toldTo start.listener ((start.unaware.withSource whole).foretold first.config.limits) := by
  have hup := flags_of_isConnected hreachable hfree hkept hconnected hstart
  have hholder : first.holder = none := by simpa [isFree] using hfree
  have hflags : start.stop = false ∧ start.aborted = false := by
    rcases hup with ⟨_, hflags⟩ | ⟨_, hflags⟩ <;>
      exact And.intro (congrArg Flags.stop hflags) (congrArg Flags.aborted hflags)
  have hlistens : first.Listens start.unaware first := by
    refine ⟨rfl, ?_, by simp [hholder], by rw [hstart]; rfl⟩
    rcases hup with ⟨hstate, _⟩ | ⟨hstate, _⟩ <;> simp [isUp, hstate]
  have hgoes := hheard.last.goesOn
  have hforetells : start.unaware.Foretells first.config.limits start.listener
      (Source.arrivals moves).bytes (Source.arrivals moves).ending
      ((start.unaware.withSource whole).foretold first.config.limits) := by
    constructor
    case calm =>
        rw [Receiver.unaware_of_holdsStream hloop]
        exact ⟨hflags.right, hasReadAll_of_reachable hreachable start hstart⟩
    case stop => exact hflags.left
    case listener => rfl
    case course => exact Or.inl (start.holdsStream_unaware.trans hloop)
    case yet =>
        exact ⟨whole, ⟨hbytes.trans hgoes.bytes, hending.trans hgoes.ending, hgoes.isOpen⟩, rfl⟩
  have hheeds := Heeds.listening hlistens hforetells rfl
  exact (hheeds.play hreachable hheard.last hheard.kind hheard.succeeds).rest hheard.free
    hheard.rest

end Moves

end Connection

end WebSocketClient
