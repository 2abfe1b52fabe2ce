import WebSocketClient.Connection.Running
import WebSocketClient.Proofs.Output

/-!
# Moves

Everything that can happen to a connection, in any order.  A caller takes the
lock when it is free, its holder and the receiver make their steps, octets
arrive, time passes, and the stream changes its mind about writes.  Callers that
wait for the lock have done nothing yet, so any number of them may be waiting.
A move that is impossible now changes nothing.
-/

namespace WebSocketClient

inductive Move where
  /-- An opening handshake is tried, over what the network gives if need be. -/
  | connect (opening : Opening) (dial : Dial)
  | call (call : Call)
  /-- The holder of the lock makes a step. -/
  | hold
  /-- The receiver makes a step. -/
  | receive
  | supply (chunks : List Bytes) (ending : Option Ending)
  | pass (milliseconds : Nat)
  | treatWrites (policy : WritePolicy) (flush : FlushAnswer)
  | setListener (listener : ListenerId)
  | giveUp

/-- What was sent on a stream before it is handed over does not count. -/
def Duplex.afresh (duplex : Duplex) : Duplex :=
  { duplex with sink := { policy := duplex.sink.policy, flush := duplex.sink.flush } }

def Opening.afresh (opening : Opening) : Opening :=
  { opening with stream := opening.stream.map Duplex.afresh }

def Dial.afresh : Dial -> Dial
  | reached stream => reached stream.afresh
  | dial => dial

theorem Opening.streamTo_afresh (opening : Opening) (dial : Dial) (endpoint : Endpoint) :
    opening.afresh.streamTo dial.afresh endpoint =
      (opening.streamTo dial endpoint).map Duplex.afresh := by
  cases hstream : opening.stream with
  | some stream => simp [streamTo, afresh, hstream, Except.map]
  | none =>
      cases hsecure : endpoint.secure <;> cases dial <;>
        simp [streamTo, afresh, hstream, Dial.openTo, Dial.afresh, hsecure, Except.map]

theorem Opening.sink_of_streamTo {opening : Opening} {dial : Dial} {endpoint : Endpoint}
    {stream : Duplex} (hstream : opening.afresh.streamTo dial.afresh endpoint = .ok stream) :
    stream.sink = { policy := stream.sink.policy, flush := stream.sink.flush } := by
  rw [streamTo_afresh] at hstream
  cases hgiven : opening.streamTo dial endpoint with
  | error error => simp [hgiven, Except.map] at hstream
  | ok given =>
      rw [hgiven] at hstream
      cases hstream
      rfl

def Holder.isCaller : Holder -> Bool
  | requesting _ _ | awaitingAnswer _ | sending _ _ => true
  | farewell _ _ => false
  | leaving _ _ _ failure => failure.isSome

namespace Connection

def fresh (config : Config) (offered : List String) (listener : Option ListenerId) : Connection :=
  { config := config, offered := offered, listener := listener }

/-- The user has the connection to itself: no call is in the middle of its work.
Only then may it register a listener or give the connection up. -/
def isOwned (connection : Connection) : Bool :=
  !connection.isDropped && !connection.holder.any Holder.isCaller

def move (connection : Connection) : Move -> Connection
  | .connect opening dial =>
      if connection.isFree then connection.startOpening opening.afresh dial.afresh else connection
  | .call call =>
      match call.payload with
      | .error error => connection.finish (some error)
      | .ok payload => if connection.isFree then connection.startCall call payload else connection
  | .hold => (connection.holder.bind connection.holderStep?).getD connection
  | .receive => (connection.receiver.bind connection.receiverStep?).getD connection
  | .supply chunks ending => connection.supply chunks ending
  | .pass milliseconds => connection.pass milliseconds
  | .treatWrites policy flush => connection.treatWrites policy flush
  | .setListener listener =>
      if connection.isOwned then connection.setListener listener else connection
  | .giveUp => if connection.isOwned then connection.giveUp else connection

def play (connection : Connection) (moves : List Move) : Connection :=
  moves.foldl move connection

@[simp] theorem play_nil (connection : Connection) : connection.play [] = connection := rfl

@[simp] theorem play_cons (connection : Connection) (next : Move) (moves : List Move) :
    connection.play (next :: moves) = (connection.move next).play moves := rfl

theorem play_append (connection : Connection) (first second : List Move) :
    connection.play (first ++ second) = (connection.play first).play second :=
  List.foldl_append ..

theorem play_concat (connection : Connection) (moves : List Move) (last : Move) :
    connection.play (moves ++ [last]) = (connection.play moves).move last := by
  rw [play_append]
  rfl

/-- What holds at first and what every move keeps holds after any moves. -/
theorem play_invariant {P : Connection -> Prop} (hmove : forall connection move, P connection ->
    P (connection.move move)) {connection : Connection} (hfirst : P connection)
    (moves : List Move) : P (connection.play moves) := by
  induction moves generalizing connection with
  | nil => exact hfirst
  | cons next rest ih => exact ih (hmove connection next hfirst)

/-- While the lock is free only an opening handshake, a call on an open connection
and the receiver change the state. -/
theorem state_move_of_free {connection : Connection} (hholder : connection.holder = none)
    (hopened : connection.core.state ≠ .opened) {next : Move}
    (hconnect : forall opening dial, next = .connect opening dial ->
      connection.core.state ≠ .disconnected)
    (hreceive : next = .receive -> connection.receiver = none) :
    (connection.move next).core.state = connection.core.state := by
  cases next with
  | connect opening dial =>
      have hfault : exists error, openingFault? connection.core.state = some error := by
        have hstate := hconnect opening dial rfl
        unfold openingFault?
        split
        case h_1 hdisconnected => exact absurd hdisconnected hstate
        case h_2 => exact ⟨_, rfl⟩
        case h_3 => exact ⟨_, rfl⟩
      rcases hfault with ⟨error, hfault⟩
      simp only [move]
      split
      · simp [startOpening, hfault, finish, record, log]
      · rfl
  | call call =>
      have hsend : connection.core.state.canSend = false := by
        simpa [ConnectionState.canSend] using hopened
      simp only [move]
      split
      · rfl
      · split
        · simp [startCall, hsend, finish, record, log]
        · rfl
  | hold => simp [move, hholder]
  | receive => simp [move, hreceive rfl]
  | supply chunks ending => rfl
  | pass milliseconds => rfl
  | treatWrites policy flush => rfl
  | setListener listener =>
      simp only [move]
      split <;> rfl
  | giveUp =>
      simp only [move, giveUp]
      split
      · split <;> rfl
      · rfl

/-- Some moves lead from an unused connection to this one. -/
def Reachable (connection : Connection) : Prop :=
  exists config offered listener moves, connection = (fresh config offered listener).play moves

theorem Reachable.play {connection : Connection} (hreachable : connection.Reachable)
    (moves : List Move) : (connection.play moves).Reachable := by
  rcases hreachable with ⟨config, offered, listener, earlier, rfl⟩
  exact ⟨config, offered, listener, earlier ++ moves, (play_append _ earlier moves).symm⟩

/-!
## Steady streams
-/

/-- The stream takes no more octets after it has refused a write, and it can always be
flushed. -/
def isSteady : Connection -> List Move -> Bool
  | _, [] => true
  | connection, next :: moves =>
      (connection.move next).sink.isSteady && isSteady (connection.move next) moves

def SteadilyReachable (connection : Connection) : Prop :=
  exists config offered listener moves,
    (fresh config offered listener).isSteady moves = true ∧
      connection = (fresh config offered listener).play moves

theorem SteadilyReachable.reachable {connection : Connection}
    (hreachable : connection.SteadilyReachable) : connection.Reachable := by
  rcases hreachable with ⟨config, offered, listener, moves, _, hplay⟩
  exact ⟨config, offered, listener, moves, hplay⟩

theorem isSteady_append (connection : Connection) (first second : List Move) :
    connection.isSteady (first ++ second) =
      (connection.isSteady first && (connection.play first).isSteady second) := by
  induction first generalizing connection with
  | nil => rfl
  | cons next rest ih =>
      rw [List.cons_append, isSteady, isSteady, ih, Bool.and_assoc]
      rfl

theorem SteadilyReachable.play {connection : Connection}
    (hreachable : connection.SteadilyReachable) {moves : List Move}
    (hsteady : connection.isSteady moves = true) : (connection.play moves).SteadilyReachable := by
  rcases hreachable with ⟨config, offered, listener, earlier, hearlier, rfl⟩
  refine ⟨config, offered, listener, earlier ++ moves, ?_, (play_append _ earlier moves).symm⟩
  rw [isSteady_append, hearlier, hsteady]
  rfl

/-!
## A session
-/

/-- The answer of a server to a client key whose octets are all zero. -/
def sampleAnswer : Bytes :=
  Utf8.encode ("HTTP/1.1 101 Switching Protocols\r\nUpgrade: websocket\r\nConnection: Upgrade\r\n"
    ++ "Sec-WebSocket-Accept: ICX+Yqv66kxgM0FcWaLWlFLwTAI=\r\n\r\n")

def sampleOpening : Opening where
  uri := "ws://localhost/"
  nonce := List.replicate 16 0
  keys := ⟨0⟩
  stream := some ⟨⟨[sampleAnswer], none⟩, {}⟩

def sampleMoves : List Move :=
  .connect sampleOpening .unknownHost :: List.replicate 4 .hold

def sampleRequest : Bytes :=
  Utf8.encode ("GET / HTTP/1.1\r\nHost: localhost\r\nUpgrade: websocket\r\nConnection: Upgrade\r\n"
    ++ "Sec-WebSocket-Key: AAAAAAAAAAAAAAAAAAAAAA==\r\nSec-WebSocket-Version: 13\r\n\r\n")

def sample : Connection where
  config := { debug := false }
  listener := some 0
  isConnected := true
  negotiated := some []
  core := {
    state := .opened
    writer := some ⟨.client, ⟨0⟩, ⟨8192, []⟩⟩
    holdsControl := true
    holdsReceiver := true
    listener := some 0 }
  receiver := some { source := ⟨[[]], none⟩, listener := some 0 }
  sink := { sent := [sampleRequest] }
  journal := [.returned none, .callback 0 .connected, .began sampleRequest]

theorem play_sampleMoves : (fresh { debug := false } [] (some 0)).play sampleMoves = sample := by
  decide +kernel

theorem sample_steadilyReachable : sample.SteadilyReachable :=
  ⟨{ debug := false }, [], some 0, sampleMoves, by decide +kernel, play_sampleMoves.symm⟩

/-!
## Running is playing

Each operation that runs a connection until nothing moves is a play of moves, so
whatever holds after any moves holds while the connection runs.
-/

theorem exists_move_of_step {connection next : Connection}
    (hstep : connection.step? = some next) :
    exists last, (last = .hold ∨ last = .receive) ∧ next = connection.move last := by
  unfold step? at hstep
  cases hholder : connection.holder.bind connection.holderStep? with
  | some held =>
      rw [hholder] at hstep
      cases hstep
      exact ⟨.hold, Or.inl rfl, by simp [move, hholder]⟩
  | none =>
      rw [hholder] at hstep
      have hreceive : connection.receiver.bind connection.receiverStep? = some next := hstep
      exact ⟨.receive, Or.inr rfl, by simp [move, hreceive]⟩

theorem exists_play_runFor (fuel : Nat) (connection : Connection) :
    exists moves, connection.runFor fuel = connection.play moves := by
  induction fuel generalizing connection with
  | zero => exact ⟨[], rfl⟩
  | succ fuel ih =>
      unfold runFor
      split
      · rename_i next hstep
        rcases exists_move_of_step hstep with ⟨last, _, hlast⟩
        rcases ih next with ⟨moves, hmoves⟩
        exact ⟨last :: moves, by rw [hmoves, hlast, play_cons]⟩
      · exact ⟨[], rfl⟩

theorem exists_play_settle (connection : Connection) (next : Move) :
    exists moves, (connection.move next).settle = connection.play moves := by
  rcases exists_play_runFor (connection.move next).work (connection.move next) with
    ⟨moves, hmoves⟩
  exact ⟨next :: moves, hmoves⟩

theorem exists_play_arrive (connection : Connection) (chunks : List Bytes)
    (ending : Option Ending) :
    exists moves, connection.arrive chunks ending = connection.play moves :=
  exists_play_settle connection (.supply chunks ending)

theorem exists_play_advance (connection : Connection) (milliseconds : Nat) :
    exists moves, connection.advance milliseconds = connection.play moves :=
  exists_play_settle connection (.pass milliseconds)

theorem exists_play_setPolicy (connection : Connection) (policy : WritePolicy) :
    exists moves, connection.setPolicy policy = connection.play moves :=
  exists_play_settle connection (.treatWrites policy connection.sink.flush)

theorem exists_play_drop {connection : Connection} (howned : connection.isOwned = true) :
    exists moves, connection.drop = connection.play moves := by
  have hmove : connection.move .giveUp = connection.giveUp := by simp [move, howned]
  rw [drop, ← hmove]
  exact exists_play_settle connection .giveUp

theorem exists_play_expire (connection : Connection) :
    exists moves, connection.expire = connection.play moves := by
  unfold expire
  split
  · exact exists_play_settle connection (.pass _)
  · exact ⟨[], rfl⟩

theorem exists_play_awaitLock (connection : Connection) :
    exists moves, connection.awaitLock = connection.play moves := by
  have hwait (connection : Connection) : exists moves,
      (if connection.isFree then connection else connection.expire) = connection.play moves := by
    split
    · exact ⟨[], rfl⟩
    · exact exists_play_expire connection
  rcases hwait connection with ⟨first, hfirst⟩
  rcases hwait (connection.play first) with ⟨second, hsecond⟩
  refine ⟨first ++ second, ?_⟩
  rw [play_append, ← hsecond, ← hfirst]
  rfl

theorem exists_play_awaited (connection : Connection) (next : Move) :
    exists moves,
      (if connection.awaitLock.isFree then (connection.awaitLock.move next).settle
        else connection.awaitLock) = connection.play moves := by
  rcases exists_play_awaitLock connection with ⟨waiting, hwaiting⟩
  split
  · rcases exists_play_settle connection.awaitLock next with ⟨moves, hmoves⟩
    exact ⟨waiting ++ moves, by rw [hmoves, hwaiting, play_append]⟩
  · exact ⟨waiting, hwaiting⟩

theorem exists_play_connect (connection : Connection) {opening : Opening} {dial : Dial}
    (hopening : opening.afresh = opening) (hdial : dial.afresh = dial) :
    exists moves, connection.connect opening dial = connection.play moves := by
  rcases exists_play_awaited connection (.connect opening dial) with ⟨moves, hmoves⟩
  refine ⟨moves, ?_⟩
  rw [← hmoves, connect]
  split
  · rename_i hfree
    simp [move, hfree, hopening, hdial]
  · rfl

theorem exists_play_call (connection : Connection) (call : Call) :
    exists moves, connection.call call = connection.play moves := by
  unfold Connection.call
  split
  · rename_i error hpayload
    have hmove : connection.move (.call call) = connection.finish (some error) := by
      simp [move, hpayload]
    rw [← hmove]
    exact exists_play_settle connection (.call call)
  · rename_i payload hpayload
    rcases exists_play_awaited connection (.call call) with ⟨moves, hmoves⟩
    refine ⟨moves, ?_⟩
    rw [← hmoves]
    simp only
    split
    · rename_i hfree
      simp [move, hpayload, hfree]
    · rfl

end Connection

end WebSocketClient
