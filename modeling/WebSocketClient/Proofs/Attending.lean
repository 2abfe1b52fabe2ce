import WebSocketClient.Proofs.Attempts
import WebSocketClient.Proofs.Hearing

/-!
# A connection that attends to the server

While no call is made, the receiver reads on.  However its steps and the arrivals of
octets are mixed, it takes frame after frame from all that has arrived and tells the
listener what the transcript says, until the octets that are left end its loop.
-/

namespace WebSocketClient

/-- What a listener is told of these events; nobody is told if there is none. -/
def toldTo (listener : Option ListenerId) (events : List Event) : List (ListenerId × Event) :=
  events.flatMap fun event => (listener.map fun id => (id, event)).toList

@[simp] theorem toldTo_nil (listener : Option ListenerId) : toldTo listener [] = [] := rfl

@[simp] theorem toldTo_append (listener : Option ListenerId) (first second : List Event) :
    toldTo listener (first ++ second) = toldTo listener first ++ toldTo listener second :=
  List.flatMap_append

@[simp] theorem toldTo_cons (listener : Option ListenerId) (event : Event) (rest : List Event) :
    toldTo listener (event :: rest) =
      (listener.map fun id => (id, event)).toList ++ toldTo listener rest :=
  List.flatMap_cons

/-- The octets are the front of a frame and not the whole of it. -/
def Frame.IsCutOff (octets : Bytes) : Prop :=
  exists (frame : Frame) (mask : Option MaskKey) (missing : Bytes),
    missing ≠ [] ∧ frame.LaidOut mask (octets ++ missing)

/-!
## The receiver alone
-/

namespace Receiver

def inHand (receiver : Receiver) : List Event :=
  receiver.phase.news?.toList

def afterMove (receiver : Receiver) : Move -> Receiver
  | .supply chunks ending => receiver.arrive chunks ending
  | _ => receiver

theorem holdsStream_arrive {receiver : Receiver} (hloop : receiver.holdsStream = true)
    (chunks : List Bytes) (ending : Option Ending) :
    (receiver.arrive chunks ending).holdsStream = true := by
  unfold holdsStream at hloop ⊢
  unfold Receiver.arrive
  cases hphase : receiver.phase <;> simp [hphase] at hloop ⊢

theorem phase_arrive_ne_parked (receiver : Receiver) (chunks : List Bytes)
    (ending : Option Ending) : (receiver.arrive chunks ending).phase ≠ .parked := by
  intro hparked
  unfold Receiver.arrive at hparked
  cases hphase : receiver.phase <;> simp [hphase] at hparked

theorem inHand_afterMove (receiver : Receiver) (next : Move) :
    (receiver.afterMove next).inHand = receiver.inHand := by
  cases next with
  | supply chunks ending =>
      rw [afterMove, inHand, news?_arrive]
      rfl
  | _ => rfl

theorem listener_afterMove (receiver : Receiver) (next : Move) :
    (receiver.afterMove next).listener = receiver.listener := by
  cases next <;> rfl

theorem phase_afterMove {receiver : Receiver} (hphase : receiver.phase ≠ .parked) (next : Move) :
    (receiver.afterMove next).phase = receiver.phase := by
  cases next with
  | supply chunks ending =>
      unfold afterMove Receiver.arrive
      cases hother : receiver.phase <;> simp [hother] at hphase ⊢
  | _ => rfl

theorem listener_step {limits : Limits} {receiver next : Receiver} {signals : List Signal}
    (hstep : receiver.step? limits = some (next, signals)) :
    next.listener = receiver.listener := by
  rcases step_cases hstep with ⟨event, _, rfl, _⟩ | ⟨_, hlistens⟩
  · rfl
  · exact hlistens.listener

section Loop

variable (limits : Limits) (awaitingClose : Bool) (listener : Option ListenerId)
  (earlier : List Record) (arrived : Source) (records : List Record)

/-- Of what has arrived, the receiver has taken in the frames of these records, and its
loop goes on. -/
structure ReadsOn (receiver : Receiver) : Prop where
  loop : receiver.holdsStream = true
  listener : receiver.listener = listener
  flags : receiver.flags = ⟨false, awaitingClose, false⟩
  bytes : exists octets, arrived.bytes = octets ++ receiver.source.bytes ∧
    Frame.Stream false (records.map Record.frame) octets
  ending : receiver.source.ending = arrived.ending
  keeps : forall record, record ∈ records -> record.frame.Keeps limits
  tells : exists messages unfinished,
    receiver.assembly.Tells messages unfinished (earlier ++ records)
  waits : receiver.phase = .parked ->
    arrived.ending = none ∧ Frame.IsCutOff receiver.source.bytes

def ReadsOut (outcome : Outcome) : Prop :=
  exists messages unfinished octets left,
    arrived.bytes = octets ++ left ∧ Frame.Stream false (records.map Record.frame) octets ∧
      (forall record, record ∈ records -> record.frame.Keeps limits) ∧
      Transcript messages unfinished (earlier ++ records) ∧
      EndsBy limits awaitingClose unfinished left arrived.ending outcome

end Loop

section Steps

variable {limits : Limits} {awaitingClose : Bool} {listener : Option ListenerId}
  {earlier : List Record} {arrived : Source} {records : List Record}
  {receiver next : Receiver} {signals : List Signal}

theorem ReadsOn.enter
    (hreads : receiver.ReadsOn limits awaitingClose listener earlier arrived records)
    {phase : ReceiverPhase}
    (hloop : ({ receiver with phase := phase } : Receiver).holdsStream = true)
    (hwaits : phase = .parked -> arrived.ending = none ∧ Frame.IsCutOff receiver.source.bytes) :
    ({ receiver with phase := phase } : Receiver).ReadsOn limits awaitingClose listener earlier
      arrived (records ++ []) := by
  rw [List.append_nil]
  exact { hreads with loop := hloop, waits := hwaits }

theorem ReadsOn.take
    (hreads : receiver.ReadsOn limits awaitingClose listener earlier arrived records)
    {frame : Frame} {rest : Source} {event : Event} {after : Assembly}
    (hread : receiver.assembly.readFrame limits receiver.source = .done frame rest)
    (haccept : receiver.assembly.accept frame = .ok (.event event, after)) :
    let next : Receiver :=
      { receiver with phase := .delivering event, assembly := after, source := rest }
    next.ReadsOn limits awaitingClose listener earlier arrived
      (records ++ [⟨frame, event⟩]) := by
  intro next
  rcases hreads.tells with ⟨messages, unfinished, htells⟩
  rcases tells_of_round htells hread haccept with ⟨messages', unfinished', htells'⟩
  rcases Assembly.laidOut_of_readFrame hread with ⟨hkeeps, hending, front, hlaid, hbytes⟩
  rcases hreads.bytes with ⟨octets, harrived, hstream⟩
  constructor
  case loop => rfl
  case listener => exact hreads.listener
  case flags => exact hreads.flags
  case bytes =>
      refine ⟨octets ++ front, ?_, ?_⟩
      · rw [harrived, hbytes, List.append_assoc]
      · rw [List.map_append]
        exact hstream.append (.single hlaid)
  case ending => exact hending.trans hreads.ending
  case keeps =>
      intro record hrecord
      rcases List.mem_append.mp hrecord with hrecord | hrecord
      · exact hreads.keeps record hrecord
      · rw [List.mem_singleton.mp hrecord]
        exact hkeeps
  case tells =>
      rw [← List.append_assoc]
      exact ⟨messages', unfinished', htells'⟩
  case waits => simp

/-- A round takes a frame in, or has to wait, or the loop ends. -/
theorem ReadsOn.round
    (hreads : receiver.ReadsOn limits awaitingClose listener earlier arrived records)
    (hphase : receiver.phase = .reading)
    (hround : receiver.readFrame limits = (next, signals)) :
    (exists more, next.ReadsOn limits awaitingClose listener earlier arrived (records ++ more) ∧
        events signals ++ next.inHand = more.map Record.event) ∨
      exists outcome, next.phase = .exiting outcome ∧ events signals = [] ∧
        ReadsOut limits awaitingClose earlier arrived records outcome := by
  rcases hreads.tells with ⟨messages, unfinished, htells⟩
  rcases @verdict_cases limits _ _ _ _ htells with
    ⟨frame, rest, event, after, hread, haccept⟩ | ⟨outcome, hexit, hsilent, hends⟩ |
      ⟨hread, hending⟩
  · simp only [readFrame, hread, takeFrame, haccept] at hround
    cases hround
    exact Or.inl ⟨[⟨frame, event⟩], hreads.take hread haccept, rfl⟩
  · have hsame : { receiver with phase := .reading } = receiver := by rw [← hphase]
    have hawaits : receiver.awaitingClose = awaitingClose :=
      congrArg Flags.awaitingClose hreads.flags
    rcases hreads.bytes with ⟨octets, harrived, hstream⟩
    rw [hsame, hround] at hexit hsilent
    rw [hawaits, hreads.ending] at hends
    refine Or.inr ⟨outcome, congrArg Receiver.phase hexit, hsilent, messages, unfinished, octets, _,
      harrived, hstream, hreads.keeps, htells.transcript, hends⟩
  · have haborted : receiver.aborted = false := congrArg Flags.aborted hreads.flags
    have hcut : Frame.IsCutOff receiver.source.bytes :=
      Assembly.isFront_of_readFrame (Or.inl hread)
    have hwait : ({ receiver with phase := .parked }, []) = (next, signals) := by
      simpa [readFrame, hread, haborted] using hround
    cases hwait
    exact Or.inl ⟨[], hreads.enter rfl fun _ => And.intro (hreads.ending ▸ hending) hcut, rfl⟩

theorem ReadsOn.step
    (hreads : receiver.ReadsOn limits awaitingClose listener earlier arrived records)
    (hstep : receiver.step? limits = some (next, signals)) :
    (exists more, next.ReadsOn limits awaitingClose listener earlier arrived (records ++ more) ∧
        events signals ++ next.inHand = receiver.inHand ++ more.map Record.event) ∨
      exists outcome, next.phase = .exiting outcome ∧ events signals = [] ∧ receiver.inHand = [] ∧
        ReadsOut limits awaitingClose earlier arrived records outcome := by
  unfold step? at hstep
  split at hstep
  case h_1 hphase =>
      have hstop : receiver.stop = false := congrArg Flags.stop hreads.flags
      have hgo : ({ receiver with phase := .reading }, []) = (next, signals) := by
        simpa [hstop] using hstep
      cases hgo
      refine Or.inl ⟨[], @ReadsOn.enter _ _ _ _ _ _ _ hreads .reading rfl (by simp), ?_⟩
      simp [inHand, hphase, ReceiverPhase.news?, events]
  case h_2 hphase =>
      have hnothing : receiver.inHand = [] := by simp [inHand, hphase, ReceiverPhase.news?]
      rw [hnothing]
      rcases hreads.round hphase (Option.some.inj hstep) with
        ⟨more, hnext, htold⟩ | ⟨outcome, hexit, hsilent, hout⟩
      · exact Or.inl ⟨more, hnext, htold⟩
      · exact Or.inr ⟨outcome, hexit, hsilent, rfl, hout⟩
  case h_3 event hphase =>
      cases hstep
      refine Or.inl ⟨[], @ReadsOn.enter _ _ _ _ _ _ _ hreads .checking rfl (by simp), ?_⟩
      simp [inHand, hphase, ReceiverPhase.news?, events]
  all_goals cases hstep

theorem ReadsOn.arrive
    (hreads : receiver.ReadsOn limits awaitingClose listener earlier arrived records)
    (chunks : List Bytes) (ending : Option Ending) :
    (receiver.arrive chunks ending).ReadsOn limits awaitingClose listener earlier
      (arrived.extend chunks ending) records := by
  rcases hreads.bytes with ⟨octets, harrived, hstream⟩
  constructor
  case loop => exact holdsStream_arrive hreads.loop chunks ending
  case listener => exact hreads.listener
  case flags => exact hreads.flags
  case bytes =>
      refine ⟨octets, ?_, hstream⟩
      show _ = octets ++ (receiver.source.extend chunks ending).bytes
      rw [Source.bytes_extend, Source.bytes_extend, harrived, List.append_assoc]
  case ending =>
      show (receiver.source.ending <|> ending) = (arrived.ending <|> ending)
      rw [hreads.ending]
  case keeps => exact hreads.keeps
  case tells => exact hreads.tells
  case waits =>
      intro hparked
      exact absurd hparked (receiver.phase_arrive_ne_parked chunks ending)

/-- A receiver that reads on begins with the next octets. -/
theorem readsOn_arrive (hloop : receiver.holdsStream = true)
    (hflags : receiver.flags = ⟨false, receiver.awaitingClose, false⟩)
    {messages : List (Message × List Bytes)} {unfinished : Unfinished}
    (htells : receiver.assembly.Tells messages unfinished earlier)
    (chunks : List Bytes) (ending : Option Ending) :
    (receiver.arrive chunks ending).ReadsOn limits receiver.awaitingClose receiver.listener earlier
      (receiver.source.extend chunks ending) [] where
  loop := holdsStream_arrive hloop chunks ending
  listener := rfl
  flags := hflags
  bytes := ⟨[], rfl, .nil⟩
  ending := rfl
  keeps := by simp
  tells := ⟨messages, unfinished, by rwa [List.append_nil]⟩
  waits hparked := absurd hparked (receiver.phase_arrive_ne_parked chunks ending)

theorem ReadsOn.afterMove
    (hreads : receiver.ReadsOn limits awaitingClose listener earlier arrived records)
    (next : Move) :
    (receiver.afterMove next).ReadsOn limits awaitingClose listener earlier
      (arrived.afterMove next) records := by
  cases next with
  | supply chunks ending => exact hreads.arrive chunks ending
  | _ => exact hreads

end Steps

end Receiver

/-!
## The connection
-/

/-- No call is made; the connection, its stream and the clock go on. -/
def Move.isQuiet : Move -> Bool
  | connect _ _ | call _ | giveUp => false
  | hold | receive | supply _ _ | pass _ | treatWrites _ _ | setListener _ => true

def AreQuiet (moves : List Move) : Prop :=
  forall move, move ∈ moves -> move.isQuiet = true

theorem AreQuiet.of_cons {next : Move} {moves : List Move} (hquiet : AreQuiet (next :: moves)) :
    next.isQuiet = true ∧ AreQuiet moves :=
  And.intro (hquiet next List.mem_cons_self) fun move hmove =>
    hquiet move (List.mem_cons_of_mem next hmove)

namespace Connection

theorem exists_tells {connection : Connection} (hreachable : connection.Reachable)
    {receiver : Receiver} (hreceiver : connection.receiver = some receiver) :
    exists messages unfinished records,
      receiver.assembly.Tells messages unfinished records := by
  have hinvariant : forall assembly, connection.inventory.assembly = some assembly ->
      exists messages unfinished records, assembly.Tells messages unfinished records := by
    refine @inventory_invariant (fun inventory => forall assembly,
      inventory.assembly = some assembly ->
        exists messages unfinished records, assembly.Tells messages unfinished records) ?_ ?_ _
      hreachable
    · intro config offered listener assembly hassembly
      cases hassembly
    · intro old new htold hshift
      cases hshift with
      | opened _ =>
          intro assembly hassembly
          cases hassembly
          exact ⟨[], none, [], Assembly.tells_nil⟩
      | @taken before after hbefore htakes =>
          intro assembly hassembly
          cases hassembly
          rcases htold before hbefore with ⟨messages, unfinished, records, htells⟩
          rcases htakes with ⟨limits, source, frame, rest, event, hread, haccept⟩
          let reading : Receiver := { source := source, assembly := before, listener := none }
          rcases @Receiver.tells_of_round limits reading _ _ _ _ _ _ _ htells hread haccept with
            ⟨messages', unfinished', htells'⟩
          exact ⟨_, _, _, htells'⟩
      | _ => exact htold
  exact hinvariant receiver.assembly (by simp [inventory, hreceiver])

theorem exists_journal_tell (connection : Connection) (listener : Option ListenerId)
    (signals : List Signal) :
    exists journal,
      signals.foldl (fun connection signal => connection.emit listener signal) connection =
          { connection with journal := journal } ∧
        Journal.transmissions journal = connection.transmissions ∧
        Journal.callbacks journal = connection.callbacks ++ toldTo listener (events signals) := by
  induction signals generalizing connection with
  | nil => exact ⟨connection.journal, rfl, rfl, (List.append_nil _).symm⟩
  | cons signal rest ih =>
      rcases ih (connection.emit listener signal) with
        ⟨journal, hjournal, htransmissions, hcallbacks⟩
      refine ⟨journal, ?_, ?_, ?_⟩
      · rw [List.foldl_cons, hjournal]
        cases signal <;> rfl
      · rw [htransmissions]
        cases signal <;> simp [emit, report, notify, log, transmissions]
      · rw [hcallbacks]
        cases signal <;> simp [emit, report, notify, log, callbacks, events, toldTo]

/-- What a quiet move leaves alone that nobody makes who holds the lock or receives. -/
structure Undisturbed (old : Connection) (next : Move) (new : Connection) : Prop where
  config : new.config = old.config
  core : new.core = old.core
  holder : new.holder = old.holder
  receiver : new.receiver = old.receiver.map fun receiver => receiver.afterMove next
  journal : new.journal = old.journal
  content : new.sink.content = old.sink.content

theorem Undisturbed.transmissions {old new : Connection} {next : Move}
    (hsame : old.Undisturbed next new) : new.transmissions = old.transmissions :=
  congrArg Journal.transmissions hsame.journal

theorem Undisturbed.callbacks {old new : Connection} {next : Move}
    (hsame : old.Undisturbed next new) : new.callbacks = old.callbacks :=
  congrArg Journal.callbacks hsame.journal

def isDeaf (connection : Connection) : Prop :=
  forall chunks ending, connection.holder.map (fun holder => holder.arrive chunks ending) =
    connection.holder

theorem undisturbed {connection : Connection} {next : Move} (hquiet : next.isQuiet = true)
    (hdeaf : connection.isDeaf) (hhold : next = .hold -> connection.holder = none)
    (hreceive : next ≠ .receive) : connection.Undisturbed next (connection.move next) := by
  have hsame (receiver : Option Receiver) : receiver = receiver.map fun receiver => receiver :=
    Option.map_id'.symm
  cases next with
  | connect opening dial => cases hquiet
  | call call => cases hquiet
  | giveUp => cases hquiet
  | receive => exact absurd rfl hreceive
  | hold =>
      simp only [move, hhold rfl, Option.bind_none, Option.getD_none]
      exact ⟨rfl, rfl, rfl, hsame _, rfl, rfl⟩
  | supply chunks ending => exact ⟨rfl, rfl, hdeaf chunks ending, rfl, rfl, rfl⟩
  | pass milliseconds => exact ⟨rfl, rfl, rfl, hsame _, rfl, rfl⟩
  | treatWrites policy flush => exact ⟨rfl, rfl, rfl, hsame _, rfl, rfl⟩
  | setListener listener =>
      simp only [move]
      split
      · exact ⟨rfl, rfl, rfl, hsame _, rfl, rfl⟩
      · exact ⟨rfl, rfl, rfl, hsame _, rfl, rfl⟩

structure Unspoken (first connection : Connection) : Prop where
  config : connection.config = first.config
  core : connection.core = first.core
  holder : connection.holder = none
  transmissions : connection.transmissions = first.transmissions
  content : connection.sink.content = first.sink.content

section Attending

variable (first : Connection) (start : Receiver) (earlier : List Record) (arrived : Source)
  (records : List Record)

/-- The receiver goes on, and its listener has been told of these records but for the
event in hand. -/
structure Attends (connection : Connection) : Prop extends Unspoken first connection where
  receives : exists receiver, connection.receiver = some receiver ∧
    receiver.ReadsOn first.config.limits start.awaitingClose start.listener earlier arrived
      records ∧
    connection.callbacks ++ toldTo start.listener receiver.inHand =
      first.callbacks ++ toldTo start.listener (start.inHand ++ records.map Record.event)

/-- The receiver's loop has ended, and its listener has been told of these records. -/
structure HasHeard (outcome : Outcome) (connection : Connection) : Prop
    extends Unspoken first connection where
  exits : exists receiver, connection.receiver = some receiver ∧
    receiver.phase = .exiting outcome ∧ receiver.listener = start.listener
  callbacks : connection.callbacks =
    first.callbacks ++ toldTo start.listener (start.inHand ++ records.map Record.event)
  reads : Receiver.ReadsOut first.config.limits start.awaitingClose earlier arrived records outcome

end Attending

section Moves

variable {first connection : Connection} {start : Receiver} {earlier : List Record}
  {arrived : Source} {records : List Record}

theorem Unspoken.undisturbed (hunspoken : first.Unspoken connection) {next : Move}
    (hquiet : next.isQuiet = true) (hnext : next ≠ .receive) :
    connection.Undisturbed next (connection.move next) := by
  have hdeaf : connection.isDeaf := by
    intro chunks ending
    rw [hunspoken.holder]
    rfl
  exact Connection.undisturbed hquiet hdeaf (fun _ => hunspoken.holder) hnext

theorem Unspoken.move {next : Move} {after : Connection} (hunspoken : first.Unspoken connection)
    (hsame : connection.Undisturbed next after) : first.Unspoken after where
  config := hsame.config.trans hunspoken.config
  core := hsame.core.trans hunspoken.core
  holder := hsame.holder.trans hunspoken.holder
  transmissions := hsame.transmissions.trans hunspoken.transmissions
  content := hsame.content.trans hunspoken.content

theorem receiverStep?_of_holdsStream {receiver : Receiver} (hloop : receiver.holdsStream = true) :
    connection.receiverStep? receiver =
      (receiver.step? connection.config.limits).map fun (receiver, signals) =>
        signals.foldl (fun connection signal => connection.emit receiver.listener signal)
          { connection with receiver := some receiver } := by
  unfold receiverStep?
  split
  case h_1 hphase => simp [Receiver.holdsStream, hphase] at hloop
  case h_2 hphase => simp [Receiver.holdsStream, hphase] at hloop
  case h_3 => rfl

theorem attends_supply {first : Connection} (hholder : first.holder = none)
    (hstart : first.receiver = some start) (hloop : start.holdsStream = true)
    (hflags : start.flags = ⟨false, start.awaitingClose, false⟩)
    {messages : List (Message × List Bytes)} {unfinished : Unfinished}
    (htells : start.assembly.Tells messages unfinished earlier)
    (chunks : List Bytes) (ending : Option Ending) :
    first.Attends start earlier (start.source.extend chunks ending) []
      (first.move (.supply chunks ending)) where
  config := rfl
  core := rfl
  holder := by simp [Connection.move, supply, hholder]
  transmissions := rfl
  content := rfl
  receives := by
    refine ⟨start.arrive chunks ending, ?_, Receiver.readsOn_arrive hloop hflags htells _ _, ?_⟩
    · simp [Connection.move, supply, hstart]
    · have hsame : (start.arrive chunks ending).inHand = start.inHand :=
        start.inHand_afterMove (.supply chunks ending)
      rw [hsame, List.map_nil, List.append_nil]
      rfl

theorem Attends.receive (hattends : first.Attends start earlier arrived records connection) :
    (exists more,
        first.Attends start earlier arrived (records ++ more) (connection.move .receive)) ∨
      exists outcome,
        first.HasHeard start earlier arrived records outcome (connection.move .receive) := by
  rcases hattends.receives with ⟨receiver, hreceiver, hreads, htold⟩
  have hlimits : connection.config.limits = first.config.limits := by
    rw [hattends.config]
  simp only [Connection.move, hreceiver, Option.bind_some,
    receiverStep?_of_holdsStream hreads.loop, hlimits]
  cases hstep : receiver.step? first.config.limits with
  | none => exact Or.inl ⟨[], by rwa [List.append_nil]⟩
  | some stepped =>
      rcases stepped with ⟨next, signals⟩
      have hlistener : next.listener = start.listener :=
        (Receiver.listener_step hstep).trans hreads.listener
      rcases exists_journal_tell { connection with receiver := some next } next.listener
        signals with ⟨journal, hjournal, htransmissions, hcallbacks⟩
      rw [Option.map_some, Option.getD_some, hjournal]
      have hunspoken : first.Unspoken
          { connection with receiver := some next, journal := journal } :=
        { hattends with transmissions := htransmissions.trans hattends.transmissions }
      have htelling : Journal.callbacks journal =
          connection.callbacks ++ toldTo start.listener (events signals) := by
        rw [hcallbacks, hlistener]
        rfl
      rcases hreads.step hstep with
        ⟨more, hnext, hevents⟩ | ⟨outcome, hphase, hsilent, hnothing, hout⟩
      · refine Or.inl ⟨more, { hunspoken with receives := ⟨next, rfl, hnext, ?_⟩ }⟩
        show Journal.callbacks journal ++ _ = _
        rw [htelling, List.append_assoc, ← toldTo_append, hevents, toldTo_append,
          ← List.append_assoc, htold]
        simp [List.append_assoc]
      · refine Or.inr ⟨outcome, { hunspoken with
          exits := ⟨next, rfl, hphase, hlistener⟩, callbacks := ?_, reads := hout }⟩
        show Journal.callbacks journal = _
        rw [htelling, hsilent, ← htold, hnothing]

theorem Attends.move (hattends : first.Attends start earlier arrived records connection)
    {next : Move} (hquiet : next.isQuiet = true) :
    (exists more, first.Attends start earlier (arrived.afterMove next) (records ++ more)
        (connection.move next)) ∨
      exists outcome, first.HasHeard start earlier (arrived.afterMove next) records outcome
        (connection.move next) := by
  by_cases hnext : next = .receive
  · subst hnext
    exact hattends.receive
  · have hsame := hattends.toUnspoken.undisturbed hquiet hnext
    rcases hattends.receives with ⟨receiver, hreceiver, hreads, htold⟩
    refine Or.inl ⟨[], { hattends.toUnspoken.move hsame with
      receives := ⟨receiver.afterMove next, ?_, ?_, ?_⟩ }⟩
    · rw [hsame.receiver, hreceiver]
      rfl
    · rw [List.append_nil]
      exact hreads.afterMove next
    · rw [hsame.callbacks, Receiver.inHand_afterMove, List.append_nil]
      exact htold

theorem HasHeard.move {outcome : Outcome}
    (hheard : first.HasHeard start earlier arrived records outcome connection) {next : Move}
    (hquiet : next.isQuiet = true) (hnext : next ≠ .receive) :
    first.HasHeard start earlier arrived records outcome (connection.move next) := by
  have hsame := hheard.toUnspoken.undisturbed hquiet hnext
  rcases hheard.exits with ⟨receiver, hreceiver, hphase, hlistener⟩
  refine { hheard.toUnspoken.move hsame with
    exits := ⟨receiver.afterMove next, ?_, ?_, ?_⟩
    callbacks := hsame.callbacks.trans hheard.callbacks
    reads := hheard.reads }
  · rw [hsame.receiver, hreceiver]
    rfl
  · rw [Receiver.phase_afterMove (by simp [hphase]), hphase]
  · rw [Receiver.listener_afterMove, hlistener]

theorem Attends.play (hattends : first.Attends start earlier arrived records connection)
    {moves : List Move} (hquiet : AreQuiet moves) :
    (exists more, first.Attends start earlier (arrived.afterMoves moves) (records ++ more)
        (connection.play moves)) ∨
      exists front rest more outcome, moves = front ++ rest ∧
        first.HasHeard start earlier (arrived.afterMoves front) (records ++ more) outcome
          (connection.play front) := by
  induction moves generalizing connection arrived records with
  | nil => exact Or.inl ⟨[], by rwa [List.append_nil]⟩
  | cons next rest ih =>
      rcases hquiet.of_cons with ⟨hnext, hrest⟩
      rcases hattends.move hnext with ⟨more, hgoes⟩ | ⟨outcome, hheard⟩
      · rcases ih hgoes hrest with
          ⟨later, hlater⟩ | ⟨front, rest', later, outcome, hsplit, hheard⟩
        · rw [List.append_assoc] at hlater
          exact Or.inl ⟨more ++ later, hlater⟩
        · rw [List.append_assoc] at hheard
          exact Or.inr ⟨next :: front, rest', more ++ later, outcome, by rw [hsplit]; rfl, hheard⟩
      · exact Or.inr ⟨[next], rest, [], outcome, rfl, by rwa [List.append_nil]⟩

/-- Once the loop has ended, nothing counts until the receiver moves. -/
theorem HasHeard.play {outcome : Outcome}
    (hheard : first.HasHeard start earlier arrived records outcome connection) {moves : List Move}
    (hquiet : AreQuiet moves) :
    first.HasHeard start earlier arrived records outcome (connection.play moves) ∨
      exists front rest, moves = front ++ .receive :: rest ∧
        first.HasHeard start earlier arrived records outcome (connection.play front) := by
  induction moves generalizing connection with
  | nil => exact Or.inl hheard
  | cons next rest ih =>
      rcases hquiet.of_cons with ⟨hnext, hrest⟩
      by_cases hreceive : next = .receive
      · subst hreceive
        exact Or.inr ⟨[], rest, rfl, hheard⟩
      · rcases ih (hheard.move hnext hreceive) hrest with
          hlater | ⟨front, rest', hsplit, hlater⟩
        · exact Or.inl hlater
        · exact Or.inr ⟨next :: front, rest', by rw [hsplit]; rfl, hlater⟩

end Moves

end Connection

end WebSocketClient
