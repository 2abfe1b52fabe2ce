import WebSocketClient.Proofs.Openings
import WebSocketClient.Proofs.Pasts
import WebSocketClient.Proofs.RoundTrip
import WebSocketClient.Proofs.Standing

/-!
# Attempts to open a connection

An opening handshake comes back in one of two ways.  The connection is open, the
whole request has reached the stream and the answer has been accepted; or the
attempt has failed and the connection is what it was before.  So after any number
of failures it does what an unused connection does.
-/

namespace WebSocketClient

namespace Source

def afterMove (source : Source) : Move -> Source
  | .supply chunks ending => source.extend chunks ending
  | _ => source

/-- What can be read after these moves, if nothing is read in between. -/
def afterMoves (source : Source) (moves : List Move) : Source :=
  moves.foldl afterMove source

end Source

namespace Holder

def attempt? : Holder -> Option Attempt
  | requesting attempt _ | awaitingAnswer attempt => some attempt
  | sending _ _ | farewell _ _ | leaving _ _ _ _ => none

theorem isCaller_of_attempt? {holder : Holder} {attempt : Attempt}
    (hattempt : holder.attempt? = some attempt) : holder.isCaller = true := by
  cases holder with
  | requesting _ _ => rfl
  | awaitingAnswer _ => rfl
  | _ => cases hattempt

theorem attempt?_arrive {holder : Holder} {attempt : Attempt}
    (hattempt : holder.attempt? = some attempt) (chunks : List Bytes) (ending : Option Ending) :
    (holder.arrive chunks ending).attempt? =
      some { attempt with source := attempt.source.extend chunks ending } := by
  cases holder with
  | requesting _ _ =>
      cases hattempt
      rfl
  | awaitingAnswer _ =>
      cases hattempt
      rfl
  | _ => cases hattempt

end Holder

namespace Connection

/-!
## In the middle of an attempt
-/

def attempting (first : Connection) (holder : Option Holder) (sink : Sink) (clock : Nat)
    (journal : List Entry) : Connection :=
  { first with
    core := { first.core with state := .connecting }
    holder := holder
    sink := sink
    clock := clock
    journal := journal }

/-- What has been written down since an attempt began: its request, and nothing
that was sent or told. -/
structure Keeps (first : Connection) (request : Bytes) (journal : List Entry) : Prop where
  request : Journal.request journal = request
  transmissions : Journal.transmissions journal = first.transmissions
  callbacks : Journal.callbacks journal = first.callbacks

/-- An attempt is under way that expects this accept value, and this can be read. -/
inductive Attempting (first : Connection) (accept : String) (request : Bytes) (source : Source) :
    Connection -> Prop
  | intro {holder : Holder} {attempt : Attempt} {sink : Sink} {clock : Nat}
      {journal : List Entry} : holder.attempt? = some attempt -> attempt.source = source ->
      attempt.expectedAccept = accept -> first.Keeps request journal ->
      Attempting first accept request source (first.attempting (some holder) sink clock journal)

inductive Attempted (first : Connection) (accept : String) (request : Bytes) (source : Source) :
    Connection -> Prop
  | failed {error : Error} {sink : Sink} {clock : Nat} {journal : List Entry} :
      error.kind ≠ .protocol -> first.Keeps request journal ->
      Attempted first accept request source
        ({ first with sink := sink, clock := clock, journal := journal }.finish (some error))
  | opened {attempt : Attempt} {sink : Sink} {clock : Nat} {journal : List Entry}
      {lines protocols : List String} {rest : Source} :
      Handshake.readLines first.config.limits source = .done lines rest ->
      Handshake.Response.parse lines accept first.offered = .ok protocols ->
      first.Keeps request journal ->
      Attempted first accept request source
        ((first.attempting (some (.awaitingAnswer attempt)) sink clock journal).finishOpening
          attempt rest protocols)

section Attempting

variable {first connection : Connection} {accept : String} {request : Bytes} {source : Source}

theorem Keeps.report {journal : List Entry} (hkeeps : first.Keeps request journal)
    (debug : Bool) (diagnostic : Diagnostic) :
    first.Keeps request ((if debug then [.diagnostic diagnostic] else []) ++ journal) := by
  constructor
  · simpa using hkeeps.request
  · simpa using hkeeps.transmissions
  · simpa using hkeeps.callbacks

theorem Attempting.isFree (hattempting : Attempting first accept request source connection) :
    connection.isFree = false := by
  cases hattempting
  rfl

theorem Attempted.isFree (hfree : first.isFree = true)
    (hattempted : Attempted first accept request source connection) :
    connection.isFree = true := by
  cases hattempted with
  | failed _ _ => exact hfree
  | opened _ _ _ => rfl

theorem attempted_of_failOpening (hstate : first.core.state = .disconnected)
    (hholder : first.holder = none) {holder : Option Holder} {sink : Sink} {clock : Nat}
    {journal : List Entry} (hkeeps : first.Keeps request journal) {error : Error}
    (hkind : error.kind ≠ .protocol) :
    Attempted first accept request source
      ((first.attempting holder sink clock journal).failOpening error) := by
  have hsame : (first.attempting holder sink clock journal).failOpening error =
      { first with
        sink := sink, clock := clock
        journal := (if first.config.debug then [Entry.diagnostic (.attemptFailed error)] else [])
          ++ journal }.finish (some error) := by
    simp only [failOpening, attempting, ← hstate, ← hholder]
    rfl
  rw [hsame]
  exact .failed hkind (hkeeps.report _ _)

theorem attempt_requestStep (hstate : first.core.state = .disconnected)
    (hholder : first.holder = none) {attempt : Attempt} {writing : Writing} {sink : Sink}
    {clock : Nat} {journal : List Entry} (hsource : attempt.source = source)
    (haccept : attempt.expectedAccept = accept) (hkeeps : first.Keeps request journal)
    {next : Connection}
    (hstep : (first.attempting (some (.requesting attempt writing)) sink clock journal).requestStep?
      attempt writing = some next) :
    Attempting first accept request source next ∨ Attempted first accept request source next := by
  unfold requestStep? at hstep
  split at hstep
  case h_1 =>
      cases hstep
      exact Or.inl (.intro rfl hsource haccept hkeeps)
  case h_2 =>
      cases hstep
      exact Or.inl (.intro rfl hsource haccept hkeeps)
  case h_3 hwrite =>
      cases hstep
      refine Or.inr (attempted_of_failOpening hstate hholder hkeeps ?_)
      simp [Output.kind_of_step_failed hwrite]
  case h_4 => cases hstep

theorem attempt_readAnswer (hstate : first.core.state = .disconnected)
    (hholder : first.holder = none) {attempt : Attempt} {sink : Sink} {clock : Nat}
    {journal : List Entry} (hsource : attempt.source = source)
    (haccept : attempt.expectedAccept = accept) (hkeeps : first.Keeps request journal)
    {next : Connection}
    (hstep : (first.attempting (some (.awaitingAnswer attempt)) sink clock journal).readAnswer?
      attempt = some next) : Attempted first accept request source next := by
  subst hsource haccept
  unfold readAnswer? at hstep
  split at hstep
  case h_1 => cases hstep
  case h_2 => cases hstep
  case h_3 error rest hread =>
      cases hstep
      apply attempted_of_failOpening hstate hholder hkeeps
      rcases Handshake.kind_of_readLines hread with hkind | hkind <;> simp [hkind]
  case h_4 lines rest hread =>
      split at hstep
      case h_1 error hparse =>
          cases hstep
          apply attempted_of_failOpening hstate hholder hkeeps
          simp [Handshake.Response.kind_of_parse hparse]
      case h_2 protocols hparse =>
          cases hstep
          exact .opened hread hparse hkeeps

/-- While an attempt holds the lock, only the stream and the clock go on. -/
theorem Attempting.move_of_ne_hold (hreceiver : first.receiver = none)
    (hattempting : Attempting first accept request source connection) {next : Move}
    (hnext : next ≠ .hold) :
    Attempting first accept request (source.afterMove next) (connection.move next) := by
  rcases hattempting with ⟨hattempt, hsource, haccept, hkeeps⟩
  rename_i holder attempt sink clock journal
  have howned : (first.attempting (some holder) sink clock journal).isOwned = false := by
    simp [isOwned, attempting, Holder.isCaller_of_attempt? hattempt]
  cases next with
  | connect opening dial => exact .intro hattempt hsource haccept hkeeps
  | call call =>
      simp only [move]
      split
      case h_1 => exact .intro hattempt hsource haccept { hkeeps with }
      case h_2 => exact .intro hattempt hsource haccept hkeeps
  | hold => exact absurd rfl hnext
  | receive =>
      have hnone : (first.attempting (some holder) sink clock journal).receiver = none := hreceiver
      simp only [move, hnone, Option.bind_none, Option.getD_none]
      exact .intro hattempt hsource haccept hkeeps
  | supply chunks ending =>
      have hsupply : (first.attempting (some holder) sink clock journal).supply chunks ending =
          first.attempting (some (holder.arrive chunks ending)) sink clock journal := by
        simp [supply, attempting, hreceiver]
      simp only [move, hsupply]
      exact .intro (Holder.attempt?_arrive hattempt chunks ending) (by rw [hsource]; rfl) haccept
        hkeeps
  | pass milliseconds => exact .intro hattempt hsource haccept hkeeps
  | treatWrites policy flush => exact .intro hattempt hsource haccept hkeeps
  | setListener listener =>
      simp only [move, howned]
      exact .intro hattempt hsource haccept hkeeps
  | giveUp =>
      simp only [move, howned]
      exact .intro hattempt hsource haccept hkeeps

theorem Attempting.move (hstate : first.core.state = .disconnected)
    (hholder : first.holder = none) (hreceiver : first.receiver = none)
    (hattempting : Attempting first accept request source connection) (next : Move) :
    Attempting first accept request (source.afterMove next) (connection.move next) ∨
      Attempted first accept request (source.afterMove next) (connection.move next) := by
  by_cases hnext : next = .hold
  · subst hnext
    rcases hattempting with ⟨hattempt, hsource, haccept, hkeeps⟩
    rename_i holder attempt sink clock journal
    show Attempting first accept request source _ ∨ Attempted first accept request source _
    simp only [Connection.move]
    cases hstep : (first.attempting (some holder) sink clock journal).holder.bind
        (first.attempting (some holder) sink clock journal).holderStep? with
    | none => exact Or.inl (.intro hattempt hsource haccept hkeeps)
    | some next =>
        cases holder with
        | requesting attempt' writing =>
            cases hattempt
            exact attempt_requestStep hstate hholder hsource haccept hkeeps hstep
        | awaitingAnswer attempt' =>
            cases hattempt
            exact Or.inr (attempt_readAnswer hstate hholder hsource haccept hkeeps hstep)
        | _ => cases hattempt
  · exact Or.inl (hattempting.move_of_ne_hold hreceiver hnext)

theorem attempted_of_isReleasedBy (hfirst : first.core.state = .disconnected)
    (hholder : first.holder = none) (hreceiver : first.receiver = none)
    (hattempting : Attempting first accept request source connection) {moves : List Move}
    (hreleased : connection.isReleasedBy moves = true) :
    Attempted first accept request (source.afterMoves moves) (connection.play moves) := by
  induction moves generalizing connection source with
  | nil =>
      rw [isReleasedBy, hattempting.isFree] at hreleased
      cases hreleased
  | cons next rest ih =>
      have hrest := (Bool.and_eq_true_iff.mp hreleased).right
      rcases hattempting.move hfirst hholder hreceiver next with hstill | hover
      · exact ih hstill hrest
      · have hfree : first.isFree = true := by simp [Connection.isFree, hholder]
        rw [eq_nil_of_isReleasedBy (hover.isFree hfree) hrest]
        exact hover

end Attempting

/-!
## The start of an attempt
-/

def requestTo (connection : Connection) (opening : Opening) (endpoint : Endpoint) :
    Handshake.Request where
  target := endpoint.target
  host := endpoint.hostHeader
  key := Base64.encode opening.nonce
  protocols := connection.offered

theorem prepare_eq_ok {connection : Connection} {opening : Opening} {endpoint : Endpoint}
    {pair : Handshake.KeyPair} {request : Bytes}
    (hprepare : connection.prepare opening = .ok (endpoint, pair, request)) :
    Endpoint.parse opening.uri = .ok endpoint ∧
      (connection.requestTo opening endpoint).encode = .ok request ∧
      pair.expectedAccept = Handshake.acceptKey (Base64.encode opening.nonce) := by
  unfold prepare at hprepare
  cases hparse : Endpoint.parse opening.uri with
  | error error => simp [hparse, bind, Except.bind] at hprepare
  | ok parsed =>
      simp only [hparse, bind, Except.bind] at hprepare
      split at hprepare
      case h_1 => cases hprepare
      case h_2 octets hencode =>
          cases hprepare
          exact ⟨rfl, hencode, rfl⟩

theorem kind_of_prepare {connection : Connection} {opening : Opening} {error : Error}
    (hprepare : connection.prepare opening = .error error) : error.kind = .usage := by
  unfold prepare at hprepare
  rcases error_of_bind hprepare with hparse | ⟨endpoint, hrequest⟩
  · exact Endpoint.kind_of_parse hparse
  rcases error_of_bind hrequest with hencode | ⟨octets, hnothing⟩
  · exact Handshake.Request.kind_of_encode hencode
  · cases hnothing

theorem kind_of_openingFault? {state : ConnectionState} {error : Error}
    (hfault : openingFault? state = some error) : error.kind = .usage := by
  unfold openingFault? at hfault
  split at hfault <;> cases hfault <;> rfl

theorem kind_of_streamTo {opening : Opening} {dial : Dial} {endpoint : Endpoint} {error : Error}
    (hstream : opening.streamTo dial endpoint = .error error) : error.kind ≠ .protocol := by
  unfold Opening.streamTo at hstream
  split at hstream
  case h_1 => cases hstream
  case h_2 =>
      unfold Dial.openTo at hstream
      split at hstream
      · cases hstream
        simp [Error.kind]
      · cases dial <;> cases hstream <;> simp [Error.kind]

theorem startOpening_cases {connection : Connection} (hholder : connection.holder = none)
    (opening : Opening) (dial : Dial) :
    (exists error journal, error.kind ≠ .protocol ∧ connection.Keeps connection.request journal ∧
        connection.startOpening opening dial =
          { connection with journal := journal }.finish (some error)) ∨
      connection.core.state = .disconnected ∧
        exists duplex endpoint request,
          opening.streamTo dial endpoint = .ok duplex ∧
          Endpoint.parse opening.uri = .ok endpoint ∧
          (connection.requestTo opening endpoint).encode = .ok request ∧
          connection.Attempting (Handshake.acceptKey (Base64.encode opening.nonce)) request
            duplex.source (connection.startOpening opening dial) := by
  have hkeeps : connection.Keeps connection.request connection.journal := ⟨rfl, rfl, rfl⟩
  unfold startOpening
  split
  case h_1 error hfault =>
      refine Or.inl ⟨error, connection.journal, ?_, hkeeps, rfl⟩
      simp [kind_of_openingFault? hfault]
  case h_2 hfault =>
      have hstate := openingFault?_eq_none hfault
      split
      case h_1 error hprepare =>
          refine Or.inl ⟨error, connection.journal, ?_, hkeeps, rfl⟩
          simp [kind_of_prepare hprepare]
      case h_2 endpoint pair request hprepare =>
          rcases prepare_eq_ok hprepare with ⟨hparse, hencode, haccept⟩
          simp only
          split
          case h_1 error hstream =>
              left
              refine ⟨error, _, kind_of_streamTo hstream,
                (hkeeps.report connection.config.debug
                  (.connecting endpoint.host endpoint.port endpoint.secure)).report
                  connection.config.debug (.attemptFailed error), ?_⟩
              simp only [failOpening, ← hstate, ← hholder]
              rfl
          case h_2 duplex hstream =>
              refine Or.inr ⟨hstate, duplex, endpoint, request, hstream, hparse, hencode, ?_⟩
              have hbegun := hkeeps.report connection.config.debug
                (.connecting endpoint.host endpoint.port endpoint.secure)
              exact .intro rfl rfl haccept ⟨rfl, hbegun.transmissions, hbegun.callbacks⟩

/-!
## Unused connections
-/

/-- A connection that has not been used, with what its user has decided. -/
def unused (connection : Connection) : Connection :=
  { fresh connection.config connection.offered connection.listener with
    clock := connection.clock
    isDropped := connection.isDropped }

/-- Whatever happens, the connection does what an unused one does. -/
def ActsUnused (connection : Connection) : Prop :=
  forall moves, (connection.play moves).IsBeside
    ((connection.unused.play moves).since connection.journal)

theorem core_of_disconnected {connection : Connection} (hreachable : connection.Reachable)
    (hstate : connection.core.state = .disconnected) : connection.core = {} := by
  have hcomplete := complete_of_reachable hreachable
  have hunopened := Outline.unopened_of_disconnected (stage_of_reachable hreachable) hstate
  have hwriter : connection.core.writer = none := hunopened.writer
  have hlistener : connection.core.listener = none := hunopened.owed
  rcases hcomplete.early (Or.inl hstate) with ⟨hcontrol, hreceiver⟩
  have hcontrol' : connection.core.holdsControl = false := hcontrol
  have hreceiver' : connection.core.holdsReceiver = false := hreceiver
  have hstreaming : connection.core.streaming = false := by
    apply Bool.eq_false_iff.mpr
    intro htrue
    have hhas : connection.core.writer.isSome = true := hcomplete.streaming htrue
    simp [hwriter] at hhas
  cases hcore : connection.core
  simp_all

theorem eq_unused {connection : Connection} (hconnected : connection.isConnected = false)
    (hnegotiated : connection.negotiated = none) (hcore : connection.core = {})
    (hholder : connection.holder = none) (hreceiver : connection.receiver = none) :
    connection = (connection.unused.since connection.journal).beside connection.sink := by
  cases connection
  subst hconnected hnegotiated hcore hholder hreceiver
  rfl

theorem actsUnused_of_disconnected {connection : Connection} (hreachable : connection.Reachable)
    (hfree : connection.isFree = true) (hstate : connection.core.state = .disconnected) :
    connection.ActsUnused := by
  have hcomplete := complete_of_reachable hreachable
  have hunopened := Outline.unopened_of_disconnected (stage_of_reachable hreachable) hstate
  have hcore := core_of_disconnected hreachable hstate
  have hholder : connection.holder = none := holder_of_task (task_outline_of_isFree hfree)
  have hreceiver : connection.receiver = none := Option.map_eq_none_iff.mp hunopened.audience
  rcases hcomplete.nothing (Or.inl hstate) with ⟨hwriter, hnegotiated⟩
  have hconnected : connection.isConnected = false := hcomplete.isConnected.trans hwriter
  have hnegotiated' : connection.negotiated = none := by
    simpa [inventory] using hnegotiated
  intro moves
  rw [← play_since]
  apply IsBeside.play
  exact ⟨connection.sink, eq_unused hconnected hnegotiated' hcore hholder hreceiver,
    Or.inr ⟨rfl, rfl, rfl⟩⟩

/-!
## Any attempt
-/

/-- An attempt has left nothing behind but what it has written down and sent. -/
structure Untouched (before after : Connection) : Prop where
  same : after = { before with sink := after.sink, clock := after.clock, journal := after.journal }
  transmissions : after.transmissions = before.transmissions
  callbacks : after.callbacks = before.callbacks
  unused : before.core.state = .disconnected -> after.ActsUnused

/-- An attempt has succeeded.  Its request has reached the stream, and the head of
what arrived meanwhile has been accepted as the answer to its key. -/
structure Opens (before after : Connection) (opening : Opening) (dial : Dial)
    (moves : List Move) : Prop where
  handshake : exists duplex endpoint request lines rest protocols,
    opening.streamTo dial endpoint = .ok duplex ∧ Endpoint.parse opening.uri = .ok endpoint ∧
      (before.requestTo opening endpoint).encode = .ok request ∧ after.sink.content = request ∧
      Handshake.readLines before.config.limits (duplex.source.afterMoves moves) =
        .done lines rest ∧
      Handshake.Response.parse lines (Handshake.acceptKey (Base64.encode opening.nonce))
        before.offered = .ok protocols ∧
      after.negotiated = some protocols
  state : before.core.state = .disconnected ∧ after.core.state = .opened
  isConnected : after.isConnected = true
  callbacks : after.callbacks =
    before.callbacks ++ (before.listener.map fun id => (id, .connected)).toList

/-- What an attempt has done that comes back with this failure or with none. -/
def HasAttempted (before after : Connection) (opening : Opening) (dial : Dial)
    (moves : List Move) : Option Error -> Prop
  | none => before.Opens after opening dial moves
  | some error => error.kind ≠ .protocol ∧ before.Untouched after

/-- The holder of the lock waits for the stream: to take octets of the request or to pass
them on, or to bring more of the answer. -/
def AwaitsStream (connection : Connection) : Prop :=
  match connection.holder with
  | some (.requesting _ _) => connection.sink.isStalled = true
  | some (.awaitingAnswer attempt) =>
      Handshake.readLines connection.config.limits attempt.source = .waiting ∧
        attempt.source.ending = none
  | _ => False

section Outcome

variable {connection after : Connection} {opening : Opening} {dial : Dial} {request : Bytes}

theorem untouched_of_keeps (hfree : connection.isFree = true) {sink : Sink} {clock : Nat}
    {journal : List Entry} {error : Error} (hkeeps : connection.Keeps request journal)
    (hafter : after =
      { connection with sink := sink, clock := clock, journal := journal }.finish (some error))
    (hreachable : after.Reachable) : connection.Untouched after := by
  subst hafter
  refine ⟨rfl, hkeeps.transmissions, hkeeps.callbacks, ?_⟩
  exact actsUnused_of_disconnected hreachable hfree

theorem opens_of_finishOpening (hreachable : connection.Reachable)
    (hstate : connection.core.state = .disconnected) {duplex : Duplex} {endpoint : Endpoint}
    (hstream : opening.streamTo dial endpoint = .ok duplex)
    (hparse : Endpoint.parse opening.uri = .ok endpoint)
    (hencode : (connection.requestTo opening endpoint).encode = .ok request)
    {moves : List Move} {attempt : Attempt} {sink : Sink} {clock : Nat} {journal : List Entry}
    {lines protocols : List String} {rest : Source}
    (hread : Handshake.readLines connection.config.limits (duplex.source.afterMoves moves) =
      .done lines rest)
    (haccepted : Handshake.Response.parse lines
      (Handshake.acceptKey (Base64.encode opening.nonce)) connection.offered = .ok protocols)
    (hkeeps : connection.Keeps request journal)
    (hafter : after = (connection.attempting (some (.awaitingAnswer attempt)) sink clock
      journal).finishOpening attempt rest protocols) (hreachable' : after.Reachable) :
    connection.Opens after opening dial moves := by
  have hunopened := Outline.unopened_of_disconnected (stage_of_reachable hreachable) hstate
  have hnone : connection.negotiated = none := by
    have hnothing := ((complete_of_reachable hreachable).nothing (Or.inl hstate)).right
    simpa [inventory] using hnothing
  have houtline := outline_finishOpening
    (connection.attempting (some (.awaitingAnswer attempt)) sink clock journal) attempt rest
    protocols
  rw [← hafter] at houtline
  have hopened : after.outline.state = .opened := by rw [houtline]
  have htask : after.outline.task = .free := by rw [houtline]
  have hwritten : after.sink.content = request := by
    have hwired := (wire_invariant hreachable').right
    have hunsent := hwired.flushed (Or.inl htask) (by simp [hopened])
    have hcontent := hwired.content_eq_due (by simp [hopened]) (by simp [hopened]) hunsent
    have hrequest : after.outline.request = request := by
      rw [houtline]
      exact hkeeps.request
    have htransmissions : after.outline.transmissions = [] := by
      rw [houtline]
      exact hkeeps.transmissions.trans hunopened.transmissions
    have hdue : after.outline.due = request := by
      simp [Outline.due, hrequest, htransmissions, Transmission.octetsOf]
    exact hcontent.trans hdue
  have hnegotiated : after.negotiated = some protocols := by
    rw [hafter]
    show (connection.negotiated <|> some protocols) = some protocols
    rw [hnone]
    rfl
  constructor
  case handshake =>
      exact ⟨duplex, endpoint, request, lines, rest, protocols, hstream, hparse, hencode, hwritten,
        hread, haccepted, hnegotiated⟩
  case state => exact And.intro hstate hopened
  case isConnected =>
      rw [hafter]
      rfl
  case callbacks =>
      show after.outline.callbacks = _
      rw [houtline]
      exact congrArg (· ++ _) hkeeps.callbacks

/-- An opening handshake that starts now comes back with the last of these moves. -/
def hasConcluded (connection : Connection) (opening : Opening) (dial : Dial)
    (moves : List Move) : Bool :=
  connection.isFree && (connection.move (.connect opening dial)).isReleasedBy moves

theorem move_connect (hfree : connection.isFree = true) (opening : Opening) (dial : Dial) :
    connection.move (.connect opening dial) =
      connection.startOpening opening.afresh dial.afresh := by
  simp [move, hfree]

theorem hasAttempted_of_hasConcluded (hreachable : connection.Reachable) {moves : List Move}
    (hconcluded : connection.hasConcluded opening dial moves = true) :
    exists failure older,
      (connection.play (.connect opening dial :: moves)).journal = .returned failure :: older ∧
        connection.HasAttempted (connection.play (.connect opening dial :: moves)) opening dial moves
          failure := by
  rcases Bool.and_eq_true_iff.mp hconcluded with ⟨hfree, hreleased⟩
  have hholder : connection.holder = none := holder_of_task (task_outline_of_isFree hfree)
  have hafter := hreachable.play (.connect opening dial :: moves)
  rw [play_cons, move_connect hfree] at *
  rcases startOpening_cases hholder opening.afresh dial.afresh with
    ⟨error, journal, hkind, hkeeps, hrefused⟩ |
      ⟨hstate, duplex, endpoint, request, hstream, hparse, hencode, hattempting⟩
  · have hfree' : (connection.startOpening opening.afresh dial.afresh).isFree = true := by
      rw [hrefused]
      exact hfree
    have hnil := eq_nil_of_isReleasedBy hfree' hreleased
    subst hnil
    refine ⟨some error, journal, by rw [play_nil, hrefused]; rfl, hkind, ?_⟩
    exact untouched_of_keeps hfree hkeeps hrefused hafter
  · have hunopened := Outline.unopened_of_disconnected (stage_of_reachable hreachable) hstate
    have hreceiver : connection.receiver = none := Option.map_eq_none_iff.mp hunopened.audience
    have hattempted := attempted_of_isReleasedBy hstate hholder hreceiver hattempting hreleased
    generalize (connection.startOpening opening.afresh dial.afresh).play moves = after
      at hattempted hafter ⊢
    cases hattempted with
    | @failed error sink clock journal hkind hkeeps =>
        exact ⟨some error, journal, rfl, hkind, untouched_of_keeps hfree hkeeps rfl hafter⟩
    | opened hread haccepted hkeeps =>
        rw [Opening.streamTo_afresh] at hstream
        cases hgiven : opening.streamTo dial endpoint with
        | error error => simp [hgiven, Except.map] at hstream
        | ok given =>
            rw [hgiven] at hstream
            cases hstream
            exact ⟨none, _, rfl, opens_of_finishOpening hreachable hstate hgiven hparse hencode
              hread haccepted hkeeps rfl hafter⟩

end Outcome

/-!
## The end of an attempt
-/

def patience (connection : Connection) : Nat :=
  match connection.holder with
  | some (.requesting attempt writing) => attempt.writer.output.work writing + 1
  | some (.awaitingAnswer _) => 1
  | _ => 0

section Patience

variable {first connection : Connection} {accept : String} {request : Bytes} {source : Source}

theorem hold_of_requesting {attempt : Attempt} {writing : Writing}
    (hholder : connection.holder = some (.requesting attempt writing)) :
    connection.AwaitsStream ∨ (connection.move .hold).isFree = true ∨
      (connection.move .hold).patience < connection.patience := by
  have hpatience : connection.patience = attempt.writer.output.work writing + 1 := by
    simp [patience, hholder]
  have hmove : connection.move .hold =
      (connection.requestStep? attempt writing).getD connection := by
    simp [move, hholder, holderStep?]
  cases hwrite : attempt.writer.output.step connection.sink writing with
  | more output sink writing' =>
      simp only [hmove, hpatience, requestStep?, hwrite, Option.getD_some]
      have hless := Output.work_of_handOver_more (Output.step_eq_more.mp hwrite)
      exact Or.inr (Or.inr (Nat.succ_lt_succ hless))
  | done output sink =>
      simp only [hmove, hpatience, requestStep?, hwrite, Option.getD_some]
      exact Or.inr (Or.inr (Nat.succ_lt_succ (Nat.succ_pos _)))
  | failed error output sink =>
      simp only [hmove, requestStep?, hwrite, Option.getD_some]
      exact Or.inr (Or.inl rfl)
  | waiting =>
      left
      simp only [AwaitsStream, hholder]
      exact Output.isStalled_of_step_waiting hwrite

theorem hold_of_awaitingAnswer {attempt : Attempt}
    (hholder : connection.holder = some (.awaitingAnswer attempt)) :
    connection.AwaitsStream ∨ (connection.move .hold).isFree = true := by
  have hmove : connection.move .hold = (connection.readAnswer? attempt).getD connection := by
    simp [move, hholder, holderStep?]
  have hwaits (hdone : forall lines rest,
        Handshake.readLines connection.config.limits attempt.source ≠ .done lines rest)
      (hfailed : forall error rest,
        Handshake.readLines connection.config.limits attempt.source ≠ .failed error rest) :
      connection.AwaitsStream := by
    simp only [AwaitsStream, hholder]
    exact Handshake.ending_of_readLines hdone hfailed
  cases hread : Handshake.readLines connection.config.limits attempt.source with
  | done lines rest =>
      right
      simp only [hmove, readAnswer?, hread]
      cases Handshake.Response.parse lines attempt.expectedAccept connection.offered <;> rfl
  | failed error rest =>
      right
      simp only [hmove, readAnswer?, hread]
      rfl
  | ended rest => exact Or.inl (hwaits (by simp [hread]) (by simp [hread]))
  | waiting => exact Or.inl (hwaits (by simp [hread]) (by simp [hread]))

theorem Attempting.hold (hattempting : Attempting first accept request source connection) :
    connection.AwaitsStream ∨ (connection.move .hold).isFree = true ∨
      (connection.move .hold).patience < connection.patience := by
  rcases hattempting with ⟨hattempt, -, -, -⟩
  rename_i holder attempt sink clock journal
  cases holder with
  | requesting attempt' writing => exact hold_of_requesting rfl
  | awaitingAnswer attempt' => exact (hold_of_awaitingAnswer rfl).imp_right Or.inl
  | _ => cases hattempt

/-- If nothing else happens, an attempt comes back or has to wait for the stream. -/
theorem released_or_awaits (hstate : first.core.state = .disconnected)
    (hholder : first.holder = none) (hreceiver : first.receiver = none)
    (hattempting : Attempting first accept request source connection) : exists count,
      connection.isReleasedBy (List.replicate count .hold) = true ∨
        (connection.play (List.replicate count .hold)).AwaitsStream := by
  induction hbound : connection.patience using Nat.strongRecOn generalizing connection with
  | ind bound ih =>
      have hbusy := hattempting.isFree
      have hover (hfree : (connection.move .hold).isFree = true) :
          connection.isReleasedBy (List.replicate 1 .hold) = true := by
        simp [isReleasedBy, hbusy, hfree]
      rcases hattempting.hold with hwaits | hfree | hless
      · exact ⟨0, Or.inr hwaits⟩
      · exact ⟨1, Or.inl (hover hfree)⟩
      · rcases hattempting.move hstate hholder hreceiver .hold with hstill | hattempted
        · rcases ih _ (hbound ▸ hless) hstill rfl with ⟨count, hreleased | hwaits⟩
          · exact ⟨count + 1, Or.inl (by
              simp [List.replicate_succ, isReleasedBy, hbusy, hreleased])⟩
          · exact ⟨count + 1, Or.inr hwaits⟩
        · have hfree : first.isFree = true := by simp [Connection.isFree, hholder]
          exact ⟨1, Or.inl (hover (hattempted.isFree hfree))⟩

theorem released_or_attempting (hstate : first.core.state = .disconnected)
    (hholder : first.holder = none) (hreceiver : first.receiver = none)
    (hattempting : Attempting first accept request source connection) (moves : List Move) :
    (exists front, front <+: moves ∧ connection.isReleasedBy front = true) ∨
      (exists source', Attempting first accept request source' (connection.play moves)) ∧
        forall more, (connection.play moves).isReleasedBy more = true ->
          connection.isReleasedBy (moves ++ more) = true := by
  induction moves generalizing connection source with
  | nil => exact Or.inr (And.intro ⟨source, hattempting⟩ fun _ hreleased => hreleased)
  | cons next rest ih =>
      have hbusy := hattempting.isFree
      rcases hattempting.move hstate hholder hreceiver next with hstill | hattempted
      · rcases ih hstill with ⟨front, hfront, hreleased⟩ | ⟨hlater, hmore⟩
        · left
          refine ⟨next :: front, List.prefix_cons_inj next |>.mpr hfront, ?_⟩
          simp [isReleasedBy, hbusy, hreleased]
        · right
          refine And.intro hlater ?_
          intro more hreleased
          simp [isReleasedBy, hbusy, hmore more hreleased]
      · left
        have hfree := hattempted.isFree (by simp [Connection.isFree, hholder])
        refine ⟨[next], by simp, ?_⟩
        simp [isReleasedBy, hbusy, hfree]

theorem concludes_or_awaits (hreachable : connection.Reachable)
    (hfree : connection.isFree = true) (opening : Opening) (dial : Dial) (moves : List Move) :
    exists count, (exists front, front <+: moves ++ List.replicate count .hold ∧
        connection.hasConcluded opening dial front = true) ∨
      (connection.play
        (.connect opening dial :: (moves ++ List.replicate count .hold))).AwaitsStream := by
  have hholder : connection.holder = none := holder_of_task (task_outline_of_isFree hfree)
  simp only [hasConcluded, hfree, Bool.true_and, play_cons, move_connect hfree]
  rcases startOpening_cases hholder opening.afresh dial.afresh with
    ⟨error, journal, hkind, hkeeps, hrefused⟩ |
      ⟨hstate, duplex, endpoint, request, hstream, hparse, hencode, hattempting⟩
  · refine ⟨0, Or.inl ⟨[], List.nil_prefix, ?_⟩⟩
    rw [hrefused]
    exact hfree
  · have hunopened := Outline.unopened_of_disconnected (stage_of_reachable hreachable) hstate
    have hreceiver : connection.receiver = none := Option.map_eq_none_iff.mp hunopened.audience
    rcases released_or_attempting hstate hholder hreceiver hattempting moves with
      ⟨front, hfront, hreleased⟩ | ⟨⟨source', hlater⟩, hmore⟩
    · exact ⟨0, Or.inl ⟨front, hfront.trans (List.prefix_append _ _), hreleased⟩⟩
    · rcases released_or_awaits hstate hholder hreceiver hlater with ⟨count, hreleased | hwaits⟩
      · exact ⟨count, Or.inl ⟨_, List.prefix_refl _, hmore _ hreleased⟩⟩
      · exact ⟨count, Or.inr (by rwa [play_append])⟩

end Patience

/-- An opening handshake comes back unless it has to wait for the stream.  Either
its whole request has been sent and the answer accepted, or it has failed, not for
want of good frames, and the connection is what it was.  A connection that could
be opened before can then be opened like an unused one. -/
theorem outcome_of_connect {connection : Connection} (hreachable : connection.Reachable)
    (hfree : connection.isFree = true) (opening : Opening) (dial : Dial) (moves : List Move) :
    (connection.hasConcluded opening dial moves = true -> exists failure older,
      (connection.play (.connect opening dial :: moves)).journal = .returned failure :: older ∧
        connection.HasAttempted (connection.play (.connect opening dial :: moves)) opening dial moves
          failure) ∧
      exists count,
        (exists front, front <+: moves ++ List.replicate count .hold ∧
          connection.hasConcluded opening dial front = true) ∨
        (connection.play
          (.connect opening dial :: (moves ++ List.replicate count .hold))).AwaitsStream :=
  And.intro (hasAttempted_of_hasConcluded hreachable)
    (concludes_or_awaits hreachable hfree opening dial moves)

def refusedOpening : Opening :=
  { sampleOpening with
    stream := some ⟨⟨[Utf8.encode "HTTP/1.1 404 Not Found\r\n\r\n"], none⟩, {}⟩ }

/-- After an attempt that is refused, another one succeeds. -/
theorem outcome_of_refused_connect :
    let first := fresh { debug := false } [] (some 0)
    let after := first.play (.connect refusedOpening .unknownHost :: List.replicate 4 .hold)
    first.hasConcluded refusedOpening .unknownHost (List.replicate 4 .hold) = true ∧
      first.Untouched after ∧ (after.play sampleMoves).IsBeside (sample.since after.journal) := by
  intro first after
  have hreachable : first.Reachable := ⟨_, _, _, [], rfl⟩
  have hconcluded :
      first.hasConcluded refusedOpening .unknownHost (List.replicate 4 .hold) = true := by
    decide +kernel
  have hstate : after.core.state = .disconnected := by decide +kernel
  rcases (outcome_of_connect hreachable rfl refusedOpening .unknownHost
    (List.replicate 4 .hold)).left hconcluded with ⟨failure, older, hjournal, hattempted⟩
  cases failure with
  | none =>
      have hopened : after.core.state = .opened := hattempted.state.right
      simp [hstate] at hopened
  | some error =>
      refine ⟨hconcluded, hattempted.right, ?_⟩
      have hunused := hattempted.right.unused rfl sampleMoves
      have hsame : after.unused = first := by decide +kernel
      rw [hsame, play_sampleMoves] at hunused
      exact hunused

end Connection

end WebSocketClient
