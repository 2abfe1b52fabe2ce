import Mathlib.Data.List.Induction
import Mathlib.Data.List.Infix
import WebSocketClient.Proofs.Conversations
import WebSocketClient.Proofs.EchoServer
import WebSocketClient.Proofs.Echoes

/-!
# Echoes of calls

A connection talks to a server that writes everything back.  As long as no call fails, the
listener is told of every call once, in the order of the calls.
-/

namespace WebSocketClient

namespace Connection

/-!
## Calls and their echoes
-/

/-- An open connection on which nothing is under way: no call, no message in either
direction, and nothing that has arrived. -/
structure IsReady (first : Connection) (start : Receiver) : Prop where
  reachable : first.Reachable
  free : first.isFree = true
  kept : first.isDropped = false
  connected : first.isConnected = true
  opened : first.core.state = .opened
  streaming : first.core.streaming = false
  receiver : first.receiver = some start
  phase : start.phase = .checking ∨ start.phase = .reading ∨ start.phase = .parked
  assembly : start.assembly = {}
  bytes : start.source.bytes = []
  ending : start.source.ending = none

def sentSince (first connection : Connection) : Bytes :=
  connection.sink.content.drop first.sink.content.length

/-- The calls that are made in these moves succeed, the connection is not given up, and
what arrives is what the server writes back: at every time a front of the octets that it
has written until then. -/
structure IsEchoedBy (first : Connection) (server : EchoServer) (moves : List Move) : Prop where
  kind : forall move, move ∈ moves -> move.isKind = true
  succeeds : first.callsSucceed moves = true
  returned : (first.play moves).returns = first.returns + (first.made moves).length
  behind : forall early, early <+: moves -> (Source.arrivals early).bytes <+:
    (server.echo? (first.sentSince (first.play early))).getD []
  ending : (Source.arrivals moves).ending = none

section Echoes

variable {first : Connection} {start : Receiver} {server : EchoServer} {early moves : List Move}

theorem mask_of_mem_speak {keys : MaskKeys} {streaming : Bool} {calls : List Call}
    {transmission : Transmission} (hmem : transmission ∈ Call.speak keys streaming calls) :
    transmission.mask.isSome = true := by
  induction calls generalizing keys streaming with
  | nil => cases hmem
  | cons call rest ih =>
      unfold Call.speak at hmem
      split at hmem
      case h_1 => exact ih hmem
      case h_2 =>
          split at hmem
          case h_1 => exact ih hmem
          case h_2 =>
              rcases List.mem_cons.mp hmem with rfl | hmem
              · rfl
              · exact ih hmem

theorem IsReady.listens (hready : first.IsReady start) : first.Listens start.unaware first := by
  have hholder : first.holder = none := by simpa [Connection.isFree] using hready.free
  refine ⟨rfl, by simp [isUp, hready.opened], by simp [hholder], ?_⟩
  rw [hready.receiver]
  rfl

/-- The octets on the wire since then are a front of those of the frames of the calls. -/
theorem IsReady.sent (hready : first.IsReady start) : exists keys, forall moves,
    (first.play moves).core.state = .opened ->
    (forall holder, (first.play moves).holder = some holder ->
      exists frame writing, holder = .sending frame writing) ->
    let since := Call.speak keys false (first.made moves)
    (first.play moves).transmissions = first.transmissions ++ since ∧
      first.sentSince (first.play moves) ++ (first.play moves).outline.unsent =
        Transmission.octetsOf since := by
  have hreceiver : first.receiver.isSome = true := by rw [hready.receiver]; rfl
  rcases spoken_of_play hready.reachable hready.free hreceiver with ⟨keys, hspoken⟩
  refine ⟨keys, fun moves hopened hbusy => ?_⟩
  intro since
  have hreachable := hready.reachable.play moves
  have hfirst : first.outline.state ≠ .closed ∧ first.outline.state ≠ .disconnected := by
    show first.core.state ≠ .closed ∧ first.core.state ≠ .disconnected
    simp [hready.opened]
  have hlast : (first.play moves).outline.state ≠ .closed ∧
      (first.play moves).outline.state ≠ .disconnected := by
    show (first.play moves).core.state ≠ .closed ∧ (first.play moves).core.state ≠ .disconnected
    simp [hopened]
  have htransmissions : (first.play moves).transmissions = first.transmissions ++ since := by
    rw [← spoken_eq_transmissions hreachable hopened hbusy, hspoken moves hopened,
      spoken_eq_transmissions hready.reachable hready.opened hready.listens.busy, hready.streaming]
  refine And.intro htransmissions ?_
  have hgrows := grows_play hready.reachable hreceiver moves
  rcases hgrows.content with ⟨sent, hsent⟩
  have hsince : first.sentSince (first.play moves) = sent := by
    show (first.play moves).outline.sink.content.drop first.outline.sink.content.length = sent
    rw [← hsent, List.drop_left]
  have hwired := (wire_invariant hready.reachable).right
  have hunsent := hwired.flushed (Or.inl (task_outline_of_isFree hready.free)) hfirst.left
  have hbefore := hwired.content_eq_due hfirst.left hfirst.right hunsent
  have hafter := (wire_invariant hreachable).right.whole hlast.left hlast.right
  have hdue : (first.play moves).outline.due =
      first.outline.due ++ Transmission.octetsOf since := by
    have hsame : (first.play moves).outline.transmissions = first.outline.transmissions ++ since :=
      htransmissions
    rw [Outline.due, Outline.due, hgrows.request, hsame, Transmission.octetsOf_append,
      List.append_assoc]
  rw [hdue, ← hbefore, ← hsent, List.append_assoc] at hafter
  rw [hsince]
  exact List.append_cancel_left hafter

theorem IsReady.flags (hready : first.IsReady start) :
    start.stop = false ∧ start.aborted = false := by
  rcases flags_of_isConnected hready.reachable hready.free hready.kept hready.connected
    hready.receiver with ⟨_, hflags⟩ | ⟨_, hflags⟩ <;>
    exact And.intro (congrArg Flags.stop hflags) (congrArg Flags.aborted hflags)

/-- What comes back of calls is what the listener will be told of. -/
theorem IsReady.foretold (hready : first.IsReady start) {limits' : Limits} {calls : List Call}
    {frames : List Frame} {written : Bytes} (hsaid : Call.Said false calls frames)
    (hcalls : Call.AreEchoable first.config.limits limits' calls)
    (hstream : Frame.Stream false frames written) :
    (start.unaware.withSource ⟨[written], none⟩).foretold first.config.limits =
      Call.echoes false calls := by
  let whole : Source := ⟨[written], none⟩
  rcases hready.flags with ⟨hstop, haborted⟩
  have hmeans : (Assembly.inside none).Means frames (Call.echoes false calls) :=
    hsaid.means rfl hcalls.kinds hcalls.stays
  have hkeeps := hsaid.keeps fun call hcall => (hcalls.fits call hcall).left
  have hbytes : whole.bytes = written := List.flatten_singleton
  have hchecking : ({ start.unaware.withSource whole with phase := .checking }).foretold
      first.config.limits = Call.echoes false calls :=
    Receiver.foretold_of_means hmeans hready.assembly hstream hkeeps rfl hstop haborted hbytes rfl
  have hreading (hphase : (start.unaware.withSource whole).phase = .reading) :
      (start.unaware.withSource whole).foretold first.config.limits = Call.echoes false calls :=
    (Receiver.foretold_of_reading hphase hstop).trans hchecking
  rcases hready.phase with hphase | hphase | hphase
  · have hsame : start.unaware.withSource whole =
        { start.unaware.withSource whole with phase := .checking } := by
      simp [Receiver.withSource, Receiver.unaware, hphase, ReceiverPhase.unaware]
    rw [hsame]
    exact hchecking
  · exact hreading (by simp [Receiver.withSource, Receiver.unaware, hphase, ReceiverPhase.unaware])
  · exact hreading (by simp [Receiver.withSource, Receiver.unaware, hphase, ReceiverPhase.unaware])

theorem IsReady.converses (hready : first.IsReady start) {limits' : Limits} {calls : List Call}
    {frames : List Frame} {written : Bytes} (hsaid : Call.Said false calls frames)
    (hcalls : Call.AreEchoable first.config.limits limits' calls)
    (hstream : Frame.Stream false frames written) :
    first.Converses start.listener written
      (first.callbacks ++ toldTo start.listener (Call.echoes false calls)) first := by
  rcases hready.flags with ⟨hstop, haborted⟩
  have hloop : start.holdsStream = true := by
    rcases hready.phase with hphase | hphase | hphase <;> simp [Receiver.holdsStream, hphase]
  have hforetells : start.unaware.Foretells first.config.limits start.listener written none
      (Call.echoes false calls) := by
    constructor
    case calm =>
        rw [Receiver.unaware_of_holdsStream hloop]
        exact ⟨haborted, hasReadAll_of_reachable hready.reachable start hready.receiver⟩
    case stop => exact hstop
    case listener => rfl
    case course => exact Or.inl (start.holdsStream_unaware.trans hloop)
    case yet =>
        refine ⟨⟨[written], none⟩, ⟨?_, ?_, Or.inl hready.ending⟩,
          hready.foretold hsaid hcalls hstream⟩
        · show [written].flatten = start.source.bytes ++ written
          rw [hready.bytes, List.flatten_singleton, List.nil_append]
        · show none = (start.source.ending <|> none)
          rw [hready.ending]
          rfl
  exact ⟨hready.opened, start.unaware, _, hready.listens, hforetells,
    Call.closed_not_mem_echoes hcalls.stays, rfl⟩

/-- What the server writes back while the connection is open comes of the first calls that
were accepted, and when all their octets are on the wire, of all of them. -/
structure HasWritten (first : Connection) (start : Receiver) (server : EchoServer)
    (moves : List Move) (written : Bytes) (accepted heard : List Call) : Prop where
  echo : server.echo? (first.sentSince (first.play moves)) = some written
  sublist : accepted.Sublist (first.made moves)
  transmissions : (first.play moves).transmissions.length =
    first.transmissions.length + accepted.length
  whole : (first.play moves).outline.unsent = [] -> heard = accepted
  converses : first.Converses start.listener written
    (first.callbacks ++ toldTo start.listener (Call.echoes false heard)) first

theorem Converses.hasWritten (hready : first.IsReady start)
    (hcalls : Call.AreEchoable first.config.limits server.limits (first.made moves))
    {listener : Option ListenerId} {more : Bytes} {told : List (ListenerId × Event)}
    (hconverses : first.Converses listener more told (first.play moves)) :
    exists written accepted heard,
      first.HasWritten start server moves written accepted heard := by
  rcases hconverses.heeds with ⟨receiver, yet, hlistens, _⟩
  rcases hready.sent with ⟨keys, hsent⟩
  rcases hsent moves hconverses.opened hlistens.busy with ⟨htransmissions, hoctets⟩
  rcases Call.exists_said keys false (first.made moves) with ⟨accepted, hsaid, hsublist, hkinds⟩
  have haccepted : Call.AreEchoable first.config.limits server.limits accepted :=
    ⟨hkinds none rfl hcalls.kinds, fun call hmem => hcalls.fits call (hsublist.mem hmem),
      fun call hmem => hcalls.stays call (hsublist.mem hmem)⟩
  have hkeeps := hsaid.keeps fun call hcall => (haccepted.fits call hcall).right
  have hstream : Frame.Stream true
      ((Call.speak keys false (first.made moves)).map Transmission.frame)
      (Transmission.octetsOf (Call.speak keys false (first.made moves))) :=
    Transmission.stream_octetsOf (fun _ hmem => mask_of_mem_speak hmem) fun transmission hmem =>
      Nat.lt_trans (hkeeps _ (List.mem_map_of_mem hmem)).small (by decide)
  rcases server.exists_echo hstream hkeeps ⟨_, hoctets⟩ with
    ⟨front, written, hfront, hwhole, hwritten, hecho⟩
  rcases hsaid.exists_front hfront with ⟨heard, hheard, hsaid'⟩
  refine ⟨written, accepted, heard, hecho, hsublist, ?_, ?_,
    hready.converses hsaid' (haccepted.front hheard) hwritten⟩
  · rw [htransmissions, List.length_append, hsaid.length_eq, List.length_map]
  · intro hunsent
    rw [hunsent, List.append_nil] at hoctets
    apply hheard.eq_of_length
    rw [hsaid'.length_eq, hsaid.length_eq, hwhole hoctets]

theorem made_append (connection : Connection) (early late : List Move) :
    connection.made (early ++ late) = connection.made early ++ (connection.play early).made late := by
  induction early generalizing connection with
  | nil => rfl
  | cons next early ih =>
      rw [List.cons_append, made, made, ih, List.append_assoc]
      rfl

theorem callsSucceed_append {connection : Connection} {late : List Move}
    (hsucceeds : connection.callsSucceed (early ++ late) = true) :
    connection.callsSucceed early = true := by
  induction early generalizing connection with
  | nil => rfl
  | cons next early ih =>
      rcases callsSucceed_cons.mp hsucceeds with ⟨hnext, hrest⟩
      exact callsSucceed_cons.mpr (And.intro hnext (ih hrest))

theorem IsEchoedBy.arrived (hechoed : first.IsEchoedBy server moves) {next : Move}
    (hearly : early ++ [next] <+: moves) :
    (Source.arrivals (early ++ [next])).bytes <+:
      (server.echo? (first.sentSince (first.play early))).getD [] := by
  have hbefore := hechoed.behind early ((List.prefix_append early [next]).trans hearly)
  have hafter := hechoed.behind (early ++ [next]) hearly
  have harrivals : Source.arrivals (early ++ [next]) = (Source.arrivals early).afterMove next :=
    List.foldl_append
  rw [play_concat] at hafter
  rw [harrivals] at hafter ⊢
  -- What arrives does not change what was sent before.
  cases next with
  | supply chunks ending => exact hafter
  | _ => exact hbefore

theorem ending_of_front (hending : (Source.arrivals moves).ending = none)
    (hearly : early <+: moves) : (Source.arrivals early).ending = none := by
  rcases hearly with ⟨late, rfl⟩
  have hlater := ((Source.arrivals early).afterMoves_eq late).right
  have hsame : Source.arrivals (early ++ late) = (Source.arrivals early).afterMoves late :=
    List.foldl_append
  rw [hsame, hlater] at hending
  cases hearly : (Source.arrivals early).ending with
  | none => rfl
  | some known => simp [hearly] at hending

theorem IsEchoedBy.converses (hready : first.IsReady start)
    (hechoed : first.IsEchoedBy server moves)
    (hcalls : Call.AreEchoable first.config.limits server.limits (first.made moves))
    (hearly : early <+: moves) :
    exists more told, first.Converses start.listener more told (first.play early) := by
  induction early using List.reverseRecOn with
  | nil =>
      exact ⟨[], _, hready.converses .nil (hcalls.front List.nil_prefix) .nil⟩
  | append_singleton early next ih =>
      have hshorter : early <+: moves := (List.prefix_append early [next]).trans hearly
      have hsplit {front : List Move} (hfront : front <+: moves) :
          first.made front <+: first.made moves ∧ first.callsSucceed front = true ∧
            forall move, move ∈ front -> move.isKind = true := by
        rcases hfront with ⟨late, rfl⟩
        refine ⟨?_, callsSucceed_append hechoed.succeeds,
          fun move hmem => hechoed.kind move (List.mem_append_left late hmem)⟩
        rw [made_append]
        exact List.prefix_append _ _
      rcases ih hshorter with ⟨more, told, hconverses⟩
      rcases hconverses.hasWritten hready (hcalls.front (hsplit hshorter).left) with
        ⟨written, accepted, heard, hwritten⟩
      have harrived := hechoed.arrived hearly
      rw [hwritten.echo, Option.getD_some] at harrived
      rcases harrived with ⟨rest, hrest⟩
      have hstart := hwritten.converses
      rw [← hrest] at hstart
      rcases hsplit hearly with ⟨hmade, hsucceeds, hkind⟩
      exact ⟨rest, _, hstart.play (ending_of_front hechoed.ending hearly) hkind hsucceeds
        (hcalls.front hmade).stays⟩

/-- When as many calls have come back without an error as were made, none is under way and
all were accepted. -/
theorem HasWritten.all (hready : first.IsReady start) {written : Bytes}
    {accepted heard : List Call} {receiver : Receiver}
    (hwritten : first.HasWritten start server moves written accepted heard)
    (hopened : (first.play moves).core.state = .opened)
    (hlistens : first.Listens receiver (first.play moves))
    (hreturned : (first.play moves).returns = first.returns + (first.made moves).length) :
    (first.play moves).isFree = true ∧ heard = first.made moves := by
  have hopen : first.outline.state ≠ .closed ∧ (first.play moves).outline.state ≠ .closed := by
    show first.core.state ≠ .closed ∧ (first.play moves).core.state ≠ .closed
    simp [hready.opened, hopened]
  have hreceiver : (first.play moves).receiver.isSome = true := by
    rw [← Option.isSome_map (f := Receiver.unaware), hlistens.receiver]
    rfl
  rcases wire_invariant hready.reachable with ⟨hlined, _⟩
  rcases wire_invariant (hready.reachable.play moves) with ⟨hlined', hwired'⟩
  have hbefore : first.returns = first.transmissions.length + 1 := by
    have hsettled := hlined.between (task_outline_of_isFree hready.free) hopen.left
    have hreturns := hlined.returns (by simp [outline, hready.receiver])
    rw [← hsettled] at hreturns
    exact hreturns
  have hafter : (first.play moves).returns = (first.play moves).settled.length + 1 :=
    hlined'.returns (by simpa [outline] using hreceiver)
  have hfewer := hwritten.sublist.length_le
  have hlength := hwritten.transmissions
  cases hholder : (first.play moves).holder with
  | some holder =>
      rcases hlistens.busy holder hholder with ⟨frame, writing, rfl⟩
      have htask : (first.play moves).outline.task = .sending frame.streamingAfter :=
        task_of_holder hholder
      rcases hlined'.during (Or.inl ⟨_, htask⟩) with ⟨last, hlast⟩
      have hmore : (first.play moves).transmissions.length =
          (first.play moves).settled.length + 1 := by
        rw [show (first.play moves).transmissions = (first.play moves).settled ++ [last] from hlast,
          List.length_append, List.length_singleton]
      omega
  | none =>
      have hfree : (first.play moves).isFree = true := by simp [Connection.isFree, hholder]
      have htask := task_outline_of_isFree hfree
      have hsettled : (first.play moves).transmissions = (first.play moves).settled :=
        hlined'.between htask hopen.right
      rw [hsettled] at hlength
      refine And.intro hfree ?_
      rw [hwritten.whole (hwired'.flushed (Or.inl htask) hopen.right)]
      exact hwritten.sublist.eq_of_length (by omega)

/-- A server that writes back what it reads is heard once for every call, in the order of
the calls: a send is heard as its message, a chunk as the same chunk, unless it is a whole
sequence, which is heard as a message, and a ping or pong with the same payload.  The server
reads all frames, nothing else is heard before, and when the rest of what it has written
arrives and the connection comes to rest, as it does, everything has been heard. -/
theorem echoes_of_play (hready : first.IsReady start) (hechoed : first.IsEchoedBy server moves)
    (hcalls : Call.AreEchoable first.config.limits server.limits (first.made moves)) :
    let last := first.play moves
    let told := first.callbacks ++ toldTo start.listener (Call.echoes false (first.made moves))
    exists rest,
      server.echo? (first.sentSince last) = some ((Source.arrivals moves).bytes ++ rest) ∧
        last.callbacks <+: told ∧
        (exists more, (forall move, move ∈ more -> move = .hold ∨ move = .receive) ∧
          (last.play (.supply [rest] none :: more)).step? = none) ∧
        forall more, (forall move, move ∈ more -> move = .hold ∨ move = .receive) ->
          (last.play (.supply [rest] none :: more)).step? = none ->
          (last.play (.supply [rest] none :: more)).callbacks = told := by
  intro last told
  rcases hechoed.converses hready hcalls (List.prefix_refl moves) with ⟨_, _, hopen⟩
  rcases hopen.hasWritten hready hcalls with ⟨written, accepted, heard, hwritten⟩
  rcases hopen.heeds with ⟨receiver, _, hlistens, _⟩
  rcases hwritten.all hready hopen.opened hlistens hechoed.returned with ⟨hfree, rfl⟩
  have harrived := hechoed.behind moves (List.prefix_refl moves)
  rw [hwritten.echo, Option.getD_some] at harrived
  rcases harrived with ⟨rest, hrest⟩
  have hstart := hwritten.converses
  rw [← hrest] at hstart
  have hconverses : first.Converses start.listener rest told last :=
    hstart.play hechoed.ending hechoed.kind hechoed.succeeds hcalls.stays
  have hsupplied : first.Converses start.listener [] told (last.move (.supply [rest] none)) := by
    have hbytes : (({} : Source).afterMove (.supply [rest] none)).bytes ++ [] = rest := by
      rw [List.append_nil]
      exact (Source.bytes_extend _ _ _).trans List.flatten_singleton
    exact (hbytes.symm ▸ hconverses).move rfl rfl rfl nofun
  have hfree' : (last.move (.supply [rest] none)).isFree = true := by
    have hholder : last.holder = none := by simpa [Connection.isFree] using hfree
    simp [Connection.isFree, Connection.move, supply, hholder]
  refine ⟨rest, by rw [hwritten.echo, hrest], ?_, exists_rest _, fun more hown hrest => ?_⟩
  · rcases hconverses.heeds with ⟨_, yet, _, _, _, htold⟩
    exact ⟨toldTo start.listener yet, htold⟩
  · rcases hsupplied.play_own hfree' hown with ⟨hconverses, hfree⟩
    exact hconverses.rest hfree hrest

end Echoes

theorem isReady_sample : sample.IsReady { source := ⟨[[]], none⟩, listener := some 0 } where
  reachable := sample_steadilyReachable.reachable
  free := rfl
  kept := rfl
  connected := rfl
  opened := rfl
  streaming := rfl
  receiver := rfl
  phase := Or.inl rfl
  assembly := rfl
  bytes := rfl
  ending := rfl

/-- A text that comes back octet by octet while the next calls are made, octets in two
chunks with an empty ping between them, and a pong. -/
theorem echoes_of_mixed_calls :
    let server : EchoServer := { capacity := 4, policy := .portions 3 }
    let say (call : Call) : List Move := .call call :: List.replicate 4 .hold
    let moves := say (.send (.text "é")) ++ say (.stream (.binary [1]) false) ++
      [.supply [[0x81], [0x02], [0xC3]] none, .receive, .receive, .supply [[0xA9]] none] ++
      say (.ping []) ++ say (.stream (.binary [2]) true) ++ say (.pong [7])
    sample.IsEchoedBy server moves ∧
      Call.AreEchoable sample.config.limits server.limits (sample.made moves) ∧
      exists rest more,
        ((sample.play moves).play (.supply [rest] none :: more)).callbacks =
          [(0, .connected), (0, .message (.text "é")), (0, .chunk (.binary [1]) false),
            (0, .ping none), (0, .chunk (.binary [2]) true), (0, .pong (some [7]))] := by
  intro server say moves
  have hbehind : forall early, early ∈ moves.inits -> (Source.arrivals early).bytes <+:
      (server.echo? (sample.sentSince (sample.play early))).getD [] := by decide +kernel
  have hechoed : sample.IsEchoedBy server moves :=
    ⟨by decide, by decide +kernel, by decide +kernel,
      fun early hearly => hbehind early ((List.mem_inits early moves).mpr hearly), by decide +kernel⟩
  have hcalls : Call.AreEchoable sample.config.limits server.limits (sample.made moves) := by
    decide +kernel
  refine ⟨hechoed, hcalls, ?_⟩
  rcases echoes_of_play isReady_sample hechoed hcalls with ⟨rest, _, _, ⟨more, hown, hrest⟩, htold⟩
  exact ⟨rest, more, (htold more hown hrest).trans (by decide +kernel)⟩

/-- A chunk that is a whole sequence is not heard as a chunk. -/
theorem echoes_of_lone_chunk :
    let server : EchoServer := {}
    let moves := .call (.stream (.text "x") true) :: (List.replicate 4 .hold ++
      .supply [[0x81, 0x01, 0x78]] none :: List.replicate 6 .receive)
    sample.IsEchoedBy server moves ∧
      Call.AreEchoable sample.config.limits server.limits (sample.made moves) ∧
      sample.made moves = [.stream (.text "x") true] ∧
      server.echo? (sample.sentSince (sample.play moves)) =
        some (Source.arrivals moves).bytes ∧
      (sample.play moves).step? = none ∧
      (sample.play moves).callbacks = [(0, .connected), (0, .message (.text "x"))] ∧
      (sample.play moves).callbacks ≠ [(0, .connected), (0, .chunk (.text "x") true)] := by
  intro server moves
  have hbehind : forall early, early ∈ moves.inits -> (Source.arrivals early).bytes <+:
      (server.echo? (sample.sentSince (sample.play early))).getD [] := by decide +kernel
  have hechoed : sample.IsEchoedBy server moves :=
    ⟨by decide, by decide +kernel, by decide +kernel,
      fun early hearly => hbehind early ((List.mem_inits early moves).mpr hearly), by decide +kernel⟩
  exact ⟨hechoed, by decide +kernel, by decide +kernel, by decide +kernel, by decide +kernel,
    by decide +kernel, by decide +kernel⟩

end Connection

end WebSocketClient
