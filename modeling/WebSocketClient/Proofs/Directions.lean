import WebSocketClient.Proofs.Heeding
import WebSocketClient.Proofs.Speaking
import WebSocketClient.Proofs.Splitting

/-!
# The two directions

What a connection receives and what its user sends go their own ways.  The calls do not
change what the listener is told of the server, and what the server sends does not change
the frames of the calls.
-/

namespace WebSocketClient

namespace Connection

/-- A connection that is in use comes to rest whatever happens to it.  If the same octets
have arrived in two runs and the frames of the calls are written, the listener is told the
same in both, namely what the octets foretold before any call was made.  If the same calls
are made in two runs and the connection stays open, the calls send the same frames in
both. -/
theorem directions_of_play {first : Connection} (hreachable : first.Reachable)
    (hfree : first.isFree = true) (hkept : first.isDropped = false)
    (hconnected : first.isConnected = true) {start : Receiver}
    (hstart : first.receiver = some start) (hloop : start.holdsStream = true)
    (moves moves' : List Move) :
    let early := first.play moves
    let late := first.play moves'
    let arrived := start.source.afterMoves moves
    let arrived' := start.source.afterMoves moves'
    (exists more, (forall move, move ∈ more -> move = .hold ∨ move = .receive) ∧
        (first.play (moves ++ more)).step? = none) ∧
      (first.IsHeardOut start.source moves -> first.IsHeardOut start.source moves' ->
        arrived'.bytes = arrived.bytes -> arrived'.ending = arrived.ending ->
          early.callbacks = first.callbacks ++ toldTo start.listener
              ((start.unaware.withSource arrived).foretold first.config.limits) ∧
            late.callbacks = early.callbacks) ∧
      (first.made moves' = first.made moves -> early.core.state = .opened ->
        late.core.state = .opened -> late.spoken = early.spoken) := by
  intro early late arrived arrived'
  refine ⟨?_, fun hheard hheard' hbytes hending => ?_, fun hmade hopened hopened' => ?_⟩
  · rcases exists_rest early with ⟨more, hown, hrest⟩
    exact ⟨more, hown, by rwa [play_append]⟩
  · have hearly := callbacks_of_rest hreachable hfree hkept hconnected hstart hloop hheard
      (rfl : arrived.bytes = _) rfl
    have hlate := callbacks_of_rest hreachable hfree hkept hconnected hstart hloop hheard'
      hbytes.symm hending.symm
    exact And.intro hearly (hlate.trans hearly.symm)
  · have hreceiver : first.receiver.isSome = true := by rw [hstart]; rfl
    rcases spoken_of_play hreachable hfree hreceiver with ⟨keys, hspoken⟩
    calc late.spoken
        = first.spoken ++ Call.speak keys first.core.streaming (first.made moves') :=
          hspoken moves' hopened'
      _ = first.spoken ++ Call.speak keys first.core.streaming (first.made moves) := by rw [hmade]
      _ = early.spoken := (hspoken moves hopened).symm

/-- The server sends a ping and closes, and the listener hears of both even if the client
has closed before.  The client says hello, with the ping in between or not. -/
theorem directions_of_early_close :
    let goodbye : Bytes := [0x88, 0x02, 0x03, 0xE8]
    let listens := List.replicate 6 .receive
    let writes := List.replicate 4 .hold
    let quiet := .supply [samplePing ++ goodbye] none :: (listens ++ writes ++ [.receive])
    let closing := .call (.close .normal "") :: (writes ++ .supply [samplePing] none ::
      (listens ++ .supply [goodbye] none :: (listens ++ writes ++ [.receive])))
    let hello : Call := .send (.text "hello")
    let alone := .call hello :: writes
    let between := .supply [samplePing] none :: (listens ++ .call hello :: writes)
    ((sample.play closing).callbacks =
          [(0, .connected), (0, .ping (some [0x68, 0x65, 0x6c, 0x6c, 0x6f])), (0, .closed)] ∧
        (sample.play closing).callbacks = (sample.play quiet).callbacks) ∧
      (sample.play between).spoken = (sample.play alone).spoken ∧
      (sample.play between).spoken.map Transmission.call = [some hello] := by
  intro goodbye listens writes quiet closing hello alone between
  have hdirections := fun moves moves' => directions_of_play sample_steadilyReachable.reachable
    rfl rfl rfl rfl rfl moves moves'
  have hquiet : sample.IsHeardOut ⟨[[]], none⟩ quiet :=
    ⟨by decide, by decide, by decide +kernel, by decide +kernel, by decide +kernel⟩
  have hclosing : sample.IsHeardOut ⟨[[]], none⟩ closing :=
    ⟨by decide, by decide, by decide +kernel, by decide +kernel, by decide +kernel⟩
  refine ⟨⟨by decide +kernel, ?_⟩, ?_, by decide +kernel⟩
  · exact ((hdirections quiet closing).right.left hquiet hclosing (by decide +kernel)
      (by decide +kernel)).right
  · exact (hdirections alone between).right.right (by decide +kernel) (by decide +kernel)
      (by decide +kernel)

end Connection

end WebSocketClient
