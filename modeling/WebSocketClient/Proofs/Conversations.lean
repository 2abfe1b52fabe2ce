import WebSocketClient.Proofs.Heeding
import WebSocketClient.Proofs.Sequencing
import WebSocketClient.Proofs.Speaking

/-!
# Conversations

A connection that stays open.  As long as nobody closes it, no call fails and the server
sends nothing that ends the receiver's loop, the frames on the wire are those of the calls,
and the listener is told what the server has sent.
-/

namespace WebSocketClient

/-!
## The wire of an open connection
-/

namespace Connection

/-- On an open connection on which the receiver is not about to close, all frames are those
of calls. -/
theorem spoken_eq_transmissions {connection : Connection} (hreachable : connection.Reachable)
    (hopened : connection.core.state = .opened)
    (hbusy : forall holder, connection.holder = some holder ->
      exists frame writing, holder = .sending frame writing) :
    connection.spoken = connection.transmissions := by
  rcases frames_invariant hreachable with ⟨hlined, _, hsigned⟩
  rw [spoken, List.filter_eq_self]
  intro transmission hmem
  have hopen : connection.outline.state ≠ .closed := by
    show connection.core.state ≠ .closed
    simp [hopened]
  cases hholder : connection.holder with
  | none =>
      have hsettled := hlined.between (task_outline_of_isFree (by simp [isFree, hholder])) hopen
      exact hsigned.settled transmission (hsettled ▸ hmem)
  | some holder =>
      rcases hbusy holder hholder with ⟨frame, writing, rfl⟩
      have htask : connection.outline.task = .sending frame.streamingAfter :=
        task_of_holder hholder
      rcases hlined.during (Or.inl ⟨_, htask⟩) with ⟨last, hlast⟩
      have hmem' : transmission ∈ connection.outline.settled ++ [last] := hlast ▸ hmem
      rcases List.mem_append.mp hmem' with hsettled | hsingle
      · exact hsigned.settled transmission hsettled
      · rw [List.mem_singleton.mp hsingle]
        exact hsigned.sending ⟨_, htask⟩ last hlast

/-!
## A conversation
-/

/-- The connection is open, and its listener will have been told all this, and not of an
end, when these octets have arrived. -/
structure Converses (first : Connection) (listener : Option ListenerId) (more : Bytes)
    (told : List (ListenerId × Event)) (connection : Connection) : Prop where
  opened : connection.core.state = .opened
  heeds : exists receiver yet, first.Listens receiver connection ∧
    receiver.Foretells first.config.limits listener more none yet ∧ .closed ∉ yet ∧
    connection.callbacks ++ toldTo listener yet = told

section Converses

variable {first connection : Connection} {receiver : Receiver} {listener : Option ListenerId}
  {more : Bytes} {told : List (ListenerId × Event)} {next : Move} {moves : List Move}

theorem Listens.state_move (hlistens : first.Listens receiver connection)
    (hopened : connection.core.state = .opened) (hkind : next.isKind = true)
    (hsucceeds : connection.failsCall next = false) (hreceive : next ≠ .receive)
    (hstays : forall call, call ∈ connection.makes next -> call.stateAfter = .opened) :
    (connection.move next).core.state = .opened := by
  cases next with
  | receive => exact absurd rfl hreceive
  | giveUp => cases hkind
  | supply chunks ending => exact hopened
  | pass milliseconds => exact hopened
  | treatWrites policy flush => exact hopened
  | setListener listener =>
      simp only [Connection.move]
      split <;> exact hopened
  | connect opening dial =>
      have hfault : openingFault? connection.core.state =
          some (.usage "websocket is already connected") := by rw [hopened]; rfl
      simp only [Connection.move, Connection.startOpening, hfault]
      split <;> exact hopened
  | call call =>
      simp only [Connection.move, makes] at hstays ⊢
      split
      case h_1 => exact hopened
      case h_2 payload _ =>
          split
          case isFalse => exact hopened
          case isTrue hfree =>
              rw [if_pos hfree] at hstays
              unfold Connection.startCall
              split
              case isFalse => exact hopened
              case isTrue =>
                  split
                  case h_1 => exact hopened
                  case h_2 =>
                      split
                      case h_1 => cases hstays _ List.mem_cons_self
                      case h_2 => exact (state_startSending _ _ _ _).trans hopened
  | hold =>
      simp only [Connection.move]
      cases hholder : connection.holder with
      | none => exact hopened
      | some holder =>
          rcases hlistens.busy holder hholder with ⟨frame, writing, rfl⟩
          simp only [Option.bind_some, holderStep?, sendingStep?]
          cases hwriter : connection.core.writer with
          | none => exact hopened
          | some writer =>
              simp only [failsCall, hholder, hwriter] at hsucceeds
              simp only
              split
              case h_1 => exact hopened
              case h_2 => exact hopened
              case h_3 hfails => simp [hfails] at hsucceeds
              case h_4 => exact hopened

theorem abides_receive_of_loop {own : Receiver} (hown : connection.receiver = some own)
    (hloop : own.holdsStream = true) : connection.Abides (connection.move .receive) := by
  simp only [Connection.move, hown, Option.bind_some, receiverStep?_of_holdsStream hloop]
  cases hstep : own.step? connection.config.limits with
  | none => exact connection.abides_refl
  | some stepped =>
      rcases stepped with ⟨next, signals⟩
      rcases exists_journal_tell { connection with receiver := some next } next.listener
        signals with ⟨journal, hjournal, htransmissions, _⟩
      simp only [Option.map_some, Option.getD_some]
      rw [hjournal]
      exact { connection.abides_refl with transmissions := htransmissions }

theorem Abides.isFree {old new : Connection} (habides : old.Abides new)
    (hfree : old.isFree = true) : new.isFree = true := by
  have hholder : old.holder = none := by simpa [Connection.isFree] using hfree
  rcases habides.holder with hnew | ⟨_, _, hnew⟩ <;> simp [Connection.isFree, hnew, hholder]

/-- As long as the end is not foretold, the receiver goes on in its loop. -/
theorem Converses.receive (hconverses : first.Converses listener more told connection) :
    first.Converses listener more told (connection.move .receive) ∧
      (connection.isFree = true -> (connection.move .receive).isFree = true) := by
  rcases hconverses.heeds with ⟨receiver, yet, hlistens, hforetells, hquiet, htold⟩
  have hloop : receiver.holdsStream = true := by
    rcases hforetells.course with hloop | ⟨outcome, hphase, _⟩
    · exact hloop
    · rw [(hforetells.of_exiting hphase).left] at hquiet
      exact absurd List.mem_cons_self hquiet
  rcases Option.map_eq_some_iff.mp hlistens.receiver with ⟨own, hown, hsame⟩
  have habides : connection.Abides (connection.move .receive) :=
    abides_receive_of_loop hown (by rw [← own.holdsStream_unaware, hsame, hloop])
  refine And.intro ⟨habides.state.trans hconverses.opened, ?_⟩ habides.isFree
  rcases hlistens.receive hloop with ⟨hstays, _⟩ | ⟨next, signals, hstep, hnext, hcallbacks⟩
  · rw [hstays]
    exact ⟨receiver, yet, hlistens, hforetells, hquiet, htold⟩
  · rcases hforetells.step hstep with ⟨later, rfl, hlater⟩
    refine ⟨next, later, hnext, hlater, fun hmem => hquiet (List.mem_append_right _ hmem), ?_⟩
    rw [hcallbacks, hforetells.listener, List.append_assoc, ← toldTo_append]
    exact htold

theorem Converses.move
    (hconverses : first.Converses listener ((({} : Source).afterMove next).bytes ++ more) told
      connection)
    (hending : (({} : Source).afterMove next).ending = none) (hkind : next.isKind = true)
    (hsucceeds : connection.failsCall next = false)
    (hstays : forall call, call ∈ connection.makes next -> call.stateAfter = .opened) :
    first.Converses listener more told (connection.move next) := by
  by_cases hreceive : next = .receive
  · subst hreceive
    exact hconverses.receive.left
  rcases hconverses.heeds with ⟨receiver, yet, hlistens, hforetells, hquiet, htold⟩
  rcases hlistens.move hkind hsucceeds hreceive with ⟨hnext, hsame⟩
  refine ⟨hlistens.state_move hconverses.opened hkind hsucceeds hreceive hstays,
    receiver.afterMove next, yet, hnext, ?_, hquiet, by rw [hsame, htold]⟩
  cases next with
  | supply chunks known =>
      have hnone : known = none := hending
      subst hnone
      rw [show (({} : Source).afterMove (.supply chunks none)).bytes = chunks.flatten from
        Source.bytes_extend _ _ _] at hforetells
      exact hforetells.arrive (Or.inl rfl)
  | _ => exact hforetells

theorem Converses.play
    (hconverses : first.Converses listener ((Source.arrivals moves).bytes ++ more) told connection)
    (hending : (Source.arrivals moves).ending = none)
    (hkind : forall move, move ∈ moves -> move.isKind = true)
    (hsucceeds : connection.callsSucceed moves = true)
    (hstays : forall call, call ∈ connection.made moves -> call.stateAfter = .opened) :
    first.Converses listener more told (connection.play moves) := by
  induction moves generalizing connection with
  | nil => exact hconverses
  | cons next rest ih =>
      rcases Source.arrivals_cons next rest with ⟨hbytes, hended⟩
      rw [hbytes, List.append_assoc] at hconverses
      rw [hended] at hending
      rcases callsSucceed_cons.mp hsucceeds with ⟨hnext, hrest⟩
      have hnone : (({} : Source).afterMove next).ending = none := by
        cases hknown : (({} : Source).afterMove next).ending with
        | none => rfl
        | some known => simp [hknown] at hending
      have hlater : (Source.arrivals rest).ending = none := by simpa [hnone] using hending
      refine ih (hconverses.move hnone (hkind next List.mem_cons_self) hnext ?_) hlater
        (fun move hmove => hkind move (List.mem_cons_of_mem next hmove)) hrest ?_
      · exact fun call hmem => hstays call (List.mem_append_left _ hmem)
      · exact fun call hmem => hstays call (List.mem_append_right _ hmem)

theorem Converses.play_own
    (hconverses : first.Converses listener more told connection)
    (hfree : connection.isFree = true)
    (hown : forall move, move ∈ moves -> move = .hold ∨ move = .receive) :
    first.Converses listener more told (connection.play moves) ∧
      (connection.play moves).isFree = true := by
  induction moves generalizing connection with
  | nil => exact And.intro hconverses hfree
  | cons next rest ih =>
      have hlater := fun move hmove => hown move (List.mem_cons_of_mem next hmove)
      rcases hown next List.mem_cons_self with rfl | rfl
      · have hholder : connection.holder = none := by simpa [Connection.isFree] using hfree
        have hsame : connection.move .hold = connection := by simp [Connection.move, hholder]
        rw [play_cons, hsame]
        exact ih hconverses hfree hlater
      · rcases hconverses.receive with ⟨hnext, hstays⟩
        exact ih hnext (hstays hfree) hlater

theorem Converses.rest
    (hconverses : first.Converses listener [] told connection) (hfree : connection.isFree = true)
    (hrest : connection.step? = none) : connection.callbacks = told := by
  rcases hconverses.heeds with ⟨receiver, yet, hlistens, hforetells, hquiet, htold⟩
  rcases hforetells.course with hloop | ⟨outcome, hphase, hreason⟩
  · rw [hforetells.of_rest hloop ((hlistens.rest hfree hrest).left hloop), toldTo_nil,
      List.append_nil] at htold
    exact htold
  · exact absurd hphase ((hlistens.rest hfree hrest).right outcome hreason)

end Converses

end Connection

end WebSocketClient
