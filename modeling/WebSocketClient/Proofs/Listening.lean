import WebSocketClient.Proofs.Simulation

/-!
# What listeners are told

One opening handshake at most succeeds.  The listener that is registered at that
time is told of everything, and nobody else is told of anything: first that the
connection is open, at the end and once only that it is closed.
-/

namespace WebSocketClient

namespace Outline

/-- The connection is torn down, and whoever did it is done. -/
def hasEnded (outline : Outline) : Bool :=
  outline.state = .closed && outline.task = .free && outline.parting.isNone

def HasTold (outline : Outline) (listener : ListenerId) : Prop :=
  exists later : List Event,
    outline.callbacks = (listener, .connected) :: later.map (fun event => (listener, event)) ∧
      later.count .connected = 0 ∧
      later.count .closed = if outline.hasEnded then 1 else 0

structure Heard (outline : Outline) : Prop where
  silent : outline.audience.join = none -> outline.callbacks = []
  told : forall listener, outline.audience = some (some listener) -> outline.HasTold listener
  news : forall event, outline.news = some event -> event.isNews = true
  parting : forall listener, outline.parting = some listener ->
    outline.audience = some (some listener) ∧ outline.state = .closed ∧ outline.task = .free

/-!
## Telling the listener
-/

theorem HasTold.keep {old new : Outline} {listener : ListenerId} (htold : old.HasTold listener)
    (hcallbacks : new.callbacks = old.callbacks) (hended : new.hasEnded = old.hasEnded) :
    new.HasTold listener := by
  rcases htold with ⟨later, hlater, hconnected, hclosed⟩
  exact ⟨later, hcallbacks.trans hlater, hconnected, hended ▸ hclosed⟩

theorem HasTold.tell {old new : Outline} {listener : ListenerId} (htold : old.HasTold listener)
    {event : Event} (hnews : event.isNews = true)
    (hcallbacks : new.callbacks = old.callbacks ++ [(listener, event)])
    (hended : new.hasEnded = old.hasEnded) : new.HasTold listener := by
  rcases htold with ⟨later, hlater, hconnected, hclosed⟩
  refine ⟨later ++ [event], by simp [hcallbacks, hlater], ?_, ?_⟩
  · have hne : event ≠ .connected := by
      rintro rfl
      cases hnews
    simp [List.count_append, hconnected, hne]
  · have hne : event ≠ .closed := by
      rintro rfl
      cases hnews
    simp [List.count_append, hclosed, hended, hne]

theorem HasTold.close {old new : Outline} {listener : ListenerId} (htold : old.HasTold listener)
    (hcallbacks : new.callbacks = old.callbacks ++ [(listener, .closed)])
    (hbefore : old.hasEnded = false) (hafter : new.hasEnded = true) : new.HasTold listener := by
  rcases htold with ⟨later, hlater, hconnected, hclosed⟩
  refine ⟨later ++ [.closed], by simp [hcallbacks, hlater], ?_, ?_⟩
  · simp [List.count_append, hconnected]
  · simp [List.count_append, hclosed, hbefore, hafter]

theorem hasEnded_eq_false_of_state {outline : Outline} (hopen : outline.state ≠ .closed) :
    outline.hasEnded = false := by
  simp [hasEnded, hopen]

theorem hasEnded_eq_false_of_task {outline : Outline} (hbusy : outline.task ≠ .free) :
    outline.hasEnded = false := by
  simp [hasEnded, hbusy]

theorem Heard.keep {old new : Outline} (hheard : old.Heard)
    (haudience : new.audience = old.audience) (hcallbacks : new.callbacks = old.callbacks)
    (hended : new.hasEnded = old.hasEnded) (hnews : new.news = old.news)
    (hparting : new.parting = none) : new.Heard where
  silent hsilent := by
    rw [hcallbacks]
    exact hheard.silent (haudience ▸ hsilent)
  told listener hlistener :=
    (hheard.told listener (haudience ▸ hlistener)).keep hcallbacks hended
  news event hevent := hheard.news event (hnews ▸ hevent)
  parting listener hlistener := by
    rw [hparting] at hlistener
    cases hlistener

theorem Heard.of_unopened {outline : Outline} (hunopened : outline.Unopened) :
    outline.Heard where
  silent _ := hunopened.callbacks
  told listener hlistener := by simp [hunopened.audience] at hlistener
  news event hevent := by simp [hunopened.news] at hevent
  parting listener hlistener := by simp [hunopened.parting] at hlistener

theorem heard_change {old new : Outline} (hstage : old.Stage)
    (hchange : Change old new) (hheard : old.Heard) : new.Heard := by
  have hnew := stage_change hstage hchange
  have hlive {outline : Outline} {writer : FrameWriter} (hstage : outline.Stage)
      (hwriter : outline.writer = some writer) :
      outline.parting = none ∧ outline.hasEnded = false := by
    have hlive := live_of_writer hstage hwriter
    exact And.intro hlive.right.right.right.right
      (hasEnded_eq_false_of_state hlive.left.ne_closed.left)
  have hlast {byCaller : Bool} (htask : old.task = .leaving byCaller) :
      old.parting = none ∧ old.audience = some old.owed ∧ old.hasEnded = false := by
    have hleaving := leaving_of_task hstage htask
    exact ⟨hleaving.right.right.right.left, hleaving.right.right.left,
      hasEnded_eq_false_of_task (by simp [htask])⟩
  cases hchange with
  | nothing => exact hheard
  | register listener _ _ => exact { hheard with }
  | treatWrites policy flush => exact { hheard with }
  | ask htask hstate hrole hbuffer =>
      exact .of_unopened (opening_of_task hnew (Or.inl rfl)).right.left
  | asked htask hunsent => exact .of_unopened (opening_of_task hnew (Or.inr rfl)).right.left
  | failOpening htask hcontent => exact .of_unopened (unopened_of_disconnected hnew rfl)
  | opened htask =>
      rcases opening_of_task hstage (Or.inr htask) with ⟨_, hunopened, _⟩
      constructor
      · intro hsilent
        have hnobody : old.registered = none := hsilent
        simp [hnobody, hunopened.callbacks]
      · intro listener hlistener
        have hregistered : old.registered = some listener := Option.some.inj hlistener
        refine ⟨[], by simp [hregistered, hunopened.callbacks], rfl, ?_⟩
        rw [hasEnded_eq_false_of_state (by simp)]
        rfl
      · simp
      · simp
  | carryHeld htask hheld hrest hstep => exact { hheard with }
  | carry htask hheld hwriter hrest hstep => exact { hheard with }
  | begin htask hstate hwriter hpayload hframe =>
      have hbefore := hlive hstage hwriter
      have hafter := hlive hnew rfl
      exact hheard.keep rfl rfl (hafter.right.trans hbefore.right.symm) rfl hafter.left
  | sent htask hunsent =>
      rcases exists_writer_of_sending hstage htask with ⟨writer, hwriter⟩
      have hbefore := hlive hstage hwriter
      have hafter := hlive hnew hwriter
      exact hheard.keep rfl rfl (hafter.right.trans hbefore.right.symm) rfl hafter.left
  | fall htask hheld hwriter hfailure =>
      have hbefore := hlive hstage hwriter
      refine hheard.keep rfl rfl ?_ rfl hbefore.left
      rw [hbefore.right]
      exact hasEnded_eq_false_of_task (by simp)
  | beginFarewell htask hwriter hstate hlength =>
      have hbefore := hlive hstage hwriter
      have hafter := hlive hnew rfl
      exact hheard.keep rfl rfl (hafter.right.trans hbefore.right.symm) rfl hafter.left
  | leave htask hwriter hcontent =>
      have hbefore := hlive hstage hwriter
      refine hheard.keep rfl rfl ?_ rfl hbefore.left
      rw [hbefore.right]
      exact hasEnded_eq_false_of_task (by simp)
  | abandon htask hcontent =>
      rcases hlast htask with ⟨hparting, haudience, hbefore⟩
      have hclosed := (leaving_of_task hstage htask).left
      constructor
      · intro hsilent
        have howed : old.owed = none := by simpa [haudience] using hsilent
        simp [howed, hheard.silent hsilent]
      · intro listener hlistener
        have hlistener' : old.audience = some (some listener) := hlistener
        have howed : old.owed = some listener := by simpa [haudience] using hlistener'
        refine (hheard.told listener hlistener').close (by simp [howed]) hbefore ?_
        simp [hasEnded, hclosed, hparting]
      · exact hheard.news
      · simp [hparting]
  | part htask hcontent =>
      rcases hlast htask with ⟨hparting, haudience, hbefore⟩
      have hclosed := (leaving_of_task hstage htask).left
      constructor
      · exact hheard.silent
      · intro listener hlistener
        have hlistener' : old.audience = some (some listener) := hlistener
        have howed : old.owed = some listener := by simpa [haudience] using hlistener'
        refine (hheard.told listener hlistener').keep rfl ?_
        rw [hbefore]
        simp [hasEnded, howed]
      · simp
      · intro listener hlistener
        have howed : old.owed = some listener := hlistener
        exact ⟨by simp [haudience, howed], hclosed, rfl⟩
  | @parted listener hparting =>
      rcases hheard.parting listener hparting with ⟨haudience, hclosed, hfree⟩
      constructor
      · intro hsilent
        have hnobody : old.audience.join = none := hsilent
        simp [haudience] at hnobody
      · intro other hother
        have hsame : listener = other := by simpa [haudience] using hother
        rw [← hsame]
        refine (hheard.told listener haudience).close rfl ?_ ?_
        · simp [hasEnded, hparting]
        · simp [hasEnded, hclosed, hfree]
      · exact hheard.news
      · simp
  | receive haudience hparting hnews =>
      exact ⟨hheard.silent, hheard.told, hnews, by simp [hparting]⟩
  | @tell listener event haudience hevent =>
      have hnews := hheard.news event hevent
      constructor
      · intro hsilent
        have hnobody : listener = none := by simpa [haudience] using hsilent
        simp [hnobody, hheard.silent hsilent]
      · intro other hother
        have hsome : listener = some other := by simpa [haudience] using hother
        have htold := hheard.told other hother
        exact htold.tell hnews (by simp [hsome]) rfl
      · simp
      · exact hheard.parting

/-!
## Opening handshakes
-/

/-- From an unused connection the next thing is an opening handshake. -/
theorem change_of_disconnected {old new : Outline}
    (hstage : old.Stage) (hchange : Change old new) (hstate : old.state = .disconnected) :
    new.state = .disconnected ∨ new.state = .connecting ∧ new.registered = old.registered := by
  have hlive {writer : FrameWriter} (hwriter : old.writer = some writer) : False :=
    (live_of_writer hstage hwriter).left.ne_closed.right hstate
  cases hchange with
  | ask htask hdisconnected hrole hbuffer => exact Or.inr ⟨rfl, rfl⟩
  | failOpening htask hcontent => exact Or.inl rfl
  | opened htask => simp [(opening_of_task hstage (Or.inr htask)).left] at hstate
  | begin htask hopened hwriter hpayload hframe => exact (hlive hwriter).elim
  | fall htask hheld hwriter hfailure => exact (hlive hwriter).elim
  | beginFarewell htask hwriter hlength => exact (hlive hwriter).elim
  | leave htask hwriter hcontent => exact (hlive hwriter).elim
  | _ => exact Or.inl hstate

theorem change_of_connecting {old new : Outline}
    (hstage : old.Stage) (hchange : Change old new) (hstate : old.state = .connecting) :
    new.state = .disconnected ∨ new.state = .connecting ∧ new.registered = old.registered ∨
      new.state = .opened ∧ new.audience = some old.registered := by
  have hwork := task_of_connecting hstage hstate
  have hlive {writer : FrameWriter} (hwriter : old.writer = some writer) : False := by
    simp [(opening_of_task hstage hwork).right.left.writer] at hwriter
  cases hchange with
  | register listener hrequesting hawaiting => exact absurd hwork (by simp [hrequesting, hawaiting])
  | ask htask hdisconnected hrole hbuffer => simp [hstate] at hdisconnected
  | failOpening htask hcontent => exact Or.inl rfl
  | opened htask => exact Or.inr (Or.inr ⟨rfl, rfl⟩)
  | begin htask hopened hwriter hpayload hframe => exact (hlive hwriter).elim
  | fall htask hheld hwriter hfailure => exact (hlive hwriter).elim
  | beginFarewell htask hwriter hlength => exact (hlive hwriter).elim
  | leave htask hwriter hcontent => exact (hlive hwriter).elim
  | _ => exact Or.inr (Or.inl ⟨hstate, rfl⟩)

end Outline

/-!
## Any moves
-/

namespace Connection

def succeedsBy (connection : Connection) (next : Move) : Bool :=
  connection.core.state = .connecting && (connection.move next).core.state = .opened

def successes : Connection -> List Move -> Nat
  | _, [] => 0
  | connection, next :: moves =>
      (if connection.succeedsBy next then 1 else 0) + successes (connection.move next) moves

/-- An opening handshake that starts here is under way after these moves. -/
structure Attempts (connection : Connection) (opening : Opening) (dial : Dial)
    (moves : List Move) : Prop where
  starts : connection.core.state = .disconnected
  goesOn : forall front, front <+: moves ->
    (connection.play (.connect opening dial :: front)).core.state = .connecting

/-- An opening handshake that starts here succeeds with the last of these moves. -/
structure Succeeds (connection : Connection) (opening : Opening) (dial : Dial)
    (moves : List Move) : Prop where
  starts : connection.core.state = .disconnected
  goesOn : forall front, front <+: moves -> front ≠ moves ->
    (connection.play (.connect opening dial :: front)).core.state = .connecting
  ends : (connection.play (.connect opening dial :: moves)).core.state = .opened

/-- How far the opening handshakes of a run have come. -/
inductive Progress (first : Connection) (moves : List Move) : Prop
  | idle : (first.play moves).core.state = .disconnected -> first.successes moves = 0 ->
      Progress first moves
  | attempt {earlier later : List Move} {opening : Opening} {dial : Dial} :
      moves = earlier ++ .connect opening dial :: later ->
      (first.play earlier).Attempts opening dial later ->
      (first.play moves).listener = (first.play earlier).listener ->
      first.successes moves = 0 -> Progress first moves
  | success {earlier middle later : List Move} {opening : Opening} {dial : Dial} :
      moves = earlier ++ .connect opening dial :: (middle ++ later) ->
      (first.play earlier).Succeeds opening dial middle ->
      (first.play moves).outline.audience = some (first.play earlier).listener ->
      first.successes moves = 1 -> Progress first moves

theorem successes_concat (first : Connection) (moves : List Move) (last : Move) :
    first.successes (moves ++ [last]) =
      first.successes moves + if (first.play moves).succeedsBy last then 1 else 0 := by
  induction moves generalizing first with
  | nil =>
      rw [List.nil_append, successes, successes, successes, Nat.add_zero, Nat.zero_add]
      rfl
  | cons next rest ih =>
      rw [List.cons_append, successes, successes, ih, Nat.add_assoc]
      rfl

theorem Attempts.more {connection : Connection} {opening : Opening} {dial : Dial}
    {moves : List Move} (hattempts : connection.Attempts opening dial moves) {last : Move}
    (hstate : (connection.play (.connect opening dial :: (moves ++ [last]))).core.state =
      .connecting) :
    connection.Attempts opening dial (moves ++ [last]) := by
  constructor
  · exact hattempts.starts
  · intro front hfront
    rcases List.prefix_concat_iff.mp hfront with rfl | hfront
    · exact hstate
    · exact hattempts.goesOn front hfront

theorem Attempts.succeed {connection : Connection} {opening : Opening} {dial : Dial}
    {moves : List Move} (hattempts : connection.Attempts opening dial moves) {last : Move}
    (hstate : (connection.play (.connect opening dial :: (moves ++ [last]))).core.state = .opened) :
    connection.Succeeds opening dial (moves ++ [last]) := by
  constructor
  · exact hattempts.starts
  · intro front hfront hne
    rcases List.prefix_concat_iff.mp hfront with heq | hfront
    · exact absurd heq hne
    · exact hattempts.goesOn front hfront
  · exact hstate

theorem idle_of_disconnected {connection : Connection} (hstage : connection.outline.Stage)
    (hstate : connection.core.state = .disconnected) :
    connection.holder = none ∧ connection.receiver = none := by
  change connection.outline.state = .disconnected at hstate
  cases hstage with
  | idle _ htask _ hunopened =>
      exact And.intro (holder_of_task htask) (Option.map_eq_none_iff.mp hunopened.audience)
  | opening hother _ _ _ _ => simp [hstate] at hother
  | live hlive _ _ _ _ _ => exact absurd hstate hlive.ne_closed.right
  | leaving hother _ _ _ _ _ _ => simp [hstate] at hother
  | gone hother _ _ _ _ _ => simp [hstate] at hother

theorem successes_concat_of_state_ne {first : Connection} {moves : List Move} {last : Move}
    (hstate : ((first.play moves).move last).core.state ≠ .opened) :
    first.successes (moves ++ [last]) = first.successes moves := by
  rw [successes_concat]
  simp [succeedsBy, hstate]

theorem not_succeedsBy {connection : Connection} (hstate : connection.core.state ≠ .connecting)
    (next : Move) : connection.succeedsBy next = false := by
  simp [succeedsBy, hstate]

section Progress

variable {first : Connection} {moves : List Move} {last : Move}

theorem progress_of_idle (hreachable : (first.play moves).Reachable)
    (hstate : (first.play moves).core.state = .disconnected) (hnone : first.successes moves = 0) :
    first.Progress (moves ++ [last]) := by
  have hstage := stage_of_reachable hreachable
  rcases idle_of_disconnected hstage hstate with ⟨hholder, hreceiver⟩
  have hsuccesses : first.successes (moves ++ [last]) = 0 := by
    rw [successes_concat, hnone, not_succeedsBy (by simp [hstate])]
    rfl
  cases last with
  | connect opening dial =>
      have hchange := change_of_move hstage (.connect opening dial)
      rcases Outline.change_of_disconnected hstage hchange hstate with
        hidle | ⟨hconnecting, hlistener⟩
      · exact .idle (by rw [play_concat]; exact hidle) hsuccesses
      · refine .attempt rfl ⟨hstate, ?_⟩ ?_ hsuccesses
        · intro front hfront
          rw [List.prefix_nil.mp hfront]
          exact hconnecting
        · rw [play_concat]
          exact hlistener
  | _ =>
      refine .idle ?_ hsuccesses
      rw [play_concat]
      rw [state_move_of_free hholder (by simp [hstate]) (by simp) (fun _ => hreceiver)]
      exact hstate

theorem progress_of_attempt (hreachable : (first.play moves).Reachable)
    {earlier later : List Move} {opening : Opening} {dial : Dial}
    (hmoves : moves = earlier ++ .connect opening dial :: later)
    (hattempts : (first.play earlier).Attempts opening dial later)
    (hlistener : (first.play moves).listener = (first.play earlier).listener)
    (hnone : first.successes moves = 0) : first.Progress (moves ++ [last]) := by
  have hstage := stage_of_reachable hreachable
  have hplay (more : List Move) : first.play (moves ++ more) =
      (first.play earlier).play (.connect opening dial :: (later ++ more)) := by
    rw [hmoves, List.append_assoc, play_append]
    rfl
  have hstate : (first.play moves).core.state = .connecting := by
    have hnow := hattempts.goesOn later (List.prefix_refl later)
    rw [← List.append_nil moves, hplay, List.append_nil]
    exact hnow
  have hconcat : moves ++ [last] = earlier ++ .connect opening dial :: (later ++ [last]) := by
    simp [hmoves]
  rcases Outline.change_of_connecting hstage (change_of_move hstage last) hstate with
    hfailed | ⟨hconnecting, hregistered⟩ | ⟨hopened, haudience⟩
  · change ((first.play moves).move last).core.state = .disconnected at hfailed
    have hsuccesses := successes_concat_of_state_ne (by rw [hfailed]; simp)
    exact .idle (by rw [play_concat]; exact hfailed) (hsuccesses.trans hnone)
  · change ((first.play moves).move last).core.state = .connecting at hconnecting
    have hsuccesses := successes_concat_of_state_ne (by rw [hconnecting]; simp)
    refine .attempt hconcat (hattempts.more ?_) ?_ (hsuccesses.trans hnone)
    · rw [← hplay, play_concat]
      exact hconnecting
    · rw [play_concat]
      exact hregistered.trans hlistener
  · change ((first.play moves).move last).core.state = .opened at hopened
    have hsucceeds : (first.play moves).succeedsBy last = true := by
      simp [succeedsBy, hstate, hopened]
    have hsuccesses : first.successes (moves ++ [last]) = 1 := by
      rw [successes_concat, hnone, hsucceeds]
      rfl
    have hends := hattempts.succeed (by rw [← hplay, play_concat]; exact hopened)
    refine .success (hconcat.trans (by rw [List.append_nil])) hends ?_ hsuccesses
    rw [play_concat, haudience]
    exact congrArg some hlistener

theorem progress_of_success (hreachable : (first.play moves).Reachable)
    {earlier middle later : List Move} {opening : Opening} {dial : Dial}
    (hmoves : moves = earlier ++ .connect opening dial :: (middle ++ later))
    (hsucceeds : (first.play earlier).Succeeds opening dial middle)
    (haudience : (first.play moves).outline.audience = some (first.play earlier).listener)
    (hone : first.successes moves = 1) : first.Progress (moves ++ [last]) := by
  have hstage := stage_of_reachable hreachable
  have hstate : (first.play moves).core.state ≠ .connecting := by
    intro hconnecting
    have htask := Outline.task_of_connecting hstage hconnecting
    have hunopened := (Outline.opening_of_task hstage htask).right.left
    simp [hunopened.audience] at haudience
  have hsuccesses : first.successes (moves ++ [last]) = 1 := by
    rw [successes_concat, hone, not_succeedsBy hstate]
    rfl
  have hconcat : moves ++ [last] =
      earlier ++ .connect opening dial :: (middle ++ (later ++ [last])) := by
    simp [hmoves]
  refine .success hconcat hsucceeds ?_ hsuccesses
  rw [play_concat]
  exact Outline.audience_change hstage (change_of_move hstage last) haudience

end Progress

/-- However a run goes on, its opening handshakes are as far as they can be. -/
theorem progress_of_play (config : Config) (offered : List String) (listener : Option ListenerId)
    (moves : List Move) : (fresh config offered listener).Progress moves := by
  have hmore (before after : List Move)
      (hprogress : (fresh config offered listener).Progress before) :
      (fresh config offered listener).Progress (before ++ after) := by
    induction after generalizing before with
    | nil =>
        rw [List.append_nil]
        exact hprogress
    | cons next rest ih =>
        have hreachable : ((fresh config offered listener).play before).Reachable :=
          ⟨config, offered, listener, before, rfl⟩
        rw [List.append_cons]
        apply ih
        cases hprogress with
        | idle hstate hnone => exact progress_of_idle hreachable hstate hnone
        | attempt hmoves hattempts hlistener hnone =>
            exact progress_of_attempt hreachable hmoves hattempts hlistener hnone
        | success hmoves hsucceeds haudience hone =>
            exact progress_of_success hreachable hmoves hsucceeds haudience hone
  exact hmore [] moves (.idle rfl rfl)

theorem heard_of_reachable {connection : Connection} (hreachable : connection.Reachable) :
    connection.outline.Heard := by
  refine (outline_invariant ?_ (fun _ _ => Outline.heard_change) hreachable).right
  intro config offered listener
  exact .of_unopened ⟨rfl, rfl, rfl, rfl, rfl, rfl, rfl, rfl, rfl⟩

def hasEnded (connection : Connection) : Bool :=
  connection.core.state.isClosed && connection.isFree
    && connection.receiver.all fun receiver => receiver.phase.parting?.isNone

theorem hasEnded_outline (connection : Connection) :
    connection.outline.hasEnded = connection.hasEnded := by
  have hstate : decide (connection.core.state = .closed) = connection.core.state.isClosed := by
    cases connection.core.state <;> rfl
  have htask : decide (connection.outline.task = .free) = connection.isFree := by
    cases hholder : connection.holder with
    | none => simp [outline, isFree, hholder]
    | some holder => cases holder <;> simp [outline, isFree, hholder, Holder.task]
  have hparting : connection.outline.parting.isNone =
      connection.receiver.all fun receiver => receiver.phase.parting?.isNone := by
    cases hreceiver : connection.receiver <;> simp [outline, hreceiver]
  rw [Outline.hasEnded, hasEnded, ← htask, ← hparting, ← hstate]
  rfl

/-- One opening handshake at most succeeds, and the listener that was registered
when it was called for is told of everything: first and once that the connection
is open, and once that it is closed when it is torn down. -/
theorem callbacks_of_play (config : Config) (offered : List String)
    (listener : Option ListenerId) (moves : List Move) :
    let first := fresh config offered listener
    let connection := first.play moves
    first.successes moves = 0 ∧ connection.callbacks = [] ∨
      first.successes moves = 1 ∧
        exists (earlier middle later : List Move) (opening : Opening) (dial : Dial),
          moves = earlier ++ .connect opening dial :: (middle ++ later) ∧
            (first.play earlier).Succeeds opening dial middle ∧
            match (first.play earlier).listener with
            | none => connection.callbacks = []
            | some id => exists rest : List Event,
                connection.callbacks = (id, .connected) :: rest.map (fun event => (id, event)) ∧
                  rest.count .connected = 0 ∧
                  rest.count .closed = if connection.hasEnded then 1 else 0 := by
  intro first connection
  have hreachable : connection.Reachable := ⟨config, offered, listener, moves, rfl⟩
  have hheard := heard_of_reachable hreachable
  have hunopened (hstate : connection.core.state = .disconnected ∨
      connection.core.state = .connecting) : connection.callbacks = [] := by
    have hstage := stage_of_reachable hreachable
    rcases hstate with hstate | hstate
    · exact (Outline.unopened_of_disconnected hstage hstate).callbacks
    · have htask := Outline.task_of_connecting hstage hstate
      exact (Outline.opening_of_task hstage htask).right.left.callbacks
  cases progress_of_play config offered listener moves with
  | idle hstate hnone => exact Or.inl (And.intro hnone (hunopened (Or.inl hstate)))
  | @attempt earlier later opening dial hmoves hattempts hlistener hnone =>
      refine Or.inl (And.intro hnone (hunopened (Or.inr ?_)))
      have hstate := hattempts.goesOn later (List.prefix_refl later)
      rw [← play_append, ← hmoves] at hstate
      exact hstate
  | @success earlier middle later opening dial hmoves hsucceeds haudience hone =>
      refine Or.inr (And.intro hone
        ⟨earlier, middle, later, opening, dial, hmoves, hsucceeds, ?_⟩)
      cases hlistener : (first.play earlier).listener with
      | none =>
          have hsilent : connection.outline.audience.join = none := by
            rw [haudience, hlistener]
            rfl
          exact hheard.silent hsilent
      | some id =>
          have htold := hheard.told id (haudience.trans (by rw [hlistener]))
          rw [Outline.HasTold, hasEnded_outline] at htold
          exact htold

end Connection

end WebSocketClient
