import WebSocketClient.Proofs.Simulation

/-!
# Close frames

A connection sends its close frame once, and no other frame after it, but for one
race.  The receiver asks before it waits for the lock whether the server's close
frame is an answer.  When a caller sends a close frame in between, the receiver
sends another one, and a connection that was closing goes back to answering.
-/

namespace WebSocketClient

namespace Outline

def Closings (outline : Outline) (races closings : Nat) : Prop :=
  match outline.state, outline.task with
  | .opened, .farewell | .closingLocal, _ => closings = 1 ∧ races = 0
  | .closingRemote, _ => closings = races + 1 ∧ races <= 1
  | .closed, _ => closings <= races + 1 ∧ races <= 1 ∧ (races = 1 -> closings = 2)
  | _, _ => closings = 0 ∧ races = 0

/-- All close frames come last, and there are as many as the races allow. -/
def Closes (outline : Outline) (races : Nat) : Prop :=
  exists others closings : List Transmission,
    outline.transmissions = others ++ closings ∧
      (forall transmission, transmission ∈ others -> transmission.frame.opcode ≠ .close) ∧
      (forall transmission, transmission ∈ closings -> transmission.frame.opcode = .close) ∧
      outline.Closings races closings.length

theorem Closings.bounds {outline : Outline} {races closings : Nat}
    (hclosings : outline.Closings races closings) :
    races <= 1 ∧ closings <= races + 1 ∧ (races = 1 -> closings = 2) := by
  unfold Closings at hclosings
  split at hclosings <;> omega

/-- The connection was closing by itself, and now it answers the server. -/
def races (old new : Outline) : Nat :=
  if old.state = .closingLocal ∧ new.state = .closingRemote then 1 else 0

theorem races_of_state_eq {old new : Outline} (hstate : new.state = old.state) :
    races old new = 0 := by
  unfold races
  rw [hstate]
  cases old.state <;> rfl

theorem races_of_state_ne {old new : Outline} (hstate : new.state ≠ .closingRemote) :
    races old new = 0 := by
  simp [races, hstate]

theorem races_of_opened {old new : Outline} (hstate : old.state = .opened) :
    races old new = 0 := by
  simp [races, hstate]

theorem Closes.keep {old new : Outline} {count : Nat} (hcloses : old.Closes count)
    (hraces : races old new = 0) (htransmissions : new.transmissions = old.transmissions)
    (hclosings : forall closings, old.Closings count closings -> new.Closings count closings) :
    new.Closes (count + races old new) := by
  rcases hcloses with ⟨others, closings, hsplit, hothers, hall, hcount⟩
  rw [hraces]
  exact ⟨others, closings, htransmissions.trans hsplit, hothers, hall, hclosings _ hcount⟩

theorem Closes.close {old new : Outline} {count count' : Nat} (hcloses : old.Closes count)
    {last : Transmission} (hlast : last.frame.opcode = .close)
    (htransmissions : new.transmissions = old.transmissions ++ [last])
    (hclosings : forall closings, old.Closings count closings ->
      new.Closings count' (closings + 1)) : new.Closes count' := by
  rcases hcloses with ⟨others, closings, hsplit, hothers, hall, hcount⟩
  refine ⟨others, closings ++ [last], by rw [htransmissions, hsplit, List.append_assoc], hothers,
    ?_, ?_⟩
  · intro transmission hmem
    rcases List.mem_append.mp hmem with hmem | hmem
    · exact hall transmission hmem
    · rw [List.mem_singleton.mp hmem]
      exact hlast
  · rw [List.length_append]
    exact hclosings _ hcount

theorem Closes.other {old new : Outline} {count : Nat} (hcloses : old.Closes count)
    {last : Transmission} (hlast : last.frame.opcode ≠ .close)
    (htransmissions : new.transmissions = old.transmissions ++ [last])
    (hnone : forall closings, old.Closings count closings -> closings = 0)
    (hclosings : forall closings, old.Closings count closings -> new.Closings count closings) :
    new.Closes count := by
  rcases hcloses with ⟨others, closings, hsplit, hothers, hall, hcount⟩
  have hempty : closings = [] := List.length_eq_zero_iff.mp (hnone _ hcount)
  refine ⟨others ++ [last], [], by simp [htransmissions, hsplit, hempty], ?_, by simp, ?_⟩
  · intro transmission hmem
    rcases List.mem_append.mp hmem with hmem | hmem
    · exact hothers transmission hmem
    · rw [List.mem_singleton.mp hmem]
      exact hlast
  · rw [hempty] at hcount
    exact hclosings _ hcount

theorem closes_change {old new : Outline} (hstage : old.Stage)
    (hchange : Change old new) {count : Nat} (hcloses : old.Closes count) :
    new.Closes (count + races old new) := by
  cases hchange with
  | nothing => exact hcloses.keep (races_of_state_eq rfl) rfl fun _ hclosings => hclosings
  | register listener _ _ =>
      exact hcloses.keep (races_of_state_eq rfl) rfl fun _ hclosings => hclosings
  | treatWrites policy flush =>
      exact hcloses.keep (races_of_state_eq rfl) rfl fun _ hclosings => hclosings
  | ask htask hstate hrole hbuffer =>
      refine hcloses.keep (races_of_state_ne (by simp)) rfl ?_
      intro closings hclosings
      simpa [Closings, hstate] using hclosings
  | asked htask hunsent =>
      have hstate := (opening_of_task hstage (Or.inl htask)).left
      refine hcloses.keep (races_of_state_eq rfl) rfl ?_
      intro closings hclosings
      simpa [Closings, hstate] using hclosings
  | failOpening htask hcontent =>
      refine hcloses.keep (races_of_state_ne (by simp)) rfl ?_
      intro closings hclosings
      rcases (early_of_task hstage htask).left with hstate | hstate
      · simpa [Closings, hstate] using hclosings
      · simpa [Closings, hstate] using hclosings
  | opened htask =>
      have hstate := (opening_of_task hstage (Or.inr htask)).left
      refine hcloses.keep (races_of_state_ne (by simp)) rfl ?_
      intro closings hclosings
      simpa [Closings, hstate] using hclosings
  | carryHeld htask hheld hrest hstep =>
      exact hcloses.keep (races_of_state_eq rfl) rfl fun _ hclosings => hclosings
  | carry htask hheld hwriter hrest hstep =>
      exact hcloses.keep (races_of_state_eq rfl) rfl fun _ hclosings => hclosings
  | @begin call payload frame after writer htask hstate hwriter hpayload hframe =>
      rw [races_of_opened hstate]
      have hnone (closings : Nat) (hclosings : old.Closings count closings) :
          closings = 0 ∧ count = 0 := by
        simpa [Closings, hstate, htask] using hclosings
      cases Decidable.em (frame.opcode = .close) with
      | inl hclose =>
          refine hcloses.close hclose rfl ?_
          intro closings hclosings
          simpa [Closings, hclose] using hnone closings hclosings
      | inr hother =>
          refine hcloses.other hother rfl ?_ ?_
          · intro closings hclosings
            exact (hnone _ hclosings).left
          · intro closings hclosings
            simpa [Closings, hother] using hnone closings hclosings
  | sent htask hunsent =>
      refine hcloses.keep (races_of_state_eq rfl) rfl ?_
      intro closings hclosings
      rcases exists_writer_of_sending hstage htask with ⟨writer, hwriter⟩
      have hlive := (live_of_writer hstage hwriter).left
      cases hstate : old.state <;> simp [htask, hstate, IsLive] at hlive <;>
        simpa [Closings, htask, hstate] using hclosings
  | fall htask hheld hwriter hfailure =>
      refine hcloses.keep (races_of_state_ne (by simp)) rfl ?_
      intro closings hclosings
      have hlive := (live_of_writer hstage hwriter).left
      cases hstate : old.state <;> simp [htask, hstate, IsLive] at hlive <;>
        simp [Closings, htask, hstate] at hclosings ⊢ <;> omega
  | @beginFarewell payload state writer htask hwriter hstate hlength =>
      refine hcloses.close rfl rfl ?_
      intro closings hclosings
      rcases hstate with ⟨hstate, rfl⟩ | ⟨hstate | hstate, rfl⟩ <;>
        simp [Closings, htask, hstate, races] at hclosings ⊢ <;> omega
  | leave htask hwriter hcontent =>
      refine hcloses.keep (races_of_state_ne (by simp)) rfl ?_
      intro closings hclosings
      have hlive := (live_of_writer hstage hwriter).left
      rcases htask with htask | ⟨htask, _⟩ <;>
        cases hstate : old.state <;> simp [htask, hstate, IsLive] at hlive <;>
        simp [Closings, htask, hstate] at hclosings ⊢ <;> omega
  | abandon htask hcontent =>
      have hstate := (leaving_of_task hstage htask).left
      refine hcloses.keep (races_of_state_eq rfl) rfl ?_
      intro closings hclosings
      simpa [Closings, hstate] using hclosings
  | part htask hcontent =>
      have hstate := (leaving_of_task hstage htask).left
      refine hcloses.keep (races_of_state_eq rfl) rfl ?_
      intro closings hclosings
      simpa [Closings, hstate] using hclosings
  | parted hparting =>
      exact hcloses.keep (races_of_state_eq rfl) rfl fun _ hclosings => hclosings
  | receive haudience hparting hnews =>
      exact hcloses.keep (races_of_state_eq rfl) rfl fun _ hclosings => hclosings
  | tell haudience hnews =>
      exact hcloses.keep (races_of_state_eq rfl) rfl fun _ hclosings => hclosings

theorem races_eq_one_iff {old new : Outline} :
    races old new = 1 <-> old.state = .closingLocal ∧ new.state = .closingRemote := by
  unfold races
  split <;> simp_all

/-- Only the receiver's close frame makes a connection answer. -/
theorem free_of_races {old new : Outline}
    (hchange : Change old new) (hraces : races old new = 1) : old.task = .free := by
  rcases races_eq_one_iff.mp hraces with ⟨hold, hnew⟩
  cases hchange with
  | beginFarewell htask hwriter hstate hlength => exact htask
  | begin htask hstate hwriter hpayload hframe => exact htask
  | ask htask hstate hrole hbuffer => cases hnew
  | failOpening htask hcontent => cases hnew
  | opened htask => cases hnew
  | fall htask hheld hwriter hfailure => cases hnew
  | leave htask hwriter hcontent => cases hnew
  | _ => exact absurd (hold.symm.trans hnew) (by simp)

end Outline

/-!
## Any moves
-/

namespace Connection

/-- The receiver waits for the lock to answer a close frame that is not an
answer, and a caller has sent a close frame since it was read. -/
def isOvertaken (connection : Connection) : Bool :=
  connection.isFree && connection.core.state = .closingLocal &&
    match connection.receiver.map Receiver.phase with
    | some (.exiting (.closeReceived _ false)) => true
    | _ => false

/-- How often a connection that is closing goes back to answering. -/
def races : Connection -> List Move -> Nat
  | _, [] => 0
  | connection, next :: moves =>
      Outline.races connection.outline (connection.move next).outline
        + races (connection.move next) moves

theorem state_exit {connection : Connection} {writer : FrameWriter}
    (hwriter : connection.core.writer = some writer)
    (hstate : connection.core.state = .closingLocal) (outcome : Outcome) :
    (connection.exit outcome).core.state = .closingRemote <->
      exists frame, outcome = .closeReceived frame false := by
  have hsetPhase (phase : ReceiverPhase) : (connection.setPhase phase).core = connection.core := rfl
  unfold exit
  rw [hstate]
  cases outcome with
  | closeReceived frame reply =>
      cases reply with
      | true => simp [ConnectionState.isClosed, startTeardown, report, log, hsetPhase, hwriter]
      | false =>
          simp [ConnectionState.isClosed, startFarewell, report, record, log, hsetPhase, hwriter]
  | endOfStream =>
      simp [ConnectionState.isClosed, startTeardown, report, log, hsetPhase, hwriter]
  | stopped => simp [ConnectionState.isClosed, hsetPhase, hstate]
  | failed error =>
      simp [ConnectionState.isClosed, startTeardown, report, log, hsetPhase, hwriter, hstate]

theorem core_emit_all (connection : Connection) (listener : Option ListenerId)
    (signals : List Signal) :
    (signals.foldl (fun connection signal => connection.emit listener signal) connection).core =
      connection.core := by
  rcases exists_journal_emit connection listener signals with ⟨journal, hjournal⟩
  rw [hjournal]

theorem state_receive_iff {connection : Connection} {writer : FrameWriter}
    (hholder : connection.holder = none) (hwriter : connection.core.writer = some writer)
    (hstate : connection.core.state = .closingLocal) :
    (connection.move .receive).core.state = .closingRemote <-> connection.isOvertaken = true := by
  have hfree : connection.isFree = true := by simp [isFree, hholder]
  have hsame : ¬ connection.core.state = .closingRemote := by simp [hstate]
  cases hreceiver : connection.receiver with
  | none => simp [move, isOvertaken, hreceiver, hstate]
  | some receiver =>
      simp only [move, isOvertaken, hreceiver, Option.bind_some, Option.map_some, hfree, hstate]
      cases hphase : receiver.phase with
      | exiting outcome =>
          simp only [receiverStep?, hphase, hfree, if_true, Option.getD_some]
          rw [state_exit hwriter hstate]
          cases outcome with
          | closeReceived frame reply => cases reply <;> simp
          | _ => simp
      | notifying listener =>
          simp [receiverStep?, hphase, notify, setPhase, mapReceiver, log, hstate]
      | _ =>
          simp only [receiverStep?, hphase]
          cases hstep : receiver.step? connection.config.limits with
          | none => simp [hstate]
          | some stepped =>
              rcases stepped with ⟨after, signals⟩
              simp [core_emit_all, hstate]

/-- The race is lost when the receiver takes the lock too late, and only then. -/
theorem races_move_iff {connection : Connection} (hreachable : connection.Reachable) (next : Move) :
    Outline.races connection.outline (connection.move next).outline = 1 <->
      next = .receive ∧ connection.isOvertaken = true := by
  have hstage := stage_of_reachable hreachable
  have hreceive (hholder : connection.holder = none)
      (hstate : connection.core.state = .closingLocal) :
      (connection.move .receive).core.state = .closingRemote <-> connection.isOvertaken = true := by
    rcases Outline.exists_writer_of_open hstage (Or.inr hstate) with ⟨writer, hwriter, _⟩
    exact state_receive_iff hholder hwriter hstate
  constructor
  · intro hraces
    have hholder := holder_of_task (Outline.free_of_races (change_of_move hstage next) hraces)
    rcases Outline.races_eq_one_iff.mp hraces with ⟨hbefore, hafter⟩
    have hstate : connection.core.state = .closingLocal := hbefore
    have hopened : connection.core.state ≠ .opened := by simp [hstate]
    have hdisconnected : connection.core.state ≠ .disconnected := by simp [hstate]
    cases next with
    | receive => exact And.intro rfl ((hreceive hholder hstate).mp hafter)
    | _ =>
        refine absurd
          ((state_move_of_free hholder hopened (fun _ _ _ => hdisconnected) ?_).symm.trans hafter) ?_
        · simp
        · simp [hstate]
  · rintro ⟨rfl, hovertaken⟩
    have hparts := hovertaken
    simp only [isOvertaken, Bool.and_eq_true, decide_eq_true_eq] at hparts
    have hholder : connection.holder = none := by simpa [isFree] using hparts.left.left
    have hstate := hparts.left.right
    exact Outline.races_eq_one_iff.mpr ⟨hstate, (hreceive hholder hstate).mpr hovertaken⟩

theorem closes_of_play (config : Config) (offered : List String) (listener : Option ListenerId)
    (moves : List Move) :
    ((fresh config offered listener).play moves).outline.Closes
      ((fresh config offered listener).races moves) := by
  have hmore (connection : Connection) (count : Nat) (hreachable : connection.Reachable)
      (hcloses : connection.outline.Closes count) :
      (connection.play moves).outline.Closes (count + connection.races moves) := by
    induction moves generalizing connection count with
    | nil => exact hcloses
    | cons next rest ih =>
        have hstage := stage_of_reachable hreachable
        have hnext := Outline.closes_change hstage (change_of_move hstage next) hcloses
        rw [races, ← Nat.add_assoc]
        exact ih _ _ (hreachable.play [next]) hnext
  have hfirst : (fresh config offered listener).outline.Closes 0 :=
    ⟨[], [], rfl, by simp, by simp, by simp [Outline.Closings, outline, fresh]⟩
  have hcloses := hmore _ 0 ⟨config, offered, listener, [], rfl⟩ hfirst
  rw [Nat.zero_add] at hcloses
  exact hcloses

/-- All close frames come last.  There is one at most, unless the receiver was
overtaken; then there are two, and this is the only way from closing to
answering. -/
theorem close_frames_of_play (config : Config) (offered : List String)
    (listener : Option ListenerId) (moves : List Move) :
    let first := fresh config offered listener
    (exists others closings : List Transmission,
        (first.play moves).transmissions = others ++ closings ∧
          (forall transmission, transmission ∈ others -> transmission.frame.opcode ≠ .close) ∧
          (forall transmission, transmission ∈ closings -> transmission.frame.opcode = .close) ∧
          (closings.length <= 1 <-> first.races moves = 0) ∧ closings.length <= 2) ∧
      forall (before after : List Move) (next : Move), moves = before ++ next :: after ->
        ((first.play before).core.state = .closingLocal ∧
            ((first.play before).move next).core.state = .closingRemote <->
          next = .receive ∧ (first.play before).isOvertaken = true) := by
  intro first
  constructor
  · rcases closes_of_play config offered listener moves with
      ⟨others, closings, hsplit, hothers, hall, hclosings⟩
    have hbounds := hclosings.bounds
    refine ⟨others, closings, hsplit, hothers, hall, ?_, ?_⟩
    · show closings.length <= 1 <-> (fresh config offered listener).races moves = 0
      omega
    · omega
  · intro before after next _
    have hreachable : (first.play before).Reachable := ⟨config, offered, listener, before, rfl⟩
    have hiff := races_move_iff hreachable next
    rw [Outline.races_eq_one_iff] at hiff
    exact hiff

def overtakingMoves : List Move :=
  [.supply [[0x88, 0x00]] none, .receive, .receive, .call .close, .hold, .hold, .hold, .receive]

/-- The client sends two close frames. -/
example : (sample.play overtakingMoves).transmissions.map (fun transmission =>
      (transmission.frame.opcode, transmission.call.isSome)) =
    [(.close, true), (.close, false)] := by
  decide +kernel

end Connection

end WebSocketClient
