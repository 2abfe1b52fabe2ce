import WebSocketClient.Proofs.Unattended
import WebSocketClient.Proofs.Veils

/-!
# Streams cut in any way

What a server sends counts by its octets.  A connection that nobody uses after its
opening handshake comes to the same end whether they arrive at once or little by
little, with the answer or behind it, and wherever the chunks are cut.
-/

namespace WebSocketClient

namespace Connection

/-- What is left to read, for the opening handshake or for the receiver. -/
def source? (connection : Connection) : Option Source :=
  match connection.holder.bind Holder.attempt? with
  | some attempt => some attempt.source
  | none => connection.receiver.map Receiver.source

/-- The late connection is the early one after more has arrived. -/
def Lags (more : Bytes) (ending : Option Ending) (early late : Connection) : Prop :=
  exists source, late = early.withSource source ∧
    forall read, early.source? = some read -> read.GoesOn more ending source

section Sources

variable {connection next : Connection} {receiver : Receiver}

theorem source?_finishTeardown (connection : Connection) :
    (connection.finishTeardown none).source? = connection.receiver.map Receiver.source := by
  show (connection.finishTeardown none).receiver.map Receiver.source = _
  cases hreceiver : connection.receiver <;>
    simp [finishTeardown, mapReceiver, report, log, hreceiver]

theorem source?_startTeardown (connection : Connection) :
    (connection.startTeardown none).source? = connection.receiver.map Receiver.source := by
  have hreleased : (connection.releaseReceiver false).receiver.map Receiver.source =
      connection.receiver.map Receiver.source := by
    cases hreceiver : connection.receiver <;>
      simp [releaseReceiver, mapReceiver, hreceiver, Core.release]
  unfold startTeardown
  simp only
  split
  case h_1 => exact hreleased
  case h_2 =>
      rw [source?_finishTeardown]
      exact hreleased

theorem source?_startFarewell (connection : Connection) (payload : Bytes) :
    (connection.startFarewell payload).source? = connection.receiver.map Receiver.source := by
  unfold startFarewell
  split
  case h_1 => exact source?_startTeardown connection
  case h_2 => rfl

theorem source?_exit (hholder : connection.holder = none) (outcome : Outcome) :
    (connection.exit outcome).source? = connection.receiver.map Receiver.source := by
  have hphase (phase : ReceiverPhase) : (connection.setPhase phase).receiver.map Receiver.source =
      connection.receiver.map Receiver.source := by
    cases hreceiver : connection.receiver <;> simp [setPhase, mapReceiver, hreceiver]
  have hfinished : (connection.setPhase .finished).source? =
      connection.receiver.map Receiver.source := by
    rw [← hphase .finished, source?]
    simp [setPhase, mapReceiver, hholder]
  rcases connection.exit_cases outcome with hover | ⟨closing, _, hsame, hexit⟩
  · rw [hover]
    exact hfinished
  · have hclosing : closing.receiver.map Receiver.source =
        connection.receiver.map Receiver.source := by
      rw [hsame]
      exact hphase .closing
    rcases hexit with htorn | ⟨payload, hsaying⟩
    · rw [htorn]
      exact (source?_startTeardown closing).trans hclosing
    · rw [hsaying]
      exact (source?_startFarewell closing payload).trans hclosing

theorem source?_farewellStep {writing : Writing} {deadline : Nat}
    (hstep : connection.farewellStep? writing deadline = some next) :
    next.source? = connection.receiver.map Receiver.source := by
  unfold farewellStep? at hstep
  split at hstep
  case h_1 => cases hstep
  case h_2 =>
      split at hstep
      case h_1 =>
          cases hstep
          rfl
      case h_4 =>
          split at hstep
          case isTrue =>
              cases hstep
              exact source?_startTeardown _
          case isFalse => cases hstep
      all_goals
        cases hstep
        exact source?_startTeardown _

theorem source?_leavingStep {writer : FrameWriter} {writing : Writing} {deadline : Nat}
    (hstep : connection.leavingStep? writer writing deadline none = some next) :
    next.source? = connection.receiver.map Receiver.source := by
  unfold leavingStep? at hstep
  split at hstep
  case h_1 =>
      cases hstep
      rfl
  case h_4 =>
      split at hstep
      case isTrue =>
          cases hstep
          exact source?_finishTeardown _
      case isFalse => cases hstep
  all_goals
    cases hstep
    exact source?_finishTeardown _

theorem source?_requestStep {attempt : Attempt} {writing : Writing}
    (hreceiver : connection.receiver = none)
    (hstep : connection.requestStep? attempt writing = some next) :
    next.source? = none ∨ next.source? = some attempt.source := by
  unfold requestStep? at hstep
  split at hstep
  case h_1 =>
      cases hstep
      exact Or.inr rfl
  case h_2 =>
      cases hstep
      exact Or.inr rfl
  case h_3 =>
      cases hstep
      exact Or.inl (congrArg (Option.map Receiver.source) hreceiver)
  case h_4 => cases hstep

end Sources

/-!
## Moves of a connection that lags
-/

section Moves

variable {early late : Connection} {more : Bytes} {ending : Option Ending}

theorem readAnswer?_withSource {attempt : Attempt} {source : Source} {next : Connection}
    (hreceiver : early.receiver = none) (hgoes : attempt.source.GoesOn more ending source)
    (hstep : early.readAnswer? attempt = some next) :
    exists left, (early.withSource source).readAnswer? { attempt with source := source } =
        some (next.withSource left) ∧
      forall read, next.source? = some read -> read.GoesOn more ending left := by
  have hfailed (error : Error) : forall read, (early.failOpening error).source? = some read ->
      read.GoesOn more ending source := by
    intro read hread
    have hnothing : (early.failOpening error).source? = none :=
      congrArg (Option.map Receiver.source) hreceiver
    cases hnothing.symm.trans hread
  have hconfig : (early.withSource source).config = early.config := rfl
  have hoffered : (early.withSource source).offered = early.offered := rfl
  have hstands : Reading.Stands more ending
      (Handshake.readLines early.config.limits attempt.source)
      (Handshake.readLines early.config.limits source) := Handshake.readLines_stands hgoes
  simp only [readAnswer?, hconfig, hoffered] at hstep ⊢
  generalize Handshake.readLines early.config.limits attempt.source = soon at hstep hstands
  generalize Handshake.readLines early.config.limits source = late at hstands ⊢
  cases hstands with
  | waiting _ => cases hstep
  | ended => cases hstep
  | failed =>
      cases hstep
      exact ⟨source, rfl, hfailed _⟩
  | @done lines rest later hrest =>
      simp only at hstep ⊢
      split at hstep
      case h_1 hparse =>
          cases hstep
          exact ⟨source, rfl, hfailed _⟩
      case h_2 protocols hparse =>
          cases hstep
          refine ⟨later, rfl, fun read hread => ?_⟩
          cases hread
          exact hrest

theorem IsAlone.holderStep?_withSource (halone : early.IsAlone) {holder : Holder}
    (hholder : early.holder = some holder) {source : Source}
    (hgoes : forall read, early.source? = some read -> read.GoesOn more ending source)
    {next : Connection} (hstep : early.holderStep? holder = some next) :
    exists left, (early.withSource source).holderStep? (holder.withSource source) =
        some (next.withSource left) ∧
      forall read, next.source? = some read -> read.GoesOn more ending left := by
  cases halone with
  | free hnone _ => cases hnone.symm.trans hholder
  | @opening _ attempt hsome hattempt hreceiver =>
      cases hsome.symm.trans hholder
      have hread : early.source? = some attempt.source := by
        simp [source?, hholder, hattempt]
      cases holder with
      | requesting _ writing =>
          cases hattempt
          have hrequest := requestStep?_withSource early source attempt writing
          rw [show early.requestStep? attempt writing = some next from hstep] at hrequest
          refine ⟨source, hrequest, fun read hnext => hgoes read ?_⟩
          rcases source?_requestStep hreceiver hstep with hnone | hsame
          · cases hnone.symm.trans hnext
          · exact hread.trans (hsame.symm.trans hnext)
      | awaitingAnswer _ =>
          cases hattempt
          exact readAnswer?_withSource hreceiver (hgoes _ hread) hstep
      | _ => cases hattempt
  | @parting _ receiver hsome hcaller hreceiver hphase haborted =>
      cases hsome.symm.trans hholder
      have hsame (hnext : next.source? = early.receiver.map Receiver.source) :
          forall read, next.source? = some read -> read.GoesOn more ending source := by
        intro read hread
        refine hgoes read (Eq.trans ?_ (hnext.symm.trans hread))
        cases holder with
        | requesting _ _ => cases hcaller
        | awaitingAnswer _ => cases hcaller
        | _ => simp [source?, hholder, Holder.attempt?]
      cases holder with
      | farewell writing deadline =>
          have hlate := farewellStep?_withSource early source writing deadline
          rw [show early.farewellStep? writing deadline = some next from hstep] at hlate
          exact ⟨source, hlate, hsame (source?_farewellStep hstep)⟩
      | leaving writer writing deadline failure =>
          cases failure with
          | some error => cases hcaller
          | none =>
              have hlate := leavingStep?_withSource early source writer writing deadline
              rw [show early.leavingStep? writer writing deadline none = some next from hstep]
                at hlate
              exact ⟨source, hlate, hsame (source?_leavingStep hstep)⟩
      | _ => cases hcaller

/-- A step that the early receiver can make, the late one can make too, unless it is the
one with which it begins to wait. -/
theorem receiverStep?_withSource (hholder : early.holder = none) {receiver : Receiver}
    (hreceiver : early.receiver = some receiver)
    (hcalm : receiver.IsCalm early.config.limits) {source : Source}
    (hgoes : receiver.source.GoesOn more ending source) {next : Connection}
    (hstep : early.receiverStep? receiver = some next) :
    next = { early with receiver := some { receiver with phase := .parked } } ∧
        receiver.phase = .reading ∨
      exists left, (early.withSource source).receiverStep? (receiver.withSource source) =
          some (next.withSource left) ∧
        forall read, next.source? = some read -> read.GoesOn more ending left := by
  have hfree : early.isFree = true := by simp [isFree, hholder]
  have hfree' : (early.withSource source).isFree = true := by
    simp [isFree, withSource, hholder]
  have hsame (hnext : next.source? = early.receiver.map Receiver.source) :
      forall read, next.source? = some read -> read.GoesOn more ending source := by
    intro read hread
    rw [hnext, hreceiver] at hread
    cases hread
    exact hgoes
  unfold receiverStep? at hstep
  split at hstep
  case h_1 outcome hphase =>
      rw [if_pos hfree] at hstep
      cases hstep
      refine Or.inr ⟨source, ?_, hsame (source?_exit hholder outcome)⟩
      simp only [receiverStep?, Receiver.withSource, hphase, if_pos hfree']
      exact congrArg some (exit_withSource early source outcome)
  case h_2 listener hphase =>
      cases hstep
      refine Or.inr ⟨source, ?_, hsame ?_⟩
      · simp only [receiverStep?, Receiver.withSource, hphase]
        refine congrArg some ?_
        rw [notify_withSource, setPhase_withSource _ _ (by simp)]
      · simp [source?, setPhase, mapReceiver, notify, log, hholder, hreceiver]
  case h_3 hexiting hnotifying =>
      rcases Option.map_eq_some_iff.mp hstep with ⟨⟨after, signals⟩, hloop, hnext⟩
      simp only at hnext
      have hconfig : (early.withSource source).config = early.config := rfl
      have hloop' := Receiver.holdsStream_withSource (Receiver.holdsStream_of_step hloop) source
      rcases Receiver.step?_withSource hgoes hcalm.aborted hloop with
        ⟨hphase, _, rfl, rfl⟩ | ⟨left, hsteps, hleft, _⟩
      · exact Or.inl (And.intro hnext.symm hphase)
      · refine Or.inr ⟨left, ?_, ?_⟩
        · rw [receiverStep?_of_holdsStream hloop', hconfig, hsteps, Option.map_some, ← hnext,
            ← emit_withSource]
          refine congrArg some ?_
          simp [withSource, hholder]
          rfl
        · rcases exists_journal_tell { early with receiver := some after } after.listener
            signals with ⟨journal, hjournal, _⟩
          rw [← hnext, hjournal]
          intro read hread
          simp [source?, hholder] at hread
          exact hread ▸ hleft

theorem IsAlone.free_of_phase (halone : early.IsAlone) {receiver : Receiver}
    (hreceiver : early.receiver = some receiver) (hphase : receiver.phase ≠ .closing) :
    early.holder = none ∧ receiver.IsCalm early.config.limits ∧
      early.source? = some receiver.source := by
  cases halone with
  | opening _ _ hnone => cases hnone.symm.trans hreceiver
  | parting _ _ hsome hclosing _ =>
      cases hsome.symm.trans hreceiver
      exact absurd hclosing hphase
  | free hholder hcalm =>
      exact ⟨hholder, hcalm receiver hreceiver, by simp [source?, hholder, hreceiver]⟩

theorem phase_ne_closing_of_receiverStep {receiver : Receiver} {next : Connection}
    (hstep : early.receiverStep? receiver = some next) : receiver.phase ≠ .closing := by
  intro hclosing
  rw [receiverStep?_of_closing hclosing] at hstep
  cases hstep

theorem Lags.hold (hlags : Lags more ending early late) (halone : early.IsAlone) :
    Lags more ending (early.move .hold) late ∨
      Lags more ending (early.move .hold) (late.move .hold) := by
  rcases hlags with ⟨source, rfl, hgoes⟩
  cases hholder : early.holder with
  | none =>
      left
      simp only [Connection.move, hholder, Option.bind_none, Option.getD_none]
      exact ⟨source, rfl, hgoes⟩
  | some holder =>
      cases hstep : early.holderStep? holder with
      | none =>
          left
          simp only [Connection.move, hholder, Option.bind_some, hstep, Option.getD_none]
          exact ⟨source, rfl, hgoes⟩
      | some next =>
          right
          rcases halone.holderStep?_withSource hholder hgoes hstep with ⟨left, hlate, hleft⟩
          have hholder' : (early.withSource source).holder = some (holder.withSource source) := by
            simp [withSource, hholder]
          simp only [Connection.move, hholder, hholder', Option.bind_some, hstep, hlate,
            Option.getD_some]
          exact ⟨left, rfl, hleft⟩

theorem Lags.receive (hlags : Lags more ending early late) (halone : early.IsAlone) :
    Lags more ending (early.move .receive) late ∨
      Lags more ending (early.move .receive) (late.move .receive) := by
  rcases hlags with ⟨source, rfl, hgoes⟩
  cases hreceiver : early.receiver with
  | none =>
      left
      simp only [Connection.move, hreceiver, Option.bind_none, Option.getD_none]
      exact ⟨source, rfl, hgoes⟩
  | some receiver =>
      cases hstep : early.receiverStep? receiver with
      | none =>
          left
          simp only [Connection.move, hreceiver, Option.bind_some, hstep, Option.getD_none]
          exact ⟨source, rfl, hgoes⟩
      | some next =>
          simp only [Connection.move, hreceiver, Option.bind_some, hstep, Option.getD_some]
          rcases halone.free_of_phase hreceiver (phase_ne_closing_of_receiverStep hstep) with
            ⟨hholder, hcalm, hread⟩
          rcases receiverStep?_withSource hholder hreceiver hcalm (hgoes _ hread) hstep with
            ⟨rfl, hphase⟩ | ⟨left, hlate, hleft⟩
          · refine Or.inl ⟨source, ?_, ?_⟩
            · simp [withSource, hreceiver, Receiver.withSource, hphase]
            · intro read hparked
              refine hgoes read (hread.trans ?_)
              simpa [source?, hholder] using hparked
          · right
            have hreceiver' : (early.withSource source).receiver =
                some (receiver.withSource source) := by simp [withSource, hreceiver]
            simp only [hreceiver', Option.bind_some, hlate, Option.getD_some]
            exact ⟨left, rfl, hleft⟩

theorem source?_supply (connection : Connection) (chunks : List Bytes) (ending : Option Ending) :
    (connection.supply chunks ending).source? =
      connection.source?.map fun source => source.extend chunks ending := by
  cases hholder : connection.holder with
  | none => cases hreceiver : connection.receiver <;>
      simp [source?, supply, hholder, hreceiver, Receiver.arrive]
  | some holder => cases holder <;> cases hreceiver : connection.receiver <;>
      simp [source?, supply, hholder, hreceiver, Receiver.arrive, Holder.arrive, Holder.attempt?]

theorem withSource_supply (connection : Connection) (chunks : List Bytes)
    (ending : Option Ending) (source : Source) :
    (connection.supply chunks ending).withSource source = connection.withSource source := by
  have hholder (holder : Holder) :
      (holder.arrive chunks ending).withSource source = holder.withSource source := by
    cases holder <;> rfl
  simp [supply, withSource, Function.comp_def, hholder, Receiver.withSource_arrive]

theorem Lags.supply {chunks : List Bytes} {known : Option Ending}
    (hlags : Lags (chunks.flatten ++ more) (known <|> ending) early late)
    (hlast : known = none ∨ more = []) :
    Lags more ending (early.supply chunks known) late := by
  rcases hlags with ⟨source, rfl, hgoes⟩
  refine ⟨source, (withSource_supply early chunks known source).symm, ?_⟩
  intro read hread
  rw [source?_supply, Option.map_eq_some_iff] at hread
  rcases hread with ⟨before, hbefore, rfl⟩
  exact (hgoes before hbefore).extend hlast

/-- Whatever the early connection does while the rest arrives, the late one can do too. -/
theorem Lags.play {source : Source} {moves : List Move}
    (hlags : Lags (Source.arrivals moves).bytes (Source.arrivals moves).ending early late)
    (halone : early.IsAlone) (harrivals : forall move, move ∈ moves -> move.isArrival = true)
    (hlast : source.EndsLast moves) :
    exists own, (forall move, move ∈ own -> move = .hold ∨ move = .receive) ∧
      Lags [] none (early.play moves) (late.play own) := by
  induction moves generalizing early late source with
  | nil => exact ⟨[], by simp, hlags⟩
  | cons next rest ih =>
      rcases Source.arrivals_cons next rest with ⟨hbytes, hending⟩
      rw [hbytes, hending] at hlags
      have hnext := harrivals next List.mem_cons_self
      have hrest : forall move, move ∈ rest -> move.isArrival = true := fun move hmove =>
        harrivals move (List.mem_cons_of_mem next hmove)
      have hown (hnothing : Lags (Source.arrivals rest).bytes (Source.arrivals rest).ending
          (early.move next) late ∨ Lags (Source.arrivals rest).bytes
            (Source.arrivals rest).ending (early.move next) (late.move next))
          (hkind : next = .hold ∨ next = .receive) :
          exists own, (forall move, move ∈ own -> move = .hold ∨ move = .receive) ∧
            Lags [] none (early.play (next :: rest)) (late.play own) := by
        rcases hnothing with hlags | hlags
        · exact ih hlags (halone.move hnext) hrest hlast.right
        · rcases ih hlags (halone.move hnext) hrest hlast.right with ⟨own, hown, hplay⟩
          refine ⟨next :: own, fun move hmove => ?_, hplay⟩
          rcases List.mem_cons.mp hmove with rfl | hmove
          · exact hkind
          · exact hown move hmove
      cases next with
      | hold => exact hown (hlags.hold halone) (Or.inl rfl)
      | receive => exact hown (hlags.receive halone) (Or.inr rfl)
      | supply chunks known =>
          refine ih (hlags.supply ?_) (halone.move hnext) hrest hlast.right
          refine hlast.right.isOpen.imp_left fun hnone => ?_
          cases known with
          | none => rfl
          | some known =>
              change (source.ending <|> some known) = none at hnone
              cases hending : source.ending <;> simp [hending] at hnone
      | _ => cases hnext

/-!
## At rest
-/

theorem withSource_withSource (connection : Connection) (first second : Source) :
    (connection.withSource first).withSource second = connection.withSource second := by
  have hholder (holder : Holder) :
      (holder.withSource first).withSource second = holder.withSource second := by
    cases holder <;> rfl
  have hreceiver (receiver : Receiver) :
      (receiver.withSource first).withSource second = receiver.withSource second := by
    cases hphase : receiver.phase <;> simp [Receiver.withSource, hphase]
  simp [withSource, Function.comp_def, hholder, hreceiver]

theorem source?_withSource (connection : Connection) (source : Source) :
    (connection.withSource source).source? = connection.source?.map fun _ => source := by
  cases hholder : connection.holder with
  | none => cases hreceiver : connection.receiver <;>
      simp [source?, withSource, hholder, hreceiver, Receiver.withSource]
  | some holder => cases holder <;> cases hreceiver : connection.receiver <;>
      simp [source?, withSource, hholder, hreceiver, Receiver.withSource, Holder.withSource,
        Holder.attempt?]

theorem IsAlone.withSource_self (halone : early.IsAlone)
    (hawake : forall receiver, early.receiver = some receiver -> receiver.phase ≠ .parked) :
    exists read, early.withSource read = early ∧
      forall source, early.source? = some source -> source = read := by
  have hself {read : Source}
      (hholder : forall holder, early.holder = some holder -> holder.withSource read = holder)
      (hreceiver : forall receiver, early.receiver = some receiver -> receiver.source = read) :
      early.withSource read = early := by
    have hsame : early.holder.map (fun holder => holder.withSource read) = early.holder := by
      cases hsome : early.holder with
      | none => rfl
      | some holder => exact congrArg some (hholder holder hsome)
    have hsame' : early.receiver.map (fun receiver => receiver.withSource read) =
        early.receiver := by
      cases hsome : early.receiver with
      | none => rfl
      | some receiver =>
          rw [Option.map_some, Receiver.withSource_of_phase (hawake receiver hsome),
            ← hreceiver receiver hsome]
    rw [withSource, hsame, hsame']
  cases halone with
  | @opening holder attempt hholder hattempt hreceiver =>
      refine ⟨attempt.source, hself (fun other hother => ?_) fun receiver hsome => ?_, ?_⟩
      · cases hholder.symm.trans hother
        cases holder <;> cases hattempt <;> rfl
      · cases hreceiver.symm.trans hsome
      · simp [source?, hholder, hattempt]
  | free hholder _ =>
      cases hreceiver : early.receiver with
      | none =>
          exact ⟨{}, hself (by simp [hholder]) (by simp [hreceiver]),
            by simp [source?, hholder, hreceiver]⟩
      | some receiver =>
          exact ⟨receiver.source, hself (by simp [hholder]) (by simp [hreceiver]),
            by simp [source?, hholder, hreceiver]⟩
  | @parting holder receiver hholder hcaller hreceiver _ _ =>
      refine ⟨receiver.source, hself (fun other hother => ?_) (by simp [hreceiver]), ?_⟩
      · cases hholder.symm.trans hother
        cases holder with
        | requesting _ _ => cases hcaller
        | awaitingAnswer _ => cases hcaller
        | _ => rfl
      · cases holder with
        | requesting _ _ => cases hcaller
        | awaitingAnswer _ => cases hcaller
        | _ => simp [source?, hholder, hreceiver, Holder.attempt?]

theorem IsAlone.rest_withSource (halone : early.IsAlone) {source : Source}
    (halone' : (early.withSource source).IsAlone)
    (hgoes : forall read, early.source? = some read -> read.GoesOn [] none source)
    (hawake : forall receiver, early.receiver = some receiver -> receiver.phase ≠ .parked)
    (hrest : early.step? = none) : (early.withSource source).step? = none := by
  rcases halone.withSource_self hawake with ⟨read, hself, hread⟩
  have hback : (early.withSource source).withSource read = early := by
    rw [withSource_withSource, hself]
  have hgoes' : forall old, (early.withSource source).source? = some old ->
      old.GoesOn [] none read := by
    intro old hold
    rw [source?_withSource, Option.map_eq_some_iff] at hold
    rcases hold with ⟨before, hbefore, rfl⟩
    rw [← hread before hbefore]
    exact (hgoes before hbefore).symm
  rcases step?_eq_none_iff.mp hrest with ⟨hhold, hreceive⟩
  rw [step?_eq_none_iff]
  constructor
  · rw [Option.bind_eq_none_iff]
    intro holder hholder
    cases hstep : (early.withSource source).holderStep? holder with
    | none => rfl
    | some next =>
        rcases halone'.holderStep?_withSource hholder hgoes' hstep with ⟨left, hearly, _⟩
        rw [hback] at hearly
        have hholder' : early.holder = some (holder.withSource read) := by
          conv => lhs; rw [← hback]
          exact congrArg (Option.map fun (holder : Holder) => holder.withSource read) hholder
        rw [hholder', Option.bind_some, hearly] at hhold
        cases hhold
  · rw [Option.bind_eq_none_iff]
    intro receiver hreceiver
    have hreceiver' : early.receiver = some (receiver.withSource read) := by
      conv => lhs; rw [← hback]
      exact congrArg (Option.map fun (receiver : Receiver) => receiver.withSource read) hreceiver
    rw [hreceiver', Option.bind_some] at hreceive
    cases hstep : (early.withSource source).receiverStep? receiver with
    | none => rfl
    | some next =>
        rcases halone'.free_of_phase hreceiver (phase_ne_closing_of_receiverStep hstep) with
          ⟨hholder, hcalm, hold⟩
        rcases receiverStep?_withSource hholder hreceiver hcalm (hgoes' _ hold) hstep with
          ⟨_, hphase⟩ | ⟨left, hearly, _⟩
        · rw [Receiver.withSource_of_phase (by simp [hphase])] at hreceive
          simp [receiverStep?, Receiver.step?, hphase] at hreceive
        · rw [hback, hreceive] at hearly
          cases hearly

theorem IsAlone.receive_of_parked (halone : early.IsAlone) {receiver : Receiver}
    (hreceiver : early.receiver = some receiver) (hphase : receiver.phase = .parked)
    {source : Source} (hgoes : receiver.source.GoesOn [] none source) :
    (early.withSource source).move .receive =
        { early with receiver := some { receiver with source := source } } ∧
      ((early.withSource source).move .receive).step? = none := by
  rcases halone.free_of_phase hreceiver (by simp [hphase]) with ⟨hholder, hcalm, _⟩
  have hstands : Reading.Stands [] none
      (receiver.assembly.readFrame early.config.limits receiver.source)
      (receiver.assembly.readFrame early.config.limits source) := Assembly.readFrame_stands hgoes
  have hwaits : receiver.assembly.readFrame early.config.limits source = .waiting := by
    rw [hcalm.waits hphase] at hstands
    cases hstands with
    | waiting hlate => exact hlate rfl rfl
  have hmove : (early.withSource source).move .receive =
      { early with receiver := some { receiver with source := source } } := by
    simp [Connection.move, withSource, hreceiver, Receiver.withSource, hphase, receiverStep?,
      Receiver.step?, Receiver.readFrame, hwaits, hcalm.aborted, hholder]
  refine And.intro hmove ?_
  rw [hmove]
  simp [step?, hholder, receiverStep?, Receiver.step?, hphase]

theorem Lags.rest (hlags : Lags [] none early late) (halone : early.IsAlone)
    (halone' : late.IsAlone) (hrest : early.step? = none) :
    exists own source, (forall move, move ∈ own -> move = .hold ∨ move = .receive) ∧
      (late.play own).step? = none ∧
      (late.play own).withSource source = early.withSource source ∧
      (late.play own).source?.map Source.bytes = early.source?.map Source.bytes := by
  rcases hlags with ⟨source, rfl, hgoes⟩
  have hbytes (other : Connection) (hother : other.source? = early.source?.map fun _ => source) :
      other.source?.map Source.bytes = early.source?.map Source.bytes := by
    rw [hother]
    cases hread : early.source? with
    | none => rfl
    | some read =>
        exact congrArg some ((hgoes read hread).eq_of_nothing rfl rfl).left
  by_cases hparked : exists receiver, early.receiver = some receiver ∧ receiver.phase = .parked
  · rcases hparked with ⟨receiver, hreceiver, hphase⟩
    rcases halone.free_of_phase hreceiver (by simp [hphase]) with ⟨hholder, _, hread⟩
    rcases halone.receive_of_parked hreceiver hphase (hgoes _ hread) with ⟨hmove, hstays⟩
    refine ⟨[.receive], source, by simp, hstays, ?_, hbytes _ ?_⟩
    · rw [play_cons, play_nil, hmove]
      simp [withSource, hreceiver, Receiver.withSource]
    · rw [play_cons, play_nil, hmove]
      simp [source?, hholder, hreceiver]
  · have hawake : forall receiver, early.receiver = some receiver ->
        receiver.phase ≠ .parked := fun receiver hreceiver hphase =>
      hparked ⟨receiver, hreceiver, hphase⟩
    exact ⟨[], source, by simp, halone.rest_withSource halone' hgoes hawake hrest,
      withSource_withSource early source source, hbytes _ (source?_withSource early source)⟩

end Moves

/-!
## The opening handshake
-/

end Connection

def Duplex.withSource (source : Source) (duplex : Duplex) : Duplex :=
  { duplex with source := source }

def Opening.withSource (opening : Opening) (source : Source) : Opening :=
  { opening with stream := opening.stream.map (Duplex.withSource source) }

def Dial.withSource (dial : Dial) (source : Source) : Dial :=
  match dial with
  | reached stream => reached (stream.withSource source)
  | _ => dial

def Move.connectOver (opening : Opening) (dial : Dial) (source : Source) : Move :=
  .connect (opening.withSource source) (dial.withSource source)

theorem Opening.streamTo_withSource (opening : Opening) (dial : Dial) (source : Source)
    (endpoint : Endpoint) :
    (opening.withSource source).streamTo (dial.withSource source) endpoint =
      (opening.streamTo dial endpoint).map (Duplex.withSource source) := by
  cases hstream : opening.stream with
  | some stream => simp [streamTo, withSource, hstream, Except.map]
  | none =>
      cases hsecure : endpoint.secure <;> cases dial <;>
        simp [streamTo, withSource, hstream, Dial.openTo, Dial.withSource, hsecure, Except.map]

namespace Connection

section Connect

variable {connection : Connection}

theorem IsIdle.startOpening_withSource (hidle : connection.IsIdle) (opening : Opening)
    (dial : Dial) (source : Source) :
    let after := connection.startOpening (opening.withSource source) (dial.withSource source)
    after = (connection.startOpening opening dial).withSource source ∧
      forall read, after.source? = some read -> read = source := by
  intro after
  have hnothing {other : Connection} (hholder : other.holder = none)
      (hreceiver : other.receiver = none) : other = other.withSource source ∧
      forall read, other.source? = some read -> read = source := by
    have hsame : other.holder.map (fun holder => holder.withSource source) = other.holder := by
      rw [hholder, Option.map_none]
    have hsame' : other.receiver.map (fun receiver => receiver.withSource source) =
        other.receiver := by rw [hreceiver, Option.map_none]
    constructor
    · rw [Connection.withSource, hsame, hsame']
    · simp [source?, hholder, hreceiver]
  have hprepare : connection.prepare (opening.withSource source) = connection.prepare opening :=
    rfl
  simp only [after, startOpening, hprepare]
  split
  case h_1 => exact hnothing hidle.holder hidle.receiver
  case h_2 =>
      split
      case h_1 => exact hnothing hidle.holder hidle.receiver
      case h_2 endpoint _ _ _ =>
          simp only [Opening.streamTo_withSource]
          cases opening.streamTo dial endpoint with
          | error error => exact hnothing rfl hidle.receiver
          | ok stream =>
              simp only [Except.map]
              constructor
              · simp [Connection.withSource, report, record, log, hidle.receiver,
                  Holder.withSource, Opening.withSource, Duplex.withSource]
              · intro read hread
                exact (Option.some.inj hread).symm

theorem IsIdle.isAlone_connect (hidle : connection.IsIdle) (opening : Opening) (dial : Dial)
    (source : Source) : (connection.move (.connectOver opening dial source)).IsAlone := by
  have hfree : connection.isFree = true := by simp [isFree, hidle.holder]
  simp only [Move.connectOver, move, if_pos hfree]
  exact isAlone_startOpening hidle _ _

theorem IsIdle.connect_withSource (hidle : connection.IsIdle) (opening : Opening) (dial : Dial)
    (source : Source) :
    let after := connection.move (.connectOver opening dial source)
    after = (connection.startOpening opening.afresh dial.afresh).withSource source ∧
      forall read, after.source? = some read -> read = source := by
  have hfree : connection.isFree = true := by simp [isFree, hidle.holder]
  have hopening : (opening.withSource source).afresh = opening.afresh.withSource source := by
    cases hstream : opening.stream <;>
      simp [Opening.withSource, Opening.afresh, hstream, Duplex.withSource, Duplex.afresh]
  have hdial : (dial.withSource source).afresh = dial.afresh.withSource source := by
    cases dial <;> rfl
  simp only [Move.connectOver, move, if_pos hfree, hopening, hdial]
  exact hidle.startOpening_withSource opening.afresh dial.afresh source

/-- A connection whose octets arrive little by little comes to rest where it comes to rest
when they are all there from the beginning. -/
theorem IsIdle.rest_of_arrivals (hidle : connection.IsIdle) (opening : Opening) (dial : Dial)
    {source whole : Source} {moves : List Move}
    (harrivals : forall move, move ∈ moves -> move.isArrival = true)
    (hlast : source.EndsLast moves)
    (hbytes : whole.bytes = (source.afterMoves moves).bytes)
    (hending : whole.ending = (source.afterMoves moves).ending)
    (hrest : (connection.play (.connectOver opening dial source :: moves)).step? = none) :
    exists own left, (forall move, move ∈ own -> move = .hold ∨ move = .receive) ∧
      let late := connection.play (.connectOver opening dial whole :: own)
      let early := connection.play (.connectOver opening dial source :: moves)
      late.step? = none ∧ late.withSource left = early.withSource left ∧
        late.source?.map Source.bytes = early.source?.map Source.bytes := by
  have halone (source : Source) := hidle.isAlone_connect opening dial source
  rcases hidle.connect_withSource opening dial source with ⟨hearly, hread⟩
  rcases hidle.connect_withSource opening dial whole with ⟨hlate, _⟩
  have hgoes := hlast.goesOn
  have hlags : Lags (Source.arrivals moves).bytes (Source.arrivals moves).ending
      (connection.move (.connectOver opening dial source))
      (connection.move (.connectOver opening dial whole)) := by
    refine ⟨whole, ?_, fun read hsome => ?_⟩
    · rw [hearly, hlate, withSource_withSource]
    · rw [hread read hsome]
      exact ⟨hbytes.trans hgoes.bytes, hending.trans hgoes.ending, hgoes.isOpen⟩
  rcases hlags.play (halone source) harrivals hlast with ⟨own, hown, hplay⟩
  have hownArrivals : forall move, move ∈ own -> move.isArrival = true := by
    intro move hmove
    rcases hown move hmove with rfl | rfl <;> rfl
  rcases hplay.rest ((halone source).play harrivals) ((halone whole).play hownArrivals) hrest with
    ⟨more, left, hmore, hstays, hsame, hleft⟩
  refine ⟨own ++ more, left, fun move hmove => ?_, ?_⟩
  · exact (List.mem_append.mp hmove).elim (hown move) (hmore move)
  · rw [play_cons, play_append]
    exact ⟨hstays, hsame, hleft⟩

theorem IsIdle.rest_of_recut (hidle : connection.IsIdle) (opening : Opening) (dial : Dial)
    {source source' : Source} {moves moves' : List Move}
    (harrivals : forall move, move ∈ moves ++ moves' -> move.isArrival = true)
    (hlast : source.EndsLast moves) (hlast' : source'.EndsLast moves')
    (hbytes : (source'.afterMoves moves').bytes = (source.afterMoves moves).bytes)
    (hending : (source'.afterMoves moves').ending = (source.afterMoves moves).ending)
    (hrest : (connection.play (.connectOver opening dial source :: moves)).step? = none)
    (hrest' : (connection.play (.connectOver opening dial source' :: moves')).step? = none) :
    let early := connection.play (.connectOver opening dial source :: moves)
    let late := connection.play (.connectOver opening dial source' :: moves')
    late.withSource {} = early.withSource {} ∧
      late.source?.map Source.bytes = early.source?.map Source.bytes := by
  intro early late
  rcases hidle.rest_of_arrivals opening dial (fun move hmove => harrivals move
    (List.mem_append_left moves' hmove)) hlast rfl rfl hrest with
    ⟨own, left, hown, hstays, hsame, hbytes₁⟩
  rcases hidle.rest_of_arrivals opening dial (fun move hmove => harrivals move
    (List.mem_append_right moves hmove)) hlast' hbytes.symm hending.symm hrest' with
    ⟨own', left', hown', hstays', hsame', hbytes₂⟩
  rw [play_cons] at hstays hstays' hsame hsame' hbytes₁ hbytes₂
  rw [(hidle.isAlone_connect _ _ _).rest_unique hown' hown hstays' hstays] at hsame' hbytes₂
  constructor
  · have hboth := congrArg (fun other => other.withSource {}) hsame
    have hboth' := congrArg (fun other => other.withSource {}) hsame'
    simp only [withSource_withSource] at hboth hboth'
    exact hboth'.symm.trans hboth
  · exact hbytes₂.symm.trans hbytes₁

/-- The two connections did the same and are in the same state, except for masking keys, the
octets on the way out and the cuts between the octets that are left to read. -/
structure EndsLike (late early : Connection) : Prop where
  /-- What came of the handshake, the callbacks, the frames and the diagnostics, in the same
  order. -/
  journal : late.journal.map Entry.unmasked = early.journal.map Entry.unmasked
  callbacks : late.callbacks = early.callbacks
  transmissions : late.transmissions.map Transmission.unmasked =
    early.transmissions.map Transmission.unmasked
  state : late.core.state = early.core.state
  whole : late.veil.withSource {} = early.veil.withSource {}
  unread : late.source?.map Source.bytes = early.source?.map Source.bytes

theorem source?_veil (connection : Connection) : connection.veil.source? = connection.source? := by
  cases hholder : connection.holder with
  | none => simp [source?, veil, hholder]
  | some holder => cases holder <;> simp [source?, veil, hholder, Holder.veil, Holder.attempt?,
      Attempt.veil]

theorem veil_withSource (connection : Connection) (source : Source) :
    (connection.withSource source).veil = connection.veil.withSource source := by
  have hholder (holder : Holder) :
      (holder.withSource source).veil = holder.veil.withSource source := by
    cases holder <;> rfl
  simp [veil, withSource, Function.comp_def, hholder]

/-- It does not matter how the octets that a server sends are cut, nor which of them are
there together with its answer, nor which keys mask the frames of the client: once nothing
moves any more, the same has come of the opening handshake, the listener has been told the
same, the same frames have been sent, and the connection is in the same state. -/
theorem endsLike_of_split (hidle : connection.IsIdle) (opening : Opening) (dial : Dial)
    (keys : MaskKeys) {source source' : Source} {moves moves' : List Move}
    (harrivals : forall move, move ∈ moves ++ moves' -> move.isArrival = true)
    (hlast : source.EndsLast moves) (hlast' : source'.EndsLast moves')
    (hbytes : (source'.afterMoves moves').bytes = (source.afterMoves moves).bytes)
    (hending : (source'.afterMoves moves').ending = (source.afterMoves moves).ending) :
    let early := connection.play (.connectOver opening dial source :: moves)
    let late := connection.play
      ((Move.connectOver opening dial source').withKeys keys :: moves')
    early.step? = none -> late.step? = none -> late.EndsLike early := by
  intro early late hrest hrest'
  let other := connection.play (.connectOver opening dial source' :: moves')
  have hkeys : moves'.map (fun next => next.withKeys keys) = moves' := by
    refine (List.map_congr_left fun next hnext => ?_).trans (List.map_id moves')
    have harrival := harrivals next (List.mem_append_right moves hnext)
    cases next <;> first | rfl | cases harrival
  have hveil : late.veil = other.veil := by
    have hplay := play_veil keys (rfl : connection.veil = connection.veil)
      (.connectOver opening dial source' :: moves')
    rw [List.map_cons, hkeys] at hplay
    exact hplay
  rcases hidle.rest_of_recut opening dial harrivals hlast hlast' hbytes hending hrest
    (rest_of_veil hveil hrest') with ⟨hsame, hunread⟩
  have hjournal : late.journal.map Entry.unmasked = early.journal.map Entry.unmasked :=
    (congrArg journal hveil).trans (congrArg (fun other => other.journal.map Entry.unmasked) hsame)
  constructor
  case journal => exact hjournal
  case callbacks =>
      rw [← callbacks_veil late, ← callbacks_veil early]
      exact congrArg Journal.callbacks hjournal
  case transmissions =>
      rw [← transmissions_veil late, ← transmissions_veil early]
      exact congrArg Journal.transmissions hjournal
  case state =>
      exact (congrArg (fun other => other.core.state) hveil).trans
        (congrArg (fun other => other.core.state) hsame)
  case whole =>
      rw [hveil, ← veil_withSource, ← veil_withSource]
      exact congrArg veil hsame
  case unread =>
      rw [← source?_veil late, hveil, source?_veil]
      exact hunread

def samplePing : Bytes :=
  [0x89, 0x05, 0x68, 0x65, 0x6c, 0x6c, 0x6f]

/-- The ping comes in one piece with the answer, and then it comes octet by octet behind an
answer that is cut. -/
theorem endsLike_of_ping_in_pieces :
    let first := fresh { debug := false } [] (some 0)
    let whole : Source := ⟨[sampleAnswer ++ samplePing], none⟩
    let pieces : Source := ⟨[sampleAnswer.take 70, sampleAnswer.drop 70], none⟩
    let moves := List.replicate 4 .hold ++ List.replicate 5 .receive
    let moves' := List.replicate 4 .hold ++
      samplePing.flatMap (fun octet => [.receive, .receive, .supply [[octet]] none]) ++
      List.replicate 4 .receive
    let early := first.play (.connectOver sampleOpening .unknownHost whole :: moves)
    let late := first.play
      ((Move.connectOver sampleOpening .unknownHost pieces).withKeys ⟨5⟩ :: moves')
    late.EndsLike early ∧
      early.callbacks = [(0, .connected), (0, .ping (some [0x68, 0x65, 0x6c, 0x6c, 0x6f]))] := by
  intro first whole pieces moves moves' early late
  constructor
  · exact endsLike_of_split ⟨rfl, rfl, rfl⟩ sampleOpening .unknownHost ⟨5⟩ (by decide +kernel)
      (by decide +kernel) (by decide +kernel) (by decide +kernel) (by decide +kernel)
      (by decide +kernel) (by decide +kernel)
  · decide +kernel

end Connect

end Connection

end WebSocketClient
