import WebSocketClient.Proofs.Hearing

/-!
# Streams that go on

A receiver acts on what has come and not on what will come.  On a stream that goes on it
tells whatever it tells on one that stops before, and if something other than that stop
ended its loop there, this ends it here as well.
-/

namespace WebSocketClient

/-- The longer source has more octets behind those of the first, which ends with them. -/
structure Source.Continues (more : Bytes) (source longer : Source) : Prop where
  octets : longer.bytes = source.bytes ++ more
  ends : source.ending = some .endOfStream

namespace Receiver

variable {limits : Limits} {receiver next : Receiver} {longer : Source} {more : Bytes}
  {signals : List Signal}

def onStream (receiver : Receiver) (source : Source) : Receiver :=
  { receiver with source }

/-!
## One step
-/

/-- What a step of the receiver comes to is what it comes to on the longer stream. -/
def StepsAlike (more : Bytes) (step late : Receiver × List Signal) : Prop :=
  exists longer, step.1.source.Continues more longer ∧ late = (step.1.onStream longer, step.2)

theorem takeFrame_onStream {frame : Frame} {rest rest' : Source}
    (hlonger : receiver.source.Continues more longer) (hrest : rest.Continues more rest') :
    StepsAlike more (receiver.takeFrame frame rest)
      ((receiver.onStream longer).takeFrame frame rest') := by
  have hassembly : (receiver.onStream longer).assembly = receiver.assembly := rfl
  unfold takeFrame
  rw [hassembly]
  split
  case h_1 => exact ⟨longer, hlonger, rfl⟩
  case h_2 => exact ⟨longer, hlonger, rfl⟩
  case h_3 => exact ⟨rest', hrest, rfl⟩

theorem readFrame_onStream (limits : Limits) (hlonger : receiver.source.Continues more longer) :
    StepsAlike more (receiver.readFrame limits) ((receiver.onStream longer).readFrame limits) ∨
      ((receiver.readFrame limits).1.phase = .exiting .endOfStream ∧
        (receiver.readFrame limits).2 = []) := by
  have hreads : Reading.Outlasts more (receiver.assembly.readFrame limits receiver.source)
      (receiver.assembly.readFrame limits longer) := Assembly.readFrame_outlasts hlonger.octets
  have hminds : (receiver.assembly.readFrame limits receiver.source).Minds (some .endOfStream) :=
    Assembly.readFrame_minds hlonger.ends
  have hsame : (receiver.onStream longer).assembly.readFrame limits
      (receiver.onStream longer).source = receiver.assembly.readFrame limits longer := rfl
  unfold readFrame
  rw [hsame]
  generalize receiver.assembly.readFrame limits receiver.source = reading at hreads hminds ⊢
  generalize receiver.assembly.readFrame limits longer = reading' at hreads ⊢
  cases hminds with
  | done hending =>
      cases hreads with
      | done hrest => exact Or.inl (takeFrame_onStream hlonger ⟨hrest, hending⟩)
  | ended => exact Or.inr (And.intro rfl rfl)
  | failed hkind =>
      cases hreads with
      | failed => exact Or.inl ⟨longer, hlonger, rfl⟩
      | broken => cases hkind
  | broken hending => cases hending
  | waiting hending => cases hending

theorem step_onStream (hlonger : receiver.source.Continues more longer)
    (hstep : receiver.step? limits = some (next, signals)) :
    (exists longer', next.source.Continues more longer' ∧
        (receiver.onStream longer).step? limits = some (next.onStream longer', signals)) ∨
      (next.phase = .exiting .endOfStream ∧ signals = []) := by
  have hphase : (receiver.onStream longer).phase = receiver.phase := rfl
  unfold step? at hstep ⊢
  rw [hphase]
  split at hstep
  case h_1 =>
      cases hstep
      exact Or.inl ⟨longer, hlonger, rfl⟩
  case h_2 =>
      have hread : receiver.readFrame limits = (next, signals) := Option.some.inj hstep
      rcases readFrame_onStream limits hlonger with ⟨longer', hlonger', hlate⟩ | hended
      · rw [hread] at hlonger' hlate
        exact Or.inl ⟨longer', hlonger', congrArg some hlate⟩
      · rw [hread] at hended
        exact Or.inr hended
  case h_3 =>
      cases hstep
      exact Or.inl ⟨longer, hlonger, rfl⟩
  all_goals cases hstep

/-!
## The whole loop
-/

theorem step_of_exiting {outcome : Outcome} (hphase : receiver.phase = .exiting outcome) :
    receiver.step? limits = none := by
  rw [step?, hphase]

theorem run_onStream (limits : Limits) (hlonger : receiver.source.Continues more longer) :
    (receiver.run limits).1 <+: ((receiver.onStream longer).run limits).1 ∧
      forall outcome, (receiver.run limits).2.phase = .exiting outcome ->
        outcome ≠ .endOfStream ->
        ((receiver.onStream longer).run limits).1 = (receiver.run limits).1 ∧
          ((receiver.onStream longer).run limits).2.phase = .exiting outcome := by
  -- On the longer stream the same steps are taken, until the shorter one ends.
  induction hwork : receiver.work using Nat.strongRecOn generalizing receiver longer with
  | ind n ih =>
      cases hstep : receiver.step? limits with
      | none =>
          rw [run_of_step_eq_none hstep]
          refine And.intro List.nil_prefix ?_
          intro outcome hphase _
          have hlate : (receiver.onStream longer).phase = .exiting outcome := hphase
          rw [run_of_step_eq_none (step_of_exiting hlate)]
          exact And.intro rfl hlate
      | some taken =>
          rcases taken with ⟨next, signals⟩
          rw [run_of_step hstep]
          rcases step_onStream hlonger hstep with ⟨longer', hlonger', hstep'⟩ | ⟨hended, rfl⟩
          · rcases ih _ (hwork ▸ work_of_step hstep) hlonger' rfl with ⟨hfront, hsame⟩
            rw [run_of_step hstep']
            refine And.intro ((List.prefix_append_right_inj signals).mpr hfront) ?_
            intro outcome hphase hverdict
            rcases hsame outcome hphase hverdict with ⟨hsignals, hlast⟩
            exact And.intro (congrArg (signals ++ ·) hsignals) hlast
          · rw [run_of_step_eq_none (step_of_exiting hended)]
            refine And.intro List.nil_prefix ?_
            intro outcome hphase hverdict
            exact absurd (ReceiverPhase.exiting.inj (hphase.symm.trans hended)) hverdict

/-- A receiver on a stream that ends hears the end, a close frame or what the server must
not send.  What it tells is the front of what it tells on any stream that goes on after
the same octets, however that is cut and ends, and if it was not the end that it heard,
it tells the same there and its loop ends for the same reason. -/
theorem events_of_longer_stream (limits : Limits) (chunks longer : List Bytes) (more : Bytes)
    (ending : Option Ending) (awaitingClose : Bool) (listener : Option ListenerId)
    (hlonger : longer.flatten = chunks.flatten ++ more) :
    let early : Receiver := { source := ⟨chunks, some .endOfStream⟩, listener, awaitingClose }
    let late : Receiver := { source := ⟨longer, ending⟩, listener, awaitingClose }
    events (early.run limits).1 <+: events (late.run limits).1 ∧
      exists outcome, (early.run limits).2.phase = .exiting outcome ∧
        (outcome = .endOfStream ∨ (exists close, outcome = .closeReceived close awaitingClose) ∨
          exists error, outcome = .failed error ∧ error.kind = .protocol) ∧
        (outcome ≠ .endOfStream -> events (late.run limits).1 = events (early.run limits).1 ∧
          (late.run limits).2.phase = .exiting outcome) := by
  intro early late
  have hcontinues : early.source.Continues more late.source := ⟨hlonger, rfl⟩
  have htells : early.assembly.Tells [] none [] := Assembly.tells_nil
  rcases run_onStream limits hcontinues with ⟨hfront, hsame⟩
  rcases @exists_hears limits early _ _ _ rfl rfl rfl htells with
    ⟨_, unfinished, _, _, left, outcome, hhears, _, hends⟩
  refine ⟨hfront.filterMap _, outcome, hhears.exits, ?_, ?_⟩
  · cases outcome with
    | endOfStream => exact Or.inl rfl
    | closeReceived close reply =>
        obtain rfl : reply = awaitingClose := hends.left
        exact Or.inr (Or.inl ⟨close, rfl⟩)
    | stopped => cases hends
    | failed error => exact Or.inr (Or.inr ⟨error, rfl, hends.left⟩)
  · intro hverdict
    rcases hsame outcome hhears.exits hverdict with ⟨hsignals, hlast⟩
    exact And.intro (congrArg events hsignals) hlast

/-- A text and the front of a ping, which the longer stream completes; and a text and a
reserved opcode, which ends the loop whatever comes after it. -/
theorem events_of_cut_ping :
    let receiver : Bytes -> Receiver := fun octets =>
      { source := ⟨[octets], some .endOfStream⟩, listener := some 0 }
    let heard : Bytes -> List Event := fun octets => events ((receiver octets).run {}).1
    let hi : Bytes := [0x81, 0x02, 0x68, 0x69]
    (heard (hi ++ [0x89]) = [.message (.text "hi")] ∧
        heard (hi ++ [0x89, 0x00]) = [.message (.text "hi"), .ping none] ∧
        heard (hi ++ [0x89]) <+: heard (hi ++ [0x89, 0x00])) ∧
      heard (hi ++ [0x83, 0x00, 0xFF]) = heard (hi ++ [0x83, 0x00]) ∧
        ((receiver (hi ++ [0x83, 0x00, 0xFF])).run {}).2.phase =
          .exiting (.failed (.reservedOpcode 3)) := by
  intro receiver heard hi
  have hcut := events_of_longer_stream {} [hi ++ [0x89]] [hi ++ [0x89, 0x00]] [0x00]
    (some .endOfStream) false (some 0) (by decide)
  have hrefused := events_of_longer_stream {} [hi ++ [0x83, 0x00]] [hi ++ [0x83, 0x00, 0xFF]]
    [0xFF] (some .endOfStream) false (some 0) (by decide)
  have hreason : ((receiver (hi ++ [0x83, 0x00])).run {}).2.phase =
      .exiting (.failed (.reservedOpcode 3)) := by decide +kernel
  rcases hrefused with ⟨_, outcome, hphase, _, hsame⟩
  cases hreason.symm.trans hphase
  exact And.intro ⟨by decide +kernel, by decide +kernel, hcut.left⟩ (hsame nofun)

end Receiver

end WebSocketClient
