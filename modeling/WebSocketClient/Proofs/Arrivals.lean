import WebSocketClient.Proofs.Lines
import WebSocketClient.Receiver.Assembly

/-!
# Reads while octets arrive

A read that has come to a result comes to the same result when everything that is yet
to arrive is there already, and leaves the same octets and what arrives behind them.
So it does not matter when octets arrive or where the chunks are cut.
-/

namespace WebSocketClient

namespace Source

/-- The later source is the first one after more has arrived, wherever the chunks are
cut.  Nothing arrives behind the end of the stream. -/
structure GoesOn (source : Source) (more : Bytes) (ending : Option Ending) (later : Source) :
    Prop where
  bytes : later.bytes = source.bytes ++ more
  ending : later.ending = (source.ending <|> ending)
  isOpen : source.ending = none ∨ more = []

theorem goesOn_refl (source : Source) : source.GoesOn [] none source :=
  ⟨(List.append_nil _).symm, by cases source.ending <;> rfl, Or.inr rfl⟩

section GoesOn

variable {source later : Source} {more : Bytes} {ending : Option Ending}

theorem GoesOn.of_ending {known : Ending} (hgoes : source.GoesOn more ending later)
    (hknown : source.ending = some known) :
    more = [] ∧ later.bytes = source.bytes ∧ later.ending = some known := by
  have hmore : more = [] := by
    rcases hgoes.isOpen with hopen | hmore
    · rw [hknown] at hopen
      cases hopen
    · exact hmore
  refine ⟨hmore, ?_, ?_⟩
  · rw [hgoes.bytes, hmore, List.append_nil]
  · rw [hgoes.ending, hknown]
    rfl

theorem GoesOn.eq_of_nothing (hgoes : source.GoesOn more ending later) (hmore : more = [])
    (hending : ending = none) : later.bytes = source.bytes ∧ later.ending = source.ending := by
  rw [hgoes.bytes, hgoes.ending, hmore, hending, List.append_nil]
  exact And.intro rfl (by cases source.ending <;> rfl)

theorem GoesOn.extend {chunks : List Bytes} {known : Option Ending}
    (hgoes : source.GoesOn (chunks.flatten ++ more) (known <|> ending) later)
    (hlast : known = none ∨ more = []) :
    (source.extend chunks known).GoesOn more ending later := by
  constructor
  case bytes => rw [hgoes.bytes, Source.bytes_extend, List.append_assoc]
  case ending =>
      rw [hgoes.ending]
      show _ = ((source.ending <|> known) <|> ending)
      cases source.ending <;> rfl
  case isOpen =>
      rcases hlast with rfl | hmore
      · apply hgoes.isOpen.imp
        · intro hopen
          show (source.ending <|> none) = none
          rw [hopen]
          rfl
        · intro hnothing
          exact (List.append_eq_nil_iff.mp hnothing).right
      · exact Or.inr hmore

theorem GoesOn.symm (hgoes : source.GoesOn [] none later) : later.GoesOn [] none source := by
  rcases hgoes.eq_of_nothing rfl rfl with ⟨hbytes, hending⟩
  refine ⟨?_, ?_, Or.inr rfl⟩
  · rw [hbytes, List.append_nil]
  · rw [hending]
    cases source.ending <;> rfl

end GoesOn

end Source

namespace Reading

variable {α β : Type}

/-- The late read is the early one after more has arrived: it comes to the same result,
except where the early one has to wait and more does arrive. -/
inductive Stands (more : Bytes) (ending : Option Ending) : (early late : Reading α) -> Prop
  | done {value : α} {rest later : Source} : rest.GoesOn more ending later ->
      Stands more ending (.done value rest) (.done value later)
  | ended {rest later : Source} : Stands more ending (.ended rest) (.ended later)
  | failed {error : Error} {rest later : Source} :
      Stands more ending (.failed error rest) (.failed error later)
  | waiting {late : Reading α} : (more = [] -> ending = none -> late = .waiting) ->
      Stands more ending .waiting late

variable {more : Bytes} {ending : Option Ending}

theorem Stands.andThen_of_done {early late : Reading α} {next next' : α -> Source -> Reading β}
    (hstands : Stands more ending early late)
    (hnext : forall value (rest later : Source), early = .done value rest ->
      late = .done value later -> rest.GoesOn more ending later ->
      Stands more ending (next value rest) (next' value later)) :
    Stands more ending (early.andThen next) (late.andThen next') := by
  cases hstands with
  | done hgoes => exact hnext _ _ _ rfl rfl hgoes
  | ended => exact .ended
  | failed => exact .failed
  | waiting hlate =>
      refine .waiting fun hmore hending => ?_
      rw [hlate hmore hending]
      rfl

theorem Stands.andThen {early late : Reading α} {next next' : α -> Source -> Reading β}
    (hstands : Stands more ending early late)
    (hnext : forall value (rest later : Source), rest.GoesOn more ending later ->
      Stands more ending (next value rest) (next' value later)) :
    Stands more ending (early.andThen next) (late.andThen next') :=
  hstands.andThen_of_done fun value rest later _ _ => hnext value rest later

theorem stands_ofExcept (outcome : Except Error α) {source later : Source}
    (hgoes : source.GoesOn more ending later) :
    Stands more ending (ofExcept outcome source) (ofExcept outcome later) := by
  cases outcome with
  | ok value => exact .done hgoes
  | error error => exact .failed

end Reading

namespace Source

variable {source later : Source} {more : Bytes} {ending : Option Ending}

/-- A read that the octets at hand do not satisfy, where the late one is not satisfied
either unless more arrives. -/
theorem starved_stands {α : Type} (hgoes : source.GoesOn more ending later) {late : Reading α}
    (hlate : more = [] -> late = later.starved) :
    Reading.Stands more ending source.starved late := by
  unfold starved
  cases hknown : source.ending with
  | none =>
      refine .waiting fun hmore hending => ?_
      rw [hlate hmore, starved, (hgoes.eq_of_nothing hmore hending).right, hknown]
  | some known =>
      rcases hgoes.of_ending hknown with ⟨hmore, _, hending⟩
      rw [hlate hmore, starved, hending]
      cases known with
      | endOfStream => exact .ended
      | failure reason => exact .failed

theorem exactly_stands (hgoes : source.GoesOn more ending later) (n : Nat) :
    Reading.Stands more ending (source.exactly n) (later.exactly n) := by
  rcases Nat.lt_or_ge source.bytes.length n with hshort | hlong
  · rw [exactly_eq_starved hshort]
    refine starved_stands hgoes fun hmore => exactly_eq_starved ?_
    rwa [hgoes.bytes, hmore, List.append_nil]
  · have hlength : (source.bytes.take n).length = n := by
      rw [List.length_take]
      omega
    have hlater : later.bytes = source.bytes.take n ++ (source.bytes.drop n ++ more) := by
      rw [hgoes.bytes, ← List.append_assoc, List.take_append_drop]
    rcases exactly_gives (List.take_append_drop n source.bytes).symm rfl with
      ⟨rest, hdone, hrest, hending⟩
    rcases exactly_gives hlater rfl with ⟨rest', hdone', hrest', hending'⟩
    rw [hlength] at hdone hdone'
    rw [hdone, hdone']
    refine .done ⟨by rw [hrest, hrest'], ?_, ?_⟩
    · rw [hending, hending', hgoes.ending]
    · rw [hending]
      exact hgoes.isOpen

theorem octet_stands (hgoes : source.GoesOn more ending later) :
    Reading.Stands more ending source.octet later.octet := by
  apply (exactly_stands hgoes 1).andThen
  intro octets rest later hgoes
  cases octets with
  | nil => exact .ended
  | cons octet _ => exact .done hgoes

theorem line_stands (hgoes : source.GoesOn more ending later) (n : Nat) :
    Reading.Stands more ending (source.line n) (later.line n) := by
  rcases Nat.lt_or_ge source.bytes.length (lineLength n source.bytes) with hlong | hshort
  · have hlong' (hmore : more = []) : later.bytes.length < lineLength n later.bytes := by
      rwa [hgoes.bytes, hmore, List.append_nil]
    rw [line_of_lt hlong]
    cases hknown : source.ending with
    | none =>
        rw [starved, hknown]
        refine .waiting fun hmore hending => ?_
        rw [line_of_lt (hlong' hmore), starved, (hgoes.eq_of_nothing hmore hending).right, hknown]
    | some known =>
        rcases hgoes.of_ending hknown with ⟨hmore, hbytes, hending⟩
        rw [line_of_lt (hlong' hmore), hending, hbytes]
        cases known with
        | endOfStream => exact .done ⟨hmore.symm, hgoes.ending, Or.inr hmore⟩
        | failure reason =>
            rw [starved, starved, hknown, hending]
            exact .failed
  · have hlength : lineLength n later.bytes = lineLength n source.bytes := by
      rw [hgoes.bytes, lineLength_append_of_le hshort]
    have hshort' : lineLength n later.bytes <= later.bytes.length := by
      rw [hlength, hgoes.bytes, List.length_append]
      omega
    rcases line_of_le hshort with ⟨rest, hdone, hrest, hending⟩
    rcases line_of_le hshort' with ⟨rest', hdone', hrest', hending'⟩
    rw [hlength, hgoes.bytes, List.take_append_of_le_length hshort] at hdone'
    rw [hdone, hdone']
    refine .done ⟨?_, ?_, ?_⟩
    · rw [hrest', hrest, hlength, hgoes.bytes, List.drop_append_of_le_length hshort]
    · rw [hending, hending', hgoes.ending]
    · rw [hending]
      exact hgoes.isOpen

theorem line_eq_done {rest : Source} {n : Nat} {octets : Bytes}
    (hdone : source.line n = .done octets rest) : source.bytes = octets ++ rest.bytes := by
  rcases Nat.lt_or_ge source.bytes.length (lineLength n source.bytes) with hlong | hshort
  · rw [line_of_lt hlong] at hdone
    split at hdone
    case h_1 =>
        cases hdone
        exact (List.append_nil _).symm
    case h_2 =>
        unfold starved at hdone
        split at hdone <;> cases hdone
  · rcases line_of_le hshort with ⟨rest', hdone', hrest, _⟩
    rw [hdone'] at hdone
    cases hdone
    rw [hrest, List.take_append_drop]

end Source

/-!
## Frames and heads of messages
-/

namespace Frame

theorem readAfter_stands {role : Role} {limits : Limits} {source later : Source} {more : Bytes}
    {ending : Option Ending} (hgoes : source.GoesOn more ending later) (first : UInt8) :
    Reading.Stands more ending (readAfter role limits first source)
      (readAfter role limits first later) := by
  unfold readAfter
  apply (Reading.stands_ofExcept _ hgoes).andThen
  intro (fin, opcode) source later hgoes
  apply (Source.octet_stands hgoes).andThen
  intro second source later hgoes
  apply (Source.exactly_stands hgoes _).andThen
  intro extended source later hgoes
  apply (Reading.stands_ofExcept _ hgoes).andThen
  intro length source later hgoes
  apply (Source.exactly_stands hgoes _).andThen
  intro key source later hgoes
  apply (Reading.stands_ofExcept _ hgoes).andThen
  intro _ source later hgoes
  apply (Source.exactly_stands hgoes _).andThen
  intro payload source later hgoes
  exact .done hgoes

end Frame

theorem Assembly.readFrame_stands {limits : Limits} {assembly : Assembly} {source later : Source}
    {more : Bytes} {ending : Option Ending} (hgoes : source.GoesOn more ending later) :
    Reading.Stands more ending (assembly.readFrame limits source)
      (assembly.readFrame limits later) := by
  apply (Source.octet_stands hgoes).andThen
  intro first source later hgoes
  apply (Reading.stands_ofExcept _ hgoes).andThen
  intro _ source later hgoes
  exact Frame.readAfter_stands hgoes first

namespace Handshake

theorem judgeLine_nil {limits : Limits} {total : UInt64} {text : Bytes} :
    judgeLine limits total [] ≠ .ok text := by
  unfold judgeLine Limits.checkHandshakeSize
  split <;> exact nofun

/-- There is fuel for every octet, so it does not matter how much. -/
theorem readLinesFrom_stands {limits : Limits} {more : Bytes} {ending : Option Ending}
    {fuel fuel' : Nat} {lines : List String} {total : UInt64} {source later : Source}
    (hgoes : source.GoesOn more ending later) (hfuel : source.bytes.length < fuel)
    (hfuel' : later.bytes.length < fuel') :
    Reading.Stands more ending (readLinesFrom limits fuel lines total source)
      (readLinesFrom limits fuel' lines total later) := by
  induction fuel generalizing fuel' lines total source later with
  | zero => cases hfuel
  | succ fuel ih =>
      cases fuel' with
      | zero => cases hfuel'
      | succ fuel' =>
          rw [readLinesFrom, readLinesFrom]
          apply (Source.line_stands hgoes _).andThen_of_done
          intro octets rest later hline hline' hgoes
          have hbytes := congrArg List.length (Source.line_eq_done hline)
          have hbytes' := congrArg List.length (Source.line_eq_done hline')
          rw [List.length_append] at hbytes hbytes'
          apply (Reading.stands_ofExcept _ hgoes).andThen_of_done
          intro text _ _ hjudge hjudge' hgoes
          rcases Reading.ofExcept_eq_done hjudge with ⟨hok, rfl⟩
          rcases Reading.ofExcept_eq_done hjudge' with ⟨_, rfl⟩
          have hoctets : 0 < octets.length := by
            rw [List.length_pos_iff]
            rintro rfl
            exact judgeLine_nil hok
          split
          · exact .done hgoes
          · exact ih hgoes (by omega) (by omega)

theorem readLines_stands {limits : Limits} {source later : Source} {more : Bytes}
    {ending : Option Ending} (hgoes : source.GoesOn more ending later) :
    Reading.Stands more ending (readLines limits source) (readLines limits later) := by
  unfold readLines
  rw [source.length_eq_length_bytes, later.length_eq_length_bytes]
  exact readLinesFrom_stands hgoes (Nat.lt_succ_self _) (Nat.lt_succ_self _)

end Handshake

end WebSocketClient
