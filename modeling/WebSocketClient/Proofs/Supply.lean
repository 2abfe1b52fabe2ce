import WebSocketClient.Frame.Reading

/-!
# What a read takes

A read takes octets from the front of a source and leaves the others, wherever
the chunks are cut.  A read that has come to a result comes to the same result
when more octets follow: only the end of a stream is different when it does not
end there.
-/

namespace WebSocketClient

namespace Reading

variable {α β : Type}

/-!
## Results of reads in a row
-/

theorem done_andThen (value : α) (rest : Source) (next : α -> Source -> Reading β) :
    (done value rest).andThen next = next value rest := rfl

theorem andThen_eq_done {reading : Reading α} {next : α -> Source -> Reading β} {value : β}
    {rest : Source} (hdone : reading.andThen next = .done value rest) :
    exists first middle, reading = .done first middle ∧ next first middle = .done value rest := by
  cases reading with
  | done first middle => exact ⟨first, middle, rfl, hdone⟩
  | ended rest => cases hdone
  | failed error rest => cases hdone
  | waiting => cases hdone

theorem andThen_eq_ended {reading : Reading α} {next : α -> Source -> Reading β} {rest : Source}
    (hended : reading.andThen next = .ended rest) :
    reading = .ended rest ∨
      exists first middle, reading = .done first middle ∧ next first middle = .ended rest := by
  cases reading with
  | done first middle => exact Or.inr ⟨first, middle, rfl, hended⟩
  | ended rest =>
      cases hended
      exact Or.inl rfl
  | failed error rest => cases hended
  | waiting => cases hended

theorem ofExcept_eq_done {outcome : Except Error α} {source rest : Source} {value : α}
    (hdone : ofExcept outcome source = .done value rest) : outcome = .ok value ∧ rest = source := by
  cases outcome with
  | ok value =>
      cases hdone
      exact And.intro rfl rfl
  | error error => cases hdone

theorem ofExcept_ne_ended {outcome : Except Error α} {source rest : Source} :
    ofExcept outcome source ≠ .ended rest := by
  cases outcome <;> simp [ofExcept]

/-- The read gives this value and leaves these octets. -/
def Gives (reading : Reading α) (value : α) (left : Bytes) (ending : Option Ending) : Prop :=
  exists rest, reading = .done value rest ∧ rest.bytes = left ∧ rest.ending = ending

theorem Gives.andThen {reading : Reading α} {first : α} {middle left : Bytes}
    {ending : Option Ending} {next : α -> Source -> Reading β} {value : β}
    (hfirst : reading.Gives first middle ending)
    (hnext : forall rest : Source, rest.bytes = middle -> rest.ending = ending ->
      (next first rest).Gives value left ending) :
    (reading.andThen next).Gives value left ending := by
  rcases hfirst with ⟨rest, rfl, hbytes, hending⟩
  exact hnext rest hbytes hending

theorem gives_done {value : α} {rest : Source} {left : Bytes} {ending : Option Ending}
    (hleft : rest.bytes = left) (hending : rest.ending = ending) :
    (Reading.done value rest).Gives value left ending :=
  ⟨rest, rfl, hleft, hending⟩

theorem gives_ofExcept {outcome : Except Error α} {value : α} {source : Source} {left : Bytes}
    {ending : Option Ending} (houtcome : outcome = .ok value) (hleft : source.bytes = left)
    (hending : source.ending = ending) : (ofExcept outcome source).Gives value left ending := by
  rw [houtcome]
  exact gives_done hleft hending

def Fails (reading : Reading α) (error : Error) (left : Bytes) : Prop :=
  exists rest, reading = .failed error rest ∧ rest.bytes = left

theorem fails_ofExcept {outcome : Except Error α} {error : Error} {source : Source}
    {left : Bytes} (houtcome : outcome = .error error) (hleft : source.bytes = left)
    (next : α -> Source -> Reading β) :
    ((ofExcept outcome source).andThen next).Fails error left := by
  rw [houtcome]
  exact ⟨source, rfl, hleft⟩

/-- Of these octets the read takes so many and fails with this error. -/
def FailsAfter (reading : Reading α) (taken : Nat) (error : Error) (octets : Bytes) : Prop :=
  taken <= octets.length ∧ reading.Fails error (octets.drop taken)

theorem Fails.after {reading : Reading α} {error : Error} {left octets : Bytes}
    (hfails : reading.Fails error left) (front : Bytes) (hoctets : octets = front ++ left) :
    reading.FailsAfter front.length error octets := by
  subst hoctets
  refine And.intro ?_ ?_
  · rw [List.length_append]
    exact Nat.le_add_right _ _
  · rwa [List.drop_left]

def Ends (reading : Reading α) : Prop :=
  exists rest, reading = .ended rest

/-!
## Reads with more octets behind
-/

/-- The second read comes to the same as the first one, unless that lacked octets;
behind what it leaves there is more. -/
inductive Outlasts (more : Bytes) : Reading α -> Reading α -> Prop
  | done {value : α} {rest rest' : Source} : rest'.bytes = rest.bytes ++ more ->
      Outlasts more (.done value rest) (.done value rest')
  | failed {error : Error} {rest rest' : Source} :
      Outlasts more (.failed error rest) (.failed error rest')
  | ended {rest : Source} {late : Reading α} : Outlasts more (.ended rest) late
  | broken {reason : String} {rest : Source} {late : Reading α} :
      Outlasts more (.failed (.transport reason) rest) late
  | waiting {late : Reading α} : Outlasts more .waiting late

theorem Outlasts.andThen {more : Bytes} {early late : Reading α}
    {next : α -> Source -> Reading β} (houtlasts : Outlasts more early late)
    (hnext : forall value (rest rest' : Source), rest'.bytes = rest.bytes ++ more ->
      Outlasts more (next value rest) (next value rest')) :
    Outlasts more (early.andThen next) (late.andThen next) := by
  cases houtlasts with
  | done hbytes => exact hnext _ _ _ hbytes
  | failed => exact .failed
  | ended => exact .ended
  | broken => exact .broken
  | waiting => exact .waiting

theorem outlasts_ofExcept {more : Bytes} (outcome : Except Error α) {source source' : Source}
    (hbytes : source'.bytes = source.bytes ++ more) :
    Outlasts more (ofExcept outcome source) (ofExcept outcome source') := by
  cases outcome with
  | ok value => exact .done hbytes
  | error error => exact .failed

/-!
## Reads and the end of the stream
-/

/-- What a read comes to when this is known of the end of the stream: it waits
only for octets that may come, and it fails only because the stream does or
because of the server. -/
inductive Minds (ending : Option Ending) : Reading α -> Prop
  | done {value : α} {rest : Source} : rest.ending = ending -> Minds ending (.done value rest)
  | ended {rest : Source} : ending = some .endOfStream -> Minds ending (.ended rest)
  | failed {error : Error} {rest : Source} : error.kind = .protocol ->
      Minds ending (.failed error rest)
  | broken {reason : String} {rest : Source} : ending = some (.failure reason) ->
      Minds ending (.failed (.transport reason) rest)
  | waiting : ending = none -> Minds ending .waiting

theorem Minds.andThen {ending : Option Ending} {reading : Reading α}
    {next : α -> Source -> Reading β} (hminds : reading.Minds ending)
    (hnext : forall value (rest : Source), rest.ending = ending ->
      (next value rest).Minds ending) : (reading.andThen next).Minds ending := by
  cases hminds with
  | done hending => exact hnext _ _ hending
  | ended hending => exact .ended hending
  | failed hkind => exact .failed hkind
  | broken hending => exact .broken hending
  | waiting hending => exact .waiting hending

theorem minds_ofExcept {ending : Option Ending} {outcome : Except Error α} {source : Source}
    (hkind : forall error, outcome = .error error -> error.kind = .protocol)
    (hending : source.ending = ending) : (ofExcept outcome source).Minds ending := by
  cases outcome with
  | ok value => exact .done hending
  | error error => exact .failed (hkind error rfl)

end Reading

namespace Source

@[simp] theorem bytes_extend (source : Source) (chunks : List Bytes) (ending : Option Ending) :
    (source.extend chunks ending).bytes = source.bytes ++ chunks.flatten :=
  List.flatten_append

variable {source rest : Source} {n : Nat} {octets : Bytes}

/-!
## Reads of a given length
-/

theorem exactly_eq_done (hdone : source.exactly n = .done octets rest) :
    octets.length = n ∧ source.bytes = octets ++ rest.bytes ∧ rest.ending = source.ending := by
  have hfst := split_fst n source.chunks
  have hsnd := split_snd n source.chunks
  unfold exactly at hdone
  simp only at hdone
  split at hdone
  case isTrue hlength =>
      cases hdone
      refine ⟨hlength, ?_, rfl⟩
      show source.chunks.flatten = (split n source.chunks).1 ++ (split n source.chunks).2.flatten
      rw [hfst, hsnd, List.take_append_drop]
  case isFalse =>
      unfold starved at hdone
      split at hdone <;> cases hdone

theorem exactly_eq_starved (hshort : source.bytes.length < n) :
    source.exactly n = source.starved := by
  have hfst := split_fst n source.chunks
  unfold exactly
  simp only
  rw [if_neg]
  rw [hfst, List.length_take]
  change source.chunks.flatten.length < n at hshort
  omega

theorem exactly_gives {left : Bytes} {ending : Option Ending}
    (hbytes : source.bytes = octets ++ left) (hending : source.ending = ending) :
    (source.exactly octets.length).Gives octets left ending := by
  have hfst := split_fst octets.length source.chunks
  have hsnd := split_snd octets.length source.chunks
  change source.chunks.flatten = octets ++ left at hbytes
  rw [hbytes, List.take_left] at hfst
  rw [hbytes, List.drop_left] at hsnd
  unfold exactly
  simp only [hfst, if_true]
  exact ⟨_, rfl, hsnd, hending⟩

theorem exactly_ends {β : Type} (hshort : source.bytes.length < n)
    (hending : source.ending = some .endOfStream) (next : Bytes -> Source -> Reading β) :
    ((source.exactly n).andThen next).Ends := by
  rw [exactly_eq_starved hshort, starved, hending]
  exact ⟨source.exhausted, rfl⟩

/-- A read of a given length ends only where there are too few octets. -/
theorem exactly_eq_ended (hended : source.exactly n = .ended rest) : source.bytes.length < n := by
  apply Decidable.byContradiction
  intro hlong
  have hlength : (source.bytes.take n).length = n := by
    rw [List.length_take]
    omega
  rcases exactly_gives (List.take_append_drop n source.bytes).symm rfl with ⟨_, hdone, _⟩
  rw [hlength, hended] at hdone
  cases hdone

theorem starved_outlasts {α : Type} (source : Source) (more : Bytes) (late : Reading α) :
    Reading.Outlasts more source.starved late := by
  unfold starved
  split
  · exact .waiting
  · exact .ended
  · exact .broken

theorem exactly_outlasts {source' : Source} {more : Bytes}
    (hbytes : source'.bytes = source.bytes ++ more) (n : Nat) :
    Reading.Outlasts more (source.exactly n) (source'.exactly n) := by
  rcases Nat.lt_or_ge source.bytes.length n with hshort | hlong
  · rw [exactly_eq_starved hshort]
    exact source.starved_outlasts more _
  · have hlength : (source.bytes.take n).length = n := by
      rw [List.length_take]
      omega
    have hsource := (List.take_append_drop n source.bytes).symm
    have hsource' : source'.bytes = source.bytes.take n ++ (source.bytes.drop n ++ more) := by
      rw [hbytes, ← List.append_assoc, List.take_append_drop]
    rcases exactly_gives hsource rfl with ⟨rest, hdone, hrest, _⟩
    rcases exactly_gives hsource' rfl with ⟨rest', hdone', hrest', _⟩
    rw [hlength] at hdone hdone'
    rw [hdone, hdone']
    exact .done (by rw [hrest, hrest'])

theorem exactly_minds {ending : Option Ending} (hending : source.ending = ending) (n : Nat) :
    (source.exactly n).Minds ending := by
  unfold exactly
  simp only
  split
  case isTrue => exact .done hending
  case isFalse =>
      unfold starved
      split
      case h_1 hnone => exact .waiting (hending.symm.trans hnone)
      case h_2 hend => exact .ended (hending.symm.trans hend)
      case h_3 reason hfailure => exact .broken (hending.symm.trans hfailure)

/-!
## Reads of one octet
-/

variable {octet : UInt8}

theorem octet_eq_done (hdone : source.octet = .done octet rest) :
    source.bytes = octet :: rest.bytes ∧ rest.ending = source.ending := by
  rcases Reading.andThen_eq_done hdone with ⟨octets, middle, hread, htaken⟩
  rcases exactly_eq_done hread with ⟨hlength, hbytes, hending⟩
  rcases List.length_eq_one_iff.mp hlength with ⟨first, rfl⟩
  cases htaken
  exact And.intro hbytes hending

theorem octet_gives {left : Bytes} {ending : Option Ending}
    (hbytes : source.bytes = octet :: left) (hending : source.ending = ending) :
    source.octet.Gives octet left ending := by
  have hread : (source.exactly [octet].length).Gives [octet] left ending :=
    exactly_gives hbytes hending
  rw [Source.octet]
  apply hread.andThen
  intro rest hrest hending
  exact Reading.gives_done hrest hending

theorem octet_eq_ended (hended : source.octet = .ended rest) : source.bytes = [] := by
  rcases Reading.andThen_eq_ended hended with hended | ⟨octets, middle, hread, htaken⟩
  · have hshort := exactly_eq_ended hended
    exact List.length_eq_zero_iff.mp (by omega)
  · rcases List.length_eq_one_iff.mp (exactly_eq_done hread).left with ⟨first, rfl⟩
    cases htaken

theorem octet_outlasts {source' : Source} {more : Bytes}
    (hbytes : source'.bytes = source.bytes ++ more) :
    Reading.Outlasts more source.octet source'.octet := by
  apply (exactly_outlasts hbytes 1).andThen
  intro octets rest rest' hrest
  cases octets with
  | nil => exact .ended
  | cons octet _ => exact .done hrest

theorem octet_of_bytes_eq_nil (hbytes : source.bytes = [])
    (hending : source.ending = some .endOfStream) : source.octet = .ended source.exhausted := by
  rw [octet, exactly_eq_starved (by simp [hbytes]), starved, hending]
  rfl

theorem octet_of_nothing (hbytes : source.bytes = []) (hending : source.ending = none) :
    source.octet = .waiting := by
  rw [octet, exactly_eq_starved (by simp [hbytes]), starved, hending]
  rfl

theorem octet_minds {ending : Option Ending} (hending : source.ending = ending) :
    source.octet.Minds ending := by
  have hminds := exactly_minds hending 1
  unfold octet
  generalize hread : source.exactly 1 = reading at hminds ⊢
  cases hminds with
  | done hrest =>
      rcases List.length_eq_one_iff.mp (exactly_eq_done hread).left with ⟨first, rfl⟩
      exact .done hrest
  | ended hending => exact .ended hending
  | failed hkind => exact .failed hkind
  | broken hending => exact .broken hending
  | waiting hending => exact .waiting hending

end Source

end WebSocketClient
