import WebSocketClient.Proofs.Heads

/-!
# What a line may take

While a head is read its octets are counted, and the next line may take one octet more
than the limit leaves.  Both are sums of words.  Under any limit but the greatest one they
stay words, and what is read under a limit is read under a higher one.  The greatest limit
is no limit at all: the first sum falls back to zero, the first line may take nothing, and
no head is ever read.
-/

namespace WebSocketClient

/-!
## Sums that are checked
-/

def sum? (first second : UInt64) : Option UInt64 :=
  if first.toNat + second.toNat < 2 ^ 64 then some (first + second) else none

theorem sum?_of_lt {first second : UInt64} (hsum : first.toNat + second.toNat < 2 ^ 64) :
    sum? first second = some (first + second) :=
  if_pos hsum

theorem sum?_of_ge {first second : UInt64} (hsum : 2 ^ 64 <= first.toNat + second.toNat) :
    sum? first second = none :=
  if_neg (Nat.not_lt_of_le hsum)

namespace Reading

variable {α β : Type}

def andThen? (reading : Reading α) (next : α -> Source -> Option (Reading β)) :
    Option (Reading β) :=
  match reading with
  | done value rest => next value rest
  | ended rest => some (ended rest)
  | failed error rest => some (failed error rest)
  | waiting => some waiting

theorem andThen?_eq_some {reading : Reading α} {next? : α -> Source -> Option (Reading β)}
    {next : α -> Source -> Reading β} (hnext : forall value rest, reading = .done value rest ->
      next? value rest = some (next value rest)) :
    reading.andThen? next? = some (reading.andThen next) := by
  cases reading with
  | done value rest => exact hnext value rest rfl
  | ended rest => rfl
  | failed error rest => rfl
  | waiting => rfl

end Reading

theorem Source.length_of_line {source rest : Source} {n : Nat} {octets : Bytes}
    (hline : source.line n = .done octets rest) : octets.length <= n := by
  have htaken : (splitLine n source.chunks).1.length <= n := by
    rw [splitLine_fst, List.length_take, lineLength]
    omega
  unfold line at hline
  simp only at hline
  split at hline
  case isTrue =>
      cases hline
      exact htaken
  case isFalse =>
      split at hline
      case h_1 =>
          cases hline
          exact htaken
      case h_2 =>
          unfold starved at hline
          split at hline <;> cases hline

namespace Handshake

/-- Read lines like `readLinesFrom`, but stop with nothing where a sum is not a word. -/
def readLinesFrom? (limits : Limits) : (fuel : Nat) -> List String -> (total : UInt64) -> Source ->
    Option (Reading (List String))
  | 0, lines, _, source => some (.done lines.reverse source)
  | fuel + 1, lines, total, source => do
      let budget ← sum? (limits.maxHandshakeSize - min total limits.maxHandshakeSize) 1
      (source.line budget.toNat).andThen? fun line source => do
        let total ← sum? total (UInt64.ofNat line.length)
        (Reading.ofExcept (judgeLine limits total line) source).andThen? fun text source =>
          if text.isEmpty then
            some (.done lines.reverse source)
          else
            readLinesFrom? limits fuel (Latin1.decode text :: lines) total source

def readLines? (limits : Limits) (source : Source) : Option (Reading (List String)) :=
  readLinesFrom? limits (source.length + 1) [] 0 source

/-!
## Limits but the greatest one
-/

section Limit

variable {limits larger : Limits} {total : UInt64} {line text : Bytes} {source rest : Source}

theorem total_le_of_judgeLine (hjudge : judgeLine limits total line = .ok text) :
    total <= limits.maxHandshakeSize := by
  rw [← UInt64.not_lt]
  intro htotal
  rw [judgeLine_of_lt htotal] at hjudge
  cases hjudge

theorem sum?_lineBudget (htotal : total <= limits.maxHandshakeSize)
    (hlimit : limits.maxHandshakeSize.toNat < 2 ^ 64 - 1) :
    sum? (limits.maxHandshakeSize - min total limits.maxHandshakeSize) 1 =
      some (lineBudget limits total) := by
  have hmin : min total limits.maxHandshakeSize = total := if_pos htotal
  apply sum?_of_lt
  rw [hmin, UInt64.toNat_sub_of_le _ _ htotal, UInt64.toNat_one]
  omega

/-- Between two lines no more octets have been counted than the limit allows, so both sums
stay words, and so on to the end of the head. -/
theorem readLinesFrom?_eq_some (htotal : total <= limits.maxHandshakeSize)
    (hlimit : limits.maxHandshakeSize.toNat < 2 ^ 64 - 1) (fuel : Nat) (lines : List String)
    (source : Source) : readLinesFrom? limits fuel lines total source =
      some (readLinesFrom limits fuel lines total source) := by
  induction fuel generalizing lines total source with
  | zero => rfl
  | succ fuel ih =>
      rw [readLinesFrom?, sum?_lineBudget htotal hlimit, readLinesFrom]
      apply Reading.andThen?_eq_some
      intro line behind hline
      have hlength := Source.length_of_line hline
      rw [toNat_lineBudget (UInt64.le_iff_toNat_le.mp htotal) hlimit] at hlength
      have hvalue : (UInt64.ofNat line.length).toNat = line.length := by
        rw [UInt64.toNat_ofNat', Nat.mod_eq_of_lt (by omega)]
      have hsum : total.toNat + (UInt64.ofNat line.length).toNat < 2 ^ 64 := by
        rw [UInt64.le_iff_toNat_le] at htotal
        omega
      rw [sum?_of_lt hsum]
      apply Reading.andThen?_eq_some
      intro text behind' hjudge
      have hcounted := total_le_of_judgeLine (Reading.ofExcept_eq_done hjudge).left
      rw [ih hcounted]
      split <;> rfl

theorem readsHead_of_source (hlimit : limits.maxHandshakeSize.toNat < 2 ^ 64 - 1)
    (source : Source) : ReadsHead limits limits.maxHandshakeSize.toNat [] source
      (readLines limits source) := by
  apply readsHead hlimit _ [] (Nat.zero_add _)
  rw [Source.length_eq_length_bytes]
  exact Nat.lt_succ_self _

theorem not_fails_of_done {lines : List String} {error : Error} {left : Bytes}
    (hread : readLines limits source = .done lines rest) :
    ¬ (readLines limits source).Fails error left := by
  rintro ⟨behind, hfails, _⟩
  rw [hread] at hfails
  cases hfails

theorem exists_head_of_readLines {lines : List String}
    (hlimit : limits.maxHandshakeSize.toNat < 2 ^ 64 - 1)
    (hread : readLines limits source = .done lines rest) :
    exists taken, IsHead source.bytes taken ∧ taken <= limits.maxHandshakeSize.toNat := by
  have hreads := readsHead_of_source hlimit source
  apply Classical.byContradiction
  intro hnone
  have hover : forall taken, IsHead source.bytes taken ->
      limits.maxHandshakeSize.toNat < taken := by
    intro taken hhead
    exact Nat.lt_of_not_le fun hfits => hnone ⟨taken, hhead, hfits⟩
  rcases Nat.lt_or_ge limits.maxHandshakeSize.toNat source.bytes.length with hlong | hshort
  · exact not_fails_of_done hread (hreads.overlong hover hlong).right
  · have hended := hreads.ended hover hshort
    split at hended
    case h_1 => exact not_fails_of_done hread hended
    case h_2 => exact not_fails_of_done hread hended
    case h_3 =>
        rw [hread] at hended
        cases hended

theorem readLines_of_le {lines : List String}
    (hle : limits.maxHandshakeSize <= larger.maxHandshakeSize)
    (hlarger : larger.maxHandshakeSize.toNat < 2 ^ 64 - 1)
    (hread : readLines limits source = .done lines rest) :
    (readLines larger source).Gives lines rest.bytes rest.ending := by
  rw [UInt64.le_iff_toNat_le] at hle
  have hlimit : limits.maxHandshakeSize.toNat < 2 ^ 64 - 1 := Nat.lt_of_le_of_lt hle hlarger
  rcases exists_head_of_readLines hlimit hread with ⟨taken, hhead, hfits⟩
  rcases (readsHead_of_source hlimit source).fits taken hhead hfits with
    ⟨behind, hsame, hleft, hending⟩
  rw [hread] at hsame
  cases hsame
  rw [hleft, hending]
  exact (readsHead_of_source hlarger source).fits taken hhead (Nat.le_trans hfits hle)

/-!
## The greatest limit
-/

/-- No octet more than the greatest limit can be allowed: the first sum is not a word, and
what is left of it is nothing. -/
theorem readLines?_of_greatest (hlimit : limits.maxHandshakeSize.toNat = 2 ^ 64 - 1)
    (source : Source) : readLines? limits source = none := by
  have hmin : min 0 limits.maxHandshakeSize = 0 := if_pos UInt64.zero_le
  have hsum : sum? (limits.maxHandshakeSize - min 0 limits.maxHandshakeSize) 1 = none := by
    apply sum?_of_ge
    rw [hmin, UInt64.sub_zero, hlimit]
    decide
  rw [readLines?, readLinesFrom?, hsum]
  rfl

theorem lineBudget_of_greatest (hlimit : limits.maxHandshakeSize.toNat = 2 ^ 64 - 1) :
    lineBudget limits 0 = 0 := by
  have hvalue : limits.maxHandshakeSize = 0xFFFFFFFFFFFFFFFF := UInt64.toNat_inj.mp hlimit
  rw [lineBudget, hvalue]
  decide

theorem readLines_of_greatest (hlimit : limits.maxHandshakeSize.toNat = 2 ^ 64 - 1)
    (source : Source) : (readLines limits source).FailsAfter 0
      (.handshake "connection closed during the opening handshake") source.bytes := by
  have hnothing : Source.lineLength 0 source.bytes = 0 := Nat.zero_min _
  have hgives : (source.line 0).Gives (source.bytes.take 0) (source.bytes.drop 0) source.ending := by
    rw [← hnothing]
    exact Source.line_of_le (hnothing ▸ Nat.zero_le _)
  rcases hgives with ⟨behind, hline, hleft, _⟩
  have hjudge : judgeLine limits 0 [] =
      .error (.handshake "connection closed during the opening handshake") :=
    judgeLine_of_free UInt64.zero_le List.not_mem_nil
  have htotal : 0 + UInt64.ofNat ([] : Bytes).length = 0 := rfl
  refine And.intro (Nat.zero_le _) ⟨behind, ?_, hleft⟩
  rw [readLines, readLinesFrom, lineBudget_of_greatest hlimit, UInt64.toNat_zero, hline,
    Reading.done_andThen]
  simp only [List.take_zero, htotal, hjudge]
  rfl

/-!
## All limits
-/

/-- Under every limit but the greatest one the sums that are made while lines are read are
words, and lines that are read under it are read, with as much left, under every higher
one but that.  Under the greatest limit the first sum is not a word, and the head is
refused as if the stream had ended, with nothing taken from it. -/
theorem readLines_of_raised_limit (limits : Limits) (source : Source) :
    (limits.maxHandshakeSize.toNat < 2 ^ 64 - 1 ->
      readLines? limits source = some (readLines limits source) ∧
        forall larger : Limits, limits.maxHandshakeSize <= larger.maxHandshakeSize ->
          larger.maxHandshakeSize.toNat < 2 ^ 64 - 1 ->
          forall lines rest, readLines limits source = .done lines rest ->
            (readLines larger source).Gives lines rest.bytes rest.ending) ∧
      (limits.maxHandshakeSize.toNat = 2 ^ 64 - 1 ->
        readLines? limits source = none ∧
          (readLines limits source).FailsAfter 0
            (.handshake "connection closed during the opening handshake") source.bytes) := by
  constructor
  · intro hlimit
    refine And.intro (readLinesFrom?_eq_some UInt64.zero_le hlimit _ [] source) ?_
    intro larger hle hlarger lines rest hread
    exact readLines_of_le hle hlarger hread
  · intro hlimit
    exact And.intro (readLines?_of_greatest hlimit source) (readLines_of_greatest hlimit source)

/-- A head of five octets is read under a limit of five and as well under the highest limit
but one; the greatest limit refuses it. -/
theorem readLines_of_raised_limit_of_five :
    let source : Source :=
      ⟨[[0x61, 0x0D], [0x0A, 0x0D], [0x0A, 0x88]], some (.failure "reset")⟩
    let limits : Limits := { maxHandshakeSize := 5 }
    let larger : Limits := { maxHandshakeSize := 0xFFFFFFFFFFFFFFFE }
    let greatest : Limits := { maxHandshakeSize := 0xFFFFFFFFFFFFFFFF }
    let rest : Source := ⟨[[0x88]], some (.failure "reset")⟩
    limits.maxHandshakeSize.toNat < 2 ^ 64 - 1 ∧
      limits.maxHandshakeSize <= larger.maxHandshakeSize ∧
      larger.maxHandshakeSize.toNat < 2 ^ 64 - 1 ∧
      readLines limits source = .done ["a"] rest ∧
      (readLines larger source).Gives ["a"] [0x88] (some (.failure "reset")) ∧
      greatest.maxHandshakeSize.toNat = 2 ^ 64 - 1 ∧
      (readLines greatest source).FailsAfter 0
        (.handshake "connection closed during the opening handshake") source.bytes := by
  intro source limits larger greatest rest
  have hread : readLines limits source = .done ["a"] rest := by decide +kernel
  have hlimits := (readLines_of_raised_limit limits source).left (by decide)
  have hgreatest := (readLines_of_raised_limit greatest source).right (by decide)
  exact ⟨by decide, by decide, by decide, hread,
    hlimits.right larger (by decide) (by decide) ["a"] rest hread, by decide, hgreatest.right⟩

/-- An empty line is the head of a message without lines.  Under a limit of two octets it
is read; without a limit, which is to say under the greatest one, the sum for it is not a
word, and it is not read. -/
theorem readLines_of_greatest_limit :
    let source : Source := ⟨[[0x0D, 0x0A]], some .endOfStream⟩
    let limits : Limits := { maxHandshakeSize := 2 }
    let greatest : Limits := { maxHandshakeSize := 0xFFFFFFFFFFFFFFFF }
    limits.maxHandshakeSize <= greatest.maxHandshakeSize ∧
      readLines limits source = .done [] ⟨[[]], some .endOfStream⟩ ∧
      readLines? greatest source = none ∧
      readLines greatest source =
        .failed (.handshake "connection closed during the opening handshake") source := by
  exact ⟨by decide, rfl, rfl, rfl⟩

end Limit

end Handshake

end WebSocketClient
