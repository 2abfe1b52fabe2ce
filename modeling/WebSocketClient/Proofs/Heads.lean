import WebSocketClient.Proofs.Lines

/-!
# Heads within the limit

The head of a message is the shortest front of its octets that ends in an empty line.
If it is within the limit, its lines are read and nothing behind it; if there is none
within the limit, one octet more than the limit is taken, or the stream is read to its
end.
-/

namespace WebSocketClient

namespace Handshake

variable {octets line rest left : Bytes} {taken : Nat}

/-!
## Heads
-/

def lineEnds : List Bytes :=
  [[Source.lineFeed], [carriageReturn, Source.lineFeed]]

/-- The octets end in an empty line: in a line end that is all of them or stands right
behind another one. -/
def EndsEmpty (octets : Bytes) : Prop :=
  exists lineEnd, lineEnd ∈ lineEnds ∧
    (octets = lineEnd ∨ Source.lineFeed :: lineEnd <:+ octets)

instance (octets : Bytes) : Decidable (EndsEmpty octets) :=
  inferInstanceAs (Decidable (exists lineEnd, lineEnd ∈ lineEnds ∧ _))

/-- So many octets are the shortest front that ends in an empty line. -/
structure IsHead (octets : Bytes) (taken : Nat) : Prop where
  within : taken <= octets.length
  ends : EndsEmpty (octets.take taken)
  shortest : forall fewer, fewer < taken -> ¬ EndsEmpty (octets.take fewer)

instance (octets : Bytes) (taken : Nat) : Decidable (IsHead octets taken) :=
  decidable_of_iff
    (taken <= octets.length ∧ EndsEmpty (octets.take taken) ∧
      forall fewer, fewer < taken -> ¬ EndsEmpty (octets.take fewer))
    ⟨fun ⟨hwithin, hends, hshortest⟩ => ⟨hwithin, hends, hshortest⟩,
      fun ⟨hwithin, hends, hshortest⟩ => ⟨hwithin, hends, hshortest⟩⟩

/-- The lines of a head without their line ends.  The empty line is not one of them, nor
is what stands behind the last line feed. -/
def linesOf (head : Bytes) : List String :=
  ((head.splitOn Source.lineFeed).dropLast.dropLast).map fun line =>
    Latin1.decode (withoutReturn line)

theorem IsHead.unique {other : Nat} (hhead : IsHead octets taken) (hother : IsHead octets other) :
    taken = other := by
  rcases Nat.lt_trichotomy taken other with hlt | heq | hgt
  · exact absurd hhead.ends (hother.shortest taken hlt)
  · exact heq
  · exact absurd hother.ends (hhead.shortest other hgt)

/-!
## Where an empty line ends
-/

theorem exists_lineEnd_eq {lineEnd : Bytes} (hlineEnd : lineEnd ∈ lineEnds) :
    exists before, lineEnd = before ++ [Source.lineFeed] ∧
      (before = [] ∨ before = [carriageReturn]) := by
  simp only [lineEnds, List.mem_cons, List.not_mem_nil, or_false] at hlineEnd
  rcases hlineEnd with rfl | rfl
  · exact ⟨[], rfl, Or.inl rfl⟩
  · exact ⟨[carriageReturn], rfl, Or.inr rfl⟩

theorem rest_of_lineEnd (hlineEnd : line ++ Source.lineFeed :: rest ∈ lineEnds) : rest = [] := by
  rcases exists_lineEnd_eq hlineEnd with ⟨before, hlineEnd, hbefore⟩
  rcases List.eq_nil_or_concat rest with rfl | ⟨text, last, rfl⟩
  · rfl
  · rw [List.concat_eq_append, ← List.cons_append, ← List.append_assoc] at hlineEnd
    have hmem : Source.lineFeed ∈ before := by
      rw [← (List.append_inj' hlineEnd rfl).left]
      simp
    rcases hbefore with rfl | rfl <;> simp [Source.lineFeed, carriageReturn] at hmem

theorem EndsEmpty.lineFeed_mem (hends : EndsEmpty octets) : Source.lineFeed ∈ octets := by
  rcases hends with ⟨lineEnd, hlineEnd, hoctets⟩
  rcases exists_lineEnd_eq hlineEnd with ⟨before, rfl, _⟩
  rcases hoctets with rfl | hsuffix
  · simp
  · exact hsuffix.subset List.mem_cons_self

theorem withoutReturn_eq_nil_iff :
    withoutReturn line = [] <-> line = [] ∨ line = [carriageReturn] := by
  rcases List.eq_nil_or_concat line with rfl | ⟨text, last, rfl⟩
  · exact iff_of_true rfl (Or.inl rfl)
  · rw [List.concat_eq_append]
    by_cases hreturn : last = carriageReturn
    · simp [withoutReturn, hreturn]
    · have hlast : text ++ [last] ≠ [carriageReturn] := by
        intro heq
        exact hreturn (by simpa using congrArg List.getLast? heq)
      simp [withoutReturn, hreturn, hlast]

theorem endsEmpty_line (hline : Source.lineFeed ∉ line) :
    EndsEmpty (line ++ [Source.lineFeed]) <-> withoutReturn line = [] := by
  rw [withoutReturn_eq_nil_iff]
  constructor
  · rintro ⟨lineEnd, hlineEnd, hoctets⟩
    rcases exists_lineEnd_eq hlineEnd with ⟨before, rfl, hbefore⟩
    rcases hoctets with hsame | ⟨front, hsuffix⟩
    · rwa [List.append_cancel_right hsame]
    · rw [← List.cons_append, ← List.append_assoc] at hsuffix
      rw [← List.append_cancel_right hsuffix] at hline
      simp at hline
  · rintro (rfl | rfl)
    · exact ⟨_, List.mem_cons_self, Or.inl rfl⟩
    · exact ⟨_, List.mem_cons_of_mem _ List.mem_cons_self, Or.inl rfl⟩

theorem endsEmpty_behind_line (hrest : rest ≠ []) :
    EndsEmpty (line ++ Source.lineFeed :: rest) <-> EndsEmpty rest := by
  constructor
  · rintro ⟨lineEnd, hlineEnd, rfl | ⟨front, hsuffix⟩⟩
    · exact absurd (rest_of_lineEnd hlineEnd) hrest
    · rcases List.append_eq_append_iff.mp hsuffix with ⟨between, _, hbehind⟩ | ⟨between, _, hbehind⟩
      · cases between with
        | nil =>
            cases hbehind
            exact ⟨_, hlineEnd, Or.inl rfl⟩
        | cons octet between =>
            cases hbehind
            exact absurd (rest_of_lineEnd hlineEnd) hrest
      · cases between with
        | nil =>
            cases hbehind
            exact ⟨_, hlineEnd, Or.inl rfl⟩
        | cons octet between =>
            cases hbehind
            exact ⟨_, hlineEnd, Or.inr ⟨between, rfl⟩⟩
  · rintro ⟨lineEnd, hlineEnd, rfl | hsuffix⟩
    · exact ⟨_, hlineEnd, Or.inr ⟨line, rfl⟩⟩
    · refine ⟨lineEnd, hlineEnd, Or.inr (hsuffix.trans ?_)⟩
      exact ⟨line ++ [Source.lineFeed], by simp⟩

/-!
## Heads line by line
-/

theorem take_line (fewer : Nat) :
    (line ++ Source.lineFeed :: left).take (line.length + 1 + fewer) =
      line ++ Source.lineFeed :: left.take fewer := by
  rw [Nat.add_assoc, List.take_length_add_append, Nat.add_comm 1 fewer, List.take_succ_cons]

/-- No front that stops in a line ends in an empty line, unless that line is one. -/
theorem not_endsEmpty_in_line (hline : Source.lineFeed ∉ line)
    (htext : withoutReturn line ≠ [] ∨ taken <= line.length) (htaken : taken <= line.length + 1) :
    ¬ EndsEmpty ((line ++ Source.lineFeed :: left).take taken) := by
  rcases Nat.lt_or_ge line.length taken with hlong | hshort
  · have hwhole : taken = line.length + 1 + 0 := by omega
    rw [hwhole, take_line, List.take_zero, endsEmpty_line hline]
    exact htext.resolve_right (Nat.not_le_of_lt hlong)
  · rw [List.take_append_of_le_length hshort]
    intro hends
    exact hline (List.mem_of_mem_take hends.lineFeed_mem)

theorem isHead_empty_line (hline : Source.lineFeed ∉ line) (hempty : withoutReturn line = []) :
    IsHead (line ++ Source.lineFeed :: left) (line.length + 1) := by
  refine ⟨by simp, ?_, ?_⟩
  · rw [← Nat.add_zero (line.length + 1), take_line, List.take_zero, endsEmpty_line hline]
    exact hempty
  · intro fewer hfewer
    exact not_endsEmpty_in_line hline (Or.inr (Nat.le_of_lt_succ hfewer)) (Nat.le_of_lt hfewer)

theorem isHead_behind_line (hline : Source.lineFeed ∉ line) (htext : withoutReturn line ≠ []) :
    IsHead (line ++ Source.lineFeed :: left) taken <->
      exists later, IsHead left later ∧ taken = line.length + 1 + later := by
  constructor
  · intro hhead
    have hlong : line.length + 1 < taken := by
      apply Nat.lt_of_not_le
      exact fun hshort => not_endsEmpty_in_line hline (Or.inl htext) hshort hhead.ends
    rcases Nat.exists_eq_add_of_lt hlong with ⟨later, rfl⟩
    have hwithin := hhead.within
    have hends := hhead.ends
    rw [List.length_append, List.length_cons] at hwithin
    have hleft : left ≠ [] := List.ne_nil_of_length_pos (by omega)
    rw [Nat.add_assoc _ later, take_line, endsEmpty_behind_line (by simp [hleft])] at hends
    refine ⟨later + 1, ⟨by omega, hends, ?_⟩, rfl⟩
    intro fewer hfewer hends
    apply hhead.shortest (line.length + 1 + fewer) (by omega)
    rwa [take_line, endsEmpty_behind_line (List.ne_nil_of_mem hends.lineFeed_mem)]
  · rintro ⟨later, hhead, rfl⟩
    have hwithin := hhead.within
    have hbehind := List.ne_nil_of_mem hhead.ends.lineFeed_mem
    refine ⟨?_, ?_, ?_⟩
    · rw [List.length_append, List.length_cons]
      omega
    · rw [take_line, endsEmpty_behind_line hbehind]
      exact hhead.ends
    · intro fewer hfewer hends
      rcases Nat.lt_or_ge (line.length + 1) fewer with hlong | hshort
      · rcases Nat.exists_eq_add_of_lt hlong with ⟨more, rfl⟩
        have hleft : left ≠ [] := List.ne_nil_of_length_pos (by omega)
        rw [Nat.add_assoc _ more, take_line, endsEmpty_behind_line (by simp [hleft])] at hends
        exact hhead.shortest (more + 1) (by omega) hends
      · exact not_endsEmpty_in_line hline (Or.inl htext) hshort hends

theorem linesOf_empty_line (hline : Source.lineFeed ∉ line) :
    linesOf (line ++ [Source.lineFeed]) = [] := by
  rw [linesOf, List.splitOn_append_cons_self_of_not_mem hline, List.splitOn_nil]
  rfl

theorem linesOf_line (hline : Source.lineFeed ∉ line) (hrest : Source.lineFeed ∈ rest) :
    linesOf (line ++ Source.lineFeed :: rest) =
      Latin1.decode (withoutReturn line) :: linesOf rest := by
  rcases List.eq_append_cons_of_mem hrest with ⟨text, behind, rfl, htext⟩
  have hbehind := List.splitOn_ne_nil Source.lineFeed behind
  rw [linesOf, linesOf, List.splitOn_append_cons_self_of_not_mem hline,
    List.splitOn_append_cons_self_of_not_mem htext, List.dropLast_cons_of_ne_nil (by simp),
    List.dropLast_cons_of_ne_nil hbehind, List.dropLast_cons_of_ne_nil (by simp), List.map_cons]

/-!
## Reading within the limit
-/

section Limit

variable {limits : Limits} {room : Nat} {earlier : List String} {source : Source}
  {total : UInt64} {reading : Reading (List String)}

/-- What reading a head comes to where the limit leaves so much room: the lines of a head
that fits, or one octet more than fits, or the end of the stream. -/
structure ReadsHead (limits : Limits) (room : Nat) (earlier : List String) (source : Source)
    (reading : Reading (List String)) : Prop where
  fits : forall taken, IsHead source.bytes taken -> taken <= room ->
    reading.Gives (earlier.reverse ++ linesOf (source.bytes.take taken))
      (source.bytes.drop taken) source.ending
  overlong : (forall taken, IsHead source.bytes taken -> room < taken) ->
    room < source.bytes.length ->
    reading.FailsAfter (room + 1)
      (.handshakeTooLarge (limits.maxHandshakeSize + 1) limits.maxHandshakeSize) source.bytes
  ended : (forall taken, IsHead source.bytes taken -> room < taken) ->
    source.bytes.length <= room ->
    match source.ending with
    | some .endOfStream =>
        reading.Fails (.handshake "connection closed during the opening handshake") []
    | some (.failure reason) => reading.Fails (.transport reason) []
    | none => reading = .waiting

theorem judgeLine_of_lt (htotal : limits.maxHandshakeSize < total) :
    judgeLine limits total line = .error (.handshakeTooLarge total limits.maxHandshakeSize) := by
  rw [judgeLine, Limits.checkHandshakeSize, if_pos htotal]
  rfl

theorem judgeLine_of_free (htotal : total <= limits.maxHandshakeSize)
    (hline : Source.lineFeed ∉ line) :
    judgeLine limits total line =
      .error (.handshake "connection closed during the opening handshake") := by
  have hstrip : stripLineEnd? line = none := by
    rcases List.eq_nil_or_concat line with rfl | ⟨text, last, rfl⟩
    · rfl
    · have hlast : last ≠ Source.lineFeed := by
        rintro rfl
        simp at hline
      simp [stripLineEnd?, hlast]
  rw [judgeLine, Limits.checkHandshakeSize, if_neg (UInt64.not_lt.mpr htotal)]
  simp only [hstrip]
  rfl

/-- Without a line feed within the room, reading takes more than fits or all there is. -/
theorem readsHead_of_free (hlimit : limits.maxHandshakeSize.toNat < 2 ^ 64 - 1)
    (hroom : total.toNat + room = limits.maxHandshakeSize.toNat)
    (hfree : Source.lineFeed ∉ source.bytes.take room) (fuel : Nat) :
    ReadsHead limits room earlier source
      (readLinesFrom limits (fuel + 1) earlier total source) := by
  have hbudget : (lineBudget limits total).toNat = room + 1 := by
    rw [toNat_lineBudget (by omega) hlimit]
    omega
  constructor
  case fits =>
      intro taken hhead htaken
      have hmem := hhead.ends.lineFeed_mem
      rw [← Nat.min_eq_left htaken, ← List.take_take] at hmem
      exact absurd (List.mem_of_mem_take hmem) hfree
  case overlong =>
      intro _ hlong
      have hline := Source.lineLength_succ_of_free hfree hlong
      have hread : (source.line (room + 1)).Gives _ _ _ :=
        Source.line_of_le (by rw [hline]; exact hlong)
      rw [hline] at hread
      rcases hread with ⟨rest, hread, hrest, _⟩
      have hone : (limits.maxHandshakeSize + 1).toNat = limits.maxHandshakeSize.toNat + 1 := by
        show (limits.maxHandshakeSize + UInt64.ofNat 1).toNat = _
        exact toNat_add_ofNat (by omega)
      have htotal : total + UInt64.ofNat (source.bytes.take (room + 1)).length =
          limits.maxHandshakeSize + 1 := by
        rw [← UInt64.toNat_inj, List.length_take_of_le hlong, toNat_add_ofNat (by omega), hone]
        omega
      have hlarge : limits.maxHandshakeSize < limits.maxHandshakeSize + 1 := by
        rw [UInt64.lt_iff_toNat_lt, hone]
        exact Nat.lt_succ_self _
      rw [readLinesFrom, hbudget, hread, Reading.done_andThen]
      simp only [htotal, judgeLine_of_lt hlarge]
      exact And.intro hlong ⟨rest, rfl, hrest⟩
  case ended =>
      intro _ hshort
      rw [List.take_of_length_le hshort] at hfree
      have hline := Source.lineLength_of_free hfree (n := room + 1)
      rw [readLinesFrom, hbudget, Source.line_of_lt (by rw [hline]; omega)]
      cases hending : source.ending with
      | none => simp [Source.starved, hending, Reading.andThen]
      | some ending =>
          cases ending with
          | failure reason =>
              simp only [Source.starved, hending]
              exact ⟨source.exhausted, rfl, rfl⟩
          | endOfStream =>
              have htotal : (total + UInt64.ofNat source.bytes.length).toNat <=
                  limits.maxHandshakeSize.toNat := by
                rw [toNat_add_ofNat (by omega)]
                omega
              have hjudge := judgeLine_of_free (UInt64.le_iff_toNat_le.mpr htotal) hfree
              simp only [Reading.done_andThen, hjudge]
              exact ⟨source.exhausted, rfl, rfl⟩

theorem readsHead_of_empty_line {behind : Source} (hline : Source.lineFeed ∉ line)
    (hempty : withoutReturn line = [])
    (hbytes : source.bytes = line ++ Source.lineFeed :: behind.bytes)
    (hending : behind.ending = source.ending) (hroom : line.length + 1 <= room) :
    ReadsHead limits room earlier source (.done earlier.reverse behind) := by
  have hhead : IsHead source.bytes (line.length + 1) := by
    rw [hbytes]
    exact isHead_empty_line hline hempty
  have hwhole : source.bytes = line ++ [Source.lineFeed] ++ behind.bytes := by
    rw [hbytes, List.append_cons]
  have hlength : (line ++ [Source.lineFeed]).length = line.length + 1 := List.length_append
  constructor
  case fits =>
      intro taken hother _
      rw [hother.unique hhead, hwhole, ← hlength, List.take_left, List.drop_left,
        linesOf_empty_line hline, List.append_nil]
      exact Reading.gives_done rfl hending
  case overlong =>
      intro hnone _
      exact absurd (hnone _ hhead) (Nat.not_lt_of_le hroom)
  case ended =>
      intro hnone _
      exact absurd (hnone _ hhead) (Nat.not_lt_of_le hroom)

theorem ReadsHead.behind_line {behind : Source} (hline : Source.lineFeed ∉ line)
    (htext : withoutReturn line ≠ [])
    (hbytes : source.bytes = line ++ Source.lineFeed :: behind.bytes)
    (hending : behind.ending = source.ending)
    (hreads : ReadsHead limits room (Latin1.decode (withoutReturn line) :: earlier) behind reading) :
    ReadsHead limits (line.length + 1 + room) earlier source reading := by
  have hhead : forall taken, IsHead source.bytes taken <->
      exists later, IsHead behind.bytes later ∧ taken = line.length + 1 + later := by
    intro taken
    rw [hbytes]
    exact isHead_behind_line hline htext
  have hnone : (forall taken, IsHead source.bytes taken -> line.length + 1 + room < taken) ->
      forall later, IsHead behind.bytes later -> room < later := by
    intro hnone later hlater
    exact Nat.lt_of_add_lt_add_left (hnone _ ((hhead _).mpr ⟨later, hlater, rfl⟩))
  have hdrop : forall more, source.bytes.drop (line.length + 1 + more) = behind.bytes.drop more := by
    intro more
    rw [hbytes, Nat.add_assoc, List.drop_length_add_append, Nat.add_comm 1 more,
      List.drop_succ_cons]
  have hlength : source.bytes.length = line.length + 1 + behind.bytes.length := by
    rw [hbytes, List.length_append, List.length_cons]
    omega
  constructor
  case fits =>
      intro taken hsource htaken
      rcases (hhead taken).mp hsource with ⟨later, hlater, rfl⟩
      have hgives := hreads.fits later hlater (Nat.le_of_add_le_add_left htaken)
      rw [List.reverse_cons, List.append_assoc, hending] at hgives
      rw [hdrop, hbytes, take_line, linesOf_line hline hlater.ends.lineFeed_mem]
      exact hgives
  case overlong =>
      intro hfew hlong
      rcases hreads.overlong (hnone hfew) (by omega) with ⟨hwithin, hfails⟩
      refine And.intro (by omega) ?_
      rwa [Nat.add_assoc _ room, hdrop]
  case ended =>
      intro hfew hshort
      rw [← hending]
      exact hreads.ended (hnone hfew) (by omega)

/-- Lines are read as far as the limit leaves room. -/
theorem readsHead (hlimit : limits.maxHandshakeSize.toNat < 2 ^ 64 - 1) {fuel : Nat}
    (hfuel : source.bytes.length < fuel) (earlier : List String)
    (hroom : total.toNat + room = limits.maxHandshakeSize.toNat) :
    ReadsHead limits room earlier source (readLinesFrom limits fuel earlier total source) := by
  induction fuel generalizing total room earlier source with
  | zero => cases hfuel
  | succ fuel ih =>
      by_cases hmem : Source.lineFeed ∈ source.bytes.take room
      · rcases List.eq_append_cons_of_mem hmem with ⟨line, behind, htake, hline⟩
        have hbytes : source.bytes =
            line ++ Source.lineFeed :: (behind ++ source.bytes.drop room) := by
          rw [← List.cons_append, ← List.append_assoc, ← htake, List.take_append_drop]
        have hlength : line.length + 1 <= room := by
          have htaken := List.length_take_le room source.bytes
          rw [htake, List.length_append, List.length_cons] at htaken
          omega
        have hfits : total.toNat + (line.length + 1) <= limits.maxHandshakeSize.toNat := by omega
        rcases readLinesFrom_line hline hlimit fuel earlier hbytes hfits with
          ⟨total', rest, hread, htotal, hleft, hending⟩
        rw [hread]
        rw [← hleft] at hbytes
        cases hempty : (withoutReturn line).isEmpty with
        | true =>
            rw [if_pos rfl]
            exact readsHead_of_empty_line hline (List.isEmpty_iff.mp hempty) hbytes hending hlength
        | false =>
            have htext : withoutReturn line ≠ [] := by
              intro hnil
              simp [hnil] at hempty
            rcases Nat.exists_eq_add_of_le hlength with ⟨more, rfl⟩
            have hshorter : rest.bytes.length < fuel := by
              rw [hbytes, List.length_append, List.length_cons] at hfuel
              omega
            rw [if_neg (by simp)]
            exact (ih hshorter _ (by omega)).behind_line hline htext hbytes hending
      · exact readsHead_of_free hlimit hroom hmem fuel

/-- A head within the limit is read, wherever the chunks are cut, and nothing behind it.
If no head is within the limit, one octet more than the limit is taken and the head is
too large; unless there are no more octets than that: then the stream has ended too soon,
or has failed. -/
theorem readLines_of_limit (source : Source)
    (hlimit : limits.maxHandshakeSize.toNat < 2 ^ 64 - 1) :
    (forall taken, IsHead source.bytes taken -> taken <= limits.maxHandshakeSize.toNat ->
      (readLines limits source).Gives (linesOf (source.bytes.take taken))
        (source.bytes.drop taken) source.ending) ∧
      ((forall taken, IsHead source.bytes taken -> limits.maxHandshakeSize.toNat < taken) ->
        (limits.maxHandshakeSize.toNat < source.bytes.length ->
          (readLines limits source).FailsAfter (limits.maxHandshakeSize.toNat + 1)
            (.handshakeTooLarge (limits.maxHandshakeSize + 1) limits.maxHandshakeSize)
            source.bytes) ∧
        (source.bytes.length <= limits.maxHandshakeSize.toNat ->
          match source.ending with
          | some .endOfStream =>
              (readLines limits source).Fails
                (.handshake "connection closed during the opening handshake") []
          | some (.failure reason) => (readLines limits source).Fails (.transport reason) []
          | none => readLines limits source = .waiting)) := by
  have hfuel : source.bytes.length < source.length + 1 := by
    rw [Source.length_eq_length_bytes]
    exact Nat.lt_succ_self _
  have hreads : ReadsHead limits limits.maxHandshakeSize.toNat [] source
      (readLines limits source) := readsHead hlimit hfuel [] (Nat.zero_add _)
  refine ⟨?_, ?_⟩
  · intro taken hhead htaken
    exact hreads.fits taken hhead htaken
  · intro hnone
    exact And.intro (hreads.overlong hnone) (hreads.ended hnone)

/-- A head of five octets, cut in both its line ends, on a stream that fails: it is just
within a limit of five, and one octet too large for a limit of four. -/
theorem readLines_of_limit_of_five :
    let source : Source :=
      ⟨[[0x61, 0x0D], [0x0A, 0x0D], [0x0A, 0x88]], some (.failure "reset")⟩
    (readLines { maxHandshakeSize := 5 } source).Gives ["a"] [0x88] (some (.failure "reset")) ∧
      (readLines { maxHandshakeSize := 4 } source).FailsAfter 5 (.handshakeTooLarge 5 4)
        source.bytes := by
  intro source
  have hhead : IsHead source.bytes 5 := by decide
  constructor
  · have hlines : linesOf (source.bytes.take 5) = ["a"] := by decide +kernel
    rw [← hlines]
    exact (readLines_of_limit source (by decide)).left 5 hhead (by decide)
  · refine ((readLines_of_limit source (by decide)).right ?_).left (by decide)
    intro taken hother
    rw [hother.unique hhead]
    decide

end Limit

end Handshake

end WebSocketClient
