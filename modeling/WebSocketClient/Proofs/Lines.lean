import Mathlib.Algebra.Group.Nat.Defs
import WebSocketClient.Handshake.Reading
import WebSocketClient.Handshake.Request
import WebSocketClient.Proofs.Supply

/-!
# Lines

A line is read to its first line feed, wherever the chunks are cut.  So the head of a
message that was written line by line is read back line by line, and what stands
behind its empty line is left.
-/

namespace WebSocketClient

namespace Source

/-!
## One line
-/

/-- How many octets a line takes: those up to its line feed and with it, but at most
`n`. -/
def lineLength (n : Nat) (octets : Bytes) : Nat :=
  min n ((octets.takeWhile (· ≠ lineFeed)).length + 1)

section LineLength

variable {n : Nat} {front rest text left : Bytes}

theorem takeWhile_of_free (hfree : lineFeed ∉ front) (rest : Bytes) :
    (front ++ rest).takeWhile (· ≠ lineFeed) = front ++ rest.takeWhile (· ≠ lineFeed) := by
  apply List.takeWhile_append_of_pos
  intro octet hoctet
  rw [decide_eq_true_eq]
  rintro rfl
  exact hfree hoctet

theorem lineLength_of_not_mem (htext : lineFeed ∉ text) :
    lineLength n (text ++ lineFeed :: left) = min n (text.length + 1) := by
  rw [lineLength, takeWhile_of_free htext, List.takeWhile_cons_of_neg (by simp), List.append_nil]

theorem lineLength_of_free (hfree : lineFeed ∉ front) :
    lineLength n front = min n (front.length + 1) := by
  have hwhole := takeWhile_of_free hfree []
  rw [List.append_nil] at hwhole
  rw [lineLength, hwhole, List.takeWhile_nil, List.append_nil]

theorem lineLength_append_of_le (hlength : lineLength n front <= front.length) :
    lineLength n (front ++ rest) = lineLength n front := by
  unfold lineLength at hlength ⊢
  rw [List.takeWhile_append]
  split
  case isTrue hall =>
      rw [hall] at hlength ⊢
      rw [List.length_append]
      omega
  case isFalse => rfl

theorem lineLength_append_of_lt (hlength : front.length < lineLength n front) :
    lineLength n (front ++ rest) = front.length + lineLength (n - front.length) rest := by
  have hprefix := (List.takeWhile_prefix (l := front) (· ≠ lineFeed)).length_le
  unfold lineLength at hlength ⊢
  rw [List.takeWhile_append, if_pos (by omega), List.length_append]
  omega

/-- Without a line feed in the front, a line takes one octet behind it if there is one. -/
theorem lineLength_succ_of_free {octets : Bytes} (hfree : lineFeed ∉ octets.take n)
    (hlong : n < octets.length) : lineLength (n + 1) octets = n + 1 := by
  have hfront : (octets.take n).length = n := List.length_take_of_le (Nat.le_of_lt hlong)
  have hgoes : lineLength (n + 1) (octets.take n) = min (n + 1) ((octets.take n).length + 1) :=
    lineLength_of_free hfree
  rw [hfront, Nat.min_self] at hgoes
  have hlt : (octets.take n).length < lineLength (n + 1) (octets.take n) := by
    rw [hgoes, hfront]
    exact Nat.lt_succ_self n
  rw [← List.take_append_drop n octets, lineLength_append_of_lt hlt, hfront, lineLength]
  omega

end LineLength

theorem splitLine_fst (n : Nat) (chunks : List Bytes) :
    (splitLine n chunks).1 = chunks.flatten.take (lineLength n chunks.flatten) := by
  induction chunks generalizing n with
  | nil => simp [splitLine]
  | cons chunk rest ih =>
      simp only [splitLine, Bytes.hasAtLeast_iff, List.flatten_cons]
      split
      case isTrue hends =>
          change lineLength n chunk <= chunk.length at hends
          rw [lineLength_append_of_le hends, List.take_append_of_le_length hends]
          rfl
      case isFalse hgoes =>
          rw [lineLength_append_of_lt (Nat.lt_of_not_le hgoes), List.take_length_add_append, ih]

theorem splitLine_snd (n : Nat) (chunks : List Bytes) :
    (splitLine n chunks).2.flatten = chunks.flatten.drop (splitLine n chunks).1.length := by
  have hwhole := splitLine_append n chunks
  rw [← hwhole, List.drop_left]

theorem isComplete_iff (n : Nat) (octets : Bytes) :
    (octets.take (lineLength n octets)).length = n ∨
        (octets.take (lineLength n octets)).getLast? = some lineFeed <->
      lineLength n octets <= octets.length := by
  by_cases hmem : lineFeed ∈ octets
  · rcases List.eq_append_cons_of_mem hmem with ⟨text, left, rfl, htext⟩
    rw [lineLength_of_not_mem htext]
    have hwhole : (text ++ lineFeed :: left).length = text.length + (left.length + 1) :=
      List.length_append
    refine iff_of_true ?_ (by omega)
    rcases Nat.le_total n (text.length + 1) with hshort | hlong
    · exact Or.inl (by rw [List.length_take, hwhole]; omega)
    · rw [Nat.min_eq_right hlong, List.take_length_add_append]
      exact Or.inr List.getLast?_concat
  · have hlength : lineLength n octets = min n (octets.length + 1) := lineLength_of_free hmem
    rw [hlength]
    rcases Nat.lt_or_ge octets.length n with hlong | hshort
    · rw [Nat.min_eq_right hlong, List.take_of_length_le (Nat.le_succ _)]
      refine iff_of_false (not_or.mpr (And.intro (by omega) ?_)) (by omega)
      exact fun hlast => hmem (List.mem_of_getLast? hlast)
    · rw [Nat.min_eq_left (by omega)]
      exact iff_of_true (Or.inl (List.length_take_of_le hshort)) hshort

variable {source rest : Source} {n : Nat} {text left : Bytes}

theorem line_of_le (hlength : lineLength n source.bytes <= source.bytes.length) :
    (source.line n).Gives (source.bytes.take (lineLength n source.bytes))
      (source.bytes.drop (lineLength n source.bytes)) source.ending := by
  have htaken : (splitLine n source.chunks).1 = source.bytes.take (lineLength n source.bytes) :=
    splitLine_fst n source.chunks
  have hleft : (splitLine n source.chunks).2.flatten =
      source.bytes.drop (splitLine n source.chunks).1.length := splitLine_snd n source.chunks
  have hcomplete := (isComplete_iff n source.bytes).mpr hlength
  rw [htaken, List.length_take, Nat.min_eq_left hlength] at hleft
  unfold line
  simp only [htaken]
  rw [if_pos (by simpa using hcomplete)]
  exact ⟨_, rfl, hleft, rfl⟩

theorem line_of_lt (hlength : source.bytes.length < lineLength n source.bytes) :
    source.line n =
      match source.ending with
      | some .endOfStream => .done source.bytes source.exhausted
      | _ => source.starved := by
  have hwhole := List.take_of_length_le (Nat.le_of_lt hlength)
  have htaken : (splitLine n source.chunks).1 = source.bytes :=
    (splitLine_fst n source.chunks).trans hwhole
  have hcomplete := mt (isComplete_iff n source.bytes).mp (Nat.not_le_of_lt hlength)
  rw [hwhole] at hcomplete
  unfold line
  simp only [htaken]
  exact if_neg (by simpa using hcomplete)

theorem line_gives (hbytes : source.bytes = text ++ lineFeed :: left)
    (htext : lineFeed ∉ text) (hlength : text.length < n) :
    (source.line n).Gives (text ++ [lineFeed]) left source.ending := by
  have hline : lineLength n source.bytes = text.length + 1 := by
    rw [hbytes, lineLength_of_not_mem htext, Nat.min_eq_right hlength]
  have hgives : (source.line n).Gives _ _ _ := line_of_le (by rw [hline, hbytes]; simp)
  rwa [hline, hbytes, List.take_length_add_append, List.drop_length_add_append] at hgives

end Source

namespace Handshake

/-!
## The head of a message
-/

/-- A character that no line can have: it would end the line, or it has no octet. -/
def IsForbidden (c : Char) : Prop :=
  c = '\r' ∨ c = '\n' ∨ 0xFF < c.toNat

instance (c : Char) : Decidable (IsForbidden c) :=
  inferInstanceAs (Decidable (_ ∨ _ ∨ _))

def IsClean (text : String) : Prop :=
  forall c, c ∈ text.toList -> ¬ IsForbidden c

instance (text : String) : Decidable (IsClean text) :=
  List.decidableBAll (fun c => ¬ IsForbidden c) text.toList

/-- A line that can be written and does not end the head of a message. -/
structure IsLine (line : String) : Prop where
  nonempty : line ≠ ""
  clean : IsClean line

def headOctets (lines : List String) : Bytes :=
  lines.flatMap (fun line => Latin1.encode line ++ Request.lineEnd) ++ Request.lineEnd

theorem headOctets_cons (line : String) (rest : List String) :
    headOctets (line :: rest) =
      Latin1.encode line ++ carriageReturn :: Source.lineFeed :: headOctets rest := by
  simp [headOctets, Request.lineEnd, carriageReturn, Source.lineFeed]

def withoutReturn (line : Bytes) : Bytes :=
  if line.getLast? = some carriageReturn then line.dropLast else line

theorem withoutReturn_concat (text : Bytes) :
    withoutReturn (text ++ [carriageReturn]) = text := by
  simp [withoutReturn]

theorem stripLineEnd?_concat (line : Bytes) :
    stripLineEnd? (line ++ [Source.lineFeed]) = some (withoutReturn line) := by
  rcases List.eq_nil_or_concat line with rfl | ⟨text, last, rfl⟩
  · rfl
  · by_cases hreturn : last = carriageReturn
    · simp [stripLineEnd?, withoutReturn, hreturn]
    · simp [stripLineEnd?, withoutReturn, hreturn]

theorem IsClean.toNat_le {text : String} (hclean : IsClean text) {c : Char}
    (hc : c ∈ text.toList) : c.toNat <= 0xFF :=
  Nat.le_of_not_lt fun hlarge => hclean c hc (Or.inr (Or.inr hlarge))

namespace IsLine

variable {line : String}

theorem decode_encode (hline : IsLine line) : Latin1.decode (Latin1.encode line) = line := by
  rw [Latin1.decode, Latin1.encode, List.map_map, ← String.toList_inj, String.toList_ofList]
  refine (List.map_congr_left ?_).trans (List.map_id _)
  intro c hc
  have hsmall : c.toNat <= 0xFF := hline.clean.toNat_le hc
  rw [Function.comp_apply, UInt8.toNat_ofNat', Nat.mod_eq_of_lt (by omega), Char.ofNat_toNat]
  rfl

theorem encode_ne_nil (hline : IsLine line) : Latin1.encode line ≠ [] := by
  simpa [Latin1.encode] using hline.nonempty

theorem not_mem_encode (hline : IsLine line) {octet : UInt8}
    (hforbidden : IsForbidden (Char.ofNat octet.toNat)) : octet ∉ Latin1.encode line := by
  intro hmem
  rcases List.mem_map.mp hmem with ⟨c, hc, rfl⟩
  have hsmall := hline.clean.toNat_le hc
  rw [UInt8.toNat_ofNat', Nat.mod_eq_of_lt (by omega), Char.ofNat_toNat] at hforbidden
  exact hline.clean c hc hforbidden

theorem lineFeed_not_mem (hline : IsLine line) : Source.lineFeed ∉ Latin1.encode line :=
  hline.not_mem_encode (by decide)

theorem carriageReturn_not_mem (hline : IsLine line) : carriageReturn ∉ Latin1.encode line :=
  hline.not_mem_encode (by decide)

end IsLine

section Lines

variable {limits : Limits} {total : UInt64}

theorem toNat_lineBudget (htotal : total.toNat <= limits.maxHandshakeSize.toNat)
    (hlimit : limits.maxHandshakeSize.toNat < 2 ^ 64 - 1) :
    (lineBudget limits total).toNat = limits.maxHandshakeSize.toNat - total.toNat + 1 := by
  have hle : total <= limits.maxHandshakeSize := UInt64.le_iff_toNat_le.mpr htotal
  have hmin : min total limits.maxHandshakeSize = total := if_pos hle
  rw [lineBudget, hmin, UInt64.toNat_add, UInt64.toNat_sub_of_le _ _ hle]
  exact Nat.mod_eq_of_lt (by simp; omega)

theorem toNat_add_ofNat {length : Nat} (hlength : total.toNat + length < 2 ^ 64) :
    (total + UInt64.ofNat length).toNat = total.toNat + length := by
  rw [UInt64.toNat_add, UInt64.toNat_ofNat', Nat.add_mod_mod, Nat.mod_eq_of_lt hlength]

theorem judgeLine_of_le {line : Bytes} (htotal : total <= limits.maxHandshakeSize) :
    judgeLine limits total (line ++ [Source.lineFeed]) = .ok (withoutReturn line) := by
  rw [judgeLine, Limits.checkHandshakeSize, if_neg (UInt64.not_lt.mpr htotal)]
  simp only [stripLineEnd?_concat]
  rfl

theorem readLinesFrom_line {line : Bytes} (hline : Source.lineFeed ∉ line)
    (hlimit : limits.maxHandshakeSize.toNat < 2 ^ 64 - 1) (fuel : Nat) (earlier : List String)
    {source : Source} {left : Bytes} (hbytes : source.bytes = line ++ Source.lineFeed :: left)
    (hroom : total.toNat + (line.length + 1) <= limits.maxHandshakeSize.toNat) :
    exists (total' : UInt64) (rest : Source),
      readLinesFrom limits (fuel + 1) earlier total source =
        (if (withoutReturn line).isEmpty then .done earlier.reverse rest
          else readLinesFrom limits fuel (Latin1.decode (withoutReturn line) :: earlier) total'
            rest) ∧
      total'.toNat = total.toNat + (line.length + 1) ∧ rest.bytes = left ∧
      rest.ending = source.ending := by
  have hbudget := toNat_lineBudget (show total.toNat <= limits.maxHandshakeSize.toNat by omega)
    hlimit
  have hlength : line.length < (lineBudget limits total).toNat := by omega
  have htotal : (total + UInt64.ofNat (line ++ [Source.lineFeed]).length).toNat =
      total.toNat + (line.length + 1) := by
    rw [List.length_append, List.length_singleton]
    exact toNat_add_ofNat (by omega)
  have hjudge : judgeLine limits (total + UInt64.ofNat (line ++ [Source.lineFeed]).length)
      (line ++ [Source.lineFeed]) = .ok (withoutReturn line) :=
    judgeLine_of_le (UInt64.le_iff_toNat_le.mpr (htotal ▸ hroom))
  rcases Source.line_gives hbytes hline hlength with ⟨rest, hread, hrest⟩
  refine ⟨_, rest, ?_, htotal, hrest⟩
  rw [readLinesFrom, hread, Reading.done_andThen]
  simp only [hjudge, Reading.ofExcept, Reading.done_andThen]

theorem readLinesFrom_gives {lines : List String} (hlines : forall line, line ∈ lines -> IsLine line)
    (hlimit : limits.maxHandshakeSize.toNat < 2 ^ 64 - 1) {fuel : Nat} (hfuel : lines.length < fuel)
    (earlier : List String) {source : Source} {left : Bytes}
    (hbytes : source.bytes = headOctets lines ++ left)
    (hroom : total.toNat + (headOctets lines).length <= limits.maxHandshakeSize.toNat) :
    (readLinesFrom limits fuel earlier total source).Gives (earlier.reverse ++ lines) left
      source.ending := by
  induction lines generalizing total earlier source fuel with
  | nil =>
      cases fuel with
      | zero => cases hfuel
      | succ fuel =>
          have hroom' : total.toNat + ([carriageReturn].length + 1) <=
              limits.maxHandshakeSize.toNat := hroom
          rcases readLinesFrom_line (by decide) hlimit fuel earlier hbytes hroom' with
            ⟨_, rest, hread, _, hleft, hending⟩
          rw [hread, List.append_nil]
          exact Reading.gives_done hleft hending
  | cons line more ih =>
      cases fuel with
      | zero => cases hfuel
      | succ fuel =>
          have hline := hlines line List.mem_cons_self
          have hfree : Source.lineFeed ∉ Latin1.encode line ++ [carriageReturn] := by
            rw [List.mem_append, not_or]
            exact And.intro hline.lineFeed_not_mem (by decide)
          rw [headOctets_cons, List.append_assoc] at hbytes
          rw [headOctets_cons, List.length_append, List.length_cons, List.length_cons] at hroom
          have hbytes' : source.bytes = (Latin1.encode line ++ [carriageReturn]) ++
              Source.lineFeed :: (headOctets more ++ left) := by
            rw [hbytes, List.append_assoc]
            rfl
          have hlength : (Latin1.encode line ++ [carriageReturn]).length =
              (Latin1.encode line).length + 1 := List.length_append
          have hroom' : total.toNat + ((Latin1.encode line ++ [carriageReturn]).length + 1) <=
              limits.maxHandshakeSize.toNat := by omega
          rcases readLinesFrom_line hfree hlimit fuel earlier hbytes' hroom' with
            ⟨total', rest, hread, htotal, hleft, hending⟩
          have hmore := @ih total' (fun other hother => hlines other (List.mem_cons_of_mem _ hother))
            fuel (Nat.lt_of_succ_lt_succ hfuel) (line :: earlier) rest hleft (by omega)
          rw [hread, withoutReturn_concat, if_neg (by simpa using hline.encode_ne_nil),
            hline.decode_encode, ← hending]
          rwa [List.reverse_cons, List.append_assoc] at hmore

/-- A head that fits the limit is read back, and what stands behind it is left. -/
theorem readLines_gives {lines : List String} (hlines : forall line, line ∈ lines -> IsLine line)
    (hlimit : limits.maxHandshakeSize.toNat < 2 ^ 64 - 1)
    (hroom : (headOctets lines).length <= limits.maxHandshakeSize.toNat)
    {source : Source} {left : Bytes} (hbytes : source.bytes = headOctets lines ++ left) :
    (readLines limits source).Gives lines left source.ending := by
  have hlength : lines.length <= (headOctets lines).length := by
    clear hlines hroom hbytes
    induction lines with
    | nil => exact Nat.zero_le _
    | cons line rest ih =>
        rw [headOctets_cons, List.length_append, List.length_cons, List.length_cons,
          List.length_cons]
        omega
  have hfuel : lines.length < source.length + 1 := by
    rw [Source.length_eq_length_bytes, hbytes, List.length_append]
    omega
  exact readLinesFrom_gives hlines hlimit hfuel [] hbytes (by simpa using hroom)

end Lines

end Handshake

end WebSocketClient
