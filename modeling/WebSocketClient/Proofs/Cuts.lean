import WebSocketClient.Proofs.Characters
import WebSocketClient.Text.Blank

/-!
# Cut texts

What a text is cut into.  Trimming takes whole runs of characters off both ends;
cutting at a character loses that character and nothing else; and octets are cut
out of a text only between its characters.
-/

namespace WebSocketClient

/-!
## Trimming
-/

namespace Blank

/-- What is kept lies between two runs of characters that may be dropped, and
neither begins nor ends with such a character. -/
structure IsStripped (drop : Char -> Bool) (chars kept : List Char) : Prop where
  between : exists before after, chars = before ++ kept ++ after ∧
    (forall c, c ∈ before -> drop c = true) ∧ forall c, c ∈ after -> drop c = true
  begins : forall c, kept.head? = some c -> drop c = false
  ends : forall c, kept.getLast? = some c -> drop c = false

def IsTrimmed (text trimmed : String) : Prop :=
  IsStripped isBlank text.toList trimmed.toList

variable {drop : Char -> Bool} {chars kept : List Char}

theorem head?_dropWhile {c : Char} (hhead : (chars.dropWhile drop).head? = some c) :
    drop c = false := by
  have hnot := List.head?_dropWhile_not drop chars
  rw [hhead] at hnot
  exact hnot

theorem dropWhile_of_head? (hbegins : forall c, chars.head? = some c -> drop c = false) :
    chars.dropWhile drop = chars := by
  cases chars with
  | nil => rfl
  | cons c rest => exact List.dropWhile_cons_of_neg (by simp [hbegins c rfl])

theorem dropWhile_append {before : List Char} (hbefore : forall c, c ∈ before -> drop c = true)
    (hbegins : forall c, chars.head? = some c -> drop c = false) :
    (before ++ chars).dropWhile drop = chars := by
  rw [List.dropWhile_append_of_pos hbefore, dropWhile_of_head? hbegins]

theorem isStripped_stripChars (drop : Char -> Bool) (chars : List Char) :
    IsStripped drop chars (stripChars drop chars) := by
  let middle := chars.dropWhile drop
  have hfront : chars = chars.takeWhile drop ++ middle := List.takeWhile_append_dropWhile.symm
  have hmiddle : middle =
      stripChars drop chars ++ (middle.reverse.takeWhile drop).reverse := by
    rw [stripChars, ← List.reverse_append, List.takeWhile_append_dropWhile, List.reverse_reverse]
  constructor
  · refine ⟨chars.takeWhile drop, (middle.reverse.takeWhile drop).reverse, ?_, ?_, ?_⟩
    · rw [List.append_assoc, ← hmiddle]
      exact hfront
    · intro c hc
      exact List.all_eq_true.mp List.all_takeWhile c hc
    · intro c hc
      exact List.all_eq_true.mp List.all_takeWhile c (List.mem_reverse.mp hc)
  · intro c hc
    -- The first character that is kept is the first one behind the run in front.
    have hhead : (chars.dropWhile drop).head? = some c := by
      show middle.head? = some c
      rw [hmiddle, List.head?_append, hc]
      rfl
    exact head?_dropWhile hhead
  · intro c hc
    rw [stripChars, List.getLast?_reverse] at hc
    exact head?_dropWhile hc

theorem stripChars_eq_iff : stripChars drop chars = kept <-> IsStripped drop chars kept := by
  constructor
  · rintro rfl
    exact isStripped_stripChars drop chars
  · rintro ⟨⟨before, after, rfl, hbefore, hafter⟩, hbegins, hends⟩
    have hreverse : forall c, c ∈ after.reverse -> drop c = true :=
      fun c hc => hafter c (List.mem_reverse.mp hc)
    unfold stripChars
    rw [List.append_assoc, List.dropWhile_append_of_pos hbefore]
    cases kept with
    | nil =>
        rw [List.nil_append, ← List.append_nil after, List.dropWhile_append_of_pos hafter]
        rfl
    | cons c rest =>
        have hkept : (c :: rest ++ after).dropWhile drop = c :: rest ++ after :=
          dropWhile_of_head? (by simpa using hbegins)
        rw [hkept, List.reverse_append, dropWhile_append hreverse, List.reverse_reverse]
        intro d hd
        rw [List.head?_reverse] at hd
        exact hends d hd

theorem ofList_stripChars_eq_iff {text trimmed : String} :
    String.ofList (stripChars isBlank text.toList) = trimmed <-> IsTrimmed text trimmed := by
  rw [IsTrimmed, ← stripChars_eq_iff]
  constructor
  · rintro rfl
    rw [String.toList_ofList]
  · intro hstrip
    rw [hstrip, String.ofList_toList]

end Blank

/-!
## Cutting at a character
-/

namespace Split

variable {mark : Char} {chars before after : List Char}

theorem once_eq_some_iff :
    once mark chars = some (before, after) <-> chars = before ++ mark :: after ∧ mark ∉ before := by
  induction chars generalizing before with
  | nil => simp [once]
  | cons c rest ih =>
      unfold once
      split
      case isTrue hmark =>
          subst hmark
          cases before with
          | nil => simp [eq_comm]
          | cons d front =>
              simp only [Option.some.injEq, Prod.mk.injEq, List.cons_append, List.cons.injEq,
                List.mem_cons, not_or, reduceCtorEq, false_and, false_iff]
              rintro ⟨⟨hsame, _⟩, hne, _⟩
              exact hne hsame
      case isFalse hmark =>
          rw [Option.map_eq_some_iff]
          constructor
          · rintro ⟨⟨front, behind⟩, hcut, heq⟩
            cases heq
            rcases ih.mp hcut with ⟨hrest, hfront⟩
            exact And.intro (by rw [hrest, List.cons_append]) (by simp [Ne.symm hmark, hfront])
          · rintro ⟨hchars, hbefore⟩
            cases before with
            | nil =>
                cases hchars
                exact absurd rfl hmark
            | cons d front =>
                cases hchars
                rw [List.mem_cons, not_or] at hbefore
                exact ⟨(front, after), ih.mpr ⟨rfl, hbefore.right⟩, rfl⟩

theorem pieces_ne_nil (mark : Char) (chars : List Char) : pieces mark chars ≠ [] := by
  cases chars with
  | nil => simp [pieces]
  | cons c rest =>
      unfold pieces
      split
      · exact List.cons_ne_nil _ _
      · split <;> exact List.cons_ne_nil _ _

theorem pieces_cons_of_ne {c : Char} (hne : c ≠ mark) (rest : List Char) :
    exists piece more, pieces mark rest = piece :: more ∧
      pieces mark (c :: rest) = (c :: piece) :: more := by
  rcases List.exists_cons_of_ne_nil (pieces_ne_nil mark rest) with ⟨piece, more, hpieces⟩
  exact ⟨piece, more, hpieces, by rw [pieces, if_neg hne, hpieces]⟩

theorem pieces_of_not_mem (hchars : mark ∉ chars) : pieces mark chars = [chars] := by
  induction chars with
  | nil => rfl
  | cons c rest ih =>
      rw [List.mem_cons, not_or] at hchars
      rw [pieces, if_neg (Ne.symm hchars.left), ih hchars.right]

theorem pieces_append (hbefore : mark ∉ before) :
    pieces mark (before ++ mark :: after) = before :: pieces mark after := by
  induction before with
  | nil => rw [List.nil_append, pieces, if_pos rfl]
  | cons c rest ih =>
      rw [List.mem_cons, not_or] at hbefore
      rw [List.cons_append, pieces, if_neg (Ne.symm hbefore.left), ih hbefore.right]

theorem pieces_eq_iff {parts : List (List Char)} :
    pieces mark chars = parts <-> parts ≠ [] ∧ [mark].intercalate parts = chars ∧
      forall part, part ∈ parts -> mark ∉ part := by
  constructor
  · rintro rfl
    refine And.intro (pieces_ne_nil mark chars) ?_
    induction chars with
    | nil => simp [pieces]
    | cons c rest ih =>
        by_cases hmark : c = mark
        · subst hmark
          rcases List.exists_cons_of_ne_nil (pieces_ne_nil c rest) with ⟨piece, more, hpieces⟩
          rw [hpieces] at ih
          rw [pieces, if_pos rfl, hpieces, List.intercalate_cons_cons, ih.left]
          refine And.intro rfl ?_
          intro part hpart
          rcases List.mem_cons.mp hpart with rfl | hpart
          · exact List.not_mem_nil
          · exact ih.right part hpart
        · rcases pieces_cons_of_ne hmark rest with ⟨piece, more, hpieces, hcons⟩
          rw [hpieces] at ih
          rw [hcons]
          constructor
          · rw [← ih.left]
            cases more <;> simp
          · intro part hpart
            rcases List.mem_cons.mp hpart with rfl | hpart
            · rw [List.mem_cons, not_or]
              exact And.intro (Ne.symm hmark) (ih.right piece List.mem_cons_self)
            · exact ih.right part (List.mem_cons_of_mem _ hpart)
  · rintro ⟨hparts, rfl, hfree⟩
    induction parts with
    | nil => exact absurd rfl hparts
    | cons first rest ih =>
        have hfirst := hfree first List.mem_cons_self
        cases rest with
        | nil =>
            rw [List.intercalate_singleton]
            exact pieces_of_not_mem hfirst
        | cons second rest =>
            rw [List.intercalate_cons_cons, List.append_assoc, List.singleton_append,
              pieces_append hfirst]
            rw [ih (List.cons_ne_nil _ _) fun part hpart =>
              hfree part (List.mem_cons_of_mem _ hpart)]

end Split

/-!
## Cutting between characters
-/

namespace Utf8

theorem exists_append_of_encode {text front : String} {octets : Bytes}
    (hencode : encode text = encode front ++ octets) :
    exists behind, text = front ++ behind ∧ octets = encode behind := by
  have hdecode : decode (encode front ++ octets) = some text :=
    decode_eq_some_iff.mpr hencode.symm
  rw [decode, decodeFront_encode_append] at hdecode
  split at hdecode
  case h_1 whole hfront =>
      cases hdecode
      rcases Option.map_eq_some_iff.mp hfront with ⟨⟨behind, rest⟩, hbehind, heq⟩
      cases heq
      exact ⟨behind, rfl, decode_eq_some_iff.mp (by rw [decode, hbehind])⟩
  case h_2 => cases hdecode

/-- A part is cut out of a text where the octets before it and the octets up to its
end are whole texts. -/
theorem slice?_eq_some_iff {text part : String} {start stop : Nat} :
    slice? text start stop = some part <->
      exists before behind : String, text = before ++ part ++ behind ∧
        (encode before).length = start ∧ (encode (before ++ part)).length = stop := by
  unfold slice?
  simp only
  constructor
  · intro hslice
    split at hslice
    case isFalse => cases hslice
    case isTrue hbounds =>
        simp only [Bool.and_eq_true, decide_eq_true_eq] at hbounds
        split at hslice
        case h_2 => cases hslice
        case h_1 before part' hbefore hpart =>
            cases hslice
            rw [decode_eq_some_iff] at hbefore hpart
            have hfront : encode text = encode before ++ (encode text).drop start := by
              rw [← hbefore, List.take_append_drop]
            rcases exists_append_of_encode hfront with ⟨rest, htext, hrest⟩
            have hmiddle : encode rest = encode part ++ (encode rest).drop (stop - start) := by
              rw [← hpart, hrest, List.take_append_drop]
            rcases exists_append_of_encode hmiddle with ⟨behind, hbehind, _⟩
            have hstart : (encode before).length = start := by
              rw [← hbefore, List.length_take]
              omega
            have hlength : (encode part).length = stop - start := by
              rw [← hpart, List.length_take, List.length_drop]
              omega
            refine ⟨before, behind, by rw [htext, hbehind, String.append_assoc], hstart, ?_⟩
            rw [encode_append, List.length_append, hstart, hlength]
            omega
  · rintro ⟨before, behind, rfl, hstart, hstop⟩
    have hoctets : encode (before ++ part ++ behind) =
        encode before ++ (encode part ++ encode behind) := by
      rw [encode_append, encode_append, List.append_assoc]
    rw [encode_append, List.length_append] at hstop
    have hlength : stop - start = (encode part).length := by omega
    have hbefore : decode (encode before) = some before := decode_eq_some_iff.mpr rfl
    have hpart : decode (encode part) = some part := decode_eq_some_iff.mpr rfl
    rw [hoctets, if_pos, hlength, ← hstart, List.take_left, List.drop_left, List.take_left, hbefore,
      hpart]
    simp only [Bool.and_eq_true, decide_eq_true_eq, List.length_append]
    omega

end Utf8

end WebSocketClient
