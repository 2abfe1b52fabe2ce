import WebSocketClient.Text.Decoder

/-!
# Characters in octets

The decoder goes octet by octet; the octets of a text come character by
character.  The decoder gives back every text, and what it holds back is always
the beginning of a character: so the text it has found in some octets is the
longest one in front of them, and it gives up only where no text goes on.
-/

namespace WebSocketClient

namespace Utf8

@[simp] theorem encode_empty : encode "" = [] := rfl

@[simp] theorem encode_append (first second : String) :
    encode (first ++ second) = encode first ++ encode second := by
  simp [encode]

/-!
## One character
-/

theorem exists_value (c : Char) : exists value, Char.ofNat value = c ∧ value.isValidChar ∧
    value < 0x110000 := by
  have hvalid : c.val.toNat.isValidChar := c.valid
  refine ⟨c.val.toNat, Char.ofNat_toNat c, hvalid, ?_⟩
  unfold Nat.isValidChar at hvalid
  omega

section Lengths

variable {value : Nat}

theorem val_ofNat (hvalid : value.isValidChar) : (Char.ofNat value).val.toNat = value := by
  rw [Char.ofNat, dif_pos hvalid]
  rfl

theorem encodeChar_ofNat_one (hhigh : value < 0x80) :
    String.utf8EncodeChar (Char.ofNat value) = [UInt8.ofNat value] := by
  have hval : (Char.ofNat value).val.toNat = value := val_ofNat (Or.inl (by omega))
  simp only [String.utf8EncodeChar, hval]
  rw [if_pos (by omega)]

theorem encodeChar_ofNat_two (hlow : 0x80 <= value) (hhigh : value < 0x800) :
    String.utf8EncodeChar (Char.ofNat value) =
      [UInt8.ofNat (value / 64 + 0xC0), UInt8.ofNat (value % 64 + 0x80)] := by
  have hval : (Char.ofNat value).val.toNat = value := val_ofNat (Or.inl (by omega))
  simp only [String.utf8EncodeChar, hval]
  rw [if_neg (by omega), if_pos (by omega), Nat.mod_eq_of_lt (show value / 64 < 32 by omega)]

theorem encodeChar_ofNat_three (hlow : 0x800 <= value) (hhigh : value < 0x10000)
    (hvalid : value.isValidChar) :
    String.utf8EncodeChar (Char.ofNat value) =
      [UInt8.ofNat (value / 4096 + 0xE0), UInt8.ofNat (value / 64 % 64 + 0x80),
        UInt8.ofNat (value % 64 + 0x80)] := by
  simp only [String.utf8EncodeChar, val_ofNat hvalid]
  rw [if_neg (by omega), if_neg (by omega), if_pos (by omega),
    Nat.mod_eq_of_lt (show value / 4096 < 16 by omega)]

theorem encodeChar_ofNat_four (hlow : 0x10000 <= value) (hhigh : value < 0x110000) :
    String.utf8EncodeChar (Char.ofNat value) =
      [UInt8.ofNat (value / 262144 + 0xF0), UInt8.ofNat (value / 4096 % 64 + 0x80),
        UInt8.ofNat (value / 64 % 64 + 0x80), UInt8.ofNat (value % 64 + 0x80)] := by
  have hval : (Char.ofNat value).val.toNat = value := val_ofNat (Or.inr (by omega))
  simp only [String.utf8EncodeChar, hval]
  rw [if_neg (by omega), if_neg (by omega), if_neg (by omega),
    Nat.mod_eq_of_lt (show value / 262144 < 8 by omega)]

end Lengths

def IsTail (octet : UInt8) : Prop :=
  0x80 <= octet ∧ octet <= 0xBF

/-- What a first octet means.  The second octet is restricted behind four first
octets: a longer form than needed, a surrogate, a number above the last code
point. -/
inductive Beginning (octet : UInt8) : Advance -> Prop
  | one : octet.toNat < 0x80 -> Beginning octet (.finished (Char.ofNat octet.toNat))
  | two : 0xC2 <= octet.toNat -> octet.toNat < 0xE0 ->
      Beginning octet (.unfinished ⟨[octet], octet.toNat % 32, 1, 0x80, 0xBF⟩)
  | three {low high : UInt8} : 0xE0 <= octet.toNat -> octet.toNat < 0xF0 -> low <= high ->
      (forall next, low <= next ∧ next <= high <-> IsTail next ∧
        (octet.toNat = 0xE0 -> 0xA0 <= next) ∧ (octet.toNat = 0xED -> next <= 0x9F)) ->
      Beginning octet (.unfinished ⟨[octet], octet.toNat % 16, 2, low, high⟩)
  | four {low high : UInt8} : 0xF0 <= octet.toNat -> octet.toNat <= 0xF4 -> low <= high ->
      (forall next, low <= next ∧ next <= high <-> IsTail next ∧
        (octet.toNat = 0xF0 -> 0x90 <= next) ∧ (octet.toNat = 0xF4 -> next <= 0x8F)) ->
      Beginning octet (.unfinished ⟨[octet], octet.toNat % 8, 3, low, high⟩)
  | none : 0x80 <= octet.toNat ∧ octet.toNat < 0xC2 ∨ 0xF4 < octet.toNat ->
      Beginning octet .invalid

theorem beginning (octet : UInt8) : Beginning octet (begin octet) := by
  unfold begin
  simp only [UInt8.lt_iff_toNat_lt, ← UInt8.toNat_inj, UInt8.reduceToNat]
  split
  · exact .one (by omega)
  split
  · exact .none (by omega)
  split
  · exact .two (by omega) (by omega)
  iterate 3
    split
    · refine .three (by omega) (by omega) (by decide) ?_
      intro next
      simp only [IsTail, UInt8.le_iff_toNat_le, UInt8.reduceToNat]
      omega
  iterate 3
    split
    · refine .four (by omega) (by omega) (by decide) ?_
      intro next
      simp only [IsTail, UInt8.le_iff_toNat_le, UInt8.reduceToNat]
      omega
  exact .none (by omega)

/-!
## Octets of a character come out as the character
-/

theorem decodeFrom_unfinished {character : Option Unfinished} {octet : UInt8}
    {rest : Unfinished} (hadvance : advance character octet = .unfinished rest)
    (chars : List Char) (more : Bytes) :
    decodeFrom chars character (octet :: more) = decodeFrom chars (some rest) more := by
  rw [decodeFrom, hadvance]

theorem decodeFrom_finished {character : Option Unfinished} {octet : UInt8} {c : Char}
    (hadvance : advance character octet = .finished c) (chars : List Char) (more : Bytes) :
    decodeFrom chars character (octet :: more) = decodeFrom (c :: chars) none more := by
  rw [decodeFrom, hadvance]

theorem advance_one {octet : UInt8} (hhigh : octet.toNat < 0x80) :
    advance none octet = .finished (Char.ofNat octet.toNat) := by
  have hbegin := beginning octet
  show begin octet = _
  generalize begin octet = advance at hbegin ⊢
  cases hbegin with
  | one _ => rfl
  | two hlow _ => omega
  | three hlow _ _ _ => omega
  | four hlow _ _ _ => omega
  | none hnone => omega

theorem advance_two {octet : UInt8} (hlow : 0xC2 <= octet.toNat) (hhigh : octet.toNat < 0xE0) :
    advance none octet = .unfinished ⟨[octet], octet.toNat % 32, 1, 0x80, 0xBF⟩ := by
  have hbegin := beginning octet
  show begin octet = _
  generalize begin octet = advance at hbegin ⊢
  cases hbegin with
  | two _ _ => rfl
  | one hhigh => omega
  | three hlow _ _ _ => omega
  | four hlow _ _ _ => omega
  | none hnone => omega

theorem advance_three {octet : UInt8} (hlow : 0xE0 <= octet.toNat) (hhigh : octet.toNat < 0xF0) :
    exists low high,
      advance none octet = .unfinished ⟨[octet], octet.toNat % 16, 2, low, high⟩ ∧
        forall next, IsTail next -> (octet.toNat = 0xE0 -> 0xA0 <= next) ->
          (octet.toNat = 0xED -> next <= 0x9F) -> low <= next ∧ next <= high := by
  have hbegin := beginning octet
  show exists low high, begin octet = _ ∧ _
  generalize begin octet = advance at hbegin ⊢
  cases hbegin with
  | @three low high _ _ _ hnext =>
      refine ⟨low, high, rfl, ?_⟩
      intro next htail hshort hsurrogate
      exact (hnext next).mpr ⟨htail, hshort, hsurrogate⟩
  | one hhigh => omega
  | two _ hhigh => omega
  | four hlow _ _ _ => omega
  | none hnone => omega

theorem advance_four {octet : UInt8} (hlow : 0xF0 <= octet.toNat) (hhigh : octet.toNat <= 0xF4) :
    exists low high,
      advance none octet = .unfinished ⟨[octet], octet.toNat % 8, 3, low, high⟩ ∧
        forall next, IsTail next -> (octet.toNat = 0xF0 -> 0x90 <= next) ->
          (octet.toNat = 0xF4 -> next <= 0x8F) -> low <= next ∧ next <= high := by
  have hbegin := beginning octet
  show exists low high, begin octet = _ ∧ _
  generalize begin octet = advance at hbegin ⊢
  cases hbegin with
  | @four low high _ _ _ hnext =>
      refine ⟨low, high, rfl, ?_⟩
      intro next htail hshort hlast
      exact (hnext next).mpr ⟨htail, hshort, hlast⟩
  | one hhigh => omega
  | two _ hhigh => omega
  | three _ hhigh _ _ => omega
  | none hnone => omega

theorem advance_last {octets : Bytes} {value : Nat} {low high octet : UInt8} (hlow : low <= octet)
    (hhigh : octet <= high) :
    advance (some ⟨octets, value, 1, low, high⟩) octet =
      .finished (Char.ofNat (value * 64 + octet.toNat % 64)) := by
  simp [advance, Unfinished.add, hlow, hhigh]

theorem advance_more {octets : Bytes} {value missing : Nat} {low high octet : UInt8}
    (hlow : low <= octet) (hhigh : octet <= high) :
    advance (some ⟨octets, value, missing + 2, low, high⟩) octet =
      .unfinished ⟨octets ++ [octet], value * 64 + octet.toNat % 64, missing + 1, 0x80, 0xBF⟩ := by
  simp [advance, Unfinished.add, hlow, hhigh]

theorem isTail_ofNat (n : Nat) : IsTail (UInt8.ofNat (n % 64 + 0x80)) := by
  simp only [IsTail, UInt8.le_iff_toNat_le, UInt8.toNat_ofNat', UInt8.reduceToNat]
  omega

section Lengths

variable {value : Nat} (chars : List Char) (rest : Bytes)

theorem decodeFrom_one (hhigh : value < 0x80) :
    decodeFrom chars none (String.utf8EncodeChar (Char.ofNat value) ++ rest) =
      decodeFrom (Char.ofNat value :: chars) none rest := by
  have hoctet : (UInt8.ofNat value).toNat = value := by
    rw [UInt8.toNat_ofNat']
    omega
  rw [encodeChar_ofNat_one hhigh, List.singleton_append,
    decodeFrom_finished (advance_one (by omega)), hoctet]

theorem decodeFrom_two (hlow : 0x80 <= value) (hhigh : value < 0x800) :
    decodeFrom chars none (String.utf8EncodeChar (Char.ofNat value) ++ rest) =
      decodeFrom (Char.ofNat value :: chars) none rest := by
  have hsecond := isTail_ofNat value
  rw [encodeChar_ofNat_two hlow hhigh]
  simp only [List.cons_append, List.nil_append]
  rw [decodeFrom_unfinished (advance_two (by simp; omega) (by simp; omega)),
    decodeFrom_finished (advance_last hsecond.left hsecond.right)]
  congr 3
  simp only [UInt8.toNat_ofNat']
  omega

theorem decodeFrom_three (hlow : 0x800 <= value) (hhigh : value < 0x10000)
    (hvalid : value.isValidChar) :
    decodeFrom chars none (String.utf8EncodeChar (Char.ofNat value) ++ rest) =
      decodeFrom (Char.ofNat value :: chars) none rest := by
  have hfirst : (UInt8.ofNat (value / 4096 + 0xE0)).toNat = value / 4096 + 0xE0 := by
    rw [UInt8.toNat_ofNat']
    omega
  have hsecond := isTail_ofNat (value / 64)
  have hthird := isTail_ofNat value
  have hlead : 0xE0 <= (UInt8.ofNat (value / 4096 + 0xE0)).toNat := by omega
  rcases advance_three hlead (by omega) with ⟨low, high, hbegin, hrange⟩
  have hsecond' := hrange _ hsecond
    (by simp only [UInt8.le_iff_toNat_le, UInt8.toNat_ofNat', UInt8.reduceToNat]; omega)
    (by
      unfold Nat.isValidChar at hvalid
      simp only [UInt8.le_iff_toNat_le, UInt8.toNat_ofNat', UInt8.reduceToNat]
      omega)
  rw [encodeChar_ofNat_three hlow hhigh hvalid]
  simp only [List.cons_append, List.nil_append]
  rw [decodeFrom_unfinished hbegin,
    decodeFrom_unfinished (advance_more hsecond'.left hsecond'.right),
    decodeFrom_finished (advance_last hthird.left hthird.right)]
  congr 3
  simp only [UInt8.toNat_ofNat']
  omega

theorem decodeFrom_four (hlow : 0x10000 <= value) (hhigh : value < 0x110000) :
    decodeFrom chars none (String.utf8EncodeChar (Char.ofNat value) ++ rest) =
      decodeFrom (Char.ofNat value :: chars) none rest := by
  have hfirst : (UInt8.ofNat (value / 262144 + 0xF0)).toNat = value / 262144 + 0xF0 := by
    rw [UInt8.toNat_ofNat']
    omega
  have hsecond := isTail_ofNat (value / 4096)
  have hthird := isTail_ofNat (value / 64)
  have hfourth := isTail_ofNat value
  have hlead : 0xF0 <= (UInt8.ofNat (value / 262144 + 0xF0)).toNat := by omega
  rcases advance_four hlead (by omega) with ⟨low, high, hbegin, hrange⟩
  have hsecond' := hrange _ hsecond
    (by simp only [UInt8.le_iff_toNat_le, UInt8.toNat_ofNat', UInt8.reduceToNat]; omega)
    (by simp only [UInt8.le_iff_toNat_le, UInt8.toNat_ofNat', UInt8.reduceToNat]; omega)
  rw [encodeChar_ofNat_four hlow hhigh]
  simp only [List.cons_append, List.nil_append]
  rw [decodeFrom_unfinished hbegin,
    decodeFrom_unfinished (advance_more hsecond'.left hsecond'.right),
    decodeFrom_unfinished (advance_more hthird.left hthird.right),
    decodeFrom_finished (advance_last hfourth.left hfourth.right)]
  congr 3
  simp only [UInt8.toNat_ofNat']
  omega

end Lengths

theorem decodeFrom_encodeChar (chars : List Char) (c : Char) (rest : Bytes) :
    decodeFrom chars none (String.utf8EncodeChar c ++ rest) =
      decodeFrom (c :: chars) none rest := by
  rcases exists_value c with ⟨value, rfl, hvalid, hbound⟩
  rcases Nat.lt_or_ge value 0x80 with hone | hone
  · exact decodeFrom_one chars rest hone
  rcases Nat.lt_or_ge value 0x800 with htwo | htwo
  · exact decodeFrom_two chars rest hone htwo
  rcases Nat.lt_or_ge value 0x10000 with hthree | hthree
  · exact decodeFrom_three chars rest htwo hthree hvalid
  · exact decodeFrom_four chars rest hthree hbound

theorem decodeFrom_encode (chars : List Char) (text : String) (rest : Bytes) :
    decodeFrom chars none (encode text ++ rest) =
      decodeFrom (text.toList.reverse ++ chars) none rest := by
  unfold encode
  generalize text.toList = content
  induction content generalizing chars with
  | nil => rfl
  | cons c content ih =>
      rw [List.flatMap_cons, List.append_assoc, decodeFrom_encodeChar, ih]
      simp

/-!
## What is held back is the beginning of a character
-/

def Unfinished.valueWith (character : Unfinished) (tail : Bytes) : Nat :=
  tail.foldl (fun value octet => value * 64 + octet.toNat % 64) character.value

/-- The octets are the beginning of a character, and any octets in the ranges
finish it. -/
structure Unfinished.Fits (character : Unfinished) : Prop where
  begun : character.octets ≠ []
  missing : 0 < character.missing
  range : character.low <= character.high
  finish : forall (next : UInt8) (rest : Bytes),
    character.low <= next -> next <= character.high ->
    (forall octet, octet ∈ rest -> IsTail octet) -> rest.length + 1 = character.missing ->
    String.utf8EncodeChar (Char.ofNat (character.valueWith (next :: rest))) =
      character.octets ++ next :: rest

/-- The octets held back in the middle of a character. -/
def held (character : Option Unfinished) : Bytes :=
  (character.map Unfinished.octets).getD []

theorem fits_begin {octet : UInt8} {character : Unfinished}
    (hadvance : advance none octet = .unfinished character) : character.Fits := by
  have hbegin := beginning octet
  rw [show begin octet = .unfinished character from hadvance] at hbegin
  cases hbegin with
  | two hlow hhigh =>
      refine ⟨List.cons_ne_nil octet [], Nat.one_pos, show (0x80 : UInt8) <= 0xBF by decide, ?_⟩
      intro next rest hnext hnext' hrest hlength
      have hnil : rest = [] := List.length_eq_zero_iff.mp (by simpa using hlength)
      simp only [UInt8.le_iff_toNat_le, UInt8.reduceToNat] at hnext hnext'
      simp only [Unfinished.valueWith, hnil, List.foldl_cons, List.foldl_nil]
      rw [encodeChar_ofNat_two (by omega) (by omega)]
      simp only [List.cons_append, List.nil_append, List.cons.injEq, and_true,
        ← UInt8.toNat_inj, UInt8.toNat_ofNat']
      constructor <;> omega
  | three hlow hhigh hrange hsecond =>
      refine ⟨List.cons_ne_nil octet [], Nat.two_pos, hrange, ?_⟩
      intro second rest hnext hnext' hrest hlength
      match rest, hlength, hrest with
      | [third], _, hrest =>
          have hthird := hrest third (by simp)
          have hsecond' := (hsecond second).mp (And.intro hnext hnext')
          simp only [IsTail, UInt8.le_iff_toNat_le, UInt8.reduceToNat] at hthird hsecond'
          simp only [Unfinished.valueWith, List.foldl_cons, List.foldl_nil]
          rw [encodeChar_ofNat_three (by omega) (by omega) (by unfold Nat.isValidChar; omega)]
          simp only [List.cons_append, List.nil_append, List.cons.injEq, and_true,
            ← UInt8.toNat_inj, UInt8.toNat_ofNat']
          refine ⟨?_, ?_, ?_⟩ <;> omega
  | four hlow hhigh hrange hsecond =>
      refine ⟨List.cons_ne_nil octet [], Nat.zero_lt_succ 2, hrange, ?_⟩
      intro second rest hnext hnext' hrest hlength
      match rest, hlength, hrest with
      | [third, fourth], _, hrest =>
          have hthird := hrest third (by simp)
          have hfourth := hrest fourth (by simp)
          have hsecond' := (hsecond second).mp (And.intro hnext hnext')
          simp only [IsTail, UInt8.le_iff_toNat_le, UInt8.reduceToNat] at hthird hfourth hsecond'
          simp only [Unfinished.valueWith, List.foldl_cons, List.foldl_nil]
          rw [encodeChar_ofNat_four (by omega) (by omega)]
          simp only [List.cons_append, List.nil_append, List.cons.injEq, and_true,
            ← UInt8.toNat_inj, UInt8.toNat_ofNat']
          refine ⟨?_, ?_, ?_, ?_⟩ <;> omega

theorem add_cases {character : Unfinished} {octet : UInt8} {next : Advance}
    (hadd : character.add octet = next) (hvalid : next ≠ .invalid) :
    character.low <= octet ∧ octet <= character.high ∧
      next = if character.missing <= 1 then
          .finished (Char.ofNat (character.value * 64 + octet.toNat % 64))
        else
          .unfinished ⟨character.octets ++ [octet], character.value * 64 + octet.toNat % 64,
            character.missing - 1, 0x80, 0xBF⟩ := by
  unfold Unfinished.add at hadd
  split at hadd
  case isTrue hrange =>
      have hrange' : character.low <= octet ∧ octet <= character.high := by simpa using hrange
      exact ⟨hrange'.left, hrange'.right, hadd.symm⟩
  case isFalse => exact absurd hadd.symm hvalid

theorem encodeChar_of_finished {character : Option Unfinished} {octet : UInt8} {c : Char}
    (hfits : forall rest, character = some rest -> rest.Fits)
    (hadvance : advance character octet = .finished c) :
    String.utf8EncodeChar c = held character ++ [octet] := by
  cases character with
  | none =>
      have hbegin := beginning octet
      rw [show begin octet = .finished c from hadvance] at hbegin
      cases hbegin with
      | one hhigh =>
          rw [encodeChar_ofNat_one hhigh, UInt8.ofNat_toNat]
          rfl
  | some character =>
      rcases add_cases hadvance (by simp) with ⟨hlow, hhigh, hnext⟩
      have hfits' := hfits character rfl
      split at hnext
      case isTrue hmissing =>
          cases hnext
          have hone : character.missing = 1 := by
            have hpos := hfits'.missing
            omega
          exact hfits'.finish octet [] hlow hhigh (by simp) (by simp [hone])
      case isFalse => cases hnext

theorem fits_of_unfinished {character : Option Unfinished} {octet : UInt8} {rest : Unfinished}
    (hfits : forall rest, character = some rest -> rest.Fits)
    (hadvance : advance character octet = .unfinished rest) :
    rest.Fits ∧ rest.octets = held character ++ [octet] := by
  cases character with
  | none =>
      refine And.intro (fits_begin hadvance) ?_
      have hbegin := beginning octet
      rw [show begin octet = .unfinished rest from hadvance] at hbegin
      cases hbegin <;> rfl
  | some character =>
      rcases add_cases hadvance (by simp) with ⟨hlow, hhigh, hnext⟩
      split at hnext
      case isTrue => cases hnext
      case isFalse hmissing =>
          cases hnext
          refine And.intro ⟨by simp, by simp; omega, show (0x80 : UInt8) <= 0xBF by decide, ?_⟩ rfl
          -- What finishes the character from here finishes it from one octet earlier.
          intro next more hnext hnext' hmore hlength
          have hfinish := (hfits character rfl).finish octet (next :: more) hlow hhigh
            (by
              intro other hother
              rcases List.mem_cons.mp hother with rfl | hother
              · exact And.intro hnext hnext'
              · exact hmore other hother)
            (by simp only [List.length_cons] at hlength ⊢; omega)
          rw [List.append_assoc]
          exact hfinish

/-- The octets are those of the characters found, then those held back. -/
theorem octets_of_decodeFrom {chars found : List Char} {character rest : Option Unfinished}
    {octets : Bytes} (hfits : forall begun, character = some begun -> begun.Fits)
    (hdecode : decodeFrom chars character octets = some (found, rest)) :
    (forall begun, rest = some begun -> begun.Fits) ∧
      chars.reverse.flatMap String.utf8EncodeChar ++ (held character ++ octets) =
        found.reverse.flatMap String.utf8EncodeChar ++ held rest := by
  induction octets generalizing chars character with
  | nil =>
      cases hdecode
      exact And.intro hfits (by simp)
  | cons octet octets ih =>
      rw [decodeFrom] at hdecode
      cases hadvance : advance character octet with
      | finished c =>
          rw [hadvance] at hdecode
          rcases ih (by simp) hdecode with ⟨hrest, hoctets⟩
          refine And.intro hrest ?_
          rw [← hoctets, List.append_cons, ← encodeChar_of_finished hfits hadvance]
          simp [held]
      | unfinished begun =>
          rw [hadvance] at hdecode
          have hbegun := fits_of_unfinished hfits hadvance
          rcases ih (by rintro _ ⟨⟩; exact hbegun.left) hdecode with ⟨hrest, hoctets⟩
          refine And.intro hrest ?_
          rw [← hoctets, List.append_cons, ← hbegun.right]
          rfl
      | invalid =>
          rw [hadvance] at hdecode
          cases hdecode

theorem exists_char_of_fits {character : Unfinished} (hfits : character.Fits) :
    exists c missing, missing ≠ [] ∧ String.utf8EncodeChar c = character.octets ++ missing := by
  -- Only the next octet is bounded by what came before it; the others are free.
  have hfinish := hfits.finish character.low (List.replicate (character.missing - 1) 0x80)
    (UInt8.le_refl _) hfits.range
    (by
      intro octet hoctet
      rw [List.eq_of_mem_replicate hoctet]
      exact And.intro (by decide) (by decide))
    (by
      have hmissing := hfits.missing
      rw [List.length_replicate]
      omega)
  exact ⟨_, _, List.cons_ne_nil _ _, hfinish⟩

/-!
## Whole texts
-/

def IsLongestText (text : String) (octets : Bytes) : Prop :=
  encode text <+: octets ∧ forall other, encode other <+: octets -> encode other <+: encode text

/-- The octets stop in a text, perhaps in the middle of a character. -/
def IsFrontOfText (octets : Bytes) : Prop :=
  exists text, octets <+: encode text

theorem encode_ofList (content : List Char) :
    encode (String.ofList content) = content.flatMap String.utf8EncodeChar := by
  rw [encode, String.toList_ofList]

theorem decodeFrom_eq_map (chars : List Char) (character : Option Unfinished) (octets : Bytes) :
    decodeFrom chars character octets =
      (decodeFrom [] character octets).map fun (found, rest) => (found ++ chars, rest) := by
  induction octets generalizing chars character with
  | nil => rfl
  | cons octet octets ih =>
      simp only [decodeFrom]
      cases advance character octet with
      | finished c =>
          simp only
          rw [ih (c :: chars), ih [c], Option.map_map]
          congr
          funext found
          simp
      | unfinished rest => exact ih chars (some rest)
      | invalid => rfl

theorem decodeFront_encode_append (text : String) (octets : Bytes) :
    decodeFront (encode text ++ octets) =
      (decodeFront octets).map fun (more, rest) => (text ++ more, rest) := by
  rw [decodeFront, decodeFrom_encode, decodeFrom_eq_map, decodeFront, Option.map_map,
    Option.map_map]
  apply congrArg (fun convert => (decodeFrom [] none octets).map convert)
  funext found
  simp [String.ofList_append]

theorem octets_of_decodeFront {octets : Bytes} {text : String} {rest : Option Unfinished}
    (hdecode : decodeFront octets = some (text, rest)) :
    (forall begun, rest = some begun -> begun.Fits) ∧ octets = encode text ++ held rest := by
  rcases Option.map_eq_some_iff.mp hdecode with ⟨⟨found, rest'⟩, hfound, heq⟩
  cases heq
  rcases octets_of_decodeFrom (by simp) hfound with ⟨hfits, hoctets⟩
  refine And.intro hfits ?_
  rw [encode_ofList]
  simpa [held] using hoctets

/-- Decoding gives up only where no text goes on. -/
theorem decodeFront_isSome_iff (octets : Bytes) :
    (decodeFront octets).isSome = true <-> IsFrontOfText octets := by
  constructor
  · intro hsome
    rcases Option.isSome_iff_exists.mp hsome with ⟨⟨text, rest⟩, hdecode⟩
    rcases octets_of_decodeFront hdecode with ⟨hfits, hoctets⟩
    cases rest with
    | none => exact ⟨text, by simp [hoctets, held]⟩
    | some begun =>
        rcases exists_char_of_fits (hfits begun rfl) with ⟨c, missing, _, hc⟩
        refine ⟨text ++ String.ofList [c], ?_⟩
        rw [hoctets, encode_append, encode_ofList, List.flatMap_singleton, hc]
        exact (List.prefix_append_right_inj _).mpr (List.prefix_append _ _)
  · rintro ⟨text, more, hmore⟩
    have hwhole : decodeFrom [] none (octets ++ more) = some (text.toList.reverse, none) := by
      rw [hmore, ← List.append_nil (encode text), decodeFrom_encode, List.append_nil]
      rfl
    rw [decodeFrom_append] at hwhole
    cases hdecode : decodeFrom [] none octets with
    | none => simp [hdecode] at hwhole
    | some found => simp [decodeFront, hdecode]

theorem isLongestText_of_decodeFront {octets : Bytes} {text : String} {rest : Option Unfinished}
    (hdecode : decodeFront octets = some (text, rest)) : IsLongestText text octets := by
  constructor
  · rw [(octets_of_decodeFront hdecode).right]
    exact List.prefix_append ..
  · rintro other ⟨more, hmore⟩
    rw [← hmore, decodeFront_encode_append] at hdecode
    rcases Option.map_eq_some_iff.mp hdecode with ⟨⟨longer, _⟩, _, heq⟩
    cases heq
    rw [encode_append]
    exact List.prefix_append ..

theorem decode_eq_some_iff {octets : Bytes} {text : String} :
    decode octets = some text <-> octets = encode text := by
  constructor
  · intro hdecode
    unfold decode at hdecode
    split at hdecode
    · rename_i hfront
      cases hdecode
      simpa [held] using (octets_of_decodeFront hfront).right
    · cases hdecode
  · rintro rfl
    have hfront : decodeFront (encode text) = some (text ++ "", none) := by
      rw [← List.append_nil (encode text), decodeFront_encode_append]
      rfl
    simp [decode, hfront]

end Utf8

theorem decodeText_eq_ok_iff {octets : Bytes} {text : String} :
    decodeText octets = .ok text <-> octets = Utf8.encode text := by
  rw [← Utf8.decode_eq_some_iff]
  unfold decodeText
  cases Utf8.decode octets <;> simp

/-!
## Chunks of a text
-/

namespace TextDecoder

/-- The octets received are those of the text told and those held back. -/
def Follows (decoder : TextDecoder) (received : Bytes) (told : String) : Prop :=
  received = Utf8.encode told ++ decoder.carry

theorem follows_empty : empty.Follows [] "" := rfl

variable {decoder after : TextDecoder} {received chunk : Bytes} {told text : String}

/-- What the check leaves in front of an unfinished character is a text: the one that the
check has found. -/
theorem decodeText_of_decodeFront {octets : Bytes} {rest : Option Utf8.Unfinished}
    (hfront : Utf8.decodeFront octets = some (text, rest)) :
    decodeText (octets.take (octets.length - (Utf8.held rest).length)) = .ok text := by
  have hoctets := (Utf8.octets_of_decodeFront hfront).right
  have hlength : octets.length - (Utf8.held rest).length = (Utf8.encode text).length := by
    rw [hoctets, List.length_append, Nat.add_sub_cancel]
  rw [decodeText_eq_ok_iff, hlength, hoctets, List.take_left]

theorem decode_eq (decoder : TextDecoder) (chunk : Bytes) (final : Bool) :
    decoder.decode chunk final =
      match Utf8.decodeFront (decoder.carry ++ chunk) with
      | some (text, none) => (.ok text, empty)
      | some (text, some character) =>
          if final then (.error .invalidUtf8, empty) else (.ok text, ⟨character.octets⟩)
      | none => (.error .invalidUtf8, empty) := by
  unfold decode
  dsimp only
  cases hfront : Utf8.decodeFront (decoder.carry ++ chunk) with
  | none => rfl
  | some found =>
      rcases found with ⟨text, rest⟩
      have hwhole := decodeText_of_decodeFront hfront
      cases rest with
      | none =>
          rw [Utf8.held, Option.map_none, Option.getD_none, List.length_nil, Nat.sub_zero,
            List.take_length] at hwhole
          simp only [hwhole]
      | some character =>
          rw [Utf8.held, Option.map_some, Option.getD_some] at hwhole
          simp only [hwhole]

theorem decodeFront_of_follows (hfollows : decoder.Follows received told) (chunk : Bytes) :
    Utf8.decodeFront (received ++ chunk) =
      (Utf8.decodeFront (decoder.carry ++ chunk)).map fun (more, rest) => (told ++ more, rest) := by
  rw [hfollows, List.append_assoc, Utf8.decodeFront_encode_append]

theorem decode_eq_ok {final : Bool} (hfollows : decoder.Follows received told)
    (hdecode : decoder.decode chunk final = (.ok text, after)) :
    Utf8.IsLongestText (told ++ text) (received ++ chunk) ∧
      after.Follows (received ++ chunk) (told ++ text) ∧
      Utf8.IsFrontOfText (received ++ chunk) ∧
      (final = true -> received ++ chunk = Utf8.encode (told ++ text)) := by
  have hfront := decodeFront_of_follows hfollows chunk
  have hisFront := Utf8.decodeFront_isSome_iff (received ++ chunk)
  rw [decode_eq] at hdecode
  split at hdecode
  case h_1 more hmore =>
      cases hdecode
      rw [hmore] at hfront
      have hoctets := (Utf8.octets_of_decodeFront hfront).right
      refine ⟨Utf8.isLongestText_of_decodeFront hfront, hoctets, hisFront.mp ?_, fun _ => ?_⟩
      · rw [hfront]
        rfl
      · simpa [Utf8.held] using hoctets
  case h_2 more character hmore =>
      split at hdecode
      · cases hdecode
      · rename_i hfinal
        cases hdecode
        rw [hmore] at hfront
        refine ⟨Utf8.isLongestText_of_decodeFront hfront,
          (Utf8.octets_of_decodeFront hfront).right, hisFront.mp ?_,
          fun htrue => absurd htrue hfinal⟩
        rw [hfront]
        rfl
  case h_3 => cases hdecode

theorem decode_eq_error {final : Bool} {error : Error} (hfollows : decoder.Follows received told)
    (hdecode : decoder.decode chunk final = (.error error, after)) :
    error = .invalidUtf8 ∧
      (final = false -> ¬ Utf8.IsFrontOfText (received ++ chunk)) ∧
      forall whole, received ++ chunk ≠ Utf8.encode whole := by
  have hfront := decodeFront_of_follows hfollows chunk
  rw [decode_eq] at hdecode
  split at hdecode
  case h_1 => cases hdecode
  case h_2 more character hmore =>
      split at hdecode
      · rename_i hfinal
        cases hdecode
        refine ⟨rfl, by simp [hfinal], ?_⟩
        intro whole hwhole
        rw [hmore] at hfront
        have hdecode := Utf8.decode_eq_some_iff.mpr hwhole
        simp [Utf8.decode, hfront] at hdecode
      · cases hdecode
  case h_3 hmore =>
      cases hdecode
      have hnone : ¬ Utf8.IsFrontOfText (received ++ chunk) := by
        rw [← Utf8.decodeFront_isSome_iff, hfront, hmore]
        simp
      refine ⟨rfl, fun _ => hnone, ?_⟩
      intro whole hwhole
      exact hnone ⟨whole, hwhole ▸ List.prefix_refl _⟩

end TextDecoder

end WebSocketClient
