import Mathlib.Algebra.Group.Nat.Defs
import Mathlib.Data.List.Induction
import Mathlib.Data.List.Basic
import WebSocketClient.Proofs.Cuts
import WebSocketClient.Uri.Ipv6

/-!
# Addresses

An address is read back from its rendering.  What is read from any text has the size of
an address, so rendering loses nothing of it.
-/

namespace WebSocketClient

/-!
## Numbers
-/

theorem Percent.digit?_digitChar {n : Nat} (hn : n < 16) : digit? n.digitChar = some n := by
  have hall : forall m : Fin 16, digit? (Nat.digitChar m) = some m.val := by decide
  exact hall ⟨n, hn⟩

namespace Ipv4

section Digits

variable {base n : Nat}

theorem digits?_append_singleton {front : List Char} {last : Char} :
    digits? base (front ++ [last]) = (digits? base front).bind fun value =>
      (Percent.digit? last).bind fun d => if d < base then some (value * base + d) else none := by
  unfold digits?
  rw [List.foldlM_append]
  refine bind_congr fun value => ?_
  rw [List.foldlM_cons]
  cases Percent.digit? last with
  | none => rfl
  | some d =>
      show ((if d < base then some (value * base + d) else none) >>= pure) = _
      rw [bind_pure, Option.bind_some]

theorem digits?_toDigits (hbase : 1 < base) (hsmall : base <= 16) :
    digits? base (Nat.toDigits base n) = some n := by
  induction n using Nat.strongRecOn with
  | ind n ih =>
      rw [Nat.toDigits_eq_if hbase]
      split
      case isTrue hlt =>
          rw [← List.nil_append [_], digits?_append_singleton,
            Percent.digit?_digitChar (Nat.lt_of_lt_of_le hlt hsmall)]
          simp [digits?, hlt]
      case isFalse hge =>
          have hmod := Nat.mod_lt n (Nat.lt_of_succ_lt hbase)
          have hsplit := Nat.div_add_mod' n base
          rw [digits?_append_singleton, ih (n / base) (Nat.div_lt_self (by omega) hbase),
            Percent.digit?_digitChar (Nat.lt_of_lt_of_le hmod hsmall)]
          simp [hmod, hsplit]

theorem lt_of_digits? {chars : List Char} (hdigits : digits? base chars = some n) :
    n < base ^ chars.length := by
  induction chars using List.reverseRecOn generalizing n with
  | nil =>
      cases hdigits
      exact Nat.one_pos
  | append_singleton front last ih =>
      rw [digits?_append_singleton] at hdigits
      rcases Option.bind_eq_some_iff.mp hdigits with ⟨value, hvalue, hdigits⟩
      rcases Option.bind_eq_some_iff.mp hdigits with ⟨d, -, hdigits⟩
      split at hdigits
      case isFalse => cases hdigits
      case isTrue hd =>
          cases hdigits
          have hfront := Nat.mul_le_mul_right base (Nat.succ_le_of_lt (ih hvalue))
          rw [Nat.succ_mul] at hfront
          rw [List.length_append, List.length_singleton, Nat.pow_succ]
          omega

theorem head?_toDigits (hbase : 1 < base) (hhead : (Nat.toDigits base n).head? = some '0') :
    n = 0 := by
  induction n using Nat.strongRecOn with
  | ind n ih =>
      rw [Nat.toDigits_eq_if hbase] at hhead
      split at hhead
      case isTrue => simpa using hhead
      case isFalse hge =>
          rw [List.head?_append, List.head?_eq_some_head Nat.toDigits_ne_nil, Option.some_or,
            ← List.head?_eq_some_head] at hhead
          have hpos := Nat.div_pos (Nat.le_of_not_lt hge) (Nat.lt_of_succ_lt hbase)
          have hzero := ih (n / base) (Nat.div_lt_self (by omega) hbase) hhead
          omega

end Digits

theorem number?_of_head? {chars : List Char} (hne : chars ≠ [])
    (hhead : chars.head? = some '0' -> chars = ['0']) : number? chars = digits? 10 chars := by
  unfold number?
  split
  · exact absurd rfl hne
  · exact absurd (hhead rfl) (by simp)
  · exact absurd (hhead rfl) (by simp)
  · exact absurd (hhead rfl) (by simp)
  · rfl

theorem number?_toDigits (n : Nat) : number? (Nat.toDigits 10 n) = some n := by
  rw [number?_of_head? Nat.toDigits_ne_nil, digits?_toDigits (by decide) (by decide)]
  intro hhead
  rw [head?_toDigits (by decide) hhead]
  rfl

/-!
## IPv4
-/

def octets (address : Nat) : List Nat :=
  [address / 2 ^ 24 % 256, address / 2 ^ 16 % 256, address / 2 ^ 8 % 256, address % 256]

theorem toList_render (address : Nat) :
    (render address).toList = ['.'].intercalate ((octets address).map (Nat.toDigits 10)) := by
  simp [render, octets, Nat.pow_eq]

theorem isDigit_of_mem_toDigits {c : Char} {n : Nat} (hc : c ∈ Nat.toDigits 10 n) :
    c.isDigit = true :=
  Nat.isDigit_of_mem_toDigits (by decide) (by decide) hc

theorem mem_render {address : Nat} {c : Char} (hc : c ∈ (render address).toList) :
    c = '.' ∨ c.isDigit = true := by
  rw [toList_render] at hc
  simp only [octets, List.map_cons, List.map_nil, List.intercalate_cons_cons,
    List.intercalate_singleton, List.mem_append, List.mem_singleton] at hc
  rcases hc with (hc | hc) | (hc | hc) | (hc | hc) | hc
  case inl.inr | inr.inl.inr | inr.inr.inl.inr => exact Or.inl hc
  all_goals exact Or.inr (isDigit_of_mem_toDigits hc)

theorem labels_render (address : Nat) :
    labels (render address).toList = (octets address).map (Nat.toDigits 10) := by
  have hpieces : Split.pieces '.' (render address).toList =
      (octets address).map (Nat.toDigits 10) := by
    refine Split.pieces_eq_iff.mpr ⟨by simp [octets], (toList_render address).symm, ?_⟩
    intro part hpart hdot
    rcases List.mem_map.mp hpart with ⟨n, -, rfl⟩
    exact absurd (isDigit_of_mem_toDigits hdot) (by decide)
  unfold labels
  rw [hpieces]
  exact if_neg (by simp [octets])

theorem parse?_render {address : Nat} (hsize : address < 2 ^ 32) :
    parse? (render address).toList = some address := by
  unfold parse?
  rw [labels_render]
  have hnumbers : ((octets address).map (Nat.toDigits 10)).mapM number? = some (octets address) := by
    simp [octets, number?_toDigits]
  rw [hnumbers]
  simp only [octets, ofNumbers?]
  simp
  omega

theorem endsInNumber_render (address : Nat) : endsInNumber (render address).toList = true := by
  unfold endsInNumber
  rw [labels_render]
  simp [octets, number?_toDigits]

theorem foldl_octets_lt {numbers : List Nat} (hsmall : forall n, n ∈ numbers -> n <= 255)
    (value : Nat) :
    numbers.foldl (fun value n => value * 256 + n) value < (value + 1) * 256 ^ numbers.length := by
  induction numbers generalizing value with
  | nil => simp
  | cons n rest ih =>
      have hn := hsmall n List.mem_cons_self
      have hrest := ih (fun m hm => hsmall m (List.mem_cons_of_mem _ hm)) (value * 256 + n)
      have hnext : value * 256 + n + 1 <= (value + 1) * 256 := by omega
      have hpower := Nat.mul_le_mul_right (256 ^ rest.length) hnext
      rw [List.foldl_cons, List.length_cons, Nat.pow_succ', ← Nat.mul_assoc]
      exact Nat.lt_of_lt_of_le hrest hpower

theorem lt_of_parse? {name : List Char} {address : Nat} (hparse : parse? name = some address) :
    address < 2 ^ 32 := by
  unfold parse? at hparse
  rcases Option.bind_eq_some_iff.mp hparse with ⟨numbers, -, hnumbers⟩
  unfold ofNumbers? at hnumbers
  split at hnumbers
  case h_1 => cases hnumbers
  case h_2 last others hreverse =>
      simp only at hnumbers
      split at hnumbers
      case isTrue => cases hnumbers
      case isFalse hfits =>
          cases hnumbers
          have hlength := congrArg List.length hreverse
          simp only [List.length_reverse, List.length_cons] at hlength
          simp only [Bool.or_eq_true, decide_eq_true_eq, not_or, List.any_eq_true, not_exists,
            not_and, Nat.not_lt, Nat.not_le, List.length_reverse, List.mem_reverse,
            Nat.pow_eq] at hfits
          rcases hfits with ⟨⟨hfour, hsmall⟩, hlast⟩
          have hleading := @foldl_octets_lt others.reverse
            (fun n hn => hsmall n (List.mem_reverse.mp hn)) 0
          rw [Nat.zero_add, Nat.one_mul, List.length_reverse] at hleading
          have hpower : 256 ^ others.length * 256 ^ (4 - others.length) = 2 ^ 32 := by
            have hsum : others.length + (4 - others.length) = 4 := by omega
            exact (Nat.pow_add 256 _ _).symm.trans (congrArg (256 ^ ·) hsum)
          have hmul := Nat.mul_le_mul_right (256 ^ (4 - others.length)) (Nat.succ_le_of_lt hleading)
          rw [Nat.succ_mul, hpower] at hmul
          rw [List.length_reverse, Nat.pow_eq]
          omega

end Ipv4

/-!
## IPv6
-/

namespace Ipv6

structure IsAddress (pieces : List Nat) : Prop where
  length : pieces.length = 8
  small : forall piece, piece ∈ pieces -> piece < 2 ^ 16

def spell (pieces : List Nat) : List Char :=
  [':'].intercalate (pieces.map (Nat.toDigits 16))

theorem toList_renderPieces (pieces : List Nat) : (renderPieces pieces).toList = spell pieces := by
  simp [renderPieces, renderPiece, spell, Function.comp_def]

theorem spell_singleton (piece : Nat) : spell [piece] = Nat.toDigits 16 piece := by
  simp [spell]

theorem spell_cons {rest : List Nat} (hne : rest ≠ []) (piece : Nat) :
    spell (piece :: rest) = Nat.toDigits 16 piece ++ ':' :: spell rest := by
  rcases List.exists_cons_of_ne_nil hne with ⟨next, more, rfl⟩
  simp [spell]

theorem isSome_digit?_of_mem_toDigits {n : Nat} {c : Char} (hc : c ∈ Nat.toDigits 16 n) :
    (Percent.digit? c).isSome = true := by
  induction n using Nat.strongRecOn with
  | ind n ih =>
      rw [Nat.toDigits_eq_if (by decide)] at hc
      split at hc
      case isTrue hlt =>
          rw [List.mem_singleton.mp hc, Percent.digit?_digitChar hlt]
          rfl
      case isFalse hge =>
          rcases List.mem_append.mp hc with hc | hc
          · exact ih (n / 16) (by omega) hc
          · rw [List.mem_singleton.mp hc, Percent.digit?_digitChar (by omega)]
            rfl

/-!
### Reading
-/

section Reading

variable {found : Pieces} {piece : Nat}

/-- What stands behind a piece does not go on with it. -/
def EndsPiece (behind : List Char) : Prop :=
  behind = [] ∨ behind.head? = some ':'

theorem head?_spell {pieces : List Nat} (hne : pieces ≠ []) :
    exists c, (spell pieces).head? = some c ∧ (Percent.digit? c).isSome = true := by
  rcases List.exists_cons_of_ne_nil hne with ⟨piece, rest, rfl⟩
  rcases List.exists_cons_of_ne_nil (Nat.toDigits_ne_nil (n := piece) (b := 16)) with
    ⟨c, digits, hdigits⟩
  refine ⟨c, ?_, isSome_digit?_of_mem_toDigits (n := piece) (by simp [hdigits])⟩
  by_cases hrest : rest = []
  · rw [hrest, spell_singleton, hdigits]
    rfl
  · rw [spell_cons hrest, hdigits]
    rfl

theorem takeWhile_take_piece (hsmall : piece < 2 ^ 16) {behind : List Char}
    (hbehind : EndsPiece behind) :
    ((Nat.toDigits 16 piece ++ behind).take 4).takeWhile (fun c => (Percent.digit? c).isSome) =
      Nat.toDigits 16 piece := by
  have hlength : (Nat.toDigits 16 piece).length <= 4 :=
    (Nat.length_toDigits_le_iff (by decide) (by decide)).mpr hsmall
  rw [List.take_append, List.take_of_length_le hlength,
    List.takeWhile_append_of_pos fun c hc => isSome_digit?_of_mem_toDigits hc]
  have hnothing : (behind.take (4 - (Nat.toDigits 16 piece).length)).takeWhile
      (fun c => (Percent.digit? c).isSome) = [] := by
    rcases hbehind with rfl | hhead
    · simp
    · cases behind with
      | nil => cases hhead
      | cons c rest =>
          cases hhead
          cases 4 - (Nat.toDigits 16 piece).length with
          | zero => rfl
          | succ n => rfl
  rw [hnothing, List.append_nil]

theorem parseFrom_piece (hsmall : piece < 2 ^ 16) (hroom : found.pieces.length ≠ 8) :
    parseFrom found (Nat.toDigits 16 piece) = some (found.push piece) ∧
      forall next more, parseFrom found (Nat.toDigits 16 piece ++ ':' :: next :: more) =
        parseFrom (found.push piece) (next :: more) := by
  have hdigits : Ipv4.digits? 16 (Nat.toDigits 16 piece) = some piece :=
    Ipv4.digits?_toDigits (by decide) (by decide)
  rcases List.exists_cons_of_ne_nil (Nat.toDigits_ne_nil (n := piece) (b := 16)) with
    ⟨c, rest, hchars⟩
  have hcolon : c ≠ ':' := by
    rintro rfl
    have hdigit := isSome_digit?_of_mem_toDigits (n := piece) (c := ':') (by simp [hchars])
    cases hdigit
  constructor
  · have htaken := takeWhile_take_piece hsmall (Or.inl rfl : EndsPiece [])
    rw [List.append_nil, hchars] at htaken
    rw [hchars] at hdigits ⊢
    have hdrop := congrArg (fun digits => (c :: rest).drop (List.length digits)) htaken
    simp only [List.drop_length] at hdrop
    rw [parseFrom, if_neg hroom, if_neg hcolon]
    simp only [htaken, hdigits, Option.getD_some]
    split
    case h_1 => rfl
    case h_2 hmore => cases hdrop.symm.trans hmore
    case h_3 hmore => cases hdrop.symm.trans hmore
    case h_4 hmore => cases hdrop.symm.trans hmore
    case h_5 hmore _ _ _ => exact (hmore hdrop).elim
  · intro next more
    have htaken := takeWhile_take_piece hsmall (Or.inr rfl : EndsPiece (':' :: next :: more))
    rw [hchars] at hdigits htaken ⊢
    have hdrop := congrArg
      (fun digits => (c :: rest ++ ':' :: next :: more).drop (List.length digits)) htaken
    simp only [List.drop_left] at hdrop
    rw [List.cons_append, parseFrom, if_neg hroom, if_neg hcolon]
    simp only [← List.cons_append, htaken, hdigits, Option.getD_some]
    split
    case h_1 hnone => cases hdrop.symm.trans hnone
    case h_2 hlast => cases hdrop.symm.trans hlast
    case h_3 hmore =>
        cases hdrop.symm.trans hmore
        rfl
    case h_4 hdot =>
        have hmark := (List.cons.inj (hdrop.symm.trans hdot)).left
        exact absurd hmark (by decide)
    case h_5 hmore _ => exact (hmore _ _ hdrop).elim

theorem parseFrom_spell_append {pieces : List Nat} (hne : pieces ≠ [])
    (hsmall : forall piece, piece ∈ pieces -> piece < 2 ^ 16)
    (hroom : found.pieces.length + pieces.length <= 8) :
    parseFrom found (spell pieces) = some { found with pieces := found.pieces ++ pieces } ∧
      forall more, parseFrom found (spell pieces ++ ':' :: ':' :: more) =
        parseFrom { found with pieces := found.pieces ++ pieces } (':' :: more) := by
  induction pieces generalizing found with
  | nil => exact absurd rfl hne
  | cons piece rest ih =>
      rw [List.length_cons] at hroom
      have hpiece := @parseFrom_piece found piece (hsmall piece List.mem_cons_self) (by omega)
      by_cases hrest : rest = []
      · rw [hrest, spell_singleton]
        exact ⟨hpiece.left, hpiece.right ':'⟩
      · have hread := @ih (found.push piece) hrest
          (fun other hother => hsmall other (List.mem_cons_of_mem _ hother))
          (by simp only [Pieces.push, List.length_append, List.length_singleton]; omega)
        have hpushed : (found.push piece).pieces ++ rest = found.pieces ++ piece :: rest := by
          simp [Pieces.push]
        rcases head?_spell hrest with ⟨c, hhead, -⟩
        rcases List.head?_eq_some_iff.mp hhead with ⟨others, hspell⟩
        rw [hpushed] at hread
        rw [spell_cons hrest]
        constructor
        · rw [hspell, hpiece.right, ← hspell]
          exact hread.left
        · intro behind
          rw [List.append_assoc, List.cons_append, hspell, List.cons_append, hpiece.right,
            ← List.cons_append, ← hspell]
          exact hread.right behind

theorem parseFrom_spell {pieces : List Nat}
    (hsmall : forall piece, piece ∈ pieces -> piece < 2 ^ 16)
    (hroom : found.pieces.length + pieces.length <= 8) :
    parseFrom found (spell pieces) = some { found with pieces := found.pieces ++ pieces } := by
  by_cases hne : pieces = []
  · subst hne
    rw [List.append_nil]
    exact parseFrom.eq_1 found
  · exact (parseFrom_spell_append hne hsmall hroom).left

theorem parseFrom_colon (hroom : found.pieces.length ≠ 8) (hgap : found.gap = none)
    (rest : List Char) :
    parseFrom found (':' :: rest) =
      parseFrom ⟨found.pieces ++ [0], some (found.pieces.length + 1)⟩ rest := by
  rw [parseFrom, if_neg hroom, if_pos rfl, hgap]
  exact if_neg (by decide)

theorem fill?_of_gap {before after : List Nat} (hlength : before.length + after.length <= 8) :
    Pieces.fill? ⟨before ++ after, some before.length⟩ =
      some (before ++ List.replicate (8 - (before.length + after.length)) 0 ++ after) := by
  simp [Pieces.fill?, hlength]

end Reading

/-!
### Rendering
-/

theorem run_of_zeroRuns {pieces : List Nat} {start length : Nat}
    (hrun : (zeroRuns pieces)[start]? = some length) :
    (pieces.drop start).take length = List.replicate length 0 := by
  induction pieces generalizing start length with
  | nil => cases hrun
  | cons piece rest ih =>
      rw [zeroRuns] at hrun
      cases start with
      | succ start => exact ih hrun
      | zero =>
          simp only [List.getElem?_cons_zero, Option.some.injEq] at hrun
          split at hrun
          case isFalse =>
              subst hrun
              rfl
          case isTrue hzero =>
              subst hrun hzero
              rw [List.drop_zero, List.take_succ_cons, List.replicate_succ, List.cons_inj_right]
              cases hruns : zeroRuns rest with
              | nil => rfl
              | cons next runs =>
                  have hnext : (zeroRuns rest)[0]? = some next := by rw [hruns]; rfl
                  exact ih hnext

theorem foldl_max_mem (runs : List Nat) (most : Nat) :
    runs.foldl max most = most ∨ runs.foldl max most ∈ runs := by
  induction runs generalizing most with
  | nil => exact Or.inl rfl
  | cons run rest ih =>
      rw [List.foldl_cons]
      rcases ih (max most run) with hmost | hmem
      · rw [hmost]
        rcases Nat.le_total most run with hle | hle
        · rw [Nat.max_eq_right hle]
          exact Or.inr List.mem_cons_self
        · exact Or.inl (Nat.max_eq_left hle)
      · exact Or.inr (List.mem_cons_of_mem _ hmem)

/-- At most one run of zeros is left out, and it has two of them at least. -/
theorem render_cases (pieces : List Nat) :
    (render pieces).toList = spell pieces ∨
      exists before zeros after, 2 <= zeros ∧
        pieces = before ++ List.replicate zeros 0 ++ after ∧
        (render pieces).toList = spell before ++ ':' :: ':' :: spell after := by
  unfold render
  simp only
  split
  case isTrue => exact Or.inl (toList_renderPieces pieces)
  case isFalse hlong =>
      let longest := (zeroRuns pieces).foldl max 0
      let start := (zeroRuns pieces).findIdx (· = longest)
      have hmem : longest ∈ zeroRuns pieces := by
        rcases foldl_max_mem (zeroRuns pieces) 0 with hzero | hmem
        · exact absurd (Nat.le_of_not_lt hlong) (by rw [hzero]; decide)
        · exact hmem
      have hlt : start < (zeroRuns pieces).length :=
        List.findIdx_lt_length_of_exists ⟨longest, hmem, decide_eq_true rfl⟩
      have hstart : (zeroRuns pieces)[start]? = some longest := by
        rw [List.getElem?_eq_getElem hlt]
        exact congrArg some (of_decide_eq_true (List.findIdx_getElem (w := hlt)))
      have hrun := run_of_zeroRuns hstart
      refine Or.inr ⟨pieces.take start, longest, pieces.drop (start + longest),
        Nat.le_of_not_lt hlong, ?_, ?_⟩
      · rw [← hrun, List.append_assoc, ← List.drop_drop, List.take_append_drop,
          List.take_append_drop]
      · simp only [String.toList_append, toList_renderPieces, List.append_assoc]
        rfl

theorem mem_spell {pieces : List Nat} {c : Char} (hc : c ∈ spell pieces) :
    c = ':' ∨ (Percent.digit? c).isSome = true := by
  induction pieces with
  | nil => cases hc
  | cons piece rest ih =>
      by_cases hrest : rest = []
      · rw [hrest, spell_singleton] at hc
        exact Or.inr (isSome_digit?_of_mem_toDigits hc)
      · rw [spell_cons hrest, List.mem_append, List.mem_cons] at hc
        rcases hc with hc | rfl | hc
        · exact Or.inr (isSome_digit?_of_mem_toDigits hc)
        · exact Or.inl rfl
        · exact ih hc

theorem mem_render {pieces : List Nat} {c : Char} (hc : c ∈ (render pieces).toList) :
    c = ':' ∨ (Percent.digit? c).isSome = true := by
  rcases render_cases pieces with hplain | ⟨before, zeros, after, -, -, hcut⟩
  · rw [hplain] at hc
    exact mem_spell hc
  · rw [hcut, List.mem_append, List.mem_cons, List.mem_cons] at hc
    rcases hc with hc | rfl | rfl | hc
    · exact mem_spell hc
    · exact Or.inl rfl
    · exact Or.inl rfl
    · exact mem_spell hc

theorem colon_mem_spell {pieces : List Nat} (hmany : 2 <= pieces.length) : ':' ∈ spell pieces := by
  rcases pieces with _ | ⟨piece, rest⟩
  · cases hmany
  · have hrest : rest ≠ [] := by
      rintro rfl
      exact absurd hmany (Nat.not_succ_le_self 1)
    rw [spell_cons hrest]
    exact List.mem_append_right _ List.mem_cons_self

variable {pieces : List Nat}

theorem colon_mem_render (haddress : IsAddress pieces) : ':' ∈ (render pieces).toList := by
  rcases render_cases pieces with hplain | ⟨before, zeros, after, -, -, hcut⟩
  · rw [hplain]
    exact colon_mem_spell (by rw [haddress.length]; decide)
  · rw [hcut]
    exact List.mem_append_right _ List.mem_cons_self

theorem parse?_of_head? {chars : List Char} {c : Char} (hhead : chars.head? = some c)
    (hdigit : (Percent.digit? c).isSome = true) (hcolon : ':' ∈ chars) :
    parse? chars = (parseFrom ⟨[], none⟩ chars).bind Pieces.fill? := by
  have hne : c ≠ ':' := by
    rintro rfl
    cases hdigit
  unfold parse?
  split
  · cases hhead
  · cases hhead
    exact absurd (List.mem_singleton.mp hcolon).symm hne
  · cases hhead
    exact absurd rfl hne
  · cases hhead
    exact absurd rfl hne
  · rfl

theorem parse?_render (haddress : IsAddress pieces) :
    parse? (render pieces).toList = some pieces := by
  have hlength := haddress.length
  have hcolon := colon_mem_render haddress
  rcases render_cases pieces with hplain | ⟨before, zeros, after, hzeros, hpieces, hcut⟩
  · have hne : pieces ≠ [] := by
      rintro rfl
      cases hlength
    rcases head?_spell hne with ⟨c, hhead, hdigit⟩
    rw [hplain] at hcolon ⊢
    have hread := @parseFrom_spell ⟨[], none⟩ pieces haddress.small (by simp [hlength])
    rw [parse?_of_head? hhead hdigit hcolon, hread]
    exact if_pos hlength
  · have hsmall : forall piece, piece ∈ before ∨ piece ∈ after -> piece < 2 ^ 16 := by
      intro piece hpiece
      apply haddress.small
      rw [hpieces, List.mem_append, List.mem_append]
      exact hpiece.imp_left Or.inl
    rw [hpieces, List.length_append, List.length_append, List.length_replicate] at hlength
    have hfill : Pieces.fill? ⟨before ++ [0] ++ after, some (before.length + 1)⟩ = some pieces := by
      have hzeros' : zeros = 1 + (8 - (before.length + 1 + after.length)) := by omega
      have hgap := @fill?_of_gap (before ++ [0]) after
        (by rw [List.length_append, List.length_singleton]; omega)
      rw [List.length_append, List.length_singleton] at hgap
      rw [hgap, hpieces, hzeros', List.replicate_add, List.replicate_one, List.append_assoc before]
    have hafter : parseFrom ⟨before ++ [0], some (before.length + 1)⟩ (spell after) =
        some ⟨before ++ [0] ++ after, some (before.length + 1)⟩ :=
      parseFrom_spell (fun piece hpiece => hsmall piece (Or.inr hpiece))
        (by rw [List.length_append, List.length_singleton]; omega)
    have hwhole := (congrArg (Option.bind · Pieces.fill?) hafter).trans hfill
    rw [hcut] at hcolon ⊢
    by_cases hbefore : before = []
    · subst hbefore
      exact hwhole
    · rcases head?_spell hbefore with ⟨c, hhead, hdigit⟩
      have hfront := @parseFrom_spell_append ⟨[], none⟩ before hbefore
        (fun piece hpiece => hsmall piece (Or.inl hpiece)) (by simp; omega)
      rw [parse?_of_head? (by rw [List.head?_append, hhead, Option.some_or]) hdigit hcolon,
        hfront.right, List.nil_append, parseFrom_colon (by simp; omega) rfl]
      exact hwhole

/-!
### What is read
-/

theorem le_of_octet? {chars : List Char} {n : Nat} (hoctet : octet? chars = some n) : n <= 255 := by
  unfold octet? at hoctet
  split at hoctet
  · cases hoctet
  · cases hoctet
    decide
  · cases hoctet
  · split at hoctet
    · split at hoctet
      case isTrue hle =>
          cases hoctet
          exact hle
      case isFalse => cases hoctet
    · cases hoctet

theorem lt_of_embedded? {chars : List Char} {high low : Nat}
    (hembedded : embedded? chars = some (high, low)) : high < 2 ^ 16 ∧ low < 2 ^ 16 := by
  unfold embedded? at hembedded
  split at hembedded
  case h_2 => cases hembedded
  case h_1 a b c d hoctets =>
      cases hembedded
      have hmem : forall n, some n ∈ (Split.pieces '.' chars).map octet? -> n <= 255 := by
        intro n hn
        rcases List.mem_map.mp hn with ⟨part, -, hpart⟩
        exact le_of_octet? hpart
      rw [hoctets] at hmem
      have ha := hmem a (by simp)
      have hb := hmem b (by simp)
      have hc := hmem c (by simp)
      have hd := hmem d (by simp)
      omega

theorem lt_of_first_digits (chars : List Char) :
    (Ipv4.digits? 16 ((chars.take 4).takeWhile fun c => (Percent.digit? c).isSome)).getD 0 <
      2 ^ 16 := by
  let digits := (chars.take 4).takeWhile fun c => (Percent.digit? c).isSome
  have hlength : digits.length <= 4 :=
    Nat.le_trans (List.takeWhile_prefix _).length_le (List.length_take_le 4 chars)
  cases hvalue : Ipv4.digits? 16 digits with
  | none => exact Nat.two_pow_pos 16
  | some value =>
      exact Nat.lt_of_lt_of_le (Ipv4.lt_of_digits? hvalue)
        (Nat.pow_le_pow_right (n := 16) (by decide) hlength)

def Pieces.IsSmall (found : Pieces) : Prop :=
  forall piece, piece ∈ found.pieces -> piece < 2 ^ 16

theorem Pieces.IsSmall.push {found : Pieces} (hfound : found.IsSmall) {piece : Nat}
    (hpiece : piece < 2 ^ 16) : (found.push piece).IsSmall := by
  intro other hother
  rcases List.mem_append.mp hother with hother | hother
  · exact hfound other hother
  · rwa [List.mem_singleton.mp hother]

theorem isSmall_of_parseFrom {found result : Pieces} {chars : List Char}
    (hparse : parseFrom found chars = some result) (hfound : found.IsSmall) : result.IsSmall := by
  fun_induction parseFrom found chars with
  | case1 => cases hparse; exact hfound
  | case2 | case3 | case6 | case8 | case10 => cases hparse
  | case4 found rest hroom hgap ih => exact ih hparse (hfound.push (Nat.two_pow_pos 16))
  | case5 found c rest =>
      cases hparse
      exact hfound.push (lt_of_first_digits (c :: rest))
  | case7 found c rest hroom hcolon isDigit digits piece next more hmore ih =>
      exact ih hparse (hfound.push (lt_of_first_digits (c :: rest)))
  | case9 =>
      rcases Option.map_eq_some_iff.mp hparse with ⟨⟨high, low⟩, hembedded, rfl⟩
      rcases lt_of_embedded? hembedded with ⟨hhigh, hlow⟩
      exact (hfound.push hhigh).push hlow

theorem isAddress_of_fill? {found : Pieces} (hfill : found.fill? = some pieces)
    (hfound : found.IsSmall) : IsAddress pieces := by
  unfold Pieces.fill? at hfill
  split at hfill
  case h_1 gap _ =>
      split at hfill
      case isFalse => cases hfill
      case isTrue hlength =>
          cases hfill
          constructor
          · simp only [List.length_append, List.length_take, List.length_replicate,
              List.length_drop]
            omega
          · intro piece hpiece
            simp only [List.mem_append, List.mem_replicate] at hpiece
            rcases hpiece with (hpiece | ⟨-, rfl⟩) | hpiece
            · exact hfound piece (List.mem_of_mem_take hpiece)
            · exact Nat.two_pow_pos 16
            · exact hfound piece (List.mem_of_mem_drop hpiece)
  case h_2 =>
      split at hfill
      case isTrue hlength =>
          cases hfill
          exact ⟨hlength, hfound⟩
      case isFalse => cases hfill

theorem isAddress_of_parse? {chars : List Char} (hparse : parse? chars = some pieces) :
    IsAddress pieces := by
  unfold parse? at hparse
  split at hparse
  case h_1 | h_2 | h_4 => cases hparse
  case h_3 =>
      rcases Option.bind_eq_some_iff.mp hparse with ⟨found, hfound, hfill⟩
      refine isAddress_of_fill? hfill (isSmall_of_parseFrom hfound ?_)
      intro piece hpiece
      rw [List.mem_singleton.mp hpiece]
      exact Nat.two_pow_pos 16
  case h_5 =>
      rcases Option.bind_eq_some_iff.mp hparse with ⟨found, hfound, hfill⟩
      exact isAddress_of_fill? hfill (isSmall_of_parseFrom hfound nofun)

end Ipv6

end WebSocketClient
