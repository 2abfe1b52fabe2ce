import Mathlib.Data.List.Basic
import Mathlib.Data.List.TakeWhile
import WebSocketClient.Uri.Parse

/-!
# Paths

The path and the query of a URI in their normal form.  What is percent-encoded is not
encoded again, and no dot segment is left, so the normal form of a normal form is the
same text.
-/

namespace WebSocketClient

/-!
## Percent coding
-/

namespace Percent

/-- A set that holds nothing of what an encoded octet is written with. -/
structure IsStable (set : Char -> Bool) : Prop where
  sign : set '%' = false
  digits : forall n, n < 16 -> set (digit n) = false

theorem isStable_inPath : IsStable inPath where
  sign := by decide
  digits := fun n hn => (by decide : forall m : Fin 16, inPath (digit m) = false) ⟨n, hn⟩

theorem isStable_inQuery : IsStable inQuery where
  sign := by decide
  digits := fun n hn => (by decide : forall m : Fin 16, inQuery (digit m) = false) ⟨n, hn⟩

variable {set : Char -> Bool} {chars : List Char} {c : Char}

theorem mem_encode (hc : c ∈ encode set chars) :
    (c ∈ chars ∧ set c = false) ∨ c = '%' ∨ exists n, n < 16 ∧ c = digit n := by
  rcases List.mem_flatMap.mp hc with ⟨d, hd, hc⟩
  split at hc
  case isTrue hset =>
      rcases List.mem_flatMap.mp hc with ⟨octet, -, hc⟩
      have hsize := octet.toNat_lt
      simp only [encodeOctet, List.mem_cons, List.not_mem_nil, or_false] at hc
      rcases hc with rfl | rfl | rfl
      · exact Or.inr (Or.inl rfl)
      · exact Or.inr (Or.inr ⟨_, by omega, rfl⟩)
      · exact Or.inr (Or.inr ⟨_, Nat.mod_lt _ (by decide), rfl⟩)
  case isFalse hset =>
      rw [List.mem_singleton.mp hc]
      exact Or.inl ⟨hd, Bool.eq_false_iff.mpr hset⟩

theorem not_set_of_mem_encode (hstable : IsStable set) (hc : c ∈ encode set chars) :
    set c = false := by
  rcases mem_encode hc with ⟨-, hset⟩ | rfl | ⟨n, hn, rfl⟩
  · exact hset
  · exact hstable.sign
  · exact hstable.digits n hn

theorem encode_of_not_set (hchars : forall c, c ∈ chars -> set c = false) :
    encode set chars = chars := by
  induction chars with
  | nil => rfl
  | cons c rest ih =>
      have hc := hchars c List.mem_cons_self
      have hrest := ih fun d hd => hchars d (List.mem_cons_of_mem c hd)
      unfold encode at hrest ⊢
      rw [List.flatMap_cons, if_neg (by simp [hc]), hrest]
      rfl

theorem encode_eq_nil_iff : encode set chars = [] <-> chars = [] := by
  constructor
  · intro hnil
    cases chars with
    | nil => rfl
    | cons c rest =>
        rw [encode, List.flatMap_cons, List.append_eq_nil_iff] at hnil
        split at hnil
        case isTrue =>
            rcases List.exists_cons_of_ne_nil (String.utf8EncodeChar_ne_nil (c := c)) with
              ⟨octet, more, hoctets⟩
            rw [hoctets] at hnil
            cases hnil.left
        case isFalse => cases hnil.left
  · rintro rfl
    rfl

theorem toNat_of_utf8EncodeChar {octet : UInt8} {more : Bytes}
    (hoctets : String.utf8EncodeChar c = octet :: more) (hascii : octet.toNat < 0x80) :
    c.toNat = octet.toNat := by
  have hvalue : c.val.toNat = c.toNat := rfl
  unfold String.utf8EncodeChar at hoctets
  simp only [hvalue] at hoctets
  split at hoctets
  case isTrue hsmall =>
      rw [← (List.cons.inj hoctets).left, UInt8.toNat_ofNat']
      omega
  case isFalse =>
      exfalso
      split at hoctets
      case isTrue =>
          rw [← (List.cons.inj hoctets).left, UInt8.toNat_ofNat'] at hascii
          omega
      case isFalse =>
          split at hoctets <;>
            rw [← (List.cons.inj hoctets).left, UInt8.toNat_ofNat'] at hascii <;> omega

theorem encode_eq_cons {d : Char} {tail : List Char} (hencode : encode set chars = d :: tail) :
    (exists rest, chars = d :: rest ∧ set d = false ∧ encode set rest = tail) ∨
      exists c rest octet more, chars = c :: rest ∧ set c = true ∧
        String.utf8EncodeChar c = octet :: more ∧
        d :: tail = encodeOctet octet ++ (more.flatMap encodeOctet ++ encode set rest) := by
  cases chars with
  | nil => cases hencode
  | cons c rest =>
      rw [encode, List.flatMap_cons] at hencode
      split at hencode
      case isFalse hset =>
          rcases List.cons.inj hencode with ⟨rfl, htail⟩
          exact Or.inl ⟨rest, rfl, Bool.eq_false_iff.mpr hset, htail⟩
      case isTrue hset =>
          rcases List.exists_cons_of_ne_nil (String.utf8EncodeChar_ne_nil (c := c)) with
            ⟨octet, more, hoctets⟩
          rw [hoctets, List.flatMap_cons, List.append_assoc] at hencode
          exact Or.inr ⟨c, rest, octet, more, rfl, hset, hoctets, hencode.symm⟩

theorem encode_eq_cons_of_ne {d : Char} {tail : List Char} (hne : d ≠ '%')
    (hencode : encode set chars = d :: tail) :
    exists rest, chars = d :: rest ∧ encode set rest = tail := by
  rcases encode_eq_cons hencode with ⟨rest, hchars, -, htail⟩ | ⟨_, _, octet, _, -, -, -, hcons⟩
  · exact ⟨rest, hchars, htail⟩
  · exact absurd (List.cons.inj hcons).left hne

theorem toNat_of_digits {octet : UInt8} {high low : Nat} (hhigh : high < 16) (hlow : low < 16)
    (hfirst : digit (octet.toNat / 16) = digit high) (hsecond : digit (octet.toNat % 16) = digit low) :
    octet.toNat = high * 16 + low := by
  have hinjective : forall m n : Fin 16, digit m = digit n -> m = n := by decide
  have hsize := octet.toNat_lt
  have hdiv := hinjective ⟨octet.toNat / 16, by omega⟩ ⟨high, hhigh⟩ hfirst
  have hmod := hinjective ⟨octet.toNat % 16, by omega⟩ ⟨low, hlow⟩ hsecond
  rw [Fin.mk.injEq] at hdiv hmod
  omega

end Percent

namespace Uri

namespace Path

/-!
## Segments
-/

variable {chars segment : List Char} {c : Char}

structure IsSegment (segment : List Char) : Prop where
  whole : forall c, c ∈ segment -> isSlash c = false
  noDot : isDot segment = false
  noDotDot : isDotDot segment = false

theorem isSegment_nil : IsSegment [] :=
  ⟨nofun, rfl, rfl⟩

theorem segments_ne_nil (chars : List Char) : segments chars ≠ [] := by
  cases chars with
  | nil => simp [segments]
  | cons c rest =>
      unfold segments
      split
      · exact List.cons_ne_nil _ _
      · split <;> exact List.cons_ne_nil _ _

theorem segments_append (hsegment : forall c, c ∈ segment -> isSlash c = false)
    (hslash : isSlash c = true) (rest : List Char) :
    segments (segment ++ c :: rest) = segment :: segments rest := by
  induction segment with
  | nil => rw [List.nil_append, segments, if_pos hslash]
  | cons d more ih =>
      have hd := hsegment d List.mem_cons_self
      rw [List.cons_append, segments, if_neg (by simp [hd]),
        ih fun e he => hsegment e (List.mem_cons_of_mem _ he)]

theorem segments_of_whole (hsegment : forall c, c ∈ segment -> isSlash c = false) :
    segments segment = [segment] := by
  induction segment with
  | nil => rfl
  | cons d more ih =>
      have hd := hsegment d List.mem_cons_self
      rw [segments, if_neg (by simp [hd]), ih fun e he => hsegment e (List.mem_cons_of_mem _ he)]

theorem whole_of_mem_segments (hmem : segment ∈ segments chars) :
    forall c, c ∈ segment -> isSlash c = false := by
  induction chars generalizing segment with
  | nil =>
      rw [List.mem_singleton.mp hmem]
      exact nofun
  | cons d rest ih =>
      rcases List.exists_cons_of_ne_nil (segments_ne_nil rest) with ⟨first, more, hrest⟩
      rw [segments, hrest] at hmem
      split at hmem
      case isTrue =>
          rcases List.mem_cons.mp hmem with rfl | hmem
          · exact nofun
          · exact ih (hrest ▸ hmem)
      case isFalse hslash =>
          rcases List.mem_cons.mp hmem with rfl | hmem
          · intro c hc
            rcases List.mem_cons.mp hc with rfl | hc
            · exact Bool.eq_false_iff.mpr hslash
            · exact ih (hrest ▸ List.mem_cons_self) c hc
          · exact ih (hrest ▸ List.mem_cons_of_mem _ hmem)

/-!
## Dot segments
-/

/-- What reads as a dot after encoding was a dot before. -/
theorem dropDot_of_encode {left : List Char}
    (hdot : dropDot (Percent.encode Percent.inPath segment) = some left) :
    exists rest, dropDot segment = some rest ∧ Percent.encode Percent.inPath rest = left := by
  unfold dropDot at hdot
  split at hdot
  case h_1 hencode =>
      cases hdot
      rcases Percent.encode_eq_cons_of_ne (by decide) hencode with ⟨rest, rfl, hrest⟩
      exact ⟨rest, rfl, hrest⟩
  case h_2 hencode =>
      cases hdot
      rcases Percent.encode_eq_cons hencode with
        ⟨rest, rfl, -, hrest⟩ | ⟨c, _, octet, _, -, -, -, hcons⟩
      · rcases Percent.encode_eq_cons_of_ne (by decide) hrest with ⟨behind, rfl, hbehind⟩
        rcases Percent.encode_eq_cons_of_ne (by decide) hbehind with ⟨more, rfl, hmore⟩
        exact ⟨more, rfl, hmore⟩
      · -- An encoded octet has no small letters.
        have hletter : Percent.digit (octet.toNat % 16) = 'e' := by
          simp only [Percent.encodeOctet, List.cons_append, List.cons.injEq] at hcons
          exact hcons.right.right.left.symm
        have hnone : forall n : Fin 16, Percent.digit n ≠ 'e' := by decide
        exact absurd hletter (hnone ⟨octet.toNat % 16, Nat.mod_lt _ (by decide)⟩)
  case h_3 hencode =>
      cases hdot
      rcases Percent.encode_eq_cons hencode with
        ⟨rest, rfl, -, hrest⟩ | ⟨c, _, octet, more, -, hset, hoctets, hcons⟩
      · rcases Percent.encode_eq_cons_of_ne (by decide) hrest with ⟨behind, rfl, hbehind⟩
        rcases Percent.encode_eq_cons_of_ne (by decide) hbehind with ⟨more, rfl, hmore⟩
        exact ⟨more, rfl, hmore⟩
      · -- A dot is not encoded.
        simp only [Percent.encodeOctet, List.cons_append, List.cons.injEq] at hcons
        have hvalue : octet.toNat = 2 * 16 + 14 := Percent.toNat_of_digits (by decide) (by decide)
          hcons.right.left.symm hcons.right.right.left.symm
        have hc := Percent.toNat_of_utf8EncodeChar hoctets (by omega)
        have hdot : c = '.' := Char.toNat_inj.mp (hc.trans hvalue)
        subst hdot
        cases hset
  case h_4 => cases hdot

theorem isDot_of_encode (hdot : isDot (Percent.encode Percent.inPath segment) = true) :
    isDot segment = true := by
  rcases dropDot_of_encode (beq_iff_eq.mp hdot) with ⟨rest, hrest, hnil⟩
  rw [Percent.encode_eq_nil_iff.mp hnil] at hrest
  exact beq_iff_eq.mpr hrest

theorem isDotDot_of_encode (hdot : isDotDot (Percent.encode Percent.inPath segment) = true) :
    isDotDot segment = true := by
  rcases Option.bind_eq_some_iff.mp (beq_iff_eq.mp hdot) with ⟨left, hfirst, hsecond⟩
  rcases dropDot_of_encode hfirst with ⟨rest, hrest, rfl⟩
  rcases dropDot_of_encode hsecond with ⟨last, hlast, hnil⟩
  rw [Percent.encode_eq_nil_iff.mp hnil] at hlast
  exact beq_iff_eq.mpr (Option.bind_eq_some_iff.mpr ⟨rest, hrest, hlast⟩)

theorem isSlash_digit {n : Nat} (hn : n < 16) : isSlash (Percent.digit n) = false :=
  (by decide : forall m : Fin 16, isSlash (Percent.digit m) = false) ⟨n, hn⟩

theorem IsSegment.encode (hsegment : IsSegment segment) :
    IsSegment (Percent.encode Percent.inPath segment) where
  whole := by
    intro c hc
    rcases Percent.mem_encode hc with ⟨hmem, -⟩ | rfl | ⟨n, hn, rfl⟩
    · exact hsegment.whole c hmem
    · rfl
    · exact isSlash_digit hn
  noDot := Bool.eq_false_iff.mpr fun hdot =>
    Bool.eq_false_iff.mp hsegment.noDot (isDot_of_encode hdot)
  noDotDot := Bool.eq_false_iff.mpr fun hdot =>
    Bool.eq_false_iff.mp hsegment.noDotDot (isDotDot_of_encode hdot)

/-!
## The normal form
-/

/-- The path of closed segments and an open last one. -/
def assemble (closed : List (List Char)) (last : List Char) : List Char :=
  '/' :: closed.flatMap (fun segment => segment ++ ['/']) ++ last

def IsNormal (path : List Char) : Prop :=
  exists closed last, path = assemble closed last ∧
    forall segment, segment ∈ last :: closed ->
      IsSegment segment ∧ forall c, c ∈ segment -> Percent.inPath c = false

theorem segments_assemble {closed : List (List Char)} {last : List Char}
    (hsegments : forall segment, segment ∈ last :: closed -> IsSegment segment) :
    segments (closed.flatMap (fun segment => segment ++ ['/']) ++ last) = closed ++ [last] := by
  induction closed with
  | nil => exact segments_of_whole (hsegments last List.mem_cons_self).whole
  | cons segment rest ih =>
      have hrest := ih fun other hother => hsegments other (by
        rcases List.mem_cons.mp hother with rfl | hother
        · exact List.mem_cons_self
        · exact List.mem_cons_of_mem _ (List.mem_cons_of_mem _ hother))
      rw [List.flatMap_cons, List.append_assoc, List.append_assoc, List.singleton_append,
        segments_append (hsegments segment (by simp)).whole rfl, hrest, List.cons_append]

theorem resolve_of_isSegment {closed : List (List Char)} {last : List Char}
    (hsegments : forall segment, segment ∈ last :: closed -> IsSegment segment)
    (done : List (List Char)) :
    resolve done (closed ++ [last]) = (closed.reverse ++ done, last) := by
  induction closed generalizing done with
  | nil =>
      have hlast := hsegments last List.mem_cons_self
      rw [List.nil_append, resolve, if_neg (by simp [hlast.noDotDot]), if_neg (by simp [hlast.noDot])]
      rfl
  | cons segment rest ih =>
      have hsegment := hsegments segment (by simp)
      have hrest := ih (fun other hother => hsegments other (by
        rcases List.mem_cons.mp hother with rfl | hother
        · exact List.mem_cons_self
        · exact List.mem_cons_of_mem _ (List.mem_cons_of_mem _ hother))) (segment :: done)
      have hmore : rest ++ [last] ≠ [] := List.append_ne_nil_of_right_ne_nil _ (List.cons_ne_nil _ _)
      rw [List.cons_append, resolve]
      · rw [if_neg (by simp [hsegment.noDotDot]), if_neg (by simp [hsegment.noDot]), hrest]
        simp
      · exact hmore

theorem mem_of_mem_shorten {closed : List (List Char)} (hmem : segment ∈ shorten closed) :
    segment ∈ closed := by
  unfold shorten at hmem
  split at hmem
  · split at hmem
    · exact hmem
    · exact List.mem_cons_of_mem _ hmem
  · exact hmem

theorem isSegment_of_resolve {parts closed done : List (List Char)} {last : List Char}
    (hparts : forall part, part ∈ parts -> forall c, c ∈ part -> isSlash c = false)
    (hdone : forall segment, segment ∈ done -> IsSegment segment)
    (hresolve : resolve done parts = (closed, last)) :
    forall segment, segment ∈ last :: closed -> IsSegment segment := by
  have hcons : forall {last : List Char} {closed : List (List Char)}, IsSegment last ->
      (forall segment, segment ∈ closed -> IsSegment segment) ->
      forall segment, segment ∈ last :: closed -> IsSegment segment := by
    intro last closed hlast hclosed segment hsegment
    rcases List.mem_cons.mp hsegment with rfl | hsegment
    · exact hlast
    · exact hclosed segment hsegment
  have hshorten := fun segment hmem => hdone segment (mem_of_mem_shorten hmem)
  fun_induction resolve done parts with
  | case1 =>
      cases hresolve
      exact hcons isSegment_nil hdone
  | case2 =>
      cases hresolve
      exact hcons isSegment_nil hshorten
  | case3 =>
      cases hresolve
      exact hcons isSegment_nil hdone
  | case4 done part hdotDot hdot =>
      cases hresolve
      have hpart : IsSegment last :=
        ⟨hparts last List.mem_cons_self, Bool.eq_false_iff.mpr hdot, Bool.eq_false_iff.mpr hdotDot⟩
      exact hcons hpart hdone
  | case5 done part rest _ hdotDot ih =>
      exact ih (fun other hother => hparts other (List.mem_cons_of_mem _ hother)) hshorten hresolve
        fun segment hmem => hshorten segment (mem_of_mem_shorten hmem)
  | case6 done part rest _ hdotDot hdot ih =>
      exact ih (fun other hother => hparts other (List.mem_cons_of_mem _ hother)) hdone hresolve
        hshorten
  | case7 done part rest _ hdotDot hdot ih =>
      have hpart : IsSegment part :=
        ⟨hparts part List.mem_cons_self, Bool.eq_false_iff.mpr hdot, Bool.eq_false_iff.mpr hdotDot⟩
      exact ih (fun other hother => hparts other (List.mem_cons_of_mem _ hother))
        (hcons hpart hdone) hresolve
        fun segment hmem => hcons hpart hdone segment (mem_of_mem_shorten hmem)

theorem isNormal_normalize (chars : List Char) : IsNormal (normalize chars) := by
  let inner := if chars.head?.any isSlash then chars.drop 1 else chars
  let encode := Percent.encode Percent.inPath
  rcases hresolve : resolve [] (segments inner) with ⟨closed, last⟩
  have hkept := @isSegment_of_resolve _ _ [] _ (fun part => whole_of_mem_segments) nofun
    hresolve
  refine ⟨closed.reverse.map encode, encode last, ?_, ?_⟩
  · unfold normalize assemble
    simp only [show (if chars.head?.any isSlash then chars.drop 1 else chars) = inner from rfl,
      hresolve, List.flatMap_map]
    rfl
  · intro segment hsegment
    have horigin : exists part, part ∈ last :: closed ∧ encode part = segment := by
      rcases List.mem_cons.mp hsegment with rfl | hsegment
      · exact ⟨last, List.mem_cons_self, rfl⟩
      · rcases List.mem_map.mp hsegment with ⟨part, hpart, rfl⟩
        exact ⟨part, List.mem_cons_of_mem _ (List.mem_reverse.mp hpart), rfl⟩
    rcases horigin with ⟨part, hpart, rfl⟩
    exact ⟨(hkept part hpart).encode,
      fun c hc => Percent.not_set_of_mem_encode Percent.isStable_inPath hc⟩

theorem normalize_of_isNormal {path : List Char} (hnormal : IsNormal path) :
    normalize path = path := by
  rcases hnormal with ⟨closed, last, rfl, hsegments⟩
  have hkept := fun segment hmem => (hsegments segment hmem).left
  have hencode : forall segment, segment ∈ last :: closed ->
      Percent.encode Percent.inPath segment = segment :=
    fun segment hmem => Percent.encode_of_not_set (hsegments segment hmem).right
  have hinner : (assemble closed last).drop 1 =
      closed.flatMap (fun segment => segment ++ ['/']) ++ last := rfl
  have hresolve : resolve [] (segments ((assemble closed last).drop 1)) = (closed.reverse, last) := by
    rw [hinner, segments_assemble hkept, resolve_of_isSegment hkept, List.append_nil]
  have hclosed : closed.flatMap (fun segment => Percent.encode Percent.inPath segment ++ ['/']) =
      closed.flatMap (fun segment => segment ++ ['/']) :=
    List.flatMap_congr fun segment hmem => by rw [hencode segment (List.mem_cons_of_mem _ hmem)]
  unfold normalize
  rw [if_pos (by rfl)]
  simp only [hresolve, List.reverse_reverse, hclosed, hencode last List.mem_cons_self]
  rfl

theorem not_inPath_of_isNormal {path : List Char} (hnormal : IsNormal path) (hc : c ∈ path) :
    Percent.inPath c = false := by
  rcases hnormal with ⟨closed, last, rfl, hsegments⟩
  rw [assemble, List.cons_append, List.mem_cons, List.mem_append, List.mem_flatMap] at hc
  rcases hc with rfl | ⟨segment, hsegment, hc⟩ | hc
  · rfl
  · rcases List.mem_append.mp hc with hc | hc
    · exact (hsegments segment (List.mem_cons_of_mem _ hsegment)).right c hc
    · rw [List.mem_singleton.mp hc]
      rfl
  · exact (hsegments last List.mem_cons_self).right c hc

end Path

/-!
## The target
-/

def targetOf (path : List Char) (query : Option (List Char)) : List Char :=
  match query with
  | some query => path ++ '?' :: query
  | none => path

structure IsTarget (path : List Char) (query : Option (List Char)) : Prop where
  path : Path.IsNormal path
  query : forall chars, query = some chars -> forall c, c ∈ chars -> Percent.inQuery c = false

variable {path : List Char} {query : Option (List Char)} {c : Char}

theorem isTarget_parseTarget (chars : List Char) :
    IsTarget (parseTarget chars).1 (parseTarget chars).2 where
  path := Path.isNormal_normalize _
  query := by
    intro found hfound c hc
    unfold parseTarget at hfound
    simp only at hfound
    split at hfound
    · cases hfound
    · cases hfound
      exact Percent.not_set_of_mem_encode Percent.isStable_inQuery hc

/-- A character of a target does not end it. -/
theorem mem_targetOf (htarget : IsTarget path query) (hc : c ∈ targetOf path query) :
    c ∈ path ∧ Percent.inPath c = false ∨ c = '?' ∨ Percent.inQuery c = false := by
  cases query with
  | none => exact Or.inl ⟨hc, Path.not_inPath_of_isNormal htarget.path hc⟩
  | some chars =>
      rcases List.mem_append.mp hc with hc | hc
      · exact Or.inl ⟨hc, Path.not_inPath_of_isNormal htarget.path hc⟩
      · rcases List.mem_cons.mp hc with rfl | hc
        · exact Or.inr (Or.inl rfl)
        · exact Or.inr (Or.inr (htarget.query chars rfl c hc))

theorem ne_of_set {set : Char -> Bool} {d : Char} (hc : set c = false) (hd : set d = true) :
    c ≠ d := by
  rintro rfl
  rw [hc] at hd
  cases hd

theorem parseTarget_targetOf (htarget : IsTarget path query) :
    parseTarget (targetOf path query) = (path, query) := by
  have hsign : forall c, c ∈ targetOf path query -> decide (c ≠ '#') = true := by
    intro c hc
    rw [decide_eq_true_eq]
    rcases mem_targetOf htarget hc with ⟨-, hset⟩ | rfl | hset
    · exact ne_of_set hset (by decide)
    · decide
    · exact ne_of_set hset (by decide)
  have hwhole := List.takeWhile_eq_self_iff.mpr hsign
  have hpath : forall c, c ∈ path -> decide (c ≠ '?') = true := fun c hc =>
    decide_eq_true (ne_of_set (Path.not_inPath_of_isNormal htarget.path hc) (by decide))
  unfold parseTarget
  simp only [hwhole]
  cases query with
  | none =>
      have htake := List.takeWhile_eq_self_iff.mpr hpath
      simp only [targetOf, htake, List.drop_length, Path.normalize_of_isNormal htarget.path]
  | some chars =>
      have htake : (path ++ '?' :: chars).takeWhile (fun c => decide (c ≠ '?')) = path := by
        rw [List.takeWhile_append_of_pos hpath, List.takeWhile_cons_of_neg (by decide),
          List.append_nil]
      simp only [targetOf, htake, List.drop_left, Path.normalize_of_isNormal htarget.path,
        Percent.encode_of_not_set (htarget.query chars rfl)]

end Uri

end WebSocketClient
