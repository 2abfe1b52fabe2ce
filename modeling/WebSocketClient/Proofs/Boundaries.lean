import WebSocketClient.Proofs.Calls
import WebSocketClient.Proofs.Characters

/-!
# Between characters

A position in the octets of a text lies between two characters exactly if so many
octets are those of a front of the text.  So stepping back from any position comes to
the last such place in front of it before it would leave the text, and a text that is
cut there has lost no more characters than it must.
-/

namespace WebSocketClient

namespace Utf8

variable {c : Char} {chars front other : List Char} {octets : Bytes} {position room : Nat}

/-!
## Fronts
-/

/-- The longest front of a text that takes at most this many octets and ends between
two characters. -/
structure IsLongestFront (room : Nat) (text front : String) : Prop where
  begins : front.toList <+: text.toList
  fits : (encode front).length <= room
  longest : forall other : String, other.toList <+: text.toList ->
    (encode other).length <= room -> other.toList <+: front.toList

def size (chars : List Char) : Nat :=
  (chars.flatMap String.utf8EncodeChar).length

theorem size_cons (c : Char) (rest : List Char) :
    size (c :: rest) = (String.utf8EncodeChar c).length + size rest := by
  rw [size, size, List.flatMap_cons, List.length_append]

theorem size_append (front rest : List Char) : size (front ++ rest) = size front + size rest := by
  rw [size, size, size, List.flatMap_append, List.length_append]

theorem length_encodeChar_pos (c : Char) : 0 < (String.utf8EncodeChar c).length := by
  rw [String.length_utf8EncodeChar]
  exact c.utf8Size_pos

theorem prefix_of_size_le (hother : other <+: chars) (hfront : front <+: chars)
    (hsize : size other <= size front) : other <+: front := by
  rcases List.prefix_or_prefix_of_prefix hother hfront with hprefix | ⟨more, rfl⟩
  · exact hprefix
  · cases more with
    | nil => simp
    | cons c rest =>
        have hpos := length_encodeChar_pos c
        rw [size_append, size_cons] at hsize
        omega

theorem take_size (hfront : front <+: chars) :
    (chars.flatMap String.utf8EncodeChar).take (size front) =
      front.flatMap String.utf8EncodeChar := by
  rcases hfront with ⟨rest, rfl⟩
  rw [List.flatMap_append, size, List.take_left]

/-!
## The first octet of a character and the others
-/

theorem isContinuation_iff (octet : UInt8) : isContinuation octet = true <-> IsTail octet := by
  revert octet
  unfold isContinuation IsTail
  exact forall_octet (by decide +kernel)

theorem isContinuation_ofNat {value : Nat} (hvalue : value < 0x80 ∨ 0xC0 <= value)
    (hoctet : value < 0x100) : isContinuation (UInt8.ofNat value) = false := by
  rw [Bool.eq_false_iff, Ne, isContinuation_iff]
  simp only [IsTail, UInt8.le_iff_toNat_le, UInt8.toNat_ofNat', UInt8.reduceToNat]
  omega

/-- A character begins with an octet that does not go on with one, and all its other
octets do. -/
theorem exists_encodeChar_eq (c : Char) : exists first tail,
    String.utf8EncodeChar c = first :: tail ∧ isContinuation first = false ∧
      forall octet, octet ∈ tail -> isContinuation octet = true := by
  have htail (values : List Nat) (octet : UInt8)
      (hoctet : octet ∈ values.map fun n => UInt8.ofNat (n % 64 + 0x80)) :
      isContinuation octet = true := by
    rcases List.mem_map.mp hoctet with ⟨n, _, rfl⟩
    exact (isContinuation_iff _).mpr (isTail_ofNat n)
  rcases exists_value c with ⟨value, rfl, hvalid, hbound⟩
  rcases Nat.lt_or_ge value 0x80 with hone | hone
  · exact ⟨_, _, encodeChar_ofNat_one hone,
      isContinuation_ofNat (Or.inl hone) (by omega), htail []⟩
  rcases Nat.lt_or_ge value 0x800 with htwo | htwo
  · exact ⟨_, _, encodeChar_ofNat_two hone htwo,
      isContinuation_ofNat (by omega) (by omega), htail [value]⟩
  rcases Nat.lt_or_ge value 0x10000 with hthree | hthree
  · exact ⟨_, _, encodeChar_ofNat_three htwo hthree hvalid,
      isContinuation_ofNat (by omega) (by omega), htail [value / 64, value]⟩
  · exact ⟨_, _, encodeChar_ofNat_four hthree hbound,
      isContinuation_ofNat (by omega) (by omega), htail [value / 4096, value / 64, value]⟩

/-!
## Boundaries
-/

theorem isBoundary_append {front rest : Bytes} (hfront : front ≠ [])
    (hrest : forall octet, rest.head? = some octet -> isContinuation octet = false)
    (position : Nat) :
    isBoundary (front ++ rest) (front.length + position) = isBoundary rest position := by
  have hpos := List.length_pos_iff.mpr hfront
  have hbehind : (front.length + position == 0) = false := by
    rw [beq_eq_false_iff_ne]
    omega
  have hend : (front.length + position == front.length + rest.length) =
      (position == rest.length) := by
    rw [Bool.eq_iff_iff, beq_iff_eq, beq_iff_eq, Nat.add_left_cancel_iff]
  rw [isBoundary, isBoundary, hbehind, Bool.false_or,
    List.getElem?_append_right (Nat.le_add_right _ _), Nat.add_sub_cancel_left,
    List.length_append, hend]
  cases position with
  | succ position => rfl
  | zero =>
      cases rest with
      | nil => rfl
      | cons octet rest => simp [hrest octet rfl]

theorem head_encodeChars (chars : List Char) (octet : UInt8)
    (hoctet : (chars.flatMap String.utf8EncodeChar).head? = some octet) :
    isContinuation octet = false := by
  cases chars with
  | nil => cases hoctet
  | cons c rest =>
      rcases exists_encodeChar_eq c with ⟨first, tail, hc, hfirst, _⟩
      rw [List.flatMap_cons, hc] at hoctet
      cases hoctet
      exact hfirst

theorem isBoundary_in_char (rest : Bytes) (hpos : 0 < position)
    (hinside : position < (String.utf8EncodeChar c).length) :
    isBoundary (String.utf8EncodeChar c ++ rest) position = false := by
  rcases exists_encodeChar_eq c with ⟨first, tail, hc, _, htail⟩
  rw [hc, List.length_cons] at hinside
  rcases Nat.exists_eq_add_of_lt hpos with ⟨index, rfl⟩
  rw [Nat.zero_add] at hinside ⊢
  have hindex : index < tail.length := Nat.lt_of_succ_lt_succ hinside
  have hoctet := htail _ (List.getElem_mem hindex)
  rw [hc, isBoundary, List.cons_append, List.getElem?_cons_succ, List.getElem?_append_left hindex,
    List.getElem?_eq_getElem hindex]
  simp only [hoctet, Bool.not_true, Bool.or_false, beq_eq_false_iff_ne]
  exact Nat.succ_ne_zero index

theorem exists_front_cons : (exists front, front <+: c :: chars ∧ size front = position) <->
    position = 0 ∨ exists rest, rest <+: chars ∧ size (c :: rest) = position := by
  simp only [List.prefix_cons_iff]
  constructor
  · rintro ⟨front, rfl | ⟨rest, rfl, hrest⟩, hsize⟩
    · exact Or.inl hsize.symm
    · exact Or.inr ⟨rest, hrest, hsize⟩
  · rintro (rfl | ⟨rest, hrest, hsize⟩)
    · exact ⟨[], Or.inl rfl, rfl⟩
    · exact ⟨c :: rest, Or.inr ⟨rest, rfl, hrest⟩, hsize⟩

/-- The boundaries in the octets of a text are where the octets of its fronts end. -/
theorem isBoundary_iff : isBoundary (chars.flatMap String.utf8EncodeChar) position = true <->
    exists front, front <+: chars ∧ size front = position := by
  induction chars generalizing position with
  | nil =>
      have hend : isBoundary [] position = true <-> position = 0 := by
        simp only [isBoundary, List.getElem?_nil, List.length_nil, Bool.or_self, beq_iff_eq]
      rw [List.flatMap_nil, hend]
      simp only [List.prefix_nil, exists_eq_left]
      exact eq_comm
  | cons c chars ih =>
      rw [exists_front_cons, List.flatMap_cons]
      rcases Nat.eq_zero_or_pos position with rfl | hpos
      · exact iff_of_true rfl (Or.inl rfl)
      rcases Nat.lt_or_ge position (String.utf8EncodeChar c).length with hinside | hbehind
      · rw [isBoundary_in_char _ hpos hinside]
        refine iff_of_false Bool.false_ne_true ?_
        rintro (rfl | ⟨front, _, rfl⟩)
        · exact Nat.lt_irrefl 0 hpos
        · rw [size_cons] at hinside
          omega
      · rcases Nat.exists_eq_add_of_le hbehind with ⟨later, rfl⟩
        rw [isBoundary_append (List.ne_nil_of_length_pos (length_encodeChar_pos c))
          (head_encodeChars chars), ih]
        simp only [size_cons, Nat.add_left_cancel_iff]
        exact (or_iff_right (Nat.ne_of_gt hpos)).symm

/-- Stepping back comes to a boundary before it would leave the text: to the last one up
to where it starts. -/
theorem boundaryUpTo?_eq_some (octets : Bytes) (position : Nat) : exists last,
    boundaryUpTo? octets position = some last ∧ last <= position ∧
      isBoundary octets last = true ∧
      forall other, other <= position -> isBoundary octets other = true -> other <= last := by
  induction position with
  | zero => exact ⟨0, rfl, Nat.le_refl 0, rfl, fun _ hother _ => hother⟩
  | succ position ih =>
      rw [boundaryUpTo?]
      split
      case isTrue hboundary => exact ⟨_, rfl, Nat.le_refl _, hboundary, fun _ hother _ => hother⟩
      case isFalse hinside =>
          rcases ih with ⟨last, hfound, hlast, hboundary, hgreatest⟩
          refine ⟨last, hfound, Nat.le_succ_of_le hlast, hboundary, ?_⟩
          intro other hother hat
          rcases Nat.lt_or_eq_of_le hother with hless | rfl
          · exact hgreatest other (Nat.le_of_lt_succ hless) hat
          · exact absurd hat hinside

/-!
## Texts that fit
-/

theorem front?_eq_some (hfront : front <+: chars) :
    front? (String.ofList chars) (size front) = some (String.ofList front) := by
  have hboundary := isBoundary_iff.mpr ⟨front, hfront, rfl⟩
  rw [front?, encode_ofList]
  simp only [hboundary, if_true, take_size hfront]
  rw [← encode_ofList, decode_eq_some_iff]

theorem isLongestFront_of_truncate? (room : Nat) (text : String) : exists front,
    truncate? room text = some front ∧ IsLongestFront room text front := by
  unfold truncate?
  split
  case isFalse hshort =>
      refine ⟨text, rfl, List.prefix_refl _, ?_, fun _ hother _ => hother⟩
      rw [length_encode]
      exact Nat.le_of_not_lt hshort
  case isTrue =>
      rcases boundaryUpTo?_eq_some (encode text) room with ⟨last, hfound, hlast, hat, hgreatest⟩
      rcases isBoundary_iff.mp hat with ⟨front, hfront, rfl⟩
      have hcut := front?_eq_some hfront
      rw [String.ofList_toList] at hcut
      refine ⟨String.ofList front, ?_, ?_, ?_, ?_⟩
      · rw [hfound, Option.bind_some, hcut]
      · rwa [String.toList_ofList]
      · rwa [encode_ofList]
      · intro other hother hfits
        rw [String.toList_ofList]
        exact prefix_of_size_le hother hfront
          (hgreatest _ hfits (isBoundary_iff.mpr ⟨_, hother, rfl⟩))

theorem truncate?_eq_some (room : Nat) (text : String) :
    truncate? room text = some (truncate room text) := by
  rcases isLongestFront_of_truncate? room text with ⟨front, hcut, _⟩
  rw [truncate, hcut, Option.getD_some]

theorem isLongestFront_truncate (room : Nat) (text : String) :
    IsLongestFront room text (truncate room text) := by
  rcases isLongestFront_of_truncate? room text with ⟨front, hcut, hlongest⟩
  rwa [truncate, hcut, Option.getD_some]

example : truncate 4 "aéé" = "aé" := by decide +kernel

end Utf8

end WebSocketClient
