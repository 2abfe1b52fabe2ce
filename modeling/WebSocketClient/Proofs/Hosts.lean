import WebSocketClient.Proofs.Addresses
import WebSocketClient.Proofs.Paths

/-!
# Hosts

A host in its normal form.  What is read as a host is in it, and its rendering is read as
the same host again, also with a port or a path behind it.
-/

namespace WebSocketClient

theorem Percent.decode_cons {c : Char} (hne : c ≠ '%') (rest : List Char) :
    decode (c :: rest) = String.utf8EncodeChar c ++ decode rest := by
  rw [decode.eq_def]
  split
  · exact absurd (List.cons.inj ‹_›).left hne
  · cases ‹c :: rest = _›
    rfl
  · cases ‹c :: rest = []›

theorem Percent.utf8EncodeChar_of_lt {c : Char} (hascii : c.toNat < 0x80) :
    String.utf8EncodeChar c = [UInt8.ofNat c.toNat] := by
  have hvalue : c.val.toNat = c.toNat := rfl
  rw [String.utf8EncodeChar, hvalue]
  exact if_pos (by omega)

theorem Percent.decode_of_plain {chars : List Char}
    (hchars : forall c, c ∈ chars -> c ≠ '%' ∧ c.toNat < 0x80) :
    decode chars = chars.map fun c => UInt8.ofNat c.toNat := by
  induction chars with
  | nil => rfl
  | cons c rest ih =>
      rcases hchars c List.mem_cons_self with ⟨hne, hascii⟩
      rw [decode_cons hne, utf8EncodeChar_of_lt hascii,
        ih fun d hd => hchars d (List.mem_cons_of_mem _ hd)]
      rfl

namespace Uri

namespace Host

/-!
## Characters
-/

variable {c : Char} {chars : List Char} {host : Host}

/-- A character of a name, and of every rendering but an IPv6 address. -/
theorem bounds_of_not_forbidden (hc : isForbiddenInName c = false) :
    0x20 < c.toNat ∧ c.toNat < 0x7F ∧
      c ∉ ['#', '%', '/', ':', '<', '>', '?', '@', '[', '\\', ']', '^', '|'] := by
  unfold isForbiddenInName at hc
  simp only [Bool.or_eq_false_iff, decide_eq_false_iff_not, Nat.not_le] at hc
  refine ⟨hc.left.left, hc.left.right, ?_⟩
  simpa only [List.contains_eq_mem, decide_eq_false_iff_not] using hc.right

theorem not_forbidden_of_digit (hc : (Percent.digit? c).isSome = true) :
    isForbiddenInName c = false := by
  have hall : forall n : Fin 128, (Percent.digit? (Char.ofNat n)).isSome = true ->
      isForbiddenInName (Char.ofNat n) = false := by
    decide
  have hsmall : c.toNat < 128 := by
    have hvalue : c.val.toNat = c.toNat := rfl
    unfold Percent.digit? at hc
    simp only [Bool.and_eq_true, decide_eq_true_eq, Char.le_def, UInt32.le_iff_toNat_le,
      hvalue] at hc
    change (if 48 <= c.toNat ∧ c.toNat <= 57 then _
      else if 97 <= c.toNat ∧ c.toNat <= 102 then _
      else if 65 <= c.toNat ∧ c.toNat <= 70 then _ else none).isSome = true at hc
    split at hc
    · omega
    · split at hc
      · omega
      · split at hc
        · omega
        · cases hc
  have hfound := hall ⟨c.toNat, hsmall⟩
  rw [Char.ofNat_toNat] at hfound
  exact hfound hc

/-!
## The normal form
-/

inductive IsNormal : Host -> Prop
  | name {text : String} : text.toList ≠ [] ->
      (forall c, c ∈ text.toList -> isForbiddenInName c = false ∧ c.toLower = c) ->
      Ipv4.endsInNumber text.toList = false -> IsNormal (.name text)
  | ipv4 {address : Nat} : address < 2 ^ 32 -> IsNormal (.ipv4 address)
  | ipv6 {pieces : List Nat} : Ipv6.IsAddress pieces -> IsNormal (.ipv6 pieces)

theorem isNormal_of_bracketed (hparse : bracketed chars = .ok host) : host.IsNormal := by
  unfold bracketed at hparse
  split at hparse
  case isFalse => cases hparse
  case isTrue =>
      split at hparse
      case h_1 hpieces =>
          cases hparse
          exact .ipv6 (Ipv6.isAddress_of_parse? hpieces)
      case h_2 => cases hparse

theorem toLower_toLower (octet : UInt8) :
    (Char.ofNat octet.toNat).toLower.toLower = (Char.ofNat octet.toNat).toLower := by
  have hall : forall n : Fin 256,
      (Char.ofNat n).toLower.toLower = (Char.ofNat n).toLower := by
    decide +kernel
  exact hall ⟨octet.toNat, octet.toNat_lt⟩

theorem isNormal_of_parse (hparse : Host.parse chars = .ok host) : host.IsNormal := by
  unfold Host.parse at hparse
  split at hparse
  case isTrue => exact isNormal_of_bracketed hparse
  case isFalse =>
      simp only at hparse
      split at hparse
      case isTrue => cases hparse
      case isFalse hallowed =>
          split at hparse
          case isTrue => cases hparse
          case isFalse hne =>
              split at hparse
              case isTrue =>
                  split at hparse
                  case h_1 haddress =>
                      cases hparse
                      exact .ipv4 (Ipv4.lt_of_parse? haddress)
                  case h_2 => cases hparse
              case isFalse hnumber =>
                  cases hparse
                  apply IsNormal.name
                  · rw [String.toList_ofList]
                    exact mt List.isEmpty_iff.mpr hne
                  · intro c hc
                    rw [String.toList_ofList] at hc
                    refine ⟨Bool.eq_false_iff.mpr fun hc' =>
                      hallowed (List.any_eq_true.mpr ⟨c, hc, hc'⟩), ?_⟩
                    rcases List.mem_map.mp hc with ⟨octet, -, rfl⟩
                    exact toLower_toLower octet
                  · rw [String.toList_ofList]
                    exact Bool.eq_false_iff.mpr hnumber

theorem parse_of_name (hne : chars ≠ [])
    (hchars : forall c, c ∈ chars -> isForbiddenInName c = false ∧ c.toLower = c) :
    Host.parse chars =
      if Ipv4.endsInNumber chars then
        match Ipv4.parse? chars with
        | some address => .ok (.ipv4 address)
        | none => .error .invalidIpv4
      else .ok (.name (String.ofList chars)) := by
  have hplain : forall c, c ∈ chars -> c ≠ '%' ∧ c.toNat < 0x80 := by
    intro c hc
    rcases bounds_of_not_forbidden (hchars c hc).left with ⟨-, hlt, hnot⟩
    exact ⟨fun hsign => hnot (by simp [hsign]), by omega⟩
  have hname : (Percent.decode chars).map (fun octet => (Char.ofNat octet.toNat).toLower) = chars := by
    rw [Percent.decode_of_plain hplain, List.map_map]
    refine (List.map_congr_left fun c hc => ?_).trans (List.map_id chars)
    have hascii := (hplain c hc).right
    rw [Function.comp_apply, UInt8.toNat_ofNat_of_lt' (Nat.lt_trans hascii (by decide)),
      Char.ofNat_toNat]
    exact (hchars c hc).right
  have hhead : chars.head? ≠ some '[' := by
    intro hhead
    have hallowed := (hchars '[' (List.mem_of_head? hhead)).left
    exact absurd hallowed (by decide)
  have hallowed : chars.any isForbiddenInName = false :=
    List.any_eq_false.mpr fun c hc => Bool.eq_false_iff.mp (hchars c hc).left
  have hnonempty : chars.isEmpty = false := List.isEmpty_eq_false_iff.mpr hne
  unfold Host.parse
  rw [if_neg hhead]
  simp only [hname, hallowed, hnonempty]
  rfl

theorem not_forbidden_of_isDigit (hc : c.isDigit = true) :
    isForbiddenInName c = false ∧ c.toLower = c := by
  have hall : forall n : Fin 58, 48 <= n.val ->
      isForbiddenInName (Char.ofNat n) = false ∧ (Char.ofNat n).toLower = Char.ofNat n := by
    decide
  have hbounds : 48 <= c.toNat ∧ c.toNat <= 57 := Char.isDigit_iff_toNat.mp hc
  have hfound := hall ⟨c.toNat, by omega⟩ hbounds.left
  rwa [Char.ofNat_toNat] at hfound

theorem not_forbidden_of_mem_ipv4 {address : Nat} (hc : c ∈ (Ipv4.render address).toList) :
    isForbiddenInName c = false ∧ c.toLower = c := by
  rcases Ipv4.mem_render hc with rfl | hdigit
  · decide
  · exact not_forbidden_of_isDigit hdigit

theorem render_ipv4_ne_nil (address : Nat) : (Ipv4.render address).toList ≠ [] := by
  intro hnil
  have hlabels := Ipv4.labels_render address
  rw [hnil] at hlabels
  have hlength := congrArg List.length hlabels
  cases hlength

theorem toList_render_ipv6 (pieces : List Nat) :
    (ipv6 pieces).render.toList = '[' :: (Ipv6.render pieces).toList ++ [']'] := by
  simp [render]

theorem parse_render (hnormal : host.IsNormal) : Host.parse host.render.toList = .ok host := by
  cases hnormal with
  | @name text hne hchars hnumber =>
      rw [render, parse_of_name hne hchars, if_neg (by simp [hnumber]), String.ofList_toList]
  | @ipv4 address hsize =>
      rw [render, parse_of_name (render_ipv4_ne_nil address) fun c => not_forbidden_of_mem_ipv4,
        if_pos (Ipv4.endsInNumber_render address), Ipv4.parse?_render hsize]
  | @ipv6 pieces haddress =>
      rw [toList_render_ipv6]
      unfold Host.parse bracketed
      have hhead : ('[' :: (Ipv6.render pieces).toList ++ [']']).head? = some '[' := rfl
      rw [if_pos hhead, if_pos List.getLast?_concat]
      have hinner : (('[' :: (Ipv6.render pieces).toList ++ [']']).drop 1).dropLast =
          (Ipv6.render pieces).toList := List.dropLast_concat
      rw [hinner, Ipv6.parse?_render haddress]

/-!
## What stands behind a host
-/

theorem mem_render (hnormal : host.IsNormal) (hc : c ∈ host.render.toList) :
    isForbiddenInName c = false ∨ c ∈ ['[', ']', ':'] := by
  cases hnormal with
  | name hne hchars hnumber => exact Or.inl (hchars c hc).left
  | ipv4 hsize => exact Or.inl (not_forbidden_of_mem_ipv4 hc).left
  | ipv6 haddress =>
      rw [toList_render_ipv6, List.cons_append, List.mem_cons, List.mem_append,
        List.mem_singleton] at hc
      rcases hc with rfl | hc | rfl
      · exact Or.inr (by decide)
      · rcases Ipv6.mem_render hc with rfl | hdigit
        · exact Or.inr (by decide)
        · exact Or.inl (not_forbidden_of_digit hdigit)
      · exact Or.inr (by decide)

theorem render_ne_empty (hnormal : host.IsNormal) : host.render.toList ≠ [] := by
  cases hnormal with
  | name hne hchars hnumber => exact hne
  | ipv4 hsize => exact render_ipv4_ne_nil _
  | ipv6 haddress =>
      rw [toList_render_ipv6]
      exact List.cons_ne_nil _ _

theorem render_eq_bare (hnormal : host.IsNormal) :
    host.render = if ':' ∈ host.bare.toList then "[" ++ host.bare ++ "]" else host.bare := by
  cases hnormal with
  | @name text hne hchars hnumber =>
      have hcolon : ':' ∉ text.toList := fun hmem => absurd (hchars ':' hmem).left (by decide)
      show text = if ':' ∈ text.toList then _ else text
      rw [if_neg hcolon]
  | @ipv4 address hsize =>
      have hcolon : ':' ∉ (Ipv4.render address).toList :=
        fun hmem => absurd (not_forbidden_of_mem_ipv4 hmem).left (by decide)
      show Ipv4.render address = if ':' ∈ (Ipv4.render address).toList then _ else Ipv4.render address
      rw [if_neg hcolon]
  | @ipv6 pieces haddress =>
      show _ = if ':' ∈ (Ipv6.render pieces).toList then _ else _
      rw [if_pos (Ipv6.colon_mem_render haddress)]
      rfl

theorem bare_ne_empty (hnormal : host.IsNormal) : host.bare.toList ≠ [] := by
  cases hnormal with
  | name hne hchars hnumber => exact hne
  | @ipv4 address hsize => exact render_ipv4_ne_nil address
  | @ipv6 pieces haddress =>
      have hcolon : ':' ∈ (Ipv6.render pieces).toList := Ipv6.colon_mem_render haddress
      exact List.ne_nil_of_mem hcolon

theorem mem_render_of_mem_bare (hc : c ∈ host.bare.toList) : c ∈ host.render.toList := by
  cases host with
  | name | ipv4 => exact hc
  | ipv6 pieces =>
      rw [toList_render_ipv6]
      exact List.mem_append_left _ (List.mem_cons_of_mem _ hc)

end Host

section SplitHost

variable {kind : SchemeKind} {inBrackets : Bool} {chars rest : List Char}

theorem splitHost_append (hchars : forall c, c ∈ chars -> endsAuthority kind c = false ∧
      c ≠ '[' ∧ c ≠ ']' ∧ (c = ':' -> inBrackets = true)) (rest : List Char) :
    splitHost kind inBrackets (chars ++ rest) =
      (chars ++ (splitHost kind inBrackets rest).1, (splitHost kind inBrackets rest).2) := by
  induction chars with
  | nil => rfl
  | cons c more ih =>
      rcases hchars c List.mem_cons_self with ⟨hauthority, hopen, hclose, hcolon⟩
      have hmore := ih fun d hd => hchars d (List.mem_cons_of_mem _ hd)
      rw [List.cons_append, splitHost, if_neg]
      · have hinside : (decide (c = '[') || (inBrackets && decide (c ≠ ']'))) = inBrackets := by
          simp [hopen, hclose]
        rw [hinside, hmore]
        rfl
      · simpa [hauthority] using hcolon

def EndsHost (rest : List Char) : Prop :=
  forall c, rest.head? = some c -> c = ':' ∨ c = '/'

theorem splitHost_of_endsHost (hrest : EndsHost rest) : splitHost kind false rest = ([], rest) := by
  cases rest with
  | nil => rfl
  | cons c more =>
      rw [splitHost, if_pos]
      rcases hrest c rfl with rfl | rfl <;> simp [endsAuthority]

theorem not_endsAuthority {c : Char}
    (hc : Host.isForbiddenInName c = false ∨ c ∈ ['[', ']', ':']) :
    endsAuthority kind c = false ∧ c ≠ '@' := by
  rcases hc with hc | hc
  · have hnot := (Host.bounds_of_not_forbidden hc).right.right
    simp only [List.mem_cons, List.not_mem_nil, or_false, not_or] at hnot
    simp [endsAuthority, hnot]
  · simp only [List.mem_cons, List.not_mem_nil, or_false] at hc
    rcases hc with rfl | rfl | rfl <;> simp [endsAuthority]

theorem splitHost_render {host : Host} (hnormal : host.IsNormal) (hrest : EndsHost rest) :
    splitHost kind false (host.render.toList ++ rest) = (host.render.toList, rest) := by
  have hplain : forall {chars : List Char},
      (forall c, c ∈ chars -> Host.isForbiddenInName c = false) ->
        splitHost kind false (chars ++ rest) = (chars, rest) := by
    intro chars hchars
    rw [splitHost_append, splitHost_of_endsHost hrest, List.append_nil]
    intro c hc
    have hnot := (Host.bounds_of_not_forbidden (hchars c hc)).right.right
    refine ⟨(not_endsAuthority (Or.inl (hchars c hc))).left, ?_, ?_, ?_⟩
    · rintro rfl
      exact hnot (by decide)
    · rintro rfl
      exact hnot (by decide)
    · rintro rfl
      exact absurd (by decide) hnot
  cases hnormal with
  | name hne hchars hnumber => exact hplain fun c hc => (hchars c hc).left
  | ipv4 hsize => exact hplain fun c hc => (Host.not_forbidden_of_mem_ipv4 hc).left
  | @ipv6 pieces haddress =>
      rw [Host.toList_render_ipv6, List.append_assoc, List.cons_append, splitHost,
        if_neg (by simp [endsAuthority])]
      have hinner : splitHost kind true ((Ipv6.render pieces).toList ++ ([']'] ++ rest)) =
          ((Ipv6.render pieces).toList ++ [']'], rest) := by
        rw [splitHost_append]
        · have hclose : splitHost kind true ([']'] ++ rest) = ([']'], rest) := by
            rw [List.singleton_append, splitHost, if_neg (by simp [endsAuthority])]
            have hafter : splitHost kind false rest = ([], rest) := splitHost_of_endsHost hrest
            simp [hafter]
          rw [hclose]
        · intro c hc
          rcases Ipv6.mem_render hc with rfl | hdigit
          · simp [endsAuthority]
          · have hallowed := Host.not_forbidden_of_digit hdigit
            have hnot := (Host.bounds_of_not_forbidden hallowed).right.right
            simp only [List.mem_cons, List.not_mem_nil, or_false, not_or] at hnot
            exact ⟨(not_endsAuthority (Or.inl hallowed)).left, by simp [hnot], by simp [hnot],
              fun _ => rfl⟩
      simp only [decide_true, Bool.true_or, hinner]
      rfl

end SplitHost

end Uri

end WebSocketClient
