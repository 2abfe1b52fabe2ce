import WebSocketClient.Proofs.Hosts
import WebSocketClient.Proofs.Offers

/-!
# Locations

The parts of a URI of a WebSocket in their normal form.  What is read is in it, and it is
made of plain characters that no reader drops, so a location written out is read back.
-/

namespace WebSocketClient

namespace Uri

/-!
## Locations in normal form
-/

theorem bind_eq_ok_iff {ε α β : Type} {first : Except ε α} {next : α -> Except ε β} {result : β} :
    first >>= next = .ok result <-> exists value, first = .ok value ∧ next value = .ok result := by
  cases first with
  | error fault => exact iff_of_false nofun (by simp)
  | ok value => exact ⟨fun hnext => ⟨value, rfl, hnext⟩, fun ⟨_, rfl, hnext⟩ => hnext⟩

theorem map_eq_ok_iff {ε α β : Type} {first : Except ε α} {change : α -> β} {result : β} :
    first.map change = .ok result <-> exists value, first = .ok value ∧ change value = result := by
  cases first with
  | error fault => exact iff_of_false nofun (by simp)
  | ok value => simp [Except.map]

theorem parseAuthority_eq_ok_iff {kind : SchemeKind} {chars rest : List Char} {host : Host}
    {port : Option UInt16} :
    parseAuthority kind chars = .ok (host, port, rest) <->
      exists credentials left hostChars after,
        dropCredentials kind chars = .ok (credentials, left) ∧
        splitHost kind false left = (hostChars, after) ∧ hostChars ≠ [] ∧
        Host.parse hostChars = .ok host ∧ parsePort after = .ok (port, rest) := by
  unfold parseAuthority
  rw [bind_eq_ok_iff]
  constructor
  · rintro ⟨⟨credentials, left⟩, hcredentials, hparse⟩
    rcases hsplit : splitHost kind false left with ⟨hostChars, after⟩
    simp only [hsplit] at hparse
    split at hparse
    case isTrue => cases hparse
    case isFalse hne =>
        rcases bind_eq_ok_iff.mp hparse with ⟨found, hhost, hparse⟩
        rcases bind_eq_ok_iff.mp hparse with ⟨⟨_, _⟩, hport, hparse⟩
        cases hparse
        exact ⟨credentials, left, hostChars, after, hcredentials, hsplit,
          mt List.isEmpty_iff.mpr hne, hhost, hport⟩
  · rintro ⟨credentials, left, hostChars, after, hcredentials, hsplit, hne, hhost, hport⟩
    refine ⟨(credentials, left), hcredentials, ?_⟩
    simp only [hsplit]
    rw [if_neg (mt List.isEmpty_iff.mp hne)]
    exact bind_eq_ok_iff.mpr ⟨host, hhost, bind_eq_ok_iff.mpr ⟨(port, rest), hport, rfl⟩⟩

/-- A location as it is written out. -/
structure Location.IsNormal (secure : Bool) (location : Location) : Prop where
  host : location.host.IsNormal
  port : location.port ≠ some (SchemeKind.defaultPort secure)
  target : IsTarget location.path location.query

variable {secure : Bool} {location : Location} {chars : List Char}

theorem isNormal_of_parseLocation (hparse : parseLocation secure chars = .ok location) :
    location.IsNormal secure := by
  rcases bind_eq_ok_iff.mp hparse with ⟨⟨host, port, rest⟩, hauthority, hparse⟩
  rcases parseAuthority_eq_ok_iff.mp hauthority with ⟨_, _, _, _, -, -, -, hhost, -⟩
  cases hparse
  refine ⟨Host.isNormal_of_parse hhost, ?_, isTarget_parseTarget rest⟩
  show (if port = some (SchemeKind.defaultPort secure) then none else port) ≠ _
  split
  · exact nofun
  · assumption

theorem isNormal_of_parse {text : String} (hparse : Uri.parse text = .ok (.socket secure location)) :
    location.IsNormal secure := by
  unfold Uri.parse at hparse
  split at hparse
  case h_1 => cases hparse
  case h_2 =>
      split at hparse
      case h_1 =>
          rcases map_eq_ok_iff.mp hparse with ⟨found, hlocation, hfound⟩
          cases hfound
          exact isNormal_of_parseLocation hlocation
      case h_2 | h_3 =>
          rcases map_eq_ok_iff.mp hparse with ⟨_, -, hfound⟩
          cases hfound
      case h_4 =>
          split at hparse
          · rcases map_eq_ok_iff.mp hparse with ⟨_, -, hfound⟩
            cases hfound
          · cases hparse

/-!
## Reading a location back
-/

def portOf (port : Option UInt16) : List Char :=
  match port with
  | some port => ':' :: Nat.toDigits 10 port.toNat
  | none => []

theorem parsePort_portOf (port : Option UInt16) (rest : List Char) :
    parsePort (portOf port ++ '/' :: rest) = .ok (port, '/' :: rest) := by
  cases port with
  | none => rfl
  | some port =>
      have hdigits : (Nat.toDigits 10 port.toNat ++ '/' :: rest).takeWhile Char.isDigit =
          Nat.toDigits 10 port.toNat := by
        rw [List.takeWhile_append_of_pos fun c hc => Ipv4.isDigit_of_mem_toDigits hc,
          List.takeWhile_cons_of_neg (by decide), List.append_nil]
      have hvalue : (Nat.toDigits 10 port.toNat).foldl
          (fun value c => value * 10 + (c.toNat - '0'.toNat)) 0 = port.toNat := by
        have hdigits := Nat.ofDigitChars_ten_toDigits (n := port.toNat)
        rw [Nat.ofDigitChars_eq_foldl] at hdigits
        simpa only [Nat.mul_comm] using hdigits
      have hsize := port.toNat_lt
      unfold parsePort portOf
      simp only [List.cons_append, hdigits, List.drop_left, hvalue]
      rw [if_neg (by omega), List.head?_cons]
      simp [isSlash]

def Location.toChars (location : Location) : List Char :=
  location.host.render.toList ++
    (portOf location.port ++ targetOf location.path location.query)

theorem exists_targetOf_eq_cons {path : List Char} {query : Option (List Char)}
    (htarget : IsTarget path query) : exists rest, targetOf path query = '/' :: rest := by
  rcases htarget.path with ⟨closed, last, rfl, -⟩
  cases query <;> exact ⟨_, rfl⟩

theorem mem_authority (hhost : location.host.IsNormal) {c : Char}
    (hc : c ∈ location.host.render.toList ++ portOf location.port) :
    Host.isForbiddenInName c = false ∨ c ∈ ['[', ']', ':'] := by
  rcases List.mem_append.mp hc with hc | hc
  · exact Host.mem_render hhost hc
  · unfold portOf at hc
    split at hc
    · rcases List.mem_cons.mp hc with rfl | hc
      · exact Or.inr (by decide)
      · have hdigit := Ipv4.isDigit_of_mem_toDigits hc
        exact Or.inl (Host.not_forbidden_of_isDigit hdigit).left
    · cases hc

theorem dropCredentials_toChars (hnormal : location.IsNormal secure) (kind : SchemeKind) :
    dropCredentials kind location.toChars = .ok (false, location.toChars) := by
  rcases exists_targetOf_eq_cons hnormal.target with ⟨path, htarget⟩
  have htake : location.toChars.takeWhile (fun c => !endsAuthority kind c) =
      location.host.render.toList ++ portOf location.port := by
    rw [Location.toChars, htarget, ← List.append_assoc, List.takeWhile_append_of_pos,
      List.takeWhile_cons_of_neg (by simp [endsAuthority]), List.append_nil]
    intro c hc
    rw [(not_endsAuthority (mem_authority hnormal.host hc)).left]
    rfl
  have hsplit : splitLast '@' (location.host.render.toList ++ portOf location.port) = none := by
    refine Option.map_eq_none_iff.mpr (Option.eq_none_iff_forall_ne_some.mpr ?_)
    rintro ⟨before, after⟩ honce
    have hmark : '@' ∈ (location.host.render.toList ++ portOf location.port).reverse := by
      rw [(Split.once_eq_some_iff.mp honce).left]
      exact List.mem_append_right _ List.mem_cons_self
    have hmem := mem_authority hnormal.host (List.mem_reverse.mp hmark)
    have hplain : endsAuthority kind '@' = false ∧ '@' ≠ '@' := not_endsAuthority hmem
    exact hplain.right rfl
  unfold dropCredentials
  simp only [htake, hsplit]

theorem parseLocation_toChars (hnormal : location.IsNormal secure) :
    parseLocation secure ('/' :: '/' :: location.toChars) = .ok location := by
  rcases exists_targetOf_eq_cons hnormal.target with ⟨path, htarget⟩
  have hends : EndsHost (portOf location.port ++ targetOf location.path location.query) := by
    intro c hc
    rw [htarget] at hc
    cases hport : location.port with
    | none =>
        rw [hport] at hc
        exact Or.inr (Option.some.inj hc).symm
    | some port =>
        rw [hport] at hc
        exact Or.inl (Option.some.inj hc).symm
  have hdrop : ('/' :: '/' :: location.toChars).dropWhile isSlash = location.toChars := by
    rcases List.exists_cons_of_ne_nil (Host.render_ne_empty hnormal.host) with ⟨c, rest, hhost⟩
    have hc : isSlash c = false := by
      have hmem : c ∈ location.host.render.toList := hhost ▸ List.mem_cons_self
      have hends : endsAuthority (.socket secure) c = false :=
        (not_endsAuthority (Host.mem_render hnormal.host hmem)).left
      simp only [endsAuthority, SchemeKind.isSpecial, Bool.or_eq_false_iff] at hends
      simpa [isSlash] using And.intro hends.left.left.left hends.right
    rw [List.dropWhile_cons_of_pos rfl, List.dropWhile_cons_of_pos rfl, Location.toChars, hhost]
    exact List.dropWhile_cons_of_neg (by simp [hc])
  unfold parseLocation
  rw [hdrop]
  refine bind_eq_ok_iff.mpr ⟨(location.host, location.port, targetOf location.path location.query),
    parseAuthority_eq_ok_iff.mpr ⟨false, location.toChars, location.host.render.toList, _,
      dropCredentials_toChars hnormal _, splitHost_render hnormal.host hends,
      Host.render_ne_empty hnormal.host, Host.parse_render hnormal.host, ?_⟩, ?_⟩
  · rw [htarget]
    exact parsePort_portOf location.port path
  · simp only [parseTarget_targetOf hnormal.target, if_neg hnormal.port]
    rfl

/-!
## Plain characters
-/

/-- A character that can stand in a URI as it is, outside of the fragment. -/
def IsPlain (c : Char) : Prop :=
  0x21 <= c.toNat ∧ c.toNat <= 0x7E ∧ c ≠ '#'

instance decidablePredIsPlain : DecidablePred IsPlain :=
  fun c => inferInstanceAs (Decidable (0x21 <= c.toNat ∧ c.toNat <= 0x7E ∧ c ≠ '#'))

theorem isPlain_of_not_set {set : Char -> Bool} {c : Char} (hc : set c = false)
    (hset : forall d, Percent.isControl d = true ∨ d = ' ' ∨ d = '#' -> set d = true) :
    IsPlain c := by
  have hnot := fun hd => ne_of_set hc (hset c hd) rfl
  have hcontrol : Percent.isControl c = false := Bool.eq_false_iff.mpr fun h => hnot (Or.inl h)
  simp only [Percent.isControl, Bool.or_eq_false_iff, decide_eq_false_iff_not, Nat.not_lt,
    Nat.not_le] at hcontrol
  have hspace : c.toNat ≠ 0x20 := fun h =>
    hnot (Or.inr (Or.inl (Char.toNat_inj.mp (h : c.toNat = (' ' : Char).toNat))))
  exact ⟨by omega, by omega, fun h => hnot (Or.inr (Or.inr h))⟩

theorem isPlain_of_mem_target {path : List Char} {query : Option (List Char)} {c : Char}
    (htarget : IsTarget path query) (hc : c ∈ targetOf path query) : IsPlain c := by
  rcases mem_targetOf htarget hc with ⟨-, hset⟩ | rfl | hset
  · refine isPlain_of_not_set hset ?_
    rintro d (hd | rfl | rfl)
    · simp [Percent.inPath, hd]
    · decide
    · decide
  · exact ⟨by decide, by decide, by decide⟩
  · refine isPlain_of_not_set hset ?_
    rintro d (hd | rfl | rfl)
    · simp [Percent.inQuery, hd]
    · decide
    · decide

theorem isPlain_of_host {c : Char} (hc : Host.isForbiddenInName c = false ∨ c ∈ ['[', ']', ':']) :
    IsPlain c ∧ c ∉ ['/', '?', '#', '@'] := by
  rcases hc with hc | hc
  · rcases Host.bounds_of_not_forbidden hc with ⟨hlow, hhigh, hnot⟩
    simp only [List.mem_cons, List.not_mem_nil, or_false, not_or] at hnot ⊢
    exact ⟨⟨by omega, by omega, hnot.left⟩, by simp [hnot]⟩
  · simp only [List.mem_cons, List.not_mem_nil, or_false] at hc
    rcases hc with rfl | rfl | rfl <;> exact ⟨⟨by decide, by decide, by decide⟩, by decide⟩

theorem isPlain_of_mem_toChars (hnormal : location.IsNormal secure) {c : Char}
    (hc : c ∈ location.toChars) : IsPlain c := by
  rw [Location.toChars, ← List.append_assoc] at hc
  rcases List.mem_append.mp hc with hc | hc
  · exact (isPlain_of_host (mem_authority hnormal.host hc)).left
  · exact isPlain_of_mem_target hnormal.target hc

theorem clean_of_isPlain {text : String} (htext : forall c, c ∈ text.toList -> IsPlain c) :
    clean text = text.toList := by
  have hstrip : Blank.stripChars isOuter text.toList = text.toList := by
    refine Blank.stripChars_eq_iff.mpr (Blank.isStripped_of_forall fun c hc => ?_)
    have hlow := (htext c hc).left
    exact decide_eq_false (by omega)
  rw [clean, hstrip, List.filter_eq_self]
  intro c hc
  have hlow := (htext c hc).left
  have hne : c ≠ '\t' ∧ c ≠ '\n' ∧ c ≠ '\r' := by
    refine ⟨?_, ?_, ?_⟩ <;> rintro rfl <;> exact absurd hlow (by decide)
  simp [isInner, hne]

def scheme (secure : Bool) : String :=
  if secure then "wss" else "ws"

theorem parse_of_toChars (hnormal : location.IsNormal secure) {text : String}
    (htext : text.toList = (scheme secure).toList ++ ':' :: '/' :: '/' :: location.toChars) :
    (forall c, c ∈ text.toList -> IsPlain c) ∧ Uri.parse text = .ok (.socket secure location) := by
  have hplain : forall c, c ∈ text.toList -> IsPlain c := by
    intro c hc
    have hfront : ((scheme secure).toList ++ [':', '/', '/']).all (fun c => IsPlain c) = true := by
      cases secure <;> decide
    have hsplit : text.toList = ((scheme secure).toList ++ [':', '/', '/']) ++ location.toChars := by
      rw [htext, List.append_assoc]
      rfl
    rw [hsplit] at hc
    rcases List.mem_append.mp hc with hc | hc
    · exact of_decide_eq_true (List.all_eq_true.mp hfront c hc)
    · exact isPlain_of_mem_toChars hnormal hc
  have hscheme : scheme? (clean text) = some (scheme secure, '/' :: '/' :: location.toChars) := by
    have honce : Split.once ':' (clean text) =
        some ((scheme secure).toList, '/' :: '/' :: location.toChars) := by
      refine Split.once_eq_some_iff.mpr ⟨(clean_of_isPlain hplain).trans htext, ?_⟩
      cases secure <;> decide
    unfold scheme?
    rw [honce]
    cases secure <;> rfl
  refine And.intro hplain ?_
  unfold Uri.parse
  rw [hscheme]
  have hkind : SchemeKind.ofScheme (scheme secure) = .socket secure := by
    cases secure <;> rfl
  simp only [hkind]
  exact map_eq_ok_iff.mpr ⟨location, parseLocation_toChars hnormal, rfl⟩

end Uri

end WebSocketClient
