import Mathlib.Algebra.Group.Nat.Defs
import WebSocketClient.Handshake.Response
import WebSocketClient.Proofs.Cuts

/-!
# Accepted answers

Which answers of a server open a connection, and which sub-protocols they agree
on.  Four header fields are judged.  They are found by name in any order, and
nothing else in the answer matters but its status and that its lines are fields.
-/

namespace WebSocketClient

namespace Handshake

namespace Response

/-!
## The status line
-/

/-- The status is 101, and it stands between two characters. -/
def Switches (line : String) : Prop :=
  exists before behind, line = before ++ "101" ++ behind ∧ (Utf8.encode before).length = 9

theorem decimal?_eq_some {digits : List Char} {value : Nat}
    (hvalue : decimal? digits = some value) :
    (forall digit, digit ∈ digits -> digit.isDigit = true) ∧
      value = digits.foldl (fun value digit => value * 10 + (digit.toNat - '0'.toNat)) 0 := by
  unfold decimal? at hvalue
  split at hvalue
  case isTrue hdigits =>
      cases hvalue
      have hall := (Bool.and_eq_true_iff.mp hdigits).right
      exact And.intro (List.all_eq_true.mp hall) rfl
  case isFalse => cases hvalue

theorem toNat_of_isDigit {digit : Char} (hdigit : digit.isDigit = true) :
    48 <= digit.toNat ∧ digit.toNat <= 57 := by
  simpa [Char.isDigit, UInt32.le_iff_toNat_le] using hdigit

theorem decimal_lt {digits : List Char}
    (hdigits : forall digit, digit ∈ digits -> digit.isDigit = true) (value : Nat) :
    digits.foldl (fun value digit => value * 10 + (digit.toNat - '0'.toNat)) value <
      (value + 1) * 10 ^ digits.length := by
  induction digits generalizing value with
  | nil => simp
  | cons digit rest ih =>
      have hdigit := toNat_of_isDigit (hdigits digit List.mem_cons_self)
      have hzero : '0'.toNat = 48 := rfl
      have hrest := ih (fun other hother => hdigits other (List.mem_cons_of_mem _ hother))
        (value * 10 + (digit.toNat - '0'.toNat))
      rw [List.foldl_cons, List.length_cons, Nat.pow_succ']
      refine Nat.lt_of_lt_of_le hrest ?_
      rw [← Nat.mul_assoc]
      apply Nat.mul_le_mul_right
      omega

theorem eq_of_number? {digits : List Char} (hlength : digits.length <= 3)
    (hnumber : number? digits = some 101) : digits = ['1', '0', '1'] := by
  unfold number? at hnumber
  split at hnumber
  case h_1 rest =>
      rcases decimal?_eq_some hnumber with ⟨hdigits, hvalue⟩
      have hlt := decimal_lt hdigits 0
      have hpow : 10 ^ rest.length <= 10 ^ 2 :=
        Nat.pow_le_pow_right (by decide) (Nat.le_of_succ_le_succ hlength)
      omega
  case h_2 =>
      rcases decimal?_eq_some hnumber with ⟨hdigits, hvalue⟩
      have hlt := decimal_lt hdigits 0
      have hthree : digits.length = 3 := by
        apply Decidable.byContradiction
        intro hne
        have hpow : 10 ^ digits.length <= 10 ^ 2 :=
          Nat.pow_le_pow_right (by decide) (by omega)
        omega
      obtain ⟨a, b, c, rfl⟩ : exists a b c, digits = [a, b, c] := by
        match digits, hthree with
        | [a, b, c], _ => exact ⟨a, b, c, rfl⟩
      have ha := toNat_of_isDigit (hdigits a (by simp))
      have hb := toNat_of_isDigit (hdigits b (by simp))
      have hc := toNat_of_isDigit (hdigits c (by simp))
      have hzero : '0'.toNat = 48 := rfl
      simp only [List.foldl_cons, List.foldl_nil, hzero] at hvalue
      have ha' : a = '1' := Char.toNat_inj.mp (show a.toNat = 49 by omega)
      have hb' : b = '0' := Char.toNat_inj.mp (show b.toNat = 48 by omega)
      have hc' : c = '1' := Char.toNat_inj.mp (show c.toNat = 49 by omega)
      rw [ha', hb', hc']

theorem length_le_length_encode (text : String) :
    text.toList.length <= (Utf8.encode text).length := by
  unfold Utf8.encode
  generalize text.toList = chars
  induction chars with
  | nil => exact Nat.zero_le _
  | cons c rest ih =>
      have hc : 0 < (String.utf8EncodeChar c).length := by
        rw [String.length_utf8EncodeChar]
        exact c.utf8Size_pos
      rw [List.flatMap_cons, List.length_append, List.length_cons]
      omega

theorem statusCode?_eq_some_iff {line : String} :
    statusCode? line = some 101 <-> Switches line := by
  unfold statusCode?
  rw [Option.bind_eq_some_iff]
  constructor
  · rintro ⟨digits, hslice, hnumber⟩
    rcases Utf8.slice?_eq_some_iff.mp hslice with ⟨before, behind, hline, hstart, hstop⟩
    have hlength := length_le_length_encode digits
    rw [Utf8.encode_append, List.length_append] at hstop
    have hdigits : digits = "101" := by
      rw [← String.toList_inj, eq_of_number? (by omega) hnumber]
      rfl
    exact ⟨before, behind, by rw [hline, hdigits], hstart⟩
  · rintro ⟨before, behind, hline, hstart⟩
    refine ⟨"101", Utf8.slice?_eq_some_iff.mpr ⟨before, behind, hline, hstart, ?_⟩, by decide⟩
    rw [Utf8.encode_append, List.length_append, hstart]
    rfl

theorem checkStatusLine_eq_ok_iff {line : String} :
    checkStatusLine line = .ok () <-> Switches line := by
  rw [← statusCode?_eq_some_iff]
  unfold checkStatusLine
  split
  case h_1 hcode => simp [hcode]
  case h_2 hcode => simp [hcode]
  case h_3 hcode => simp [hcode]
  case h_4 hcode => simp [hcode]
  case h_5 code hne _ _ hcode => simpa [hcode] using hne

/-!
## Header fields
-/

def lowerCase (text : String) : String :=
  String.ofList (text.toList.map Char.toLower)

/-- The line is this field: what stands before its first colon is the name, and
what stands behind it the value. -/
def Field.IsOn (field : Field) (line : String) : Prop :=
  exists name value trimmed : String, line = name ++ ":" ++ value ∧ ':' ∉ name.toList ∧
    Blank.IsTrimmed name trimmed ∧ field.name = lowerCase trimmed ∧
    Blank.IsTrimmed value field.value

theorem field?_eq_some_iff {line : String} {field : Field} :
    field? line = some field <-> field.IsOn line := by
  unfold field?
  rw [Option.map_eq_some_iff]
  constructor
  · rintro ⟨⟨name, value⟩, hcut, rfl⟩
    rcases Split.once_eq_some_iff.mp hcut with ⟨hline, hname⟩
    refine ⟨String.ofList name, String.ofList value, _, ?_, ?_,
      Blank.ofList_stripChars_eq_iff.mp rfl, ?_, ?_⟩
    · rw [← String.toList_inj]
      simpa using hline
    · simpa using hname
    · simp [lowerCase]
    · rw [← Blank.ofList_stripChars_eq_iff, String.toList_ofList]
  · rintro ⟨name, value, trimmed, rfl, hname, htrimmed, hlower, hvalue⟩
    refine ⟨(name.toList, value.toList), Split.once_eq_some_iff.mpr ⟨by simp, hname⟩, ?_⟩
    show Field.mk (String.ofList ((Blank.stripChars Blank.isBlank name.toList).map Char.toLower))
      (String.ofList (Blank.stripChars Blank.isBlank value.toList)) = field
    rw [Blank.stripChars_eq_iff.mpr htrimmed, Blank.stripChars_eq_iff.mpr hvalue,
      String.ofList_toList, ← lowerCase, ← hlower]

inductive AreOn : List Field -> List String -> Prop
  | nil : AreOn [] []
  | cons {field : Field} {line : String} {fields : List Field} {lines : List String} :
      field.IsOn line -> AreOn fields lines -> AreOn (field :: fields) (line :: lines)

def AreSingle (fields : List Field) : Prop :=
  forall name, name ∈ singleFields ->
    fields.countP (fun field => field.name = name) <= 1

theorem AreSingle.cons {fields : List Field} (hsingle : AreSingle fields) {field : Field}
    (hnew : (singleFields.contains field.name &&
      fields.any fun other => other.name = field.name) = false) :
    AreSingle (field :: fields) := by
  intro name hname
  rw [List.countP_cons]
  split
  case isFalse => exact hsingle name hname
  case isTrue hsame =>
      have hsame : field.name = name := of_decide_eq_true hsame
      subst hsame
      have hnone : fields.countP (fun other => other.name = field.name) = 0 := by
        rw [List.countP_eq_zero]
        intro other hother
        simp only [List.contains_eq_mem, hname, decide_true, Bool.true_and,
          List.any_eq_false] at hnew
        exact hnew other hother
      omega

theorem not_areSingle {fields more : List Field} {field : Field}
    (hold : (singleFields.contains field.name &&
      fields.any fun other => other.name = field.name) = true) :
    ¬ AreSingle (fields.reverse ++ field :: more) := by
  intro hsingle
  rcases Bool.and_eq_true_iff.mp hold with ⟨hname, hany⟩
  rcases List.any_eq_true.mp hany with ⟨other, hother, hsame⟩
  have hone := hsingle field.name (by simpa using hname)
  have hbefore : 0 < fields.reverse.countP fun other => other.name = field.name :=
    List.countP_pos_iff.mpr ⟨other, List.mem_reverse.mpr hother, hsame⟩
  rw [List.countP_append, List.countP_cons_of_pos (by simp)] at hone
  omega

theorem addFields_eq_ok_iff {fields all : List Field} {lines : List String}
    (hsingle : AreSingle fields) :
    addFields fields lines = .ok all <->
      exists more, AreOn more lines ∧ all = fields.reverse ++ more ∧ AreSingle all := by
  induction lines generalizing fields with
  | nil =>
      simp only [addFields, Except.ok.injEq]
      constructor
      · rintro rfl
        refine ⟨[], .nil, (List.append_nil _).symm, ?_⟩
        intro name hname
        rw [List.countP_reverse]
        exact hsingle name hname
      · rintro ⟨more, hon, rfl, _⟩
        cases hon
        exact (List.append_nil _).symm
  | cons line rest ih =>
      unfold addFields
      split
      case h_1 hnone =>
          constructor
          · intro herror
            cases herror
          · rintro ⟨more, hon, _, _⟩
            cases hon with
            | cons hfirst hrest =>
                rw [field?_eq_some_iff.mpr hfirst] at hnone
                cases hnone
      case h_2 field hfield =>
          have hon := field?_eq_some_iff.mp hfield
          split
          case isTrue hold =>
              constructor
              · intro herror
                cases herror
              · rintro ⟨more, hon, rfl, hall⟩
                cases hon with
                | cons hfirst hrest =>
                    rw [field?_eq_some_iff.mpr hfirst] at hfield
                    cases hfield
                    exact absurd hall (not_areSingle hold)
          case isFalse hnew =>
              rw [ih (hsingle.cons (Bool.not_eq_true _ ▸ hnew))]
              constructor
              · rintro ⟨more, hmore, rfl, hall⟩
                exact ⟨field :: more, .cons hon hmore, by simp, hall⟩
              · rintro ⟨more, hmore, rfl, hall⟩
                cases hmore with
                | cons hfirst hrest =>
                    rw [field?_eq_some_iff.mpr hfirst] at hfield
                    cases hfield
                    exact ⟨_, hrest, by simp, hall⟩

/-!
## Fields by name
-/

section Values

variable {fields : List Field} {name value : String}

def HasValue (fields : List Field) (name value : String) : Prop :=
  exists field, field ∈ fields ∧ field.name = name ∧ field.value = value

theorem eq_of_countP_le_one {first second : Field}
    (hone : fields.countP (fun field => field.name = name) <= 1) (hfirst : first ∈ fields)
    (hsecond : second ∈ fields) (hname : first.name = name) (hname' : second.name = name) :
    first = second := by
  have hlength : (fields.filter fun field => field.name = name).length <= 1 := by
    rw [← List.countP_eq_length_filter]
    exact hone
  have hmem {field : Field} (hfield : field ∈ fields) (hfieldName : field.name = name) :
      field ∈ fields.filter fun field => field.name = name :=
    List.mem_filter.mpr ⟨hfield, by simpa using hfieldName⟩
  have hfirst' := hmem hfirst hname
  have hsecond' := hmem hsecond hname'
  generalize fields.filter _ = found at hlength hfirst' hsecond'
  cases found with
  | nil => cases hfirst'
  | cons only rest =>
      have hrest : rest = [] := List.length_eq_zero_iff.mp (by simpa using hlength)
      subst hrest
      rw [List.mem_singleton.mp hfirst', List.mem_singleton.mp hsecond']

theorem value?_eq_some_iff (hone : fields.countP (fun field => field.name = name) <= 1) :
    value? fields name = some value <-> HasValue fields name value := by
  rw [value?, Option.map_eq_some_iff]
  constructor
  · rintro ⟨field, hfind, rfl⟩
    exact ⟨field, List.mem_of_find?_eq_some hfind, by simpa using List.find?_some hfind, rfl⟩
  · rintro ⟨field, hfield, hname, rfl⟩
    cases hfind : fields.find? fun field => field.name = name with
    | none =>
        have hnot := List.find?_eq_none.mp hfind field hfield
        exact absurd (by simpa using hname) hnot
    | some other =>
        have hother : other.name = name := by simpa using List.find?_some hfind
        exact ⟨other, rfl, congrArg Field.value
          (eq_of_countP_le_one hone (List.mem_of_find?_eq_some hfind) hfield hother hname)⟩

end Values

/-!
## Sub-protocols
-/

/-- The names in a list with commas between them, without the white space around
them. -/
def AreNames (value : String) (names : List String) : Prop :=
  exists parts : List (List Char × String), parts ≠ [] ∧ names = parts.map Prod.snd ∧
    [','].intercalate (parts.map Prod.fst) = value.toList ∧
    forall piece name, (piece, name) ∈ parts ->
      ',' ∉ piece ∧ Blank.IsStripped Blank.isBlank piece name.toList

theorem protocolNames_eq_iff {value : String} {names : List String} :
    protocolNames value = names <-> AreNames value names := by
  let trim (piece : List Char) := String.ofList (Blank.stripChars Blank.isBlank piece)
  have htrim (piece : List Char) (name : String) :
      trim piece = name <-> Blank.IsStripped Blank.isBlank piece name.toList := by
    have htrimmed := @Blank.ofList_stripChars_eq_iff (String.ofList piece) name
    rwa [Blank.IsTrimmed, String.toList_ofList] at htrimmed
  unfold protocolNames
  constructor
  · rintro rfl
    rcases Split.pieces_eq_iff.mp rfl with ⟨hne, hwhole, hfree⟩
    refine ⟨(Split.pieces ',' value.toList).map fun piece => (piece, trim piece), ?_, ?_, ?_, ?_⟩
    · simpa using hne
    · rw [List.map_map]
      rfl
    · rw [List.map_map]
      simpa [Function.comp_def] using hwhole
    · intro piece name hpart
      rcases List.mem_map.mp hpart with ⟨other, hother, hsame⟩
      cases hsame
      exact And.intro (hfree _ hother) ((htrim _ _).mp rfl)
  · rintro ⟨parts, hne, rfl, hwhole, hparts⟩
    have hfree : forall piece, piece ∈ parts.map Prod.fst -> ',' ∉ piece := by
      intro piece hpiece
      rcases List.mem_map.mp hpiece with ⟨⟨_, name⟩, hpart, rfl⟩
      exact (hparts _ name hpart).left
    have hne' : parts.map Prod.fst ≠ [] := by simpa using hne
    rw [Split.pieces_eq_iff.mpr ⟨hne', hwhole, hfree⟩, List.map_map]
    apply List.map_congr_left
    rintro ⟨piece, name⟩ hpart
    exact (htrim piece name).mpr (hparts piece name hpart).right

/-- Without an offer the server chooses nothing.  From an offer it chooses something,
and these are the names that were offered, in its order. -/
inductive Agrees (fields : List Field) : (offered protocols : List String) -> Prop
  | nothing : (forall value, HasValue fields "sec-websocket-protocol" value -> value = "") ->
      Agrees fields [] []
  | some {offered names protocols : List String} {value : String} : offered ≠ [] ->
      HasValue fields "sec-websocket-protocol" value -> value ≠ "" -> AreNames value names ->
      protocols = names.filter (fun name => name ∈ offered) -> protocols ≠ [] ->
      Agrees fields offered protocols

theorem negotiate_eq_ok_iff {fields : List Field} {offered protocols : List String}
    (hsingle : AreSingle fields) :
    negotiate offered ((value? fields "sec-websocket-protocol").getD "") = .ok protocols <->
      Agrees fields offered protocols := by
  have hvalue {value : String} := @value?_eq_some_iff fields "sec-websocket-protocol" value
    (hsingle _ (by decide))
  have hcontains : (fun name => decide (name ∈ offered)) = offered.contains :=
    funext fun name => (List.contains_eq_mem name offered).symm
  constructor
  · intro hok
    unfold negotiate at hok
    split at hok
    case isTrue hoffered =>
        have hoffered : offered = [] := List.isEmpty_iff.mp hoffered
        subst hoffered
        split at hok
        case isTrue hempty =>
            cases hok
            apply Agrees.nothing
            intro value hhas
            rw [hvalue.mpr hhas] at hempty
            simpa using hempty
        case isFalse => cases hok
    case isFalse hoffered =>
        split at hok
        case isTrue => cases hok
        case isFalse hchosen =>
            simp only at hok
            split at hok
            case isTrue => cases hok
            case isFalse hcommon =>
                have hprotocols := (Except.ok.inj hok).symm
                have hne : protocols ≠ [] := by simpa [hprotocols] using hcommon
                cases hfound : value? fields "sec-websocket-protocol" with
                | none => simp [hfound] at hchosen
                | some value =>
                    rw [hfound] at hchosen hprotocols
                    refine .some (by simpa using hoffered) (hvalue.mp hfound)
                      (by simpa using hchosen) (protocolNames_eq_iff.mp rfl) ?_ hne
                    rw [hcontains]
                    exact hprotocols
  · intro hagrees
    cases hagrees with
    | nothing hempty =>
        cases hfound : value? fields "sec-websocket-protocol" with
        | none => rfl
        | some value =>
            rw [hempty value (hvalue.mp hfound)]
            rfl
    | @some _ names _ value hoffered hhas hchosen hnames hprotocols hcommon =>
        have hfilter : names.filter offered.contains = protocols := by
          rw [hprotocols, hcontains]
        rw [hvalue.mpr hhas, Option.getD_some, negotiate, if_neg (by simpa using hoffered),
          if_neg (by simpa using hchosen), protocolNames_eq_iff.mpr hnames]
        simp only [hfilter]
        rw [if_neg (by simpa using hcommon)]

/-!
## The whole answer
-/

/-- Fields that open a connection on which these sub-protocols are spoken. -/
structure Opens (fields : List Field) (expectedAccept : String) (offered protocols : List String) :
    Prop where
  single : AreSingle fields
  upgrade : exists value, HasValue fields "upgrade" value ∧ lowerCase value = "websocket"
  connection : exists value, HasValue fields "connection" value ∧ lowerCase value = "upgrade"
  accept : HasValue fields "sec-websocket-accept" expectedAccept
  agrees : Agrees fields offered protocols

def Accepts (lines : List String) (expectedAccept : String) (offered protocols : List String) :
    Prop :=
  exists (statusLine : String) (headerLines : List String) (fields : List Field),
    lines = statusLine :: headerLines ∧ Switches statusLine ∧ AreOn fields headerLines ∧
      Opens fields expectedAccept offered protocols

theorem sameIgnoringCase_eq_true_iff {value lower : String} (hlower : lowerCase lower = lower) :
    sameIgnoringCase value lower = true <-> lowerCase value = lower := by
  rw [← String.toList_inj, lowerCase, String.toList_ofList, sameIgnoringCase, beq_iff_eq]
  rw [← String.toList_inj, lowerCase, String.toList_ofList] at hlower
  rw [hlower]

theorem checkFields_eq_ok {fields : List Field} {expectedAccept : String}
    {offered protocols : List String} :
    checkFields fields expectedAccept offered = .ok protocols <->
      (exists upgrade, value? fields "upgrade" = some upgrade ∧
        sameIgnoringCase upgrade "websocket" = true) ∧
      (exists connection, value? fields "connection" = some connection ∧
        sameIgnoringCase connection "upgrade" = true) ∧
      value? fields "sec-websocket-accept" = some expectedAccept ∧
      negotiate offered ((value? fields "sec-websocket-protocol").getD "") = .ok protocols := by
  unfold checkFields
  cases value? fields "upgrade" with
  | none => simp
  | some upgrade =>
      cases hupgrade : sameIgnoringCase upgrade "websocket" with
      | false => simp [hupgrade]
      | true =>
          cases value? fields "connection" with
          | none => simp [hupgrade]
          | some connection =>
              cases hconnection : sameIgnoringCase connection "upgrade" with
              | false => simp [hupgrade, hconnection]
              | true =>
                  cases value? fields "sec-websocket-accept" with
                  | none => simp [hupgrade, hconnection]
                  | some accept => by_cases haccept : accept = expectedAccept <;>
                      simp [hupgrade, hconnection, haccept]

theorem checkFields_eq_ok_iff {fields : List Field} {expectedAccept : String}
    {offered protocols : List String} (hsingle : AreSingle fields) :
    checkFields fields expectedAccept offered = .ok protocols <->
      Opens fields expectedAccept offered protocols := by
  have hvalue {name value : String} (hname : name ∈ singleFields) :
      value? fields name = some value <-> HasValue fields name value :=
    value?_eq_some_iff (hsingle name hname)
  have hupgrade {value : String} := @hvalue "upgrade" value (by decide)
  have hconnection {value : String} := @hvalue "connection" value (by decide)
  have haccept {value : String} := @hvalue "sec-websocket-accept" value (by decide)
  have hwebsocket {value : String} : sameIgnoringCase value "websocket" = true <->
      lowerCase value = "websocket" := sameIgnoringCase_eq_true_iff (by decide)
  have hlower {value : String} : sameIgnoringCase value "upgrade" = true <->
      lowerCase value = "upgrade" := sameIgnoringCase_eq_true_iff (by decide)
  simp only [checkFields_eq_ok, hupgrade, hconnection, haccept, hwebsocket, hlower,
    negotiate_eq_ok_iff hsingle]
  constructor
  · rintro ⟨hfirst, hsecond, hthird, hagrees⟩
    exact ⟨hsingle, hfirst, hsecond, hthird, hagrees⟩
  · rintro ⟨_, hfirst, hsecond, hthird, hagrees⟩
    exact ⟨hfirst, hsecond, hthird, hagrees⟩

theorem areSingle_nil : AreSingle [] :=
  fun _ _ => Nat.zero_le _

theorem negotiated_eq_ok_iff {lines : List String} {expectedAccept : String}
    {offered protocols : List String} :
    negotiated lines expectedAccept offered = .ok protocols <->
      Accepts lines expectedAccept offered protocols := by
  constructor
  · intro hok
    cases lines with
    | nil => cases hok
    | cons statusLine headerLines =>
        cases hstatus : checkStatusLine statusLine with
        | error fault =>
            rw [negotiated, hstatus] at hok
            cases hok
        | ok status =>
            cases hfields : addFields [] headerLines with
            | error fault =>
                rw [negotiated, hstatus, hfields] at hok
                cases hok
            | ok fields =>
                rw [negotiated, hstatus, hfields] at hok
                rcases (addFields_eq_ok_iff areSingle_nil).mp hfields with ⟨_, hon, rfl, hsingle⟩
                exact ⟨statusLine, headerLines, _, rfl, checkStatusLine_eq_ok_iff.mp hstatus, hon,
                  (checkFields_eq_ok_iff hsingle).mp hok⟩
  · rintro ⟨statusLine, headerLines, fields, rfl, hswitches, hon, hopens⟩
    have hfields : addFields [] headerLines = .ok fields :=
      (addFields_eq_ok_iff areSingle_nil).mpr ⟨fields, hon, rfl, hopens.single⟩
    rw [negotiated, checkStatusLine_eq_ok_iff.mpr hswitches, hfields]
    exact (checkFields_eq_ok_iff hopens.single).mpr hopens

theorem parse_eq_ok_iff {lines : List String} {expectedAccept : String}
    {offered protocols : List String} :
    parse lines expectedAccept offered = .ok protocols <->
      Accepts lines expectedAccept offered protocols := by
  rw [← negotiated_eq_ok_iff, parse]
  cases negotiated lines expectedAccept offered with
  | error fault => exact ⟨nofun, nofun⟩
  | ok agreed => exact ⟨fun hsame => by cases hsame; rfl, fun hsame => by cases hsame; rfl⟩

/-!
## What does not matter
-/

def judged (fields : List Field) : List Field :=
  fields.filter fun field => field.name ∈ singleFields

theorem AreOn.unique {fields fields' : List Field} {lines : List String} (hon : AreOn fields lines)
    (hon' : AreOn fields' lines) : fields = fields' := by
  induction hon generalizing fields' with
  | nil =>
      cases hon'
      rfl
  | cons hfirst _ ih =>
      cases hon' with
      | cons hfirst' hrest' =>
          have hsame := (field?_eq_some_iff.mpr hfirst).symm.trans (field?_eq_some_iff.mpr hfirst')
          rw [Option.some.inj hsame, ih hrest']

section Judged

variable {fields fields' : List Field} {name value : String}

theorem countP_judged (hname : name ∈ singleFields) (fields : List Field) :
    (judged fields).countP (fun field => field.name = name) =
      fields.countP fun field => field.name = name := by
  rw [judged, List.countP_filter]
  apply List.countP_congr
  intro field _
  simp only [Bool.and_eq_true, decide_eq_true_eq, and_iff_left_iff_imp]
  rintro rfl
  exact hname

theorem hasValue_judged (hname : name ∈ singleFields) :
    HasValue (judged fields) name value <-> HasValue fields name value := by
  constructor
  · rintro ⟨field, hfield, hsame, hvalue⟩
    exact ⟨field, (List.mem_filter.mp hfield).left, hsame, hvalue⟩
  · rintro ⟨field, hfield, rfl, hvalue⟩
    exact ⟨field, List.mem_filter.mpr ⟨hfield, by simpa using hname⟩, rfl, hvalue⟩

theorem HasValue.of_perm (hperm : (judged fields).Perm (judged fields'))
    (hname : name ∈ singleFields) (hvalue : HasValue fields name value) :
    HasValue fields' name value := by
  rcases (hasValue_judged hname).mpr hvalue with ⟨field, hfield, hsame, hfieldValue⟩
  exact (hasValue_judged hname).mp ⟨field, hperm.mem_iff.mp hfield, hsame, hfieldValue⟩

theorem Opens.of_perm {expectedAccept : String} {offered protocols : List String}
    (hperm : (judged fields).Perm (judged fields'))
    (hopens : Opens fields expectedAccept offered protocols) :
    Opens fields' expectedAccept offered protocols := by
  have hprotocol : "sec-websocket-protocol" ∈ singleFields := by decide
  constructor
  · intro name hname
    rw [← countP_judged hname, ← hperm.countP_eq, countP_judged hname]
    exact hopens.single name hname
  · rcases hopens.upgrade with ⟨value, hvalue, hlower⟩
    exact ⟨value, hvalue.of_perm hperm (by decide), hlower⟩
  · rcases hopens.connection with ⟨value, hvalue, hlower⟩
    exact ⟨value, hvalue.of_perm hperm (by decide), hlower⟩
  · exact hopens.accept.of_perm hperm (by decide)
  · cases hopens.agrees with
    | nothing hempty =>
        apply Agrees.nothing
        intro value hvalue
        exact hempty value (hvalue.of_perm hperm.symm hprotocol)
    | some hoffered hvalue hchosen hnames hprotocols hcommon =>
        exact .some hoffered (hvalue.of_perm hperm hprotocol) hchosen hnames hprotocols hcommon

end Judged

/-- Answers with the same status and the same fields among those that are judged, in
any order. -/
def AreAlike (lines lines' : List String) : Prop :=
  exists (statusLine statusLine' : String) (headerLines headerLines' : List String)
      (fields fields' : List Field),
    lines = statusLine :: headerLines ∧ lines' = statusLine' :: headerLines' ∧
      (Switches statusLine <-> Switches statusLine') ∧ AreOn fields headerLines ∧
      AreOn fields' headerLines' ∧ (judged fields).Perm (judged fields')

theorem AreAlike.symm {lines lines' : List String} (halike : AreAlike lines lines') :
    AreAlike lines' lines := by
  rcases halike with ⟨_, _, _, _, _, _, hlines, hlines', hstatus, hon, hon', hperm⟩
  exact ⟨_, _, _, _, _, _, hlines', hlines, hstatus.symm, hon', hon, hperm.symm⟩

theorem Accepts.of_alike {lines lines' : List String} {expectedAccept : String}
    {offered protocols : List String} (halike : AreAlike lines lines')
    (haccepts : Accepts lines expectedAccept offered protocols) :
    Accepts lines' expectedAccept offered protocols := by
  rcases halike with ⟨_, _, _, _, _, _, rfl, rfl, hstatus, hon, hon', hperm⟩
  rcases haccepts with ⟨statusLine, headerLines, fields, hlines, hswitches, hfields, hopens⟩
  cases hlines
  cases hfields.unique hon
  exact ⟨_, _, _, rfl, hstatus.mp hswitches, hon', hopens.of_perm hperm⟩

/-- An answer is judged good exactly if it is acceptable, and the sub-protocols are
those it agrees on; any other answer is an error of the handshake.  Further header
fields, the order of the fields and the rest of the status line do not matter. -/
theorem parse_eq_ok_iff_accepts (lines : List String) (expectedAccept : String)
    (offered : List String) :
    (forall protocols, parse lines expectedAccept offered = .ok protocols <->
        Accepts lines expectedAccept offered protocols) ∧
      ((¬ exists protocols, Accepts lines expectedAccept offered protocols) ->
        exists text, parse lines expectedAccept offered = .error (.handshake text)) ∧
      forall lines', AreAlike lines lines' -> forall protocols,
        (parse lines expectedAccept offered = .ok protocols <->
          parse lines' expectedAccept offered = .ok protocols) := by
  refine ⟨fun protocols => parse_eq_ok_iff, ?_, ?_⟩
  · intro hnone
    cases hnegotiated : negotiated lines expectedAccept offered with
    | error fault => exact ⟨fault.message, by rw [parse, hnegotiated]; rfl⟩
    | ok protocols => exact absurd ⟨protocols, negotiated_eq_ok_iff.mp hnegotiated⟩ hnone
  · intro lines' halike protocols
    rw [parse_eq_ok_iff, parse_eq_ok_iff]
    exact ⟨.of_alike halike, .of_alike halike.symm⟩

/-- The same fields in another order and spelling, with a further one among them. -/
theorem parse_of_shuffled_answer :
    let answer := ["HTTP/1.1 101 Switching Protocols", "Upgrade: websocket", "Connection: Upgrade",
      "Sec-WebSocket-Accept: s3pPLMBiTxaQ9kYGzzhZRbK+xOo=", "Sec-WebSocket-Protocol: b, x, a"]
    let shuffled := ["HTTP/2.0 101", " connection :Upgrade", "SEC-WebSocket-Protocol:b, x, a\t",
      "Server: a:b", "sec-websocket-accept: s3pPLMBiTxaQ9kYGzzhZRbK+xOo=", "UPGRADE:  websocket"]
    AreAlike answer shuffled ∧
      parse shuffled "s3pPLMBiTxaQ9kYGzzhZRbK+xOo=" ["a", "b"] = .ok ["b", "a"] := by
  intro answer shuffled
  let upgrade : Field := ⟨"upgrade", "websocket"⟩
  let connection : Field := ⟨"connection", "Upgrade"⟩
  let accept : Field := ⟨"sec-websocket-accept", "s3pPLMBiTxaQ9kYGzzhZRbK+xOo="⟩
  let protocols : Field := ⟨"sec-websocket-protocol", "b, x, a"⟩
  let server : Field := ⟨"server", "a:b"⟩
  have hon {field : Field} {line : String} {fields : List Field} {lines : List String}
      (hfield : field? line = some field) (hmore : AreOn fields lines) :
      AreOn (field :: fields) (line :: lines) :=
    .cons (field?_eq_some_iff.mp hfield) hmore
  have hswitches {line : String} (hstatus : statusCode? line = some 101) : Switches line :=
    statusCode?_eq_some_iff.mp hstatus
  have hlines : AreOn [upgrade, connection, accept, protocols] answer.tail :=
    hon (by decide +kernel) (hon (by decide +kernel) (hon (by decide +kernel)
      (hon (by decide +kernel) .nil)))
  have hlines' : AreOn [connection, protocols, server, accept, upgrade] shuffled.tail :=
    hon (by decide +kernel) (hon (by decide +kernel) (hon (by decide +kernel)
      (hon (by decide +kernel) (hon (by decide +kernel) .nil))))
  have halike : AreAlike answer shuffled :=
    ⟨_, _, _, _, _, _, rfl, rfl, iff_of_true (hswitches (by decide +kernel))
      (hswitches (by decide +kernel)), hlines, hlines', by decide +kernel⟩
  refine And.intro halike ?_
  have hsame :=
    (parse_eq_ok_iff_accepts answer "s3pPLMBiTxaQ9kYGzzhZRbK+xOo=" ["a", "b"]).right.right
  exact (hsame shuffled halike ["b", "a"]).mp rfl

end Response

end Handshake

end WebSocketClient
