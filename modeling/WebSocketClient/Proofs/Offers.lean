import WebSocketClient.Handshake.Key
import WebSocketClient.Proofs.Acceptance
import WebSocketClient.Proofs.Requests

/-!
# Answers to an offer

A server that takes some of the offered sub-protocols and spells them as the client
did.  Its answer opens the connection with exactly these unless one of them has white
space at an end, for the names of an answer are read without it.
-/

namespace WebSocketClient

/-!
## Texts without white space at the ends
-/

namespace Blank

variable {drop : Char -> Bool} {chars kept : List Char}

theorem IsStripped.self (hstripped : IsStripped drop chars kept) : IsStripped drop kept kept :=
  ⟨⟨[], [], by simp⟩, hstripped.begins, hstripped.ends⟩

theorem isStripped_of_forall (hchars : forall c, c ∈ chars -> drop c = false) :
    IsStripped drop chars chars :=
  ⟨⟨[], [], by simp⟩, fun c hc => hchars c (List.mem_of_head? hc),
    fun c hc => hchars c (List.mem_of_getLast? hc)⟩

theorem IsStripped.cons (hself : IsStripped drop chars chars) {c : Char} (hc : drop c = true) :
    IsStripped drop (c :: chars) chars :=
  ⟨⟨[c], [], by simpa using hc⟩, hself.begins, hself.ends⟩

theorem isStripped_intercalate {parts : List (List Char)}
    (hparts : forall part, part ∈ parts -> part ≠ [] ∧ IsStripped drop part part)
    (between : List Char) :
    IsStripped drop (between.intercalate parts) (between.intercalate parts) ∧
      (parts ≠ [] -> between.intercalate parts ≠ []) := by
  induction parts with
  | nil => exact ⟨isStripped_of_forall nofun, (absurd rfl ·)⟩
  | cons part rest ih =>
      rcases hparts part List.mem_cons_self with ⟨hne, hpart⟩
      cases rest with
      | nil =>
          rw [List.intercalate_singleton]
          exact ⟨hpart, fun _ => hne⟩
      | cons next more =>
          rcases ih fun other hother => hparts other (List.mem_cons_of_mem _ hother) with
            ⟨hrest, hrestNe⟩
          have hrestNe := hrestNe (List.cons_ne_nil _ _)
          rw [List.intercalate_cons_cons]
          refine And.intro ⟨⟨[], [], by simp⟩, ?_, ?_⟩ (by simp [hne])
          · intro c hc
            rw [List.append_assoc, List.head?_append, List.head?_eq_some_head hne, Option.some_or,
              ← List.head?_eq_some_head] at hc
            exact hpart.begins c hc
          · intro c hc
            rw [List.getLast?_append, List.getLast?_eq_some_getLast hrestNe, Option.some_or,
              ← List.getLast?_eq_some_getLast] at hc
            exact hrest.ends c hc

theorem trim_eq_self_iff {text : String} :
    trim text = text <-> IsStripped isBlank text.toList text.toList :=
  ofList_stripChars_eq_iff

end Blank

theorem Base64.isBlank_digit (n : Nat) : Blank.isBlank (digit n) = false := by
  have hsmall : forall m : Fin 62, Blank.isBlank (digit m) = false := by decide
  by_cases hn : n < 62
  · exact hsmall ⟨n, hn⟩
  · unfold digit
    rw [if_neg (by omega), if_neg (by omega), if_neg hn]
    split <;> rfl

theorem Base64.mem_encode {bytes : Bytes} {c : Char} (hc : c ∈ (encode bytes).toList) :
    c = '=' ∨ exists n, c = digit n := by
  rw [encode, String.toList_ofList] at hc
  fun_induction encodeChars bytes with
  | case1 => cases hc
  | case2 a =>
      simp only [List.mem_cons, List.not_mem_nil, or_false] at hc
      rcases hc with hc | hc | hc | hc
      case inl | inr.inl => exact Or.inr ⟨_, hc⟩
      all_goals exact Or.inl hc
  | case3 a b =>
      simp only [List.mem_cons, List.not_mem_nil, or_false] at hc
      rcases hc with hc | hc | hc | hc
      case inr.inr.inr => exact Or.inl hc
      all_goals exact Or.inr ⟨_, hc⟩
  | case4 a b c rest ih =>
      simp only [List.mem_cons] at hc
      rcases hc with hc | hc | hc | hc | hc
      case inr.inr.inr.inr => exact ih hc
      all_goals exact Or.inr ⟨_, hc⟩

theorem Base64.isBlank_of_mem_encode {bytes : Bytes} {c : Char}
    (hc : c ∈ (encode bytes).toList) : Blank.isBlank c = false := by
  rcases mem_encode hc with rfl | ⟨n, rfl⟩
  · rfl
  · exact isBlank_digit n

namespace Handshake

/-!
## Names in an answer
-/

structure IsOfferable (name : String) : Prop where
  nonempty : name.toList ≠ []
  whole : ',' ∉ name.toList

theorem Request.isOfferable_of_not_isRefused {request : Request} (hgood : ¬ request.IsRefused)
    {name : String} (hname : name ∈ request.protocols) : IsOfferable name := by
  have hproper : ¬ IsBadName name := fun hbad => hgood (Or.inr ⟨name, hname, hbad⟩)
  refine ⟨fun hempty => hproper (Or.inl ?_), fun hcomma => hproper (Or.inr hcomma)⟩
  intro c hc
  rw [hempty] at hc
  cases hc

namespace Response

theorem Accepts.trim_eq {lines : List String} {expectedAccept : String}
    {offered protocols : List String} (haccepts : Accepts lines expectedAccept offered protocols)
    {name : String} (hname : name ∈ protocols) : Blank.trim name = name := by
  rcases haccepts with ⟨_, _, _, _, _, _, hopens⟩
  cases hopens.agrees with
  | nothing _ => cases hname
  | some _ _ _ hnames hprotocols _ =>
      rcases hnames with ⟨parts, _, rfl, _, hparts⟩
      rw [hprotocols] at hname
      rcases List.mem_map.mp (List.mem_filter.mp hname).left with ⟨⟨piece, other⟩, hpart, rfl⟩
      exact Blank.trim_eq_self_iff.mpr (hparts piece other hpart).right.self

theorem intercalate_comma (first : List Char) (rest : List (List Char)) :
    [','].intercalate (first :: rest.map (' ' :: ·)) = [',', ' '].intercalate (first :: rest) := by
  induction rest generalizing first with
  | nil => rfl
  | cons next more ih =>
      rw [List.map_cons, List.intercalate_cons_cons, List.intercalate_cons_cons, ← ih]
      cases more <;> simp

theorem areNames_intercalate {names : List String} (hnames : names ≠ [])
    (hwhole : forall name, name ∈ names -> ',' ∉ name.toList)
    (htrim : forall name, name ∈ names -> Blank.trim name = name) :
    AreNames (String.intercalate ", " names) names := by
  cases names with
  | nil => exact absurd rfl hnames
  | cons first rest =>
      have hself (name : String) (hname : name ∈ first :: rest) :=
        Blank.trim_eq_self_iff.mp (htrim name hname)
      refine ⟨(first.toList, first) :: rest.map fun name => (' ' :: name.toList, name),
        List.cons_ne_nil _ _, ?_, ?_, ?_⟩
      · simp [Function.comp_def]
      · have hcomma := intercalate_comma first.toList (rest.map String.toList)
        rw [List.map_map] at hcomma
        rw [String.toList_intercalate, List.map_cons, List.map_map, List.map_cons]
        exact hcomma
      · intro piece name hpart
        rcases List.mem_cons.mp hpart with hsame | hrest
        · cases hsame
          exact And.intro (hwhole _ List.mem_cons_self) (hself _ List.mem_cons_self)
        · rcases List.mem_map.mp hrest with ⟨other, hother, hsame⟩
          cases hsame
          have hmem := List.mem_cons_of_mem first hother
          exact And.intro (by simpa using hwhole _ hmem) ((hself _ hmem).cons (by decide))

/-!
## The answer to an offer
-/

/-- The answer of a server that takes these sub-protocols from a client with this
key. -/
def answerLines (clientKey : String) (picked : List String) : List String :=
  ["HTTP/1.1 101 Switching Protocols", "Upgrade: websocket", "Connection: Upgrade",
      "Sec-WebSocket-Accept: " ++ acceptKey clientKey] ++
    if picked = [] then [] else ["Sec-WebSocket-Protocol: " ++ String.intercalate ", " picked]

def upgradeFields (clientKey : String) : List Field :=
  [⟨"upgrade", "websocket"⟩, ⟨"connection", "Upgrade"⟩,
    ⟨"sec-websocket-accept", acceptKey clientKey⟩]

def answerFields (clientKey : String) (picked : List String) : List Field :=
  upgradeFields clientKey ++
    if picked = [] then [] else [⟨"sec-websocket-protocol", String.intercalate ", " picked⟩]

section Answer

variable {clientKey : String} {picked offered : List String}

theorem isOn_of_trim (name : String) {lower value : String} (hname : ':' ∉ name.toList)
    (htrimmed : Blank.trim name = name) (hlower : lower = lowerCase name)
    (hvalue : Blank.trim value = value) : Field.IsOn ⟨lower, value⟩ (name ++ ": " ++ value) := by
  refine ⟨name, " " ++ value, name, ?_, hname, Blank.trim_eq_self_iff.mp htrimmed, hlower, ?_⟩
  · rw [String.append_assoc, String.append_assoc]
    rfl
  · rw [Blank.IsTrimmed, String.toList_append]
    exact (Blank.trim_eq_self_iff.mp hvalue).cons (by decide)

theorem areOn_answerFields (htrim : Blank.trim (String.intercalate ", " picked) =
    String.intercalate ", " picked) :
    AreOn (answerFields clientKey picked) (answerLines clientKey picked).tail := by
  have haccept : Blank.trim (acceptKey clientKey) = acceptKey clientKey :=
    Blank.trim_eq_self_iff.mpr
      (Blank.isStripped_of_forall fun _ hc => Base64.isBlank_of_mem_encode hc)
  refine .cons (isOn_of_trim "Upgrade" (by decide) (by decide) (by decide) (by decide))
    (.cons (isOn_of_trim "Connection" (by decide) (by decide) (by decide) (by decide))
      (.cons (isOn_of_trim "Sec-WebSocket-Accept" (by decide) (by decide) (by decide) haccept) ?_))
  split
  · exact .nil
  · exact .cons (isOn_of_trim "Sec-WebSocket-Protocol" (by decide) (by decide) (by decide) htrim)
      .nil

theorem areSingle_answerFields : AreSingle (answerFields clientKey picked) := by
  intro name hname
  have hfour : name = "upgrade" ∨ name = "connection" ∨ name = "sec-websocket-accept" ∨
      name = "sec-websocket-protocol" := by simpa [singleFields] using hname
  unfold answerFields upgradeFields
  rcases hfour with rfl | rfl | rfl | rfl <;> split <;> simp

/-- The other fields are those of an answer that opens a connection. -/
theorem opens_answerFields (hagrees : Agrees (answerFields clientKey picked) offered picked) :
    Opens (answerFields clientKey picked) (acceptKey clientKey) offered picked := by
  have hhas {name value : String} (hfield : ⟨name, value⟩ ∈ upgradeFields clientKey) :
      HasValue (answerFields clientKey picked) name value :=
    ⟨⟨name, value⟩, List.mem_append_left _ hfield, rfl, rfl⟩
  exact ⟨areSingle_answerFields, ⟨"websocket", hhas (by simp [upgradeFields]), by decide⟩,
    ⟨"Upgrade", hhas (by simp [upgradeFields]), by decide⟩, hhas (by simp [upgradeFields]), hagrees⟩

/-- What the names of an answer look like when they are put together. -/
theorem isStripped_picked (hpicked : forall name, name ∈ picked ->
    name.toList ≠ [] ∧ Blank.trim name = name) :
    Blank.trim (String.intercalate ", " picked) = String.intercalate ", " picked ∧
      (picked ≠ [] -> String.intercalate ", " picked ≠ "") := by
  have hparts : forall part, part ∈ picked.map String.toList ->
      part ≠ [] ∧ Blank.IsStripped Blank.isBlank part part := by
    intro part hpart
    rcases List.mem_map.mp hpart with ⟨name, hname, rfl⟩
    exact And.intro (hpicked name hname).left (Blank.trim_eq_self_iff.mp (hpicked name hname).right)
  rcases Blank.isStripped_intercalate hparts ", ".toList with ⟨hstripped, hne⟩
  rw [← String.toList_intercalate] at hstripped hne
  exact And.intro (Blank.trim_eq_self_iff.mpr hstripped) fun hpicked hempty =>
    hne (by simpa using hpicked) (by rw [hempty]; rfl)

theorem agrees_answerFields (hpicked : picked ≠ [])
    (hoffered : forall name, name ∈ picked -> name ∈ offered)
    (hgood : forall name, name ∈ picked -> IsOfferable name)
    (htrim : forall name, name ∈ picked -> Blank.trim name = name) :
    Agrees (answerFields clientKey picked) offered picked := by
  rcases List.exists_mem_of_ne_nil picked hpicked with ⟨first, hfirst⟩
  have hvalue := (isStripped_picked fun name hname =>
    And.intro (hgood name hname).nonempty (htrim name hname)).right hpicked
  have hnames := areNames_intercalate hpicked (fun name hname => (hgood name hname).whole) htrim
  refine .some (List.ne_nil_of_mem (hoffered first hfirst))
    ⟨⟨"sec-websocket-protocol", String.intercalate ", " picked⟩, ?_, rfl, rfl⟩ hvalue hnames ?_
    hpicked
  · rw [answerFields, if_neg hpicked]
    exact List.mem_append_right _ List.mem_cons_self
  · rw [List.filter_eq_self.mpr]
    intro name hname
    exact decide_eq_true (hoffered name hname)

theorem accepts_answerLines (hagrees : Agrees (answerFields clientKey picked) offered picked)
    (htrim : Blank.trim (String.intercalate ", " picked) = String.intercalate ", " picked) :
    Accepts (answerLines clientKey picked) (acceptKey clientKey) offered picked :=
  ⟨_, _, _, rfl, statusCode?_eq_some_iff.mp (by decide), areOn_answerFields htrim,
    opens_answerFields hagrees⟩

end Answer

/-- A server that takes some of the offered sub-protocols and spells them as the client
did is understood exactly if none of them has white space at an end.  A server to which
nothing was offered is understood. -/
theorem parse_of_offer (nonce : Bytes) (target host : String) (offered : List String)
    {octets : Bytes}
    (hencode : Request.encode ⟨target, host, (KeyPair.ofNonce nonce).clientKey, offered⟩ =
      .ok octets) :
    (forall picked, picked ≠ [] -> (forall name, name ∈ picked -> name ∈ offered) ->
        (parse (answerLines (KeyPair.ofNonce nonce).clientKey picked)
            (KeyPair.ofNonce nonce).expectedAccept offered = .ok picked <->
          forall name, name ∈ picked -> Blank.trim name = name)) ∧
      (offered = [] ->
        parse (answerLines (KeyPair.ofNonce nonce).clientKey [])
          (KeyPair.ofNonce nonce).expectedAccept offered = .ok []) := by
  constructor
  · intro picked hpicked hoffered
    constructor
    · intro hparse name hname
      exact (parse_eq_ok_iff.mp hparse).trim_eq hname
    · intro htrim
      have hgood : forall name, name ∈ picked -> IsOfferable name := by
        intro name hname
        rcases Request.encode_refuses ⟨target, host, (KeyPair.ofNonce nonce).clientKey, offered⟩
          with ⟨_, _, _, herror⟩ | ⟨hgood, _⟩
        · rw [herror] at hencode
          cases hencode
        · exact Request.isOfferable_of_not_isRefused hgood (hoffered name hname)
      have hwhole := (isStripped_picked fun name hname =>
        And.intro (hgood name hname).nonempty (htrim name hname)).left
      exact parse_eq_ok_iff.mpr
        (accepts_answerLines (agrees_answerFields hpicked hoffered hgood htrim) hwhole)
  · rintro rfl
    refine parse_eq_ok_iff.mpr (accepts_answerLines (.nothing ?_) rfl)
    rintro value ⟨field, hfield, hname, _⟩
    rcases List.mem_append.mp hfield with hfield | hfield
    · simp only [upgradeFields, List.mem_cons, List.not_mem_nil, or_false] at hfield
      rcases hfield with rfl | rfl | rfl <;> simp at hname
    · cases hfield

theorem ofNonce_sample : KeyPair.ofNonce (Utf8.encode "the sample nonce") =
    ⟨"dGhlIHNhbXBsZSBub25jZQ==", "s3pPLMBiTxaQ9kYGzzhZRbK+xOo="⟩ := by
  decide +kernel

/-- A server takes two names in its own order. -/
theorem parse_of_two_names :
    let keys := KeyPair.ofNonce (Utf8.encode "the sample nonce")
    parse (answerLines keys.clientKey ["b", "a"]) keys.expectedAccept ["a", "b", "c"] =
      .ok ["b", "a"] := by
  intro keys
  have hencode : Request.encode ⟨"/", "example.com", keys.clientKey, ["a", "b", "c"]⟩ =
      .ok (headOctets (Request.lines ⟨"/", "example.com", keys.clientKey, ["a", "b", "c"]⟩)) := by
    rw [show keys = _ from ofNonce_sample]
    rfl
  exact ((parse_of_offer _ "/" "example.com" ["a", "b", "c"] hencode).left ["b", "a"] (by simp)
    (by simp)).mpr (by decide)

/-- A name with a blank before it can be offered, and no answer brings it back. -/
theorem parse_of_blank_before_name :
    let keys := KeyPair.ofNonce (Utf8.encode "the sample nonce")
    (exists octets, Request.encode ⟨"/", "example.com", keys.clientKey, [" chat"]⟩ = .ok octets) ∧
      parse (answerLines keys.clientKey [" chat"]) keys.expectedAccept [" chat"] =
        .error (.handshake "couldn't find a sub protocol that both parties are speaking") := by
  intro keys
  rw [show keys = _ from ofNonce_sample]
  have hanswer : answerLines "dGhlIHNhbXBsZSBub25jZQ==" [" chat"] =
      ["HTTP/1.1 101 Switching Protocols", "Upgrade: websocket", "Connection: Upgrade",
        "Sec-WebSocket-Accept: s3pPLMBiTxaQ9kYGzzhZRbK+xOo=", "Sec-WebSocket-Protocol:  chat"] := by
    decide +kernel
  rw [hanswer]
  exact And.intro ⟨_, rfl⟩ rfl

end Response

end Handshake

end WebSocketClient
