import WebSocketClient.Proofs.Lines

/-!
# Requests without injection

A request is refused for exactly the values that would not stand in one line of it.
Any other request is read back as its own lines, so no value of it can end a line,
add one or end the head.
-/

namespace WebSocketClient

namespace Handshake

/-!
## What is refused
-/

/-- A name that is blank or would read as two names. -/
def IsBadName (name : String) : Prop :=
  (forall c, c ∈ name.toList -> Blank.isBlank c = true) ∨ ',' ∈ name.toList

namespace Request

def values (request : Request) : List String :=
  request.target :: request.host :: request.key :: request.protocols

/-- A value has a character that no line can have, or a sub-protocol has no proper
name. -/
def IsRefused (request : Request) : Prop :=
  (exists value, value ∈ request.values ∧ exists c, c ∈ value.toList ∧ IsForbidden c) ∨
    exists name, name ∈ request.protocols ∧ IsBadName name

/-- A check that fails exactly for this fault, and always because of a header value. -/
inductive Refuses (fault : Prop) : Except Error Unit -> Prop
  | passed : ¬ fault -> Refuses fault (.ok ())
  | refused {field reason : String} : fault ->
      Refuses fault (.error (.invalidHeaderValue field reason))

namespace Refuses

variable {fault fault' : Prop} {check check' : Except Error Unit}

theorem of_iff (hrefuses : Refuses fault check) (hiff : fault <-> fault') :
    Refuses fault' check := by
  rwa [← propext hiff]

theorem bind (hfirst : Refuses fault check) (hsecond : Refuses fault' check') :
    Refuses (fault ∨ fault') (check >>= fun _ => check') := by
  cases hfirst with
  | refused hfault => exact .refused (Or.inl hfault)
  | passed hgood =>
      cases hsecond with
      | refused hfault => exact .refused (Or.inr hfault)
      | passed hgood' => exact .passed (not_or.mpr (And.intro hgood hgood'))

end Refuses

theorem not_isClean_iff {text : String} :
    ¬ IsClean text <-> exists c, c ∈ text.toList ∧ IsForbidden c := by
  simp [IsClean]

theorem checkValue_refuses (field value : String) :
    Refuses (¬ IsClean value) (checkValue field value) := by
  unfold checkValue
  split
  case isTrue hbreak =>
      rcases List.any_eq_true.mp hbreak with ⟨c, hc, hend⟩
      refine .refused (not_isClean_iff.mpr ⟨c, hc, ?_⟩)
      rcases Bool.or_eq_true_iff.mp hend with hreturn | hfeed
      · exact Or.inl (of_decide_eq_true hreturn)
      · exact Or.inr (Or.inl (of_decide_eq_true hfeed))
  case isFalse hbreak =>
      split
      case isTrue hencodable =>
          refine .passed (not_not_intro ?_)
          rintro c hc (hreturn | hfeed | hlarge)
          · exact hbreak (List.any_eq_true.mpr ⟨c, hc, by simp [hreturn]⟩)
          · exact hbreak (List.any_eq_true.mpr ⟨c, hc, by simp [hfeed]⟩)
          · have hsmall := of_decide_eq_true (List.all_eq_true.mp hencodable c hc)
            omega
      case isFalse hencodable =>
          refine .refused fun hclean => hencodable (List.all_eq_true.mpr ?_)
          intro c hc
          exact decide_eq_true (hclean.toNat_le hc)

theorem checkProtocol_refuses (name : String) :
    Refuses (¬ IsClean name ∨ IsBadName name) (checkProtocol name) := by
  apply (checkValue_refuses "Sec-WebSocket-Protocol" name).bind
  have hbad : (Blank.isBlankText name || name.toList.contains ',') = true <-> IsBadName name := by
    simp [Blank.isBlankText, IsBadName]
  split
  case isTrue hname => exact .refused (hbad.mp hname)
  case isFalse hname => exact .passed (mt hbad.mpr hname)

theorem checkProtocols_refuses (names : List String) :
    Refuses (exists name, name ∈ names ∧ (¬ IsClean name ∨ IsBadName name))
      (names.forM checkProtocol) := by
  induction names with
  | nil => exact .passed (by simp)
  | cons name rest ih => exact ((checkProtocol_refuses name).bind ih).of_iff (by simp)

theorem check_refuses (request : Request) : Refuses request.IsRefused request.check := by
  have htarget := checkValue_refuses "Request-Target" request.target
  have hhost := checkValue_refuses "Host" request.host
  have hkey := checkValue_refuses "Sec-WebSocket-Key" request.key
  refine (htarget.bind (hhost.bind (hkey.bind (checkProtocols_refuses _)))).of_iff ?_
  simp only [IsRefused, values, not_isClean_iff, List.mem_cons, and_or_left, exists_or, or_and_right,
    exists_eq_left, or_assoc]

/-!
## The lines of a request
-/

section Clean

variable {first second : String}

theorem isClean_append (hfirst : IsClean first) (hsecond : IsClean second) :
    IsClean (first ++ second) := by
  intro c hc
  rw [String.toList_append, List.mem_append] at hc
  exact hc.elim (hfirst c) (hsecond c)

theorem isClean_intercalate (hfirst : IsClean first) {parts : List String}
    (hparts : forall part, part ∈ parts -> IsClean part) :
    IsClean (String.intercalate first parts) := by
  intro c hc
  rw [String.toList_intercalate] at hc
  induction parts with
  | nil => cases hc
  | cons part rest ih =>
      have hpart := hparts part List.mem_cons_self
      cases rest with
      | nil => exact hpart c (by simpa using hc)
      | cons next more =>
          rw [List.map_cons, List.map_cons, List.intercalate_cons_cons, List.mem_append,
            List.mem_append] at hc
          rcases hc with (hc | hc) | hc
          · exact hpart c hc
          · exact hfirst c hc
          · exact ih (fun part hpart => hparts part (List.mem_cons_of_mem _ hpart)) hc

theorem isLine_append (hfirst : IsClean first) (hne : first ≠ "") (hsecond : IsClean second) :
    IsLine (first ++ second) :=
  ⟨fun hempty => hne (String.append_eq_empty_iff.mp hempty).left, isClean_append hfirst hsecond⟩

end Clean

variable {request : Request}

theorem isLine_of_mem_lines (hgood : ¬ request.IsRefused) {line : String}
    (hline : line ∈ request.lines) : IsLine line := by
  have hvalues : forall value, value ∈ request.values -> IsClean value := by
    intro value hvalue c hc hforbidden
    exact hgood (Or.inl ⟨value, hvalue, c, hc, hforbidden⟩)
  have htarget := hvalues request.target (by simp [values])
  have hhost := hvalues request.host (by simp [values])
  have hkey := hvalues request.key (by simp [values])
  have hprotocols : IsClean (String.intercalate ", " request.protocols) :=
    isClean_intercalate (by decide) fun name hname => hvalues name (by simp [values, hname])
  simp only [lines, protocolLines, List.mem_append, List.mem_cons, List.not_mem_nil, or_false] at hline
  rcases hline with ((rfl | rfl | rfl | rfl | rfl) | hline) | rfl
  · rw [String.append_assoc]
    exact isLine_append (by decide) (by decide) (isClean_append htarget (by decide))
  · exact isLine_append (by decide) (by decide) hhost
  · exact ⟨by decide, by decide⟩
  · exact ⟨by decide, by decide⟩
  · exact isLine_append (by decide) (by decide) hkey
  · split at hline
    · cases hline
    · rw [List.mem_singleton.mp hline]
      exact isLine_append (by decide) (by decide) hprotocols
  · exact ⟨by decide, by decide⟩

theorem encode_refuses (request : Request) :
    (request.IsRefused ∧
        exists field reason, request.encode = .error (.invalidHeaderValue field reason)) ∨
      ¬ request.IsRefused ∧ request.encode = .ok (headOctets request.lines) := by
  have hcheck := request.check_refuses
  unfold encode
  generalize request.check = check at hcheck
  cases hcheck with
  | passed hgood => exact Or.inr (And.intro hgood rfl)
  | refused hrefused => exact Or.inl ⟨hrefused, _, _, rfl⟩

/-- A request is refused exactly for a value that cannot stand in a line or a
sub-protocol without a proper name.  Otherwise reading what was written gives its lines,
character for character, and leaves what stands behind it. -/
theorem readLines_of_encode (request : Request) :
    ((exists error, request.encode = .error error) <-> request.IsRefused) ∧
      (forall error, request.encode = .error error ->
        exists field reason, error = .invalidHeaderValue field reason) ∧
      forall octets, request.encode = .ok octets ->
        forall limits : Limits, octets.length <= limits.maxHandshakeSize.toNat ->
          limits.maxHandshakeSize.toNat < 2 ^ 64 - 1 ->
        forall (source : Source) (further : Bytes), source.bytes = octets ++ further ->
          (readLines limits source).Gives
            (["GET " ++ request.target ++ " HTTP/1.1",
                "Host: " ++ request.host,
                "Upgrade: websocket",
                "Connection: Upgrade",
                "Sec-WebSocket-Key: " ++ request.key] ++
              (if request.protocols = [] then []
                else ["Sec-WebSocket-Protocol: " ++ String.intercalate ", " request.protocols]) ++
              ["Sec-WebSocket-Version: 13"])
            further source.ending := by
  rcases request.encode_refuses with ⟨hrefused, field, reason, herror⟩ | ⟨hgood, hok⟩
  · refine ⟨iff_of_true ⟨_, herror⟩ hrefused, ?_, ?_⟩
    · intro error hencode
      rw [herror] at hencode
      cases hencode
      exact ⟨field, reason, rfl⟩
    · intro octets hencode
      rw [herror] at hencode
      cases hencode
  · refine ⟨iff_of_false ?_ hgood, ?_, ?_⟩
    · rintro ⟨error, hencode⟩
      rw [hok] at hencode
      cases hencode
    · intro error hencode
      rw [hok] at hencode
      cases hencode
    · intro octets hencode limits hroom hlimit source further hbytes
      rw [hok] at hencode
      cases hencode
      have hread := readLines_gives (fun line => isLine_of_mem_lines hgood) hlimit hroom hbytes
      simpa only [lines, protocolLines, List.isEmpty_iff] using hread

def chat : Request :=
  ⟨"/chat", "example.com", "dGhlIHNhbXBsZSBub25jZQ==", ["a", "\xe9"]⟩

/-- A request with two sub-protocols, cut into chunks in a line, with a frame behind. -/
theorem readLines_of_chat :
    let octets := headOctets chat.lines
    let source : Source := ⟨[octets.take 3, octets.drop 3 ++ [0x89], [0x00]], none⟩
    (readLines {} source).Gives
      ["GET /chat HTTP/1.1", "Host: example.com", "Upgrade: websocket", "Connection: Upgrade",
        "Sec-WebSocket-Key: dGhlIHNhbXBsZSBub25jZQ==", "Sec-WebSocket-Protocol: a, \xe9",
        "Sec-WebSocket-Version: 13"]
      [0x89, 0x00] none := by
  intro octets source
  have hencode : chat.encode = .ok octets := by rfl
  exact (readLines_of_encode chat).right.right octets hencode {} (by decide +kernel) (by decide)
    source [0x89, 0x00] (by decide +kernel)

end Request

end Handshake

end WebSocketClient
