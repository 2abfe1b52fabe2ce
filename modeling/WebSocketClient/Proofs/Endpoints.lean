import WebSocketClient.Endpoint
import WebSocketClient.Proofs.Locations

/-!
# Endpoints

Where a URI leads.  Whatever a text holds, its endpoint puts nothing into the request but
printable ASCII in its place.  An endpoint written out as a URI leads to the same endpoint.
-/

namespace WebSocketClient

def Base64.IsSpelled (text : String) : Prop :=
  forall c, c ∈ text.toList -> c.isAlphanum = true ∨ c ∈ ['+', '/', '=']

theorem Base64.isSpelled_encode (bytes : Bytes) : IsSpelled (encode bytes) := by
  intro c hc
  have hsmall : forall m : Fin 64,
      (digit m).isAlphanum = true ∨ digit m ∈ ['+', '/', '='] := by
    decide
  rcases mem_encode hc with rfl | ⟨n, rfl⟩
  · exact Or.inr (by decide)
  · by_cases hn : n < 64
    · exact hsmall ⟨n, hn⟩
    · refine Or.inr ?_
      unfold digit
      rw [if_neg (by omega), if_neg (by omega), if_neg (by omega), if_neg (by omega)]
      decide

namespace Endpoint

/-- The endpoint written out. -/
def uri (endpoint : Endpoint) : String :=
  Uri.scheme endpoint.secure ++ "://" ++ endpoint.hostHeader ++ endpoint.target

variable {secure : Bool} {location : Uri.Location} {uri : String} {endpoint : Endpoint}

theorem toList_hostHeader (secure : Bool) (location : Uri.Location) :
    (ofLocation secure location).hostHeader.toList =
      location.host.render.toList ++ Uri.portOf location.port := by
  unfold ofLocation Uri.portOf
  cases location.port with
  | none => exact (List.append_nil _).symm
  | some port =>
      show (location.host.render ++ ":" ++ port.toNat.repr).toList = _
      simp

theorem toList_target (secure : Bool) (location : Uri.Location) :
    (ofLocation secure location).target.toList =
      Uri.targetOf location.path location.query := by
  unfold ofLocation Uri.targetOf
  cases location.query <;> simp

theorem exists_location (hparse : Endpoint.parse uri = .ok endpoint) :
    exists secure location, Uri.Location.IsNormal secure location ∧
      endpoint = ofLocation secure location := by
  unfold Endpoint.parse at hparse
  simp only at hparse
  split at hparse
  case isTrue => cases hparse
  case isFalse =>
      split at hparse
      case h_1 | h_2 => cases hparse
      case h_3 secure location huri =>
          cases hparse
          exact ⟨secure, location, Uri.isNormal_of_parse huri, rfl⟩

theorem parse_of_isNormal (hnormal : location.IsNormal secure) :
    Endpoint.parse (ofLocation secure location).uri = .ok (ofLocation secure location) := by
  have htext : (ofLocation secure location).uri.toList =
      (Uri.scheme secure).toList ++ ':' :: '/' :: '/' :: location.toChars := by
    simp only [Endpoint.uri, String.toList_append, toList_hostHeader, toList_target, List.append_assoc]
    rfl
  rcases Uri.parse_of_toChars hnormal htext with ⟨hplain, hparse⟩
  have htrim : Blank.trim (ofLocation secure location).uri = (ofLocation secure location).uri := by
    refine Blank.trim_eq_self_iff.mpr (Blank.isStripped_of_forall fun c hc => ?_)
    rcases hplain c hc with ⟨hlow, hhigh, -⟩
    simp only [Blank.isBlank, Bool.or_eq_false_iff, Bool.and_eq_false_iff, decide_eq_false_iff_not,
      beq_eq_false_iff_ne]
    omega
  have hne : (ofLocation secure location).uri.isEmpty = false := by
    refine Bool.eq_false_iff.mpr fun hempty => ?_
    rw [String.isEmpty_iff.mp hempty] at htext
    have hlength := congrArg List.length htext
    simp at hlength
  unfold Endpoint.parse
  simp only [htrim, hne, hparse]
  rfl

/-!
## Into the request
-/

theorem isPlain_of_mem_host (hnormal : location.IsNormal secure) {text : String}
    (htext : text ∈ [(ofLocation secure location).host, (ofLocation secure location).hostHeader]) :
    text ≠ "" ∧ forall c, c ∈ text.toList -> Uri.IsPlain c ∧ c ∉ ['/', '?', '#', '@'] := by
  simp only [List.mem_cons, List.not_mem_nil, or_false] at htext
  rcases htext with rfl | rfl
  · refine ⟨fun hempty => Uri.Host.bare_ne_empty hnormal.host ?_, fun c hc => ?_⟩
    · exact String.toList_eq_nil_iff.mpr hempty
    · exact Uri.isPlain_of_host (Uri.Host.mem_render hnormal.host
        (Uri.Host.mem_render_of_mem_bare hc))
  · refine ⟨fun hempty => Uri.Host.render_ne_empty hnormal.host ?_, fun c hc => ?_⟩
    · have hnil := String.toList_eq_nil_iff.mpr hempty
      rw [toList_hostHeader] at hnil
      exact (List.append_eq_nil_iff.mp hnil).left
    · rw [toList_hostHeader] at hc
      exact Uri.isPlain_of_host (Uri.mem_authority hnormal.host hc)

theorem isClean_of_isPlain {text : String} (htext : forall c, c ∈ text.toList -> Uri.IsPlain c) :
    Handshake.IsClean text := by
  intro c hc hforbidden
  rcases htext c hc with ⟨hlow, hhigh, -⟩
  rcases hforbidden with rfl | rfl | hlarge
  · exact absurd hlow (by decide)
  · exact absurd hlow (by decide)
  · omega

theorem isClean_of_isSpelled {key : String} (hkey : Base64.IsSpelled key) :
    Handshake.IsClean key := by
  intro c hc hforbidden
  rcases hkey c hc with halphanum | hmark
  · have hbetween {low high : Char} (hlow : low.val <= c.val) (hhigh : c.val <= high.val)
        (hdigit : 48 <= low.toNat) (hletter : high.toNat <= 122) :
        48 <= c.toNat ∧ c.toNat <= 122 :=
      ⟨Nat.le_trans hdigit hlow, Nat.le_trans hhigh hletter⟩
    have hbounds : 48 <= c.toNat ∧ c.toNat <= 122 := by
      rcases Bool.or_eq_true_iff.mp halphanum with halpha | hdigit
      · rcases Bool.or_eq_true_iff.mp halpha with hupper | hlower
        · rcases of_decide_eq_true hupper with ⟨hlow, hhigh⟩
          exact hbetween hlow hhigh (by decide) (by decide)
        · rcases Bool.and_eq_true_iff.mp hlower with ⟨hlow, hhigh⟩
          exact hbetween (of_decide_eq_true hlow) (of_decide_eq_true hhigh) (by decide)
            (by decide)
      · rcases Bool.and_eq_true_iff.mp hdigit with ⟨hlow, hhigh⟩
        exact hbetween (of_decide_eq_true hlow) (of_decide_eq_true hhigh) (by decide) (by decide)
    rcases hforbidden with rfl | rfl | hlarge
    · exact absurd hbounds.left (by decide)
    · exact absurd hbounds.left (by decide)
    · omega
  · simp only [List.mem_cons, List.not_mem_nil, or_false] at hmark
    rcases hmark with rfl | rfl | rfl <;> exact absurd hforbidden (by decide)

theorem pieces_requestLine {request : Handshake.Request} {octets : Bytes}
    (hencode : request.encode = .ok octets) (hspace : ' ' ∉ request.target.toList) :
    Split.pieces ' ' (Latin1.decode (octets.takeWhile (· ≠ Handshake.carriageReturn))).toList =
      ["GET".toList, request.target.toList, "HTTP/1.1".toList] := by
  rcases request.encode_refuses with ⟨-, _, _, herror⟩ | ⟨hgood, hok⟩
  · rw [herror] at hencode
    cases hencode
  · rw [hok] at hencode
    cases hencode
    have hline : Handshake.IsLine ("GET " ++ request.target ++ " HTTP/1.1") :=
      Handshake.Request.isLine_of_mem_lines hgood (by simp [Handshake.Request.lines])
    have hfirst : (Handshake.headOctets request.lines).takeWhile
        (fun octet => decide (octet ≠ Handshake.carriageReturn)) =
          Latin1.encode ("GET " ++ request.target ++ " HTTP/1.1") := by
      have hlines : request.lines = ("GET " ++ request.target ++ " HTTP/1.1") :: request.lines.tail :=
        rfl
      rw [hlines, Handshake.headOctets_cons, List.takeWhile_append_of_pos,
        List.takeWhile_cons_of_neg (by decide), List.append_nil]
      intro octet hoctet
      refine decide_eq_true ?_
      rintro rfl
      exact hline.carriageReturn_not_mem hoctet
    have hcut : ("GET " ++ request.target ++ " HTTP/1.1").toList =
        "GET".toList ++ ' ' :: (request.target.toList ++ ' ' :: "HTTP/1.1".toList) := by
      simp
    rw [hfirst, hline.decode_encode, hcut, Split.pieces_append (by decide),
      Split.pieces_append hspace, Split.pieces_of_not_mem (by decide)]

/-- What the endpoint of any URI puts into a request stands in its place.  The target
begins with a slash and is printable ASCII, and the host has no slash, question mark, at
sign or number sign besides.  So the request is made for every key in base-64, and its first
line has three parts. -/
theorem request_of_parse (hparse : Endpoint.parse uri = .ok endpoint) :
    (endpoint.target.toList.head? = some '/' ∧
        forall c, c ∈ endpoint.target.toList -> Uri.IsPlain c) ∧
      (forall text, text ∈ [endpoint.host, endpoint.hostHeader] ->
        text ≠ "" ∧ forall c, c ∈ text.toList -> Uri.IsPlain c ∧ c ∉ ['/', '?', '#', '@']) ∧
      forall key, Base64.IsSpelled key ->
        exists octets, Handshake.Request.encode ⟨endpoint.target, endpoint.hostHeader, key, []⟩ =
            .ok octets ∧
          Split.pieces ' ' (Latin1.decode
              (octets.takeWhile (· ≠ Handshake.carriageReturn))).toList =
            ["GET".toList, endpoint.target.toList, "HTTP/1.1".toList] := by
  rcases exists_location hparse with ⟨secure, location, hnormal, rfl⟩
  have htarget : forall c, c ∈ (ofLocation secure location).target.toList -> Uri.IsPlain c := by
    intro c hc
    rw [toList_target] at hc
    exact Uri.isPlain_of_mem_target hnormal.target hc
  have hhost := fun (text : String) htext => @isPlain_of_mem_host _ _ hnormal text htext
  refine ⟨⟨?_, htarget⟩, hhost, fun key hkey => ?_⟩
  · rcases Uri.exists_targetOf_eq_cons hnormal.target with ⟨rest, hcons⟩
    rw [toList_target, hcons]
    rfl
  · let request : Handshake.Request :=
      ⟨(ofLocation secure location).target, (ofLocation secure location).hostHeader, key, []⟩
    have hgood : ¬ request.IsRefused := by
      rintro (⟨value, hvalue, c, hc, hforbidden⟩ | ⟨name, hname, -⟩)
      · simp only [Handshake.Request.values, request, List.mem_cons, List.not_mem_nil,
          or_false] at hvalue
        rcases hvalue with rfl | rfl | rfl
        · exact isClean_of_isPlain htarget c hc hforbidden
        · have hheader := (hhost _ (List.mem_cons_of_mem _ List.mem_cons_self)).right
          exact isClean_of_isPlain (fun d hd => (hheader d hd).left) c hc hforbidden
        · exact isClean_of_isSpelled hkey c hc hforbidden
      · cases hname
    rcases request.encode_refuses with ⟨hrefused, -⟩ | ⟨-, hok⟩
    · exact absurd hrefused hgood
    · exact ⟨_, hok, pieces_requestLine hok fun hspace => absurd (htarget ' ' hspace).left (by decide)⟩

/-- A text with credentials, a fragment, tabs and line ends in it, and its request with the
key of a sample nonce. -/
theorem request_of_crooked_uri :
    let uri := "\tws:user:pw@EXAM\nPLE.com:8080\\a\r\nb/../c d?q=#f"
    let endpoint : Endpoint := ⟨false, "example.com", 8080, "example.com:8080", "/c%20d?q="⟩
    let key := Base64.encode [0x74, 0x68, 0x65, 0x20, 0x73, 0x61, 0x6d, 0x70, 0x6c, 0x65, 0x20,
      0x6e, 0x6f, 0x6e, 0x63, 0x65]
    Endpoint.parse uri = .ok endpoint ∧ Base64.IsSpelled key ∧
      exists octets, Handshake.Request.encode ⟨endpoint.target, endpoint.hostHeader, key, []⟩ =
          .ok octets ∧
        Split.pieces ' ' (Latin1.decode
            (octets.takeWhile (· ≠ Handshake.carriageReturn))).toList =
          ["GET".toList, "/c%20d?q=".toList, "HTTP/1.1".toList] := by
  intro uri endpoint key
  have hparse : Endpoint.parse uri = .ok endpoint := by decide +kernel
  have hkey := Base64.isSpelled_encode [0x74, 0x68, 0x65, 0x20, 0x73, 0x61, 0x6d, 0x70, 0x6c, 0x65,
    0x20, 0x6e, 0x6f, 0x6e, 0x63, 0x65]
  exact ⟨hparse, hkey, (request_of_parse hparse).right.right key hkey⟩

/-!
## The normal form
-/

/-- An endpoint written out as a URI leads to the same endpoint.  Brackets stand around the
host in the header if it has a colon, and the port stands behind it if it is not the one
that the scheme has by default. -/
theorem parse_uri_of_parse (hparse : Endpoint.parse uri = .ok endpoint) :
    Endpoint.parse endpoint.uri = .ok endpoint ∧
      endpoint.hostHeader =
        (if ':' ∈ endpoint.host.toList then "[" ++ endpoint.host ++ "]" else endpoint.host) ++
          (if endpoint.port = Uri.SchemeKind.defaultPort endpoint.secure then ""
            else ":" ++ toString endpoint.port.toNat) := by
  rcases exists_location hparse with ⟨secure, location, hnormal, rfl⟩
  refine And.intro (parse_of_isNormal hnormal) ?_
  have hhost : location.host.render =
      if ':' ∈ location.host.bare.toList then "[" ++ location.host.bare ++ "]"
      else location.host.bare :=
    Uri.Host.render_eq_bare hnormal.host
  show (ofLocation secure location).hostHeader =
    (if ':' ∈ location.host.bare.toList then "[" ++ location.host.bare ++ "]"
      else location.host.bare) ++
    (if location.port.getD (Uri.SchemeKind.defaultPort secure) = Uri.SchemeKind.defaultPort secure
      then "" else ":" ++ toString (location.port.getD (Uri.SchemeKind.defaultPort secure)).toNat)
  have hport := hnormal.port
  rw [← hhost, ← String.toList_inj, toList_hostHeader, String.toList_append]
  cases hfound : location.port with
  | none =>
      rw [Option.getD_none, if_pos rfl]
      rfl
  | some port =>
      rw [hfound] at hport
      rw [Option.getD_some, if_neg (fun hdefault => hport (congrArg some hdefault))]
      simp [Uri.portOf]

/-- An IPv6 address with zeros left out and the default port written out. -/
theorem parse_uri_of_written_port :
    let endpoint : Endpoint := ⟨true, "1:0:0:2::3", 443, "[1:0:0:2::3]", "/x"⟩
    Endpoint.parse "WSS://[1:0:0:2::003]:00443/./x" = .ok endpoint ∧
      endpoint.uri = "wss://[1:0:0:2::3]/x" ∧ Endpoint.parse endpoint.uri = .ok endpoint := by
  intro endpoint
  have hparse : Endpoint.parse "WSS://[1:0:0:2::003]:00443/./x" = .ok endpoint := by
    decide +kernel
  exact ⟨hparse, by decide +kernel, (parse_uri_of_parse hparse).left⟩

end Endpoint

end WebSocketClient
