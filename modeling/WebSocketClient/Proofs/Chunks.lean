import WebSocketClient.Proofs.Characters

/-!
# Text in chunks and text as a whole

A decoder that is fed chunks tells of the octets received so far what decoding all of
them at once would tell: chunks are accepted as long as some text goes on with them, the
last one exactly if all of them are a text.  What is held back is less than a character.
-/

namespace WebSocketClient

namespace Utf8

theorem Unfinished.Fits.length_octets_le {character : Unfinished} (hfits : character.Fits) :
    character.octets.length <= 3 := by
  rcases exists_char_of_fits hfits with ⟨c, missing, hmissing, hc⟩
  have hlength := congrArg List.length hc
  have hpos := List.length_pos_iff.mpr hmissing
  have hsize := c.utf8Size_le_four
  rw [String.length_utf8EncodeChar, List.length_append] at hlength
  omega

end Utf8

theorem decodeText_of_no_text {octets : Bytes}
    (hnone : forall whole, octets ≠ Utf8.encode whole) :
    decodeText octets = .error .invalidUtf8 := by
  unfold decodeText
  cases hdecode : Utf8.decode octets with
  | none => rfl
  | some whole => exact absurd (Utf8.decode_eq_some_iff.mp hdecode) (hnone whole)

namespace TextDecoder

variable {decoder after : TextDecoder} {received chunk : Bytes} {told text : String}
  {chunks : List Bytes} {texts : List String} {final : Bool}

/-!
## One chunk
-/

theorem length_carry_le (hdecode : decoder.decode chunk final = (.ok text, after)) :
    after.carry.length <= 3 := by
  rw [decode_eq] at hdecode
  split at hdecode
  case h_1 =>
      cases hdecode
      exact Nat.zero_le _
  case h_2 more character hfront =>
      split at hdecode
      · cases hdecode
      · cases hdecode
        exact ((Utf8.octets_of_decodeFront hfront).left character rfl).length_octets_le
  case h_3 => cases hdecode

theorem after_eq_empty {outcome : Except Error String}
    (hdecode : decoder.decode chunk final = (outcome, after))
    (hends : final = true ∨ exists error, outcome = .error error) : after = empty := by
  rw [decode_eq] at hdecode
  split at hdecode
  case h_1 =>
      cases hdecode
      rfl
  case h_2 =>
      split at hdecode
      case isTrue =>
          cases hdecode
          rfl
      case isFalse hfinal =>
          cases hdecode
          rcases hends with htrue | ⟨error, herror⟩
          · exact absurd htrue hfinal
          · cases herror
  case h_3 =>
      cases hdecode
      rfl

/-!
## Chunks in a row
-/

/-- Decode chunks of which none is the last one.  If none is refused, these are the texts
of all of them and the decoder after them. -/
def feed (decoder : TextDecoder) : List Bytes -> Option (List String × TextDecoder)
  | [] => some ([], decoder)
  | chunk :: rest =>
      match decoder.decode chunk false with
      | (.ok text, after) => (after.feed rest).map fun (texts, last) => (text :: texts, last)
      | (.error _, _) => none

theorem Follows.feed (hfollows : decoder.Follows received told)
    (hfeed : decoder.feed chunks = some (texts, after)) :
    after.Follows (received ++ chunks.flatten) (told ++ String.join texts) := by
  induction chunks generalizing decoder received told texts with
  | nil =>
      cases hfeed
      simpa using hfollows
  | cons chunk rest ih =>
      rw [TextDecoder.feed] at hfeed
      split at hfeed
      case h_1 text middle hdecode =>
          rcases Option.map_eq_some_iff.mp hfeed with ⟨⟨more, last⟩, hrest, hfed⟩
          cases hfed
          have hmiddle := (decode_eq_ok hfollows hdecode).right.left
          have hlast := ih hmiddle hrest
          rwa [List.append_assoc, String.append_assoc, ← String.join_cons] at hlast
      case h_2 => cases hfeed

/-- Let a new decoder have accepted some chunks, and let there be one more.  If that is not
the last one, it is accepted exactly if some text starts with all the octets received: then
the texts told so far are the longest text in front of these octets, and the rest of them,
three at most, is held back.  If it is the last one, it is accepted exactly if all the
octets are a text, and that is what was told.  After the last chunk and after an error the
decoder is a new one.  What the check leaves to be decoded is never refused. -/
theorem decode_of_feed (hfeed : empty.feed chunks = some (texts, decoder)) (chunk : Bytes) :
    let received := chunks.flatten ++ chunk
    (match decoder.decode chunk false with
      | (.ok text, after) =>
          Utf8.IsFrontOfText received ∧
            Utf8.IsLongestText (String.join (texts ++ [text])) received ∧
            received = Utf8.encode (String.join (texts ++ [text])) ++ after.carry ∧
            after.carry.length <= 3
      | (.error _, after) => ¬ Utf8.IsFrontOfText received ∧ after = empty) ∧
    (match decoder.decode chunk true with
      | (.ok text, after) =>
          received = Utf8.encode (String.join (texts ++ [text])) ∧
            decodeText received = .ok (String.join (texts ++ [text])) ∧ after = empty
      | (.error _, after) =>
          (forall whole, received ≠ Utf8.encode whole) ∧
            decodeText received = .error .invalidUtf8 ∧ after = empty) ∧
    forall text rest, Utf8.decodeFront (decoder.carry ++ chunk) = some (text, rest) ->
      decodeText ((decoder.carry ++ chunk).take
        ((decoder.carry ++ chunk).length - (Utf8.held rest).length)) = .ok text := by
  intro received
  have hfollows := follows_empty.feed hfeed
  rw [List.nil_append, String.empty_append] at hfollows
  have hjoin : forall text, String.join (texts ++ [text]) = String.join texts ++ text := by
    intro text
    rw [String.join_append, String.join_cons, String.join_nil, String.append_empty]
  refine ⟨?_, ?_, fun text rest hfront => decodeText_of_decodeFront hfront⟩
  · rcases hdecode : decoder.decode chunk false with ⟨error | text, after⟩
    · have hempty := after_eq_empty hdecode (Or.inr ⟨_, rfl⟩)
      exact And.intro ((decode_eq_error hfollows hdecode).right.left rfl) hempty
    · rcases decode_eq_ok hfollows hdecode with ⟨hlongest, hafter, hfront, _⟩
      simp only [hjoin]
      exact ⟨hfront, hlongest, hafter, length_carry_le hdecode⟩
  · rcases hdecode : decoder.decode chunk true with ⟨error | text, after⟩
    · have hempty := after_eq_empty hdecode (Or.inl rfl)
      have hnone := (decode_eq_error hfollows hdecode).right.right
      exact ⟨hnone, decodeText_of_no_text hnone, hempty⟩
    · have hempty := after_eq_empty hdecode (Or.inl rfl)
      have hwhole := (decode_eq_ok hfollows hdecode).right.right.right rfl
      simp only [hjoin]
      exact ⟨hwhole, decodeText_eq_ok_iff.mpr hwhole, hempty⟩

/-- A character of four octets in four chunks, and octets that cannot follow the first
three of them. -/
theorem decode_of_feed_in_quarters :
    let chunks : List Bytes := [[0x68, 0xF0], [0x9F], [0x98]]
    let decoder : TextDecoder := ⟨[0xF0, 0x9F, 0x98]⟩
    empty.feed chunks = some (["h", "", ""], decoder) ∧
      decodeText (chunks.flatten ++ [0x80, 0x21]) = .ok "h😀!" ∧
      ¬ Utf8.IsFrontOfText (chunks.flatten ++ [0x21]) := by
  intro chunks decoder
  have hfeed : empty.feed chunks = some (["h", "", ""], decoder) := by decide +kernel
  have hwhole : decoder.decode [0x80, 0x21] true = (.ok "😀!", empty) := by rfl
  have hbroken : decoder.decode [0x21] false = (.error .invalidUtf8, empty) := by rfl
  refine ⟨hfeed, ?_, ?_⟩
  · have hagree := (decode_of_feed hfeed [0x80, 0x21]).right.left
    rw [hwhole] at hagree
    exact hagree.right.left
  · have hagree := (decode_of_feed hfeed [0x21]).left
    rw [hbroken] at hagree
    exact hagree.left

end TextDecoder

end WebSocketClient
