import WebSocketClient.Proofs.Framing

/-!
# Headers in memory

A header is written with its length in the shortest form and read in every form that
has room for it.  So a header is read back, whatever stands behind it, and what was
read is what is written exactly if it was in the shortest form.
-/

namespace WebSocketClient

namespace LengthField

variable {field : LengthField} {length : UInt64}

/-!
## The shortest form
-/

/-- The form has room for the length, and no other form that has takes fewer octets. -/
structure IsShortest (field : LengthField) (length : UInt64) : Prop where
  holds : field.Holds length
  least : forall other : LengthField, other.Holds length ->
    field.extraOctets <= other.extraOctets

theorem eq_forLength_or_longer (hholds : field.Holds length) :
    field = forLength length ∨ (forLength length).extraOctets < field.extraOctets := by
  unfold forLength
  cases field with
  | inline short =>
      rcases hholds with ⟨hshort, rfl⟩
      have hlength : short.toUInt64 <= 125 := UInt8.toUInt64_le.mpr hshort
      rw [if_pos hlength, UInt8.toUInt8_toUInt64]
      exact Or.inl rfl
  | extended16 =>
      split
      case isTrue => exact Or.inr Nat.two_pos
      case isFalse =>
          have hmiddle : length <= 0xFFFF :=
            UInt64.le_iff_toNat_le.mpr (Nat.le_of_lt_succ hholds)
          rw [if_pos hmiddle]
          exact Or.inl rfl
  | extended64 =>
      split
      case isTrue => exact Or.inr (Nat.zero_lt_succ 7)
      case isFalse =>
          split
          case isTrue => exact Or.inr (by decide)
          case isFalse => exact Or.inl rfl

theorem isShortest_forLength (length : UInt64) : (forLength length).IsShortest length := by
  refine ⟨holds_forLength length, ?_⟩
  intro other hother
  rcases eq_forLength_or_longer hother with rfl | hlonger
  · exact Nat.le_refl _
  · exact Nat.le_of_lt hlonger

theorem IsShortest.eq_forLength (hshortest : field.IsShortest length) :
    field = forLength length := by
  rcases eq_forLength_or_longer hshortest.holds with heq | hlonger
  · exact heq
  · exact absurd (hshortest.least _ (holds_forLength length)) (Nat.not_le_of_lt hlonger)

end LengthField

namespace FrameHeader

variable {header : FrameHeader} {field : LengthField} {octets : Bytes} {taken : Nat}

/-!
## What a parse comes to
-/

/-- What octets in memory mean as a header: there is one at their front, or one of its
fields is refused, or it is not complete. -/
inductive Parsing : Bytes -> Except Error (Option (FrameHeader × Nat)) -> Prop
  | nothing : Parsing [] (.ok none)
  | lone {first : UInt8} : Parsing [first] (.ok none)
  | refused {first second : UInt8} {rest : Bytes} {error : Error} :
      decodeFirst first = .error error -> Parsing (first :: second :: rest) (.error error)
  | short {first second : UInt8} {rest : Bytes} {fin masked : Bool} {opcode : Opcode}
      {field : LengthField} :
      decodeFirst first = .ok (fin, opcode) -> decodeSecond second = (masked, field) ->
      rest.length < field.extraOctets + (if masked then 4 else 0) ->
      Parsing (first :: second :: rest) (.ok none)
  | overlong {first second : UInt8} {extended left : Bytes} {fin : Bool} {opcode : Opcode}
      {mask : Option MaskKey} {field : LengthField} {error : Error} :
      decodeFirst first = .ok (fin, opcode) -> decodeSecond second = (mask.isSome, field) ->
      extended.length = field.extraOctets -> field.decode extended = .error error ->
      Parsing (first :: second :: (extended ++ (keyOctets mask ++ left))) (.error error)
  | whole {first second : UInt8} {extended left : Bytes} {fin : Bool} {opcode : Opcode}
      {mask : Option MaskKey} {field : LengthField} {length : UInt64} :
      decodeFirst first = .ok (fin, opcode) -> decodeSecond second = (mask.isSome, field) ->
      extended.length = field.extraOctets -> field.decode extended = .ok length ->
      Parsing (first :: second :: (extended ++ (keyOctets mask ++ left)))
        (.ok (some (⟨fin, opcode, length, mask⟩, 2 + extended.length + (keyOctets mask).length)))

theorem parse_of_fields {first second : UInt8} {extended : Bytes} {fin : Bool}
    {opcode : Opcode} (mask : Option MaskKey) (left : Bytes)
    (hfirst : decodeFirst first = .ok (fin, opcode))
    (hsecond : decodeSecond second = (mask.isSome, field))
    (hextended : extended.length = field.extraOctets) :
    parse (first :: second :: (extended ++ (keyOctets mask ++ left))) =
      (field.decode extended).map fun length =>
        some (⟨fin, opcode, length, mask⟩, 2 + extended.length + (keyOctets mask).length) := by
  have hroom : ¬ (extended ++ (keyOctets mask ++ left)).length <
      field.extraOctets + (if mask.isSome then 4 else 0) := by
    rw [List.length_append, List.length_append, length_keyOctets]
    omega
  have hkey : (if mask.isSome then MaskKey.ofBytes? (keyOctets mask ++ left) else none) = mask := by
    cases mask <;> rfl
  rw [parse, hfirst]
  simp only [bind, Except.bind, hsecond, if_neg hroom]
  rw [← hextended, List.take_left, List.drop_left, hkey, length_keyOctets]
  cases field.decode extended <;> rfl

theorem parsing (octets : Bytes) : Parsing octets (parse octets) := by
  match octets with
  | [] => exact .nothing
  | [first] => exact .lone
  | first :: second :: rest =>
      cases hfirst : decodeFirst first with
      | error error =>
          rw [parse, hfirst]
          exact .refused hfirst
      | ok found =>
          rcases found with ⟨fin, opcode⟩
          rcases hsecond : decodeSecond second with ⟨masked, field⟩
          by_cases hshort : rest.length < field.extraOctets + (if masked then 4 else 0)
          · rw [parse, hfirst]
            simp only [bind, Except.bind, hsecond, if_pos hshort]
            exact .short hfirst hsecond hshort
          · -- What is behind the second octet is cut at the ends of its fields.
            have hextended : (rest.take field.extraOctets).length = field.extraOctets := by
              rw [List.length_take]
              omega
            have hkey : ((rest.drop field.extraOctets).take (if masked then 4 else 0)).length =
                if masked then 4 else 0 := by
              rw [List.length_take, List.length_drop]
              omega
            rcases exists_keyOctets_eq hkey with ⟨mask, rfl, hmask⟩
            have hrest : rest = rest.take field.extraOctets ++ (keyOctets mask ++
                (rest.drop field.extraOctets).drop (if mask.isSome then 4 else 0)) := by
              rw [← hmask, List.take_append_drop, List.take_append_drop]
            rw [hrest, parse_of_fields mask _ hfirst hsecond hextended]
            cases hdecode : field.decode (rest.take field.extraOctets) with
            | error error => exact .overlong hfirst hsecond hextended hdecode
            | ok length => exact .whole hfirst hsecond hextended hdecode

/-!
## Headers at the front
-/

theorem length_layout (header : FrameHeader) (field : LengthField) :
    (header.layout field).length =
      2 + field.extraOctets + (if header.isMasked then 4 else 0) := by
  rw [layout, List.length_cons, List.length_cons, tail, List.length_append, lengthOctets_eq,
    LengthField.length_extension, length_keyOctets, isMasked]
  omega

theorem length_encode (header : FrameHeader) : header.encode.length = header.encodedLength := by
  rw [encode_eq_layout, length_layout, encodedLength]

theorem parse_layout (hholds : field.Holds header.payloadLength)
    (hsmall : header.payloadLength.toNat < 2 ^ 63)
    (hfinal : header.opcode.isControl = true -> header.fin = true) (rest : Bytes) :
    parse (header.layout field ++ rest) = .ok (some (header, (header.layout field).length)) := by
  have hextended := LengthField.length_extension field header.payloadLength
  have hparse := parse_of_fields header.mask rest (decodeFirst_firstOctet hfinal)
    (decodeSecond_secondOctet hholds) hextended
  rw [LengthField.decode_extension hholds hsmall, LengthField.length_extension,
    length_keyOctets] at hparse
  rw [length_layout, layout, tail, lengthOctets_eq, List.cons_append, List.cons_append,
    List.append_assoc]
  exact hparse

/-- A header that was read stands at the front, with its length in some form. -/
theorem layout_of_parse (hparse : parse octets = .ok (some (header, taken))) :
    exists (field : LengthField) (rest : Bytes), octets = header.layout field ++ rest ∧
      field.Holds header.payloadLength ∧ header.payloadLength.toNat < 2 ^ 63 ∧
      (header.opcode.isControl = true -> header.fin = true) ∧
      taken = (header.layout field).length := by
  have hparsing := parsing octets
  rw [hparse] at hparsing
  cases hparsing with
  | @whole first second extended left fin opcode mask field length hfirst hsecond _ hdecode =>
      rcases decodeFirst_eq_ok hfirst with ⟨rfl, hfinal⟩
      rcases decodeSecond_eq hsecond with ⟨rfl, hshort⟩
      rcases LengthField.extension_of_decode hshort hdecode with ⟨rfl, hholds, hsmall⟩
      refine ⟨field, left, by simp [layout, tail], hholds, hsmall, hfinal, ?_⟩
      rw [length_layout, LengthField.length_extension, length_keyOctets]
      rfl

def formOf? (octets : Bytes) : Option LengthField :=
  octets[1]?.map fun second => (decodeSecond second).snd

theorem formOf?_layout (hholds : field.Holds header.payloadLength) (rest : Bytes) :
    formOf? (header.layout field ++ rest) = some field := by
  simp [formOf?, layout, decodeSecond_secondOctet hholds]

theorem encodedLength_eq_iff (hholds : field.Holds header.payloadLength) :
    (header.layout field).length = header.encodedLength <->
      field = .forLength header.payloadLength := by
  rw [length_layout, encodedLength]
  rcases LengthField.eq_forLength_or_longer hholds with heq | hlonger
  · rw [← heq]
    exact iff_of_true rfl rfl
  · refine iff_of_false (by omega) ?_
    intro heq
    rw [← heq] at hlonger
    exact Nat.lt_irrefl _ hlonger

/-- A header whose length has its top bit clear, and that is not a fragment of a control
frame, is read back with anything behind it.  Every header that is read is of this kind
and takes at least as many octets as are written for it; they are the octets that were
read exactly if there are as many of them, which is to say if their length was in the
shortest form. -/
theorem parse_of_encode :
    (forall (header : FrameHeader) (rest : Bytes), header.payloadLength.toNat < 2 ^ 63 ->
      (header.opcode.isControl = true -> header.fin = true) ->
      header.encode.length = header.encodedLength ∧
        parse (header.encode ++ rest) = .ok (some (header, header.encodedLength))) ∧
      forall (octets : Bytes) (header : FrameHeader) (taken : Nat),
        parse octets = .ok (some (header, taken)) ->
        taken <= octets.length ∧ header.encodedLength <= taken ∧
          header.payloadLength.toNat < 2 ^ 63 ∧
          (header.opcode.isControl = true -> header.fin = true) ∧
          (header.encode = octets.take taken <-> taken = header.encodedLength) ∧
          (taken = header.encodedLength <->
            exists field, formOf? octets = some field ∧
              field.IsShortest header.payloadLength) := by
  constructor
  · intro header rest hsmall hfinal
    refine And.intro header.length_encode ?_
    rw [← length_encode, encode_eq_layout]
    exact parse_layout (LengthField.holds_forLength _) hsmall hfinal rest
  · intro octets header taken hparse
    rcases layout_of_parse hparse with ⟨field, rest, rfl, hholds, hsmall, hfinal, rfl⟩
    have hform := formOf?_layout hholds rest
    have hlength := encodedLength_eq_iff hholds
    have hleast := (LengthField.isShortest_forLength header.payloadLength).least field hholds
    refine ⟨?_, ?_, hsmall, hfinal, ?_, ?_⟩
    · rw [List.length_append]
      omega
    · rw [length_layout, encodedLength]
      omega
    · rw [List.take_left]
      constructor
      · intro hencode
        rw [← hencode, length_encode]
      · intro htaken
        rw [encode_eq_layout, hlength.mp htaken]
    · rw [hlength, hform]
      constructor
      · rintro rfl
        exact ⟨_, rfl, LengthField.isShortest_forLength _⟩
      · rintro ⟨_, ⟨⟩, hshortest⟩
        exact hshortest.eq_forLength

/-- A masked header of a long text, and a ping whose length of five stands in sixteen
bits. -/
theorem parse_of_padded_ping :
    let text : FrameHeader := ⟨false, .text, 70000, some ⟨1, 2, 3, 4⟩⟩
    let ping : FrameHeader := ⟨true, .ping, 5, none⟩
    let octets : Bytes := [0x89, 0x7E, 0x00, 0x05, 0x68]
    (text.encode.length = 14 ∧ parse (text.encode ++ [0xFF]) = .ok (some (text, 14))) ∧
      parse octets = .ok (some (ping, 4)) ∧ ping.encode ≠ octets.take 4 := by
  intro text ping octets
  constructor
  · exact parse_of_encode.left text [0xFF] (by decide) (by decide)
  · have hparse : parse octets = .ok (some (ping, 4)) := by rfl
    rcases parse_of_encode.right _ _ _ hparse with ⟨_, _, _, _, hencode, _⟩
    exact And.intro hparse fun heq => absurd (hencode.mp heq) (by decide)

/-!
## More octets

A parse that came to a header or to an error reads no further: what arrives later does
not change it.  With less than the header there is neither.
-/

theorem parse_append (hparse : parse octets ≠ .ok none) (more : Bytes) :
    parse (octets ++ more) = parse octets := by
  have hparsing := parsing octets
  generalize hresult : parse octets = result at hparse hparsing
  cases hparsing with
  | nothing => exact absurd rfl hparse
  | lone => exact absurd rfl hparse
  | short => exact absurd rfl hparse
  | refused hfirst =>
      rw [List.cons_append, List.cons_append, parse, hfirst]
      rfl
  | overlong hfirst hsecond hextended hdecode =>
      rw [List.cons_append, List.cons_append, List.append_assoc, List.append_assoc,
        parse_of_fields _ _ hfirst hsecond hextended, hdecode]
      rfl
  | whole hfirst hsecond hextended hdecode =>
      rw [List.cons_append, List.cons_append, List.append_assoc, List.append_assoc,
        parse_of_fields _ _ hfirst hsecond hextended, hdecode]
      rfl

theorem taken_le_length (hparse : parse octets = .ok (some (header, taken))) :
    taken <= octets.length := by
  rcases layout_of_parse hparse with ⟨field, rest, rfl, _, _, _, rfl⟩
  rw [List.length_append]
  exact Nat.le_add_right _ _

/-- Of the octets with a header at their front, the first ones hold the same header if
they are as many as it takes, and otherwise none that is complete. -/
theorem parse_front {front : Bytes} (hparse : parse octets = .ok (some (header, taken)))
    (hfront : front <+: octets) :
    parse front = if front.length < taken then .ok none else .ok (some (header, taken)) := by
  split
  case isTrue hshort =>
      by_cases hfound : parse front = .ok none
      case pos => exact hfound
      case neg =>
          -- What is found would be found in all the octets, and takes more than `front`.
          rcases hfront with ⟨more, rfl⟩
          rw [parse_append hfound] at hparse
          exact absurd (taken_le_length hparse) (Nat.not_le_of_lt hshort)
  case isFalse hlong =>
      rcases layout_of_parse hparse with ⟨field, rest, rfl, hholds, hsmall, hfinal, rfl⟩
      have hlayout : header.layout field <+: front :=
        List.prefix_of_prefix_length_le (List.prefix_append _ _) hfront (Nat.le_of_not_lt hlong)
      rcases hlayout with ⟨left, rfl⟩
      exact parse_layout hholds hsmall hfinal left

/-- One octet is added after the other until the parse comes to a header or to an error;
what has not been added then is left. -/
def feed (octets : Bytes) : Bytes -> Except Error (Option (FrameHeader × Nat)) × Bytes
  | [] => (parse octets, [])
  | next :: later =>
      match parse octets with
      | .ok none => feed (octets ++ [next]) later
      | found => (found, next :: later)

theorem feed_of_found {later : Bytes} (hfound : parse octets ≠ .ok none) :
    feed octets later = (parse octets, later) := by
  cases later with
  | nil => rfl
  | cons next later =>
      rw [feed]
      split
      case h_1 hnone => exact absurd hnone hfound
      case h_2 => rfl

theorem feed_fst (octets later : Bytes) : (feed octets later).1 = parse (octets ++ later) := by
  induction later generalizing octets with
  | nil => rw [feed, List.append_nil]
  | cons next later ih =>
      by_cases hfound : parse octets = .ok none
      case pos => rw [feed, hfound, ih, List.append_assoc, List.singleton_append]
      case neg => rw [feed_of_found hfound, parse_append hfound]

theorem feed_snd {later : Bytes} (hparse : parse (octets ++ later) = .ok (some (header, taken)))
    (hearly : octets.length <= taken) :
    (feed octets later).2 = (octets ++ later).drop taken := by
  induction later generalizing octets with
  | nil => rw [feed, List.append_nil, List.drop_of_length_le hearly]
  | cons next later ih =>
      have hfront := parse_front hparse (List.prefix_append _ _)
      by_cases hshort : octets.length < taken
      case pos =>
          rw [if_pos hshort] at hfront
          rw [← List.singleton_append, ← List.append_assoc] at hparse
          rw [feed, hfront]
          have hnext : (octets ++ [next]).length <= taken := by
            rw [List.length_append, List.length_singleton]
            exact hshort
          exact (ih hparse hnext).trans (by rw [List.append_assoc, List.singleton_append])
      case neg =>
          rw [if_neg hshort] at hfront
          obtain rfl : taken = octets.length := by omega
          rw [feed_of_found (by rw [hfront]; nofun), List.drop_left]

/-- More octets change neither a header that was found nor an error, and less of the
octets than a header takes come to nothing.  So whoever adds one octet after the other
finds what is found in all of them, and a header at the same position. -/
theorem parse_of_more :
    (forall octets more : Bytes, parse octets ≠ .ok none ->
      parse (octets ++ more) = parse octets) ∧
      (forall (octets front : Bytes) (header : FrameHeader) (taken : Nat),
        parse octets = .ok (some (header, taken)) -> front <+: octets ->
        front.length < taken -> parse front = .ok none) ∧
      forall octets : Bytes, (feed [] octets).1 = parse octets ∧
        forall (header : FrameHeader) (taken : Nat),
          parse octets = .ok (some (header, taken)) ->
          taken <= octets.length ∧ (feed [] octets).2 = octets.drop taken := by
  refine And.intro (fun octets more hfound => parse_append hfound more) (And.intro ?_ ?_)
  · intro octets front header taken hparse hfront hshort
    rw [parse_front hparse hfront, if_pos hshort]
  · intro octets
    refine And.intro (feed_fst [] octets) ?_
    intro header taken hparse
    exact And.intro (taken_le_length hparse) (feed_snd hparse (Nat.zero_le _))

/-- The header of a masked text of 126 octets, which takes eight octets, with the first
octet of the text behind it; and a reserved bit, which is refused with the second octet. -/
theorem parse_of_masked_text :
    let octets : Bytes := [0x81, 0xFE, 0x00, 0x7E, 1, 2, 3, 4, 0x69]
    let header : FrameHeader := ⟨true, .text, 126, some ⟨1, 2, 3, 4⟩⟩
    parse octets = .ok (some (header, 8)) ∧ parse (octets.take 7) = .ok none ∧
      parse (octets ++ [0xFF]) = .ok (some (header, 8)) ∧
      feed [] octets = (.ok (some (header, 8)), [0x69]) ∧
      parse [0xC1, 0x00, 0xFF] = .error .reservedBitsSet := by
  intro octets header
  have hparse : parse octets = .ok (some (header, 8)) := by rfl
  have hrefused : parse [0xC1, 0x00] = .error .reservedBitsSet := by rfl
  rcases parse_of_more with ⟨hmore, hless, hfeed⟩
  refine ⟨hparse, ?_, ?_, ?_, ?_⟩
  · exact hless octets _ header 8 hparse (List.take_prefix _ _) (by decide)
  · exact (hmore octets [0xFF] (by rw [hparse]; nofun)).trans hparse
  · exact Prod.ext ((hfeed octets).left.trans hparse) ((hfeed octets).right header 8 hparse).right
  · exact (hmore [0xC1, 0x00] [0xFF] (by rw [hrefused]; nofun)).trans hrefused

end FrameHeader

end WebSocketClient
