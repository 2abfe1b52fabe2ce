import WebSocketClient.Proofs.Headers

/-!
# Frames field by field

A frame is read from a stream field by field, and a header is parsed from octets in
memory at once.  Where the stream has ended they agree: what the parse finds decides
what is read and how many octets are taken.  The read goes further only where a field
that is there is refused although the header is not complete.
-/

namespace WebSocketClient

namespace LengthField

/-- A length that would be negative as a signed number. -/
def topBitError : Error :=
  .protocolViolation "most significant bit of 64-bit payload length is set"

/-- Of the lengths whose octets are there, only one of 64 bits is refused, for its top
bit. -/
theorem decode_eq_error_iff {field : LengthField} {extended : Bytes} {error : Error}
    (hlength : extended.length = field.extraOctets) :
    field.decode extended = .error error <->
      field = .extended64 ∧ 2 ^ 63 <= Bytes.ofBigEndian extended ∧ error = topBitError := by
  unfold decode
  rw [if_neg (not_not_intro hlength)]
  cases field with
  | inline short => simp
  | extended16 => simp
  | extended64 =>
      have hvalue := toNat_ofBigEndian (Nat.le_of_eq hlength)
      have hbit := shiftRight_eq_zero_iff (UInt64.ofNat (Bytes.ofBigEndian extended))
      rw [hvalue] at hbit
      dsimp only
      split
      case isTrue hsmall =>
          have hsmall := hbit.mp hsmall
          exact iff_of_false (by simp) fun hlarge => absurd hlarge.right.left (by omega)
      case isFalse hlarge =>
          have hlarge := Nat.le_of_not_lt (mt hbit.mpr hlarge)
          constructor
          · intro herror
            exact ⟨rfl, hlarge, (Except.error.inj herror).symm⟩
          · rintro ⟨_, _, rfl⟩
            rfl

end LengthField

namespace Frame

variable {role : Role} {limits : Limits} {source : Source}

/-!
## A payload that is refused or cut off
-/

section Payload

variable {header : FrameHeader}

theorem readPayload_of_invalid {error : Error}
    (hvalidate : header.validate role limits = .error error) :
    (readPayload role limits header source).Fails error source.bytes :=
  Reading.fails_ofExcept hvalidate rfl _

theorem readPayload_of_short (hvalidate : header.validate role limits = .ok ())
    (hshort : source.bytes.length < header.payloadLength.toNat)
    (hending : source.ending = some .endOfStream) :
    (readPayload role limits header source).Ends := by
  rw [readPayload, hvalidate]
  exact Source.exactly_ends hshort hending _

end Payload

/-!
## A length that is refused, and fields that are cut off
-/

section Length

variable {fin isMasked : Bool} {opcode : Opcode} {field : LengthField} {extended left : Bytes}

theorem readLength_of_short (hshort : source.bytes.length < field.extraOctets)
    (hending : source.ending = some .endOfStream) :
    (readLength role limits fin opcode isMasked field source).Ends :=
  Source.exactly_ends hshort hending _

theorem readLength_of_overlong {error : Error} (hbytes : source.bytes = extended ++ left)
    (hextended : extended.length = field.extraOctets)
    (hdecode : field.decode extended = .error error) :
    (readLength role limits fin opcode isMasked field source).Fails error left := by
  rcases Source.exactly_gives hbytes rfl with ⟨rest, hread, hrest, _⟩
  rw [readLength, ← hextended, hread]
  exact Reading.fails_ofExcept hdecode hrest _

theorem readLength_of_cut_key {length : UInt64} (hbytes : source.bytes = extended ++ left)
    (hextended : extended.length = field.extraOctets)
    (hdecode : field.decode extended = .ok length) (hshort : left.length < if isMasked then 4 else 0)
    (hending : source.ending = some .endOfStream) :
    (readLength role limits fin opcode isMasked field source).Ends := by
  rcases Source.exactly_gives hbytes hending with ⟨rest, hread, rfl, hending⟩
  rw [readLength, ← hextended, hread, Reading.done_andThen, hdecode, Reading.ofExcept,
    Reading.done_andThen]
  exact Source.exactly_ends hshort hending _

end Length

/-!
## The first two octets
-/

section First

variable {first second : UInt8} {rest : Bytes} {fin isMasked : Bool} {opcode : Opcode}
  {field : LengthField}

theorem read_of_nothing (hbytes : source.bytes = []) (hending : source.ending = some .endOfStream) :
    (read role limits source).Ends := by
  rw [read, Source.octet_of_bytes_eq_nil hbytes hending]
  exact ⟨source.exhausted, rfl⟩

theorem read_of_refused {error : Error} (hbytes : source.bytes = first :: rest)
    (hfirst : FrameHeader.decodeFirst first = .error error) :
    (read role limits source).Fails error rest := by
  rcases Source.octet_gives hbytes rfl with ⟨behind, hread, hbehind, _⟩
  rw [read, hread]
  exact Reading.fails_ofExcept hfirst hbehind _

theorem read_of_lone (hbytes : source.bytes = [first])
    (hfirst : FrameHeader.decodeFirst first = .ok (fin, opcode))
    (hending : source.ending = some .endOfStream) : (read role limits source).Ends := by
  rcases Source.octet_gives hbytes hending with ⟨behind, hread, hbehind, hending⟩
  rw [read, hread, Reading.done_andThen, readAfter_eq, hfirst, Reading.ofExcept,
    Reading.done_andThen, Source.octet_of_bytes_eq_nil hbehind hending]
  exact ⟨behind.exhausted, rfl⟩

theorem read_goesOn (role : Role) (limits : Limits) (hbytes : source.bytes = first :: second :: rest)
    (hfirst : FrameHeader.decodeFirst first = .ok (fin, opcode))
    (hsecond : FrameHeader.decodeSecond second = (isMasked, field)) :
    exists behind, read role limits source =
        readLength role limits fin opcode isMasked field behind ∧
      behind.bytes = rest ∧ behind.ending = source.ending := by
  rcases Source.octet_gives hbytes rfl with ⟨behindFirst, hread, hbytes, hending⟩
  rcases Source.octet_gives hbytes hending with ⟨behind, hread', hbehind, hending⟩
  refine ⟨behind, ?_, hbehind, hending⟩
  rw [read, hread, Reading.done_andThen, readAfter_eq, hfirst, Reading.ofExcept,
    Reading.done_andThen, hread', Reading.done_andThen, hsecond]

end First

/-!
## A read and a parse
-/

def HasBadFirst (octets : Bytes) (error : Error) : Prop :=
  exists first rest, octets = first :: rest ∧ FrameHeader.decodeFirst first = .error error

/-- Behind a good first octet stands a 64-bit length with its top bit set. -/
def HasBadLength (octets : Bytes) (error : Error) : Prop :=
  exists first fin opcode second isMasked extended rest,
    octets = first :: second :: (extended ++ rest) ∧
      FrameHeader.decodeFirst first = .ok (fin, opcode) ∧
      FrameHeader.decodeSecond second = (isMasked, .extended64) ∧ extended.length = 8 ∧
      2 ^ 63 <= Bytes.ofBigEndian extended ∧ error = LengthField.topBitError

theorem HasBadFirst.fails {error : Error} (hbad : HasBadFirst source.bytes error) :
    (read role limits source).FailsAfter 1 error source.bytes := by
  rcases hbad with ⟨first, rest, hbytes, hfirst⟩
  have hfails : (read role limits source).Fails error rest := read_of_refused hbytes hfirst
  exact hfails.after [first] hbytes

theorem HasBadLength.fails {error : Error} (hbad : HasBadLength source.bytes error) :
    (read role limits source).FailsAfter 10 error source.bytes := by
  rcases hbad with ⟨first, fin, opcode, second, isMasked, extended, rest, hbytes, hfirst, hsecond,
    hlength, hlarge, rfl⟩
  rcases read_goesOn role limits hbytes hfirst hsecond with ⟨behind, hread, hbehind, _⟩
  have hdecode := (LengthField.decode_eq_error_iff hlength).mpr ⟨rfl, hlarge, rfl⟩
  have hfails : (read role limits source).Fails LengthField.topBitError rest := by
    rw [hread]
    exact readLength_of_overlong hbehind hlength hdecode
  have hafter := hfails.after (first :: second :: extended) hbytes
  rwa [List.length_cons, List.length_cons, hlength] at hafter

theorem read_of_header (role : Role) (limits : Limits) {header : FrameHeader} {taken : Nat}
    (hparse : FrameHeader.parse source.bytes = .ok (some (header, taken))) :
    exists rest, read role limits source = readPayload role limits header rest ∧
      taken <= source.bytes.length ∧ rest.bytes = source.bytes.drop taken ∧
      rest.ending = source.ending := by
  have hparsing := FrameHeader.parsing source.bytes
  rw [hparse] at hparsing
  generalize hoctets : source.bytes = octets at hparsing
  cases hparsing with
  | @whole first second extended left fin opcode mask field length hfirst hsecond hextended
      hdecode =>
      rcases read_goesOn role limits hoctets hfirst hsecond with ⟨behind, hread, hbytes, hbehind⟩
      rcases readLength_goesOn role limits fin opcode hbytes hextended hdecode with
        ⟨rest, hread', hrest, hrest'⟩
      have hfront : 2 + extended.length + (FrameHeader.keyOctets mask).length =
          (first :: second :: (extended ++ FrameHeader.keyOctets mask)).length := by
        rw [List.length_cons, List.length_cons, List.length_append]
        omega
      have hwhole : first :: second :: (extended ++ (FrameHeader.keyOctets mask ++ left)) =
          first :: second :: (extended ++ FrameHeader.keyOctets mask) ++ left := by simp
      refine ⟨rest, hread.trans hread', ?_, ?_, hrest'.trans hbehind⟩
      · rw [hfront, hwhole, List.length_append]
        exact Nat.le_add_right _ _
      · rw [hfront, hwhole, List.drop_left]
        exact hrest

/-- A header that is not complete ends the read, unless a field of it is refused. -/
theorem ends_of_parse (hparse : FrameHeader.parse source.bytes = .ok none)
    (hending : source.ending = some .endOfStream)
    (hfirst : forall error, ¬ HasBadFirst source.bytes error)
    (hlength : forall error, ¬ HasBadLength source.bytes error) :
    (read role limits source).Ends := by
  have hparsing := FrameHeader.parsing source.bytes
  rw [hparse] at hparsing
  generalize hoctets : source.bytes = octets at hparsing hfirst hlength
  cases hparsing with
  | nothing => exact read_of_nothing hoctets hending
  | @lone first =>
      cases hdecode : FrameHeader.decodeFirst first with
      | error error => exact absurd ⟨first, [], rfl, hdecode⟩ (hfirst error)
      | ok found => exact read_of_lone hoctets hdecode hending
  | @short first second rest fin isMasked opcode field hdecode hsecond hshort =>
      rcases read_goesOn role limits hoctets hdecode hsecond with
        ⟨behind, hread, hbehind, hending'⟩
      rw [hread]
      rw [hending] at hending'
      rw [← hbehind] at hshort
      rcases Nat.lt_or_ge behind.bytes.length field.extraOctets with hcut | hextra
      · exact readLength_of_short hcut hending'
      · -- The length is there, so the key is cut off.
        have hbytes := (List.take_append_drop field.extraOctets behind.bytes).symm
        have hextended := List.length_take_of_le hextra
        cases hvalue : field.decode (behind.bytes.take field.extraOctets) with
        | error error =>
            rcases (LengthField.decode_eq_error_iff hextended).mp hvalue with ⟨rfl, hlarge, herror⟩
            rw [← hbehind, hbytes] at hlength
            exact absurd ⟨first, fin, opcode, second, isMasked, _, _, rfl, hdecode, hsecond,
              hextended, hlarge, herror⟩ (hlength error)
        | ok length =>
            refine readLength_of_cut_key hbytes hextended hvalue ?_ hending'
            rw [List.length_drop]
            omega

/-- What a parse of the octets finds decides what is read from them, in any chunks, before
the stream ends.  A header is judged when it has been taken, and a frame is read if the
payload is there.  A refused field is refused when it has been taken.  Octets that are no
whole header end the read, but a bad first octet that stands alone and a bad length whose
key is cut off are refused all the same. -/
theorem read_of_parse (role : Role) (limits : Limits)
    (hending : source.ending = some .endOfStream) :
    match FrameHeader.parse source.bytes with
    | .ok (some (header, taken)) =>
        match header.validate role limits with
        | .error error => (read role limits source).FailsAfter taken error source.bytes
        | .ok () =>
            if taken + header.payloadLength.toNat <= source.bytes.length then
              (read role limits source).Gives
                ⟨header.fin, header.opcode,
                  masked header.mask ((source.bytes.drop taken).take header.payloadLength.toNat)⟩
                (source.bytes.drop (taken + header.payloadLength.toNat)) source.ending
            else
              (read role limits source).Ends
    | .error error =>
        HasBadFirst source.bytes error ∧
            (read role limits source).FailsAfter 1 error source.bytes ∨
          HasBadLength source.bytes error ∧
            (read role limits source).FailsAfter 10 error source.bytes
    | .ok none =>
        (forall error, HasBadFirst source.bytes error ->
          (read role limits source).FailsAfter 1 error source.bytes) ∧
        (forall error, HasBadLength source.bytes error ->
          (read role limits source).FailsAfter 10 error source.bytes) ∧
        ((forall error, ¬ HasBadFirst source.bytes error) ->
          (forall error, ¬ HasBadLength source.bytes error) -> (read role limits source).Ends) := by
  have hparsing := FrameHeader.parsing source.bytes
  generalize hparse : FrameHeader.parse source.bytes = outcome at hparsing
  match outcome with
  | .ok none =>
      refine ⟨fun error hbad => hbad.fails, fun error hbad => hbad.fails, ?_⟩
      exact ends_of_parse hparse hending
  | .error error =>
      generalize hoctets : source.bytes = octets at hparsing
      cases hparsing with
      | @refused first second rest _ hfirst =>
          have hbad : HasBadFirst source.bytes error := ⟨first, _, hoctets, hfirst⟩
          rw [← hoctets]
          exact Or.inl (And.intro hbad hbad.fails)
      | @overlong first second extended left fin opcode mask field _ hfirst hsecond hextended
          hdecode =>
          rcases (LengthField.decode_eq_error_iff hextended).mp hdecode with ⟨rfl, hlarge, herror⟩
          have hbad : HasBadLength source.bytes error :=
            ⟨first, fin, opcode, second, _, _, _, hoctets, hfirst, hsecond, hextended, hlarge,
              herror⟩
          rw [← hoctets]
          exact Or.inr (And.intro hbad hbad.fails)
  | .ok (some (header, taken)) =>
      rcases read_of_header role limits hparse with ⟨rest, hread, htaken, hrest, hending'⟩
      simp only
      cases hvalidate : header.validate role limits with
      | error error =>
          refine And.intro htaken ?_
          rw [hread, ← hrest]
          exact readPayload_of_invalid hvalidate
      | ok _ =>
          have hlength : rest.bytes.length = source.bytes.length - taken := by
            rw [hrest, List.length_drop]
          simp only
          split
          case isTrue hlong =>
              rw [hread, ← List.drop_drop, ← hrest, ← hending']
              exact readPayload_gives hvalidate (by omega)
          case isFalse hshort =>
              rw [hread]
              exact readPayload_of_short hvalidate (by omega) (hending'.trans hending)

/-- A masked text whose length is in a longer form than needed and whose octets are cut in
the length and in the key, and a length with its top bit set in front of half a key. -/
theorem read_of_parse_of_cut_fields :
    let text : Source :=
      ⟨[[0x81, 0xFE, 0x00], [0x02, 1, 2], [3, 4, 0x69, 0x6B, 0x88]], some .endOfStream⟩
    let negative : Source :=
      ⟨[[0x81, 0xFF, 0x80, 0, 0, 0], [0, 0, 0, 0, 1, 2]], some .endOfStream⟩
    (read .server {} text).Gives ⟨true, .text, [0x68, 0x69]⟩ [0x88] (some .endOfStream) ∧
      FrameHeader.parse negative.bytes = .ok none ∧
      (read .server {} negative).FailsAfter 10 LengthField.topBitError negative.bytes := by
  intro text negative
  constructor
  · have hread := @read_of_parse text .server {} rfl
    have hparse : FrameHeader.parse text.bytes =
        .ok (some (⟨true, .text, 2, some ⟨1, 2, 3, 4⟩⟩, 8)) := by rfl
    rw [hparse] at hread
    exact hread
  · have hread := @read_of_parse negative .server {} rfl
    have hparse : FrameHeader.parse negative.bytes = .ok none := by rfl
    rw [hparse] at hread
    refine And.intro hparse (hread.right.left _ ?_)
    exact ⟨0x81, true, .text, 0xFF, true, [0x80, 0, 0, 0, 0, 0, 0, 0], [1, 2], rfl, rfl, rfl, rfl,
      by decide, rfl⟩

end Frame

end WebSocketClient
