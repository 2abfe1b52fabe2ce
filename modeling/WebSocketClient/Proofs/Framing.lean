import WebSocketClient.Proofs.Layout

/-!
# Frames at the front of a source

A read takes a frame from the front of a source exactly if its octets are there
and it keeps the rules.  It ends only in the middle of a frame, and it fails
because of the octets at hand, whatever follows them.
-/

namespace WebSocketClient

namespace FrameHeader

/-!
## Keys at hand
-/

@[simp] theorem length_keyOctets (mask : Option MaskKey) :
    (keyOctets mask).length = if mask.isSome then 4 else 0 := by
  cases mask <;> rfl

@[simp] theorem key_keyOctets (mask : Option MaskKey) :
    (if mask.isSome then MaskKey.ofBytes? (keyOctets mask) else none) = mask := by
  cases mask <;> rfl

theorem exists_keyOctets_eq {masked : Bool} {octets : Bytes}
    (hlength : octets.length = if masked then 4 else 0) :
    exists mask : Option MaskKey, mask.isSome = masked ∧ octets = keyOctets mask := by
  cases masked with
  | true =>
      rcases MaskKey.exists_toBytes_eq hlength with ⟨key, rfl⟩
      exact ⟨some key, rfl, rfl⟩
  | false => exact ⟨none, rfl, List.length_eq_zero_iff.mp hlength⟩

end FrameHeader

namespace Frame

variable {role : Role} {limits : Limits} {source rest : Source} {frame : Frame}

theorem layout_masked {fin : Bool} {opcode : Opcode} {mask : Option MaskKey} {field : LengthField}
    {length : UInt64} {octets : Bytes} (hlength : octets.length = length.toNat) :
    (⟨fin, opcode, masked mask octets⟩ : Frame).layout mask field =
      FrameHeader.firstOctet fin opcode :: FrameHeader.secondOctet mask.isSome field ::
        (field.extension length ++ (FrameHeader.keyOctets mask ++ octets)) := by
  simp [layout, FrameHeader.layout, FrameHeader.tail, hlength]

theorem laidOut_masked {fin : Bool} {opcode : Opcode} {mask : Option MaskKey} {field : LengthField}
    {length : UInt64} {octets : Bytes} (hholds : field.Holds length)
    (hlength : octets.length = length.toNat) :
    (⟨fin, opcode, masked mask octets⟩ : Frame).LaidOut mask
      (FrameHeader.firstOctet fin opcode :: FrameHeader.secondOctet mask.isSome field ::
        (field.extension length ++ (FrameHeader.keyOctets mask ++ octets))) := by
  rw [← layout_masked hlength]
  refine And.intro ?_ ⟨field, ?_, rfl⟩
  · rw [length_masked, hlength]
    exact length.toNat_lt
  · rw [length_masked, hlength, UInt64.ofNat_toNat]
    exact hholds

/-!
## The parts of a read
-/

def readPayload (role : Role) (limits : Limits) (header : FrameHeader) (source : Source) :
    Reading Frame :=
  (Reading.ofExcept (header.validate role limits) source).andThen fun _ source =>
  (source.exactly header.payloadLength.toNat).andThen fun payload source =>
  .done ⟨header.fin, header.opcode, masked header.mask payload⟩ source

def readLength (role : Role) (limits : Limits) (fin : Bool) (opcode : Opcode) (isMasked : Bool)
    (field : LengthField) (source : Source) : Reading Frame :=
  (source.exactly field.extraOctets).andThen fun extended source =>
  (Reading.ofExcept (field.decode extended) source).andThen fun length source =>
  (source.exactly (if isMasked then 4 else 0)).andThen fun key source =>
  readPayload role limits
    ⟨fin, opcode, length, if isMasked then MaskKey.ofBytes? key else none⟩ source

theorem readAfter_eq (role : Role) (limits : Limits) (first : UInt8) (source : Source) :
    readAfter role limits first source =
      (Reading.ofExcept (FrameHeader.decodeFirst first) source).andThen fun found source =>
      source.octet.andThen fun second source =>
      readLength role limits found.fst found.snd (FrameHeader.decodeSecond second).fst
        (FrameHeader.decodeSecond second).snd source := by
  simp only [readLength, readPayload, masked_eq]
  rfl

section Parts

variable {fin isMasked : Bool} {opcode : Opcode} {field : LengthField} {header : FrameHeader}

theorem readPayload_gives (hvalidate : header.validate role limits = .ok ())
    (hlong : header.payloadLength.toNat <= source.bytes.length) :
    (readPayload role limits header source).Gives
      ⟨header.fin, header.opcode,
        masked header.mask (source.bytes.take header.payloadLength.toNat)⟩
      (source.bytes.drop header.payloadLength.toNat) source.ending := by
  have hbytes := (List.take_append_drop header.payloadLength.toNat source.bytes).symm
  have hpayload := Source.exactly_gives hbytes rfl
  rw [List.length_take_of_le hlong] at hpayload
  rw [readPayload, hvalidate]
  apply hpayload.andThen
  intro rest hrest hending
  exact Reading.gives_done hrest hending

theorem readPayload_eq_done (hdone : readPayload role limits header source = .done frame rest) :
    header.validate role limits = .ok () ∧
      exists payload : Bytes, payload.length = header.payloadLength.toNat ∧
        frame = ⟨header.fin, header.opcode, masked header.mask payload⟩ ∧
        source.bytes = payload ++ rest.bytes ∧ rest.ending = source.ending := by
  rcases Reading.andThen_eq_done hdone with ⟨_, _, hread, hfield⟩
  rcases Reading.ofExcept_eq_done hread with ⟨hvalidate, rfl⟩
  rcases Reading.andThen_eq_done hfield with ⟨payload, behind, hpayload, hlast⟩
  rcases Source.exactly_eq_done hpayload with ⟨hlength, hbytes, hending⟩
  cases hlast
  exact ⟨hvalidate, payload, hlength, rfl, hbytes, hending⟩

theorem readPayload_eq_ended (hended : readPayload role limits header source = .ended rest) :
    source.bytes.length < header.payloadLength.toNat := by
  rcases Reading.andThen_eq_ended hended with hread | ⟨_, _, hread, hfield⟩
  · exact absurd hread Reading.ofExcept_ne_ended
  rcases Reading.ofExcept_eq_done hread with ⟨_, rfl⟩
  rcases Reading.andThen_eq_ended hfield with hpayload | ⟨_, _, _, hlast⟩
  · exact Source.exactly_eq_ended hpayload
  · cases hlast

theorem readLength_goesOn (role : Role) (limits : Limits) (fin : Bool) (opcode : Opcode)
    {extended left : Bytes} {length : UInt64} {mask : Option MaskKey}
    (hbytes : source.bytes = extended ++ (FrameHeader.keyOctets mask ++ left))
    (hextended : extended.length = field.extraOctets)
    (hdecode : field.decode extended = .ok length) :
    exists rest, readLength role limits fin opcode mask.isSome field source =
        readPayload role limits ⟨fin, opcode, length, mask⟩ rest ∧
      rest.bytes = left ∧ rest.ending = source.ending := by
  rcases Source.exactly_gives hbytes rfl with ⟨behindLength, hlength, hbytes, hending⟩
  rcases Source.exactly_gives hbytes hending with ⟨rest, hkey, hrest, hending⟩
  refine ⟨rest, ?_, hrest, hending⟩
  rw [readLength, ← hextended, hlength, Reading.done_andThen, hdecode, Reading.ofExcept,
    Reading.done_andThen, ← FrameHeader.length_keyOctets, hkey, Reading.done_andThen,
    FrameHeader.key_keyOctets]

theorem readLength_eq_done (hshort : forall short, field = .inline short -> short <= 125)
    (hdone : readLength role limits fin opcode isMasked field source = .done frame rest) :
    exists (length : UInt64) (mask : Option MaskKey) (behind : Source),
      field.Holds length ∧ length.toNat < 2 ^ 63 ∧ mask.isSome = isMasked ∧
        source.bytes = field.extension length ++ (FrameHeader.keyOctets mask ++ behind.bytes) ∧
        behind.ending = source.ending ∧
        readPayload role limits ⟨fin, opcode, length, mask⟩ behind = .done frame rest := by
  rcases Reading.andThen_eq_done hdone with ⟨extended, _, hextended, hvalue⟩
  rcases Source.exactly_eq_done hextended with ⟨_, hbytes, hending⟩
  rcases Reading.andThen_eq_done hvalue with ⟨length, _, hread, hfield⟩
  rcases Reading.ofExcept_eq_done hread with ⟨hdecode, rfl⟩
  rcases LengthField.extension_of_decode hshort hdecode with ⟨rfl, hholds, hsmall⟩
  rcases Reading.andThen_eq_done hfield with ⟨key, behind, hkey, hrest⟩
  rcases Source.exactly_eq_done hkey with ⟨hlength, hbytesKey, hendingKey⟩
  rcases FrameHeader.exists_keyOctets_eq hlength with ⟨mask, rfl, rfl⟩
  rw [FrameHeader.key_keyOctets] at hrest
  rw [hbytesKey] at hbytes
  exact ⟨length, mask, behind, hholds, hsmall, rfl, hbytes, hendingKey.trans hending, hrest⟩

theorem exists_missing {octets : Bytes} {n : Nat} (hshort : octets.length < n) :
    exists missing, missing ≠ [] ∧ (octets ++ missing).length = n := by
  refine ⟨List.replicate (n - octets.length) 0, ?_, ?_⟩
  · rw [Ne, List.replicate_eq_nil_iff]
    omega
  · rw [List.length_append, List.length_replicate]
    omega

theorem exists_mask (isMasked : Bool) : exists mask : Option MaskKey, mask.isSome = isMasked := by
  cases isMasked with
  | true => exact ⟨some ⟨0, 0, 0, 0⟩, rfl⟩
  | false => exact ⟨none, rfl⟩

/-- Where the stream ends behind the first two octets, a length, a key and a payload can be
made up so that they fit what was read. -/
theorem readLength_eq_ended (hshort : forall short, field = .inline short -> short <= 125)
    (hended : readLength role limits fin opcode isMasked field source = .ended rest) :
    exists (length : UInt64) (mask : Option MaskKey) (payload missing : Bytes),
      field.Holds length ∧ mask.isSome = isMasked ∧ payload.length = length.toNat ∧
        missing ≠ [] ∧
        source.bytes ++ missing =
          field.extension length ++ (FrameHeader.keyOctets mask ++ payload) := by
  rcases Reading.andThen_eq_ended hended with hextended | ⟨extended, _, hextended, hvalue⟩
  · rcases exists_missing (Source.exactly_eq_ended hextended) with ⟨missing, hmissing, hlength⟩
    rcases LengthField.exists_extension_eq hshort hlength with ⟨length, hextension, hholds⟩
    rcases exists_mask isMasked with ⟨mask, hmask⟩
    refine ⟨length, mask, List.replicate length.toNat 0,
      missing ++ (FrameHeader.keyOctets mask ++ List.replicate length.toNat 0), hholds, hmask,
      List.length_replicate, by simp [hmissing], ?_⟩
    rw [← List.append_assoc, hextension]
  rcases Source.exactly_eq_done hextended with ⟨_, hbytes, _⟩
  rcases Reading.andThen_eq_ended hvalue with hread | ⟨length, _, hread, hfield⟩
  · exact absurd hread Reading.ofExcept_ne_ended
  rcases Reading.ofExcept_eq_done hread with ⟨hdecode, rfl⟩
  rcases LengthField.extension_of_decode hshort hdecode with ⟨rfl, hholds, _⟩
  rcases Reading.andThen_eq_ended hfield with hkey | ⟨key, _, hkey, hrest⟩
  · rcases exists_missing (Source.exactly_eq_ended hkey) with ⟨missing, hmissing, hlength⟩
    rcases FrameHeader.exists_keyOctets_eq hlength with ⟨mask, rfl, hkeyOctets⟩
    refine ⟨length, mask, List.replicate length.toNat 0,
      missing ++ List.replicate length.toNat 0, hholds, rfl, List.length_replicate,
      by simp [hmissing], ?_⟩
    rw [hbytes, List.append_assoc, ← List.append_assoc _ missing, hkeyOctets]
  rcases Source.exactly_eq_done hkey with ⟨hlength, hbytesKey, _⟩
  rcases FrameHeader.exists_keyOctets_eq hlength with ⟨mask, rfl, rfl⟩
  rw [FrameHeader.key_keyOctets] at hrest
  rcases exists_missing (readPayload_eq_ended hrest) with ⟨missing, hmissing, hlength⟩
  refine ⟨length, mask, _, missing, hholds, rfl, hlength, hmissing, ?_⟩
  rw [hbytes, hbytesKey, List.append_assoc, List.append_assoc]

end Parts

/-!
## Frames that are there
-/

theorem readAfter_gives {mask : Option MaskKey} {field : LengthField} {left : Bytes}
    {ending : Option Ending} (hholds : field.Holds (UInt64.ofNat frame.payload.length))
    (hmask : mask.isSome = role.expectsMasked) (hkeeps : frame.Keeps limits)
    (hbytes : source.bytes = FrameHeader.secondOctet mask.isSome field ::
      (field.extension (UInt64.ofNat frame.payload.length) ++
        (FrameHeader.keyOctets mask ++ (masked mask frame.payload ++ left))))
    (hending : source.ending = ending) :
    (readAfter role limits (FrameHeader.firstOctet frame.fin frame.opcode) source).Gives frame left
      ending := by
  have hsmall := hkeeps.small
  have hvalue : (UInt64.ofNat frame.payload.length).toNat = (masked mask frame.payload).length := by
    rw [UInt64.toNat_ofNat', length_masked, Nat.mod_eq_of_lt (by omega)]
  have hextended := LengthField.length_extension field (UInt64.ofNat frame.payload.length)
  have hdecode : field.decode (field.extension (UInt64.ofNat frame.payload.length)) = .ok _ :=
    LengthField.decode_extension hholds (by rw [hvalue, length_masked]; exact hsmall)
  have hvalid : (frame.header mask).validate role limits = .ok () :=
    (validate_header_eq_ok_iff (by omega)).mpr ⟨hmask, hkeeps.short, hkeeps.limit⟩
  rw [readAfter_eq]
  have hfirst := FrameHeader.decodeFirst_firstOctet hkeeps.final
  apply (Reading.gives_ofExcept hfirst rfl hending).andThen
  intro source hsource hending
  apply (Source.octet_gives (hsource.trans hbytes) hending).andThen
  intro source hsource hending
  rw [FrameHeader.decodeSecond_secondOctet hholds]
  rcases readLength_goesOn role limits frame.fin frame.opcode hsource hextended hdecode with
    ⟨behind, hread, hbehind, hending'⟩
  have hlong : (frame.header mask).payloadLength.toNat <= behind.bytes.length := by
    rw [header, hvalue, hbehind, List.length_append]
    exact Nat.le_add_right _ _
  have hgives := readPayload_gives hvalid hlong
  rw [header, hvalue, hbehind, List.take_left, List.drop_left, masked_masked, hending',
    hending] at hgives
  rw [hread]
  exact hgives

theorem read_gives {mask : Option MaskKey} {octets left : Bytes} {ending : Option Ending}
    (hlaid : frame.LaidOut mask octets) (hmask : mask.isSome = role.expectsMasked)
    (hkeeps : frame.Keeps limits) (hbytes : source.bytes = octets ++ left)
    (hending : source.ending = ending) : (read role limits source).Gives frame left ending := by
  rcases hlaid with ⟨_, field, hholds, rfl⟩
  unfold read
  apply (Source.octet_gives (hbytes.trans rfl) hending).andThen
  intro source hsource hending
  apply readAfter_gives hholds hmask hkeeps _ hending
  rw [hsource]
  simp [FrameHeader.tail]

theorem readAfter_eq_done {first : UInt8}
    (hdone : readAfter role limits first source = .done frame rest) :
    exists mask octets, frame.LaidOut mask (first :: octets) ∧
      mask.isSome = role.expectsMasked ∧ frame.Keeps limits ∧
      source.bytes = octets ++ rest.bytes ∧ rest.ending = source.ending := by
  rw [readAfter_eq] at hdone
  rcases Reading.andThen_eq_done hdone with ⟨⟨fin, opcode⟩, _, hread, hfields⟩
  rcases Reading.ofExcept_eq_done hread with ⟨hfirst, rfl⟩
  rcases FrameHeader.decodeFirst_eq_ok hfirst with ⟨rfl, hfinal⟩
  rcases Reading.andThen_eq_done hfields with ⟨second, behindSecond, hsecond, hlengthField⟩
  rcases Source.octet_eq_done hsecond with ⟨hbytes, hending⟩
  rcases hform : FrameHeader.decodeSecond second with ⟨isMasked, field⟩
  rw [hform] at hlengthField
  rcases FrameHeader.decodeSecond_eq hform with ⟨rfl, hshort⟩
  rcases readLength_eq_done hshort hlengthField with
    ⟨length, mask, behind, hholds, hsmall, rfl, hbytesFields, hendingFields, hpayloadField⟩
  rcases readPayload_eq_done hpayloadField with
    ⟨hvalid, payload, hpayload, rfl, hbytesPayload, hendingPayload⟩
  have hlength : (masked mask payload).length = length.toNat := by
    rw [length_masked, hpayload]
  have hheader : (⟨fin, opcode, length, mask⟩ : FrameHeader) =
      (⟨fin, opcode, masked mask payload⟩ : Frame).header mask := by
    rw [header, hlength, UInt64.ofNat_toNat]
  rw [hheader, validate_header_eq_ok_iff (by rw [hlength]; exact length.toNat_lt)] at hvalid
  refine ⟨mask, _, laidOut_masked hholds hpayload, hvalid.left, ?_, ?_, ?_⟩
  · exact ⟨hfinal, hvalid.right.left, by rw [hlength]; exact hsmall, hvalid.right.right⟩
  · rw [hbytes, hbytesFields, hbytesPayload]
    simp
  · rw [hendingPayload, hendingFields, hending]

theorem first_of_readAfter {first : UInt8}
    (hdone : readAfter role limits first source = .done frame rest) :
    first = FrameHeader.firstOctet frame.fin frame.opcode ∧
      (frame.opcode.isControl = true -> frame.fin = true) := by
  rcases readAfter_eq_done hdone with ⟨mask, octets, ⟨_, field, _, hoctets⟩, _, hkeeps, _, _⟩
  exact And.intro (List.cons.inj hoctets).left hkeeps.final

/-- A read takes the octets of a frame that keeps the rules. -/
theorem read_eq_done (hdone : read role limits source = .done frame rest) :
    exists mask octets, frame.LaidOut mask octets ∧ mask.isSome = role.expectsMasked ∧
      frame.Keeps limits ∧ source.bytes = octets ++ rest.bytes ∧ rest.ending = source.ending := by
  rcases Reading.andThen_eq_done hdone with ⟨first, _, hread, hdone⟩
  rcases Source.octet_eq_done hread with ⟨hbytes, hending⟩
  rcases readAfter_eq_done hdone with ⟨mask, octets, hlaid, hmask, hkeeps, hbytes', hending'⟩
  refine ⟨mask, _, hlaid, hmask, hkeeps, ?_, hending'.trans hending⟩
  rw [hbytes, hbytes', List.cons_append]

/-!
## Frames that are not complete
-/

theorem laidOut_empty (fin : Bool) (opcode : Opcode) : (⟨fin, opcode, []⟩ : Frame).LaidOut none
    [FrameHeader.firstOctet fin opcode, FrameHeader.secondOctet false (.inline 0)] :=
  And.intro (Nat.two_pow_pos 64) ⟨.inline 0, And.intro (by decide) rfl, rfl⟩

theorem readAfter_eq_ended {first : UInt8}
    (hended : readAfter role limits first source = .ended rest) :
    exists (frame : Frame) (mask : Option MaskKey) (missing : Bytes),
      missing ≠ [] ∧ frame.LaidOut mask (first :: (source.bytes ++ missing)) := by
  rw [readAfter_eq] at hended
  rcases Reading.andThen_eq_ended hended with hread | ⟨⟨fin, opcode⟩, _, hread, hfields⟩
  · exact absurd hread Reading.ofExcept_ne_ended
  rcases Reading.ofExcept_eq_done hread with ⟨hfirst, rfl⟩
  rcases FrameHeader.decodeFirst_eq_ok hfirst with ⟨rfl, hfinal⟩
  rcases Reading.andThen_eq_ended hfields with hsecond | ⟨second, _, hsecond, hlengthField⟩
  · refine ⟨⟨fin, opcode, []⟩, none, [FrameHeader.secondOctet false (.inline 0)], by simp, ?_⟩
    rw [Source.octet_eq_ended hsecond, List.nil_append]
    exact laidOut_empty fin opcode
  rcases hform : FrameHeader.decodeSecond second with ⟨isMasked, field⟩
  rw [hform] at hlengthField
  rcases FrameHeader.decodeSecond_eq hform with ⟨rfl, hshort⟩
  rcases readLength_eq_ended hshort hlengthField with
    ⟨length, mask, payload, missing, hholds, rfl, hpayload, hmissing, hfilled⟩
  refine ⟨⟨fin, opcode, masked mask payload⟩, mask, missing, hmissing, ?_⟩
  rw [(Source.octet_eq_done hsecond).left, List.cons_append, hfilled]
  exact laidOut_masked hholds hpayload

/-- A read ends only in the middle of a frame. -/
theorem read_eq_ended (hended : read role limits source = .ended rest) :
    exists (frame : Frame) (mask : Option MaskKey) (missing : Bytes),
      missing ≠ [] ∧ frame.LaidOut mask (source.bytes ++ missing) := by
  rcases Reading.andThen_eq_ended hended with hfirst | ⟨first, _, hfirst, hended⟩
  · refine ⟨⟨true, .binary, []⟩, none, [FrameHeader.firstOctet true .binary,
      FrameHeader.secondOctet false (.inline 0)], by simp, ?_⟩
    rw [Source.octet_eq_ended hfirst, List.nil_append]
    exact laidOut_empty true .binary
  · rcases readAfter_eq_ended hended with ⟨frame, mask, missing, hmissing, hlaid⟩
    refine ⟨frame, mask, missing, hmissing, ?_⟩
    rw [(Source.octet_eq_done hfirst).left, List.cons_append]
    exact hlaid

/-!
## Frames with more behind
-/

theorem readAfter_outlasts {source' : Source} {more : Bytes}
    (hbytes : source'.bytes = source.bytes ++ more) (first : UInt8) :
    Reading.Outlasts more (readAfter role limits first source)
      (readAfter role limits first source') := by
  unfold readAfter
  apply (Reading.outlasts_ofExcept _ hbytes).andThen
  intro (fin, opcode) source source' hbytes
  apply (Source.octet_outlasts hbytes).andThen
  intro second source source' hbytes
  apply (Source.exactly_outlasts hbytes _).andThen
  intro extended source source' hbytes
  apply (Reading.outlasts_ofExcept _ hbytes).andThen
  intro length source source' hbytes
  apply (Source.exactly_outlasts hbytes _).andThen
  intro key source source' hbytes
  apply (Reading.outlasts_ofExcept _ hbytes).andThen
  intro _ source source' hbytes
  apply (Source.exactly_outlasts hbytes _).andThen
  intro payload source source' hbytes
  exact .done hbytes

theorem readAfter_minds {ending : Option Ending} (hending : source.ending = ending)
    (first : UInt8) : (readAfter role limits first source).Minds ending := by
  unfold readAfter
  apply (Reading.minds_ofExcept (fun _ => FrameHeader.kind_of_decodeFirst) hending).andThen
  intro (fin, opcode) source hending
  apply (Source.octet_minds hending).andThen
  intro second source hending
  apply (Source.exactly_minds hending _).andThen
  intro extended source hending
  apply (Reading.minds_ofExcept (fun _ => LengthField.kind_of_decode) hending).andThen
  intro length source hending
  apply (Source.exactly_minds hending _).andThen
  intro key source hending
  apply (Reading.minds_ofExcept (fun _ => FrameHeader.kind_of_validate) hending).andThen
  intro _ source hending
  apply (Source.exactly_minds hending _).andThen
  intro payload source hending
  exact .done hending

/-!
## Frames one after another
-/

/-- The octets of frames one after another, each of them masked or none. -/
inductive Stream (isMasked : Bool) : List Frame -> Bytes -> Prop
  | nil : Stream isMasked [] []
  | cons {frame : Frame} {mask : Option MaskKey} {octets behind : Bytes} {frames : List Frame} :
      frame.LaidOut mask octets -> mask.isSome = isMasked -> Stream isMasked frames behind ->
      Stream isMasked (frame :: frames) (octets ++ behind)

theorem Stream.append {isMasked : Bool} {frames later : List Frame} {octets behind : Bytes}
    (hframes : Stream isMasked frames octets) (hlater : Stream isMasked later behind) :
    Stream isMasked (frames ++ later) (octets ++ behind) := by
  induction hframes with
  | nil => exact hlater
  | cons hlaid hmask hrest ih =>
      rw [List.append_assoc]
      exact .cons hlaid hmask ih

theorem Stream.single {mask : Option MaskKey} {octets : Bytes} (hlaid : frame.LaidOut mask octets) :
    Stream mask.isSome [frame] octets := by
  rw [← List.append_nil octets]
  exact .cons hlaid rfl .nil

theorem stream_encode (mask : Option MaskKey) {frames : List Frame}
    (hlength : forall frame, frame ∈ frames -> frame.payload.length < 2 ^ 64) :
    Stream mask.isSome frames (frames.flatMap fun frame => frame.encode mask) := by
  induction frames with
  | nil => exact .nil
  | cons frame frames ih =>
      rw [List.flatMap_cons]
      refine .cons (laidOut_encode (hlength frame List.mem_cons_self) mask) rfl (ih ?_)
      exact fun other hother => hlength other (List.mem_cons_of_mem _ hother)

theorem two_le_length {mask : Option MaskKey} {octets : Bytes} (hlaid : frame.LaidOut mask octets) :
    2 <= octets.length := by
  rcases hlaid with ⟨_, field, _, rfl⟩
  exact Nat.le_add_left 2 _

theorem length_lt_of_read (hdone : read role limits source = .done frame rest) :
    rest.bytes.length < source.bytes.length := by
  rcases read_eq_done hdone with ⟨mask, octets, hlaid, _, _, hbytes, _⟩
  have hlength := two_le_length hlaid
  rw [hbytes, List.length_append]
  omega

/-- Read frames as long as there are any, and then what comes instead of one. -/
def readAll (role : Role) (limits : Limits) (source : Source) : List Frame × Reading Frame :=
  match _hread : read role limits source with
  | .done frame rest =>
      let (frames, last) := readAll role limits rest
      (frame :: frames, last)
  | reading => ([], reading)
termination_by source.bytes.length
decreasing_by exact length_lt_of_read ‹_›

theorem readAll_of_done (hread : read role limits source = .done frame rest) :
    readAll role limits source =
      (frame :: (readAll role limits rest).1, (readAll role limits rest).2) := by
  rw [readAll]
  split
  case h_1 frame' rest' hread' =>
      rw [hread] at hread'
      cases hread'
      rfl
  case h_2 hnot => exact absurd hread (hnot frame rest)

theorem readAll_of_ended (hread : read role limits source = .ended rest) :
    readAll role limits source = ([], .ended rest) := by
  rw [readAll]
  split
  case h_1 frame' rest' hread' =>
      rw [hread] at hread'
      cases hread'
  case h_2 => rw [hread]

theorem readAll_of_stream {frames : List Frame} {octets : Bytes}
    (hstream : Stream role.expectsMasked frames octets)
    (hkeeps : forall frame, frame ∈ frames -> frame.Keeps limits) (hbytes : source.bytes = octets)
    (hending : source.ending = some .endOfStream) :
    exists rest, readAll role limits source = (frames, .ended rest) := by
  induction hstream generalizing source with
  | nil =>
      refine ⟨source.exhausted, readAll_of_ended ?_⟩
      rw [read, Source.octet_of_bytes_eq_nil hbytes hending]
      rfl
  | cons hlaid hmask hrest ih =>
      rcases read_gives hlaid hmask (hkeeps _ List.mem_cons_self) hbytes hending with
        ⟨behind, hread, hbehind, hending⟩
      rcases ih (fun _ hlater => hkeeps _ (List.mem_cons_of_mem _ hlater)) hbehind hending with
        ⟨rest, hlater⟩
      rw [readAll_of_done hread, hlater]
      exact ⟨rest, rfl⟩

end Frame

end WebSocketClient
