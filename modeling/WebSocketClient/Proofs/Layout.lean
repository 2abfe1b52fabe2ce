import Mathlib.Algebra.Group.Nat.Defs
import WebSocketClient.Proofs.Masking
import WebSocketClient.Proofs.Supply

/-!
# How frames are laid out

On the wire a frame is its header and its payload.  The header may give the
length in a longer form than needed; the payload is masked if the header has a
key.  The layout is given octet by octet, and what is written is laid out so.
-/

namespace WebSocketClient

namespace Bytes

/-!
## Numbers
-/

theorem foldl_bigEndian (start : Nat) (bytes : Bytes) :
    bytes.foldl (fun value octet => value * 256 + octet.toNat) start =
      start * 256 ^ bytes.length + ofBigEndian bytes := by
  induction bytes generalizing start with
  | nil => simp
  | cons octet rest ih =>
      have hrest : ofBigEndian (octet :: rest) = _ := ih (0 * 256 + octet.toNat)
      rw [List.foldl_cons, ih, hrest, List.length_cons, Nat.pow_succ]
      grind

theorem ofBigEndian_cons (octet : UInt8) (rest : Bytes) :
    ofBigEndian (octet :: rest) = octet.toNat * 256 ^ rest.length + ofBigEndian rest := by
  have hfold := foldl_bigEndian (0 * 256 + octet.toNat) rest
  rw [Nat.zero_mul, Nat.zero_add] at hfold
  rw [← hfold]
  simp [ofBigEndian]

theorem ofBigEndian_lt (bytes : Bytes) : ofBigEndian bytes < 256 ^ bytes.length := by
  induction bytes with
  | nil => simp
  | cons octet rest ih =>
      have hoctet : octet.toNat + 1 <= 256 := octet.toNat_lt
      have hprod := Nat.mul_le_mul_right (256 ^ rest.length) hoctet
      rw [ofBigEndian_cons, List.length_cons, Nat.pow_succ]
      grind

theorem ofBigEndian_bigEndian (width n : Nat) :
    ofBigEndian (bigEndian width n) = n % 256 ^ width := by
  induction width with
  | zero => simp [bigEndian, Nat.mod_one]
  | succ width ih =>
      rw [bigEndian, ofBigEndian_cons, ih, length_bigEndian, Nat.mod_pow_succ]
      simp only [UInt8.toNat_ofNat', Nat.pow_eq]
      grind

theorem bigEndian_mul_add (width k n : Nat) :
    bigEndian width (k * 256 ^ width + n) = bigEndian width n := by
  induction width generalizing k with
  | zero => rfl
  | succ width ih =>
      have hpow : k * 256 ^ (width + 1) = k * 256 * 256 ^ width := by
        rw [Nat.pow_succ]
        grind
      have hpos : 0 < 256 ^ width := Nat.pow_pos (by decide)
      rw [hpow, bigEndian, bigEndian, ih (k * 256)]
      congr 1
      rw [← UInt8.toNat_inj, UInt8.toNat_ofNat', UInt8.toNat_ofNat', Nat.pow_eq,
        Nat.mul_comm (k * 256), Nat.mul_add_div hpos]
      omega

theorem bigEndian_ofBigEndian (bytes : Bytes) :
    bigEndian bytes.length (ofBigEndian bytes) = bytes := by
  induction bytes with
  | nil => rfl
  | cons octet rest ih =>
      have hpos : 0 < 256 ^ rest.length := Nat.pow_pos (by decide)
      rw [ofBigEndian_cons, List.length_cons, bigEndian, bigEndian_mul_add, ih, Nat.pow_eq,
        Nat.mul_comm, Nat.mul_add_div hpos, Nat.div_eq_of_lt (ofBigEndian_lt rest), Nat.add_zero,
        UInt8.ofNat_toNat]

/-- The octets of a word stand in it eight bits apart. -/
theorem ofNat_div_pow (word places : UInt64) {n : Nat} (hplaces : places.toNat = 8 * n)
    (hn : n < 8) : UInt8.ofNat (word.toNat / Nat.pow 256 n) = (word >>> places).toUInt8 := by
  have hpow : 2 ^ (8 * n) = Nat.pow 256 n := Nat.pow_mul 2 8 n
  have hsmall : 8 * n % 64 = 8 * n := Nat.mod_eq_of_lt (by omega)
  rw [← hpow, ← UInt8.toNat_inj, UInt8.toNat_ofNat', UInt64.toNat_toUInt8,
    UInt64.toNat_shiftRight, hplaces, hsmall, Nat.shiftRight_eq_div_pow]

end Bytes

/-!
## Lengths
-/

namespace LengthField

/-- The form has room for the length. -/
def Holds (field : LengthField) (length : UInt64) : Prop :=
  match field with
  | inline short => short <= 125 ∧ length = short.toUInt64
  | extended16 => length.toNat < 0x10000
  | extended64 => True

variable {field : LengthField} {length : UInt64} {extended : Bytes}

@[simp] theorem length_extension (field : LengthField) (length : UInt64) :
    (field.extension length).length = field.extraOctets := by
  cases field <;> simp [extension, extraOctets]

theorem holds_forLength (length : UInt64) : (forLength length).Holds length := by
  unfold forLength
  split
  case isTrue hshort =>
      rw [UInt64.le_iff_toNat_le] at hshort
      simp only [UInt64.reduceToNat] at hshort
      constructor
      · rw [UInt8.le_iff_toNat_le]
        simp
        omega
      · rw [← UInt64.toNat_inj]
        simp
        omega
  case isFalse =>
      split
      case isTrue hmiddle =>
          rw [UInt64.le_iff_toNat_le] at hmiddle
          simp only [UInt64.reduceToNat] at hmiddle
          show length.toNat < 0x10000
          omega
      case isFalse => trivial

theorem ofBigEndian_extension (hholds : field.Holds length) (hextra : field.extraOctets ≠ 0) :
    Bytes.ofBigEndian (field.extension length) = length.toNat := by
  have hlength := length.toNat_lt
  cases field with
  | inline short => exact absurd rfl hextra
  | extended16 =>
      rw [extension, Bytes.ofBigEndian_bigEndian]
      exact Nat.mod_eq_of_lt hholds
  | extended64 =>
      rw [extension, Bytes.ofBigEndian_bigEndian]
      exact Nat.mod_eq_of_lt hlength

theorem shiftRight_eq_zero_iff (length : UInt64) :
    length >>> 63 = 0 <-> length.toNat < 2 ^ 63 := by
  have hlength := length.toNat_lt
  rw [← UInt64.toNat_inj, UInt64.toNat_shiftRight]
  simp only [UInt64.reduceToNat, Nat.shiftRight_eq_div_pow, Nat.reduceMod]
  omega

theorem decode_extension (hholds : field.Holds length) (hsmall : length.toNat < 2 ^ 63) :
    field.decode (field.extension length) = .ok length := by
  have hoctets := ofBigEndian_extension hholds
  unfold decode
  rw [if_neg (by simp)]
  cases field with
  | inline short => exact congrArg Except.ok hholds.right.symm
  | extended16 =>
      rw [hoctets (by decide)]
      exact congrArg Except.ok (UInt64.ofNat_toNat ..)
  | extended64 =>
      simp only
      have hsign := (shiftRight_eq_zero_iff length).mpr hsmall
      rw [hoctets (by decide), UInt64.ofNat_toNat, if_pos hsign]

theorem toNat_ofBigEndian (hlength : extended.length <= 8) :
    (UInt64.ofNat (Bytes.ofBigEndian extended)).toNat = Bytes.ofBigEndian extended := by
  rw [UInt64.toNat_ofNat']
  apply Nat.mod_eq_of_lt
  exact Nat.lt_of_lt_of_le (Bytes.ofBigEndian_lt extended)
    (Nat.pow_le_pow_right (by decide) hlength)

theorem exists_extension_eq (hshort : forall short, field = .inline short -> short <= 125)
    (hlength : extended.length = field.extraOctets) :
    exists length, extended = field.extension length ∧ field.Holds length := by
  have hbound := Bytes.ofBigEndian_lt extended
  have hback := Bytes.bigEndian_ofBigEndian extended
  cases field with
  | inline short =>
      exact ⟨short.toUInt64, List.length_eq_zero_iff.mp hlength, hshort short rfl, rfl⟩
  | extended16 =>
      change extended.length = 2 at hlength
      rw [hlength] at hback hbound
      have hvalue : _ = Bytes.ofBigEndian extended := toNat_ofBigEndian (by omega)
      refine ⟨UInt64.ofNat (Bytes.ofBigEndian extended), ?_, ?_⟩
      · rw [extension, hvalue, hback]
      · show _ < 0x10000
        rw [hvalue]
        exact hbound
  | extended64 =>
      change extended.length = 8 at hlength
      rw [hlength] at hback
      have hvalue : _ = Bytes.ofBigEndian extended := toNat_ofBigEndian (by omega)
      refine ⟨UInt64.ofNat (Bytes.ofBigEndian extended), ?_, trivial⟩
      rw [extension, hvalue, hback]

theorem toNat_lt_of_decode {value : UInt64} (hholds : field.Holds value)
    (hdecode : field.decode (field.extension value) = .ok length) : value.toNat < 2 ^ 63 := by
  cases field with
  | inline short =>
      have hoctet := short.toNat_lt
      rw [hholds.right, UInt8.toNat_toUInt64]
      omega
  | extended16 =>
      have hsmall : value.toNat < 0x10000 := hholds
      omega
  | extended64 =>
      unfold decode at hdecode
      rw [if_neg (by simp)] at hdecode
      simp only [ofBigEndian_extension hholds (by decide), UInt64.ofNat_toNat] at hdecode
      split at hdecode
      case isTrue hsmall => exact (shiftRight_eq_zero_iff value).mp hsmall
      case isFalse => cases hdecode

theorem extension_of_decode (hshort : forall short, field = .inline short -> short <= 125)
    (hdecode : field.decode extended = .ok length) :
    extended = field.extension length ∧ field.Holds length ∧ length.toNat < 2 ^ 63 := by
  have hextra : extended.length = field.extraOctets := by
    unfold decode at hdecode
    split at hdecode
    case isTrue => cases hdecode
    case isFalse hextra => simpa using hextra
  rcases exists_extension_eq hshort hextra with ⟨value, rfl, hholds⟩
  have hsmall := toNat_lt_of_decode hholds hdecode
  rw [decode_extension hholds hsmall] at hdecode
  cases hdecode
  exact ⟨rfl, hholds, hsmall⟩

theorem kind_of_decode {error : Error} (hdecode : field.decode extended = .error error) :
    error.kind = .protocol := by
  unfold decode at hdecode
  split at hdecode
  · cases hdecode
    rfl
  · cases field with
    | inline short => cases hdecode
    | extended16 => cases hdecode
    | extended64 =>
        simp only at hdecode
        split at hdecode
        · cases hdecode
        · cases hdecode
          rfl

end LengthField

/-!
## Headers
-/

namespace FrameHeader

/-- The first octet: the final bit, and the number of the opcode. -/
def firstOctet (fin : Bool) (opcode : Opcode) : UInt8 :=
  let number : UInt8 := match opcode with
    | .continuation => 0
    | .text => 1
    | .binary => 2
    | .close => 8
    | .ping => 9
    | .pong => 10
  if fin then 128 + number else number

/-- The second octet: the mask bit, and the length or the form of the length. -/
def secondOctet (masked : Bool) (field : LengthField) : UInt8 :=
  let form : UInt8 := match field with
    | .inline short => short
    | .extended16 => 126
    | .extended64 => 127
  form ||| (if masked then 128 else 0)

/-- The octets of a length behind the second one, the most significant one first. -/
def lengthOctets (field : LengthField) (length : UInt64) : Bytes :=
  match field with
  | .inline _ => []
  | .extended16 => [(length >>> 8).toUInt8, length.toUInt8]
  | .extended64 =>
      [(length >>> 56).toUInt8, (length >>> 48).toUInt8, (length >>> 40).toUInt8,
        (length >>> 32).toUInt8, (length >>> 24).toUInt8, (length >>> 16).toUInt8,
        (length >>> 8).toUInt8, length.toUInt8]

def keyOctets (mask : Option MaskKey) : Bytes :=
  match mask with
  | some key => [key.first, key.second, key.third, key.fourth]
  | none => []

def tail (header : FrameHeader) (field : LengthField) : Bytes :=
  lengthOctets field header.payloadLength ++ keyOctets header.mask

def layout (header : FrameHeader) (field : LengthField) : Bytes :=
  firstOctet header.fin header.opcode :: secondOctet header.mask.isSome field :: header.tail field

@[simp] theorem lengthOctets_eq (field : LengthField) (length : UInt64) :
    lengthOctets field length = field.extension length := by
  have hoctet (n : Nat) (places : UInt64) (hplaces : places.toNat = 8 * n) (hn : n < 8) :=
    Bytes.ofNat_div_pow length places hplaces hn
  have hlast : UInt8.ofNat (length.toNat / Nat.pow 256 0) = length.toUInt8 := by
    rw [Nat.pow_eq, Nat.pow_zero, Nat.div_one]
    rfl
  cases field with
  | inline short => rfl
  | extended16 =>
      rw [LengthField.extension, Bytes.bigEndian, Bytes.bigEndian, hoctet 1 8 rfl (by decide),
        hlast]
      rfl
  | extended64 =>
      simp only [LengthField.extension, Bytes.bigEndian, hlast]
      rw [hoctet 1 8 rfl (by decide), hoctet 2 16 rfl (by decide), hoctet 3 24 rfl (by decide),
        hoctet 4 32 rfl (by decide), hoctet 5 40 rfl (by decide), hoctet 6 48 rfl (by decide),
        hoctet 7 56 rfl (by decide)]
      rfl

theorem firstOctet_eq (fin : Bool) (opcode : Opcode) :
    firstOctet fin opcode = opcode.toUInt8 ||| (if fin then topBit else 0) := by
  cases fin <;> cases opcode <;> rfl

theorem secondOctet_eq (masked : Bool) (field : LengthField) :
    secondOctet masked field = field.indicator ||| (if masked then topBit else 0) := by
  cases field <;> rfl

theorem keyOctets_eq (mask : Option MaskKey) :
    keyOctets mask = (mask.map MaskKey.toBytes).getD [] := by
  cases mask <;> rfl

theorem encode_eq_layout (header : FrameHeader) :
    header.encode = header.layout (.forLength header.payloadLength) := by
  rw [layout, tail, firstOctet_eq, secondOctet_eq, keyOctets_eq, lengthOctets_eq]
  rfl

theorem decodeFirst_firstOctet {fin : Bool} {opcode : Opcode}
    (hfinal : opcode.isControl = true -> fin = true) :
    decodeFirst (firstOctet fin opcode) = .ok (fin, opcode) := by
  cases fin with
  | true => cases opcode <;> rfl
  | false => cases opcode <;> first | rfl | simp [Opcode.isControl] at hfinal

/-- Whether the first octet is read as it was laid out, or refused with an error
about the protocol. -/
def judgesFirst (octet : UInt8) : Bool :=
  match decodeFirst octet with
  | .ok (fin, opcode) => octet = firstOctet fin opcode && (!opcode.isControl || fin)
  | .error error => error.kind = .protocol

theorem judgesFirst_eq_true (octet : UInt8) : judgesFirst octet = true := by
  revert octet
  exact forall_octet (by decide +kernel)

theorem decodeFirst_eq_ok {octet : UInt8} {fin : Bool} {opcode : Opcode}
    (hdecode : decodeFirst octet = .ok (fin, opcode)) :
    octet = firstOctet fin opcode ∧ (opcode.isControl = true -> fin = true) := by
  have hjudges := judgesFirst_eq_true octet
  rw [judgesFirst, hdecode] at hjudges
  simp only [Bool.and_eq_true, decide_eq_true_eq] at hjudges
  refine And.intro hjudges.left ?_
  intro hcontrol
  simpa [hcontrol] using hjudges.right

theorem kind_of_decodeFirst {octet : UInt8} {error : Error}
    (hdecode : decodeFirst octet = .error error) : error.kind = .protocol := by
  have hjudges := judgesFirst_eq_true octet
  rw [judgesFirst, hdecode] at hjudges
  exact of_decide_eq_true hjudges

def judgesSecond (octet : UInt8) : Bool :=
  match decodeSecond octet with
  | (masked, .inline short) => octet = secondOctet masked (.inline short) && short <= 125
  | (masked, field) => octet = secondOctet masked field

theorem judgesSecond_eq_true (octet : UInt8) : judgesSecond octet = true := by
  revert octet
  exact forall_octet (by decide +kernel)

theorem decodeSecond_eq {octet : UInt8} {masked : Bool} {field : LengthField}
    (hdecode : decodeSecond octet = (masked, field)) :
    octet = secondOctet masked field ∧ forall short, field = .inline short -> short <= 125 := by
  have hjudges := judgesSecond_eq_true octet
  rw [judgesSecond, hdecode] at hjudges
  cases field with
  | inline short =>
      simp only [Bool.and_eq_true, decide_eq_true_eq] at hjudges
      refine And.intro hjudges.left ?_
      rintro _ ⟨⟩
      exact hjudges.right
  | extended16 => exact And.intro (of_decide_eq_true hjudges) (by simp)
  | extended64 => exact And.intro (of_decide_eq_true hjudges) (by simp)

theorem decodeSecond_secondOctet {masked : Bool} {field : LengthField} {length : UInt64}
    (hholds : field.Holds length) : decodeSecond (secondOctet masked field) = (masked, field) := by
  cases field with
  | inline short =>
      have hall : forall (n : Fin 126) (masked : Bool),
          decodeSecond (secondOctet masked (.inline (UInt8.ofNat n))) =
            (masked, .inline (UInt8.ofNat n)) := by decide +kernel
      have hshort := hholds.left
      rw [UInt8.le_iff_toNat_le] at hshort
      have hoctet := hall ⟨short.toNat, Nat.lt_succ_of_le hshort⟩ masked
      rw [UInt8.ofNat_toNat] at hoctet
      exact hoctet
  | extended16 => cases masked <;> rfl
  | extended64 => cases masked <;> rfl

theorem kind_of_validate {role : Role} {limits : Limits} {header : FrameHeader} {error : Error}
    (hvalidate : header.validate role limits = .error error) : error.kind = .protocol := by
  unfold validate at hvalidate
  cases hmasking : header.checkMasking role with
  | error fault =>
      rw [hmasking] at hvalidate
      cases hvalidate
      unfold checkMasking at hmasking
      split at hmasking <;> cases hmasking <;> rfl
  | ok _ =>
      rw [hmasking] at hvalidate
      simp only [bind, Except.bind] at hvalidate
      split at hvalidate
      · cases hvalidate
        rfl
      · unfold Limits.checkFrameSize at hvalidate
        split at hvalidate
        · cases hvalidate
          rfl
        · cases hvalidate

end FrameHeader

/-!
## Keys
-/

namespace MaskKey

@[simp] theorem ofBytes?_toBytes (key : MaskKey) : ofBytes? key.toBytes = some key := rfl

theorem exists_toBytes_eq {octets : Bytes} (hlength : octets.length = 4) :
    exists key : MaskKey, octets = key.toBytes :=
  match octets, hlength with
  | [first, second, third, fourth], _ => ⟨⟨first, second, third, fourth⟩, rfl⟩

end MaskKey

/-!
## Frames
-/

namespace Frame

/-- A payload on the wire, and a payload from the wire. -/
def masked (mask : Option MaskKey) (payload : Bytes) : Bytes :=
  match mask with
  | some key => key.apply payload
  | none => payload

theorem masked_eq (mask : Option MaskKey) (payload : Bytes) :
    masked mask payload = match mask with
      | some key => key.applyByWords .little payload
      | none => payload := by
  cases mask with
  | some key => exact (key.applyByWords_eq_apply .little payload).symm
  | none => rfl

@[simp] theorem length_masked (mask : Option MaskKey) (payload : Bytes) :
    (masked mask payload).length = payload.length := by
  cases mask <;> simp [masked]

@[simp] theorem masked_masked (mask : Option MaskKey) (payload : Bytes) :
    masked mask (masked mask payload) = payload := by
  cases mask <;> simp [masked]

def layout (frame : Frame) (mask : Option MaskKey) (field : LengthField) : Bytes :=
  let header : FrameHeader := ⟨frame.fin, frame.opcode, UInt64.ofNat frame.payload.length, mask⟩
  header.layout field ++ masked mask frame.payload

/-- The octets are those of the frame, with its length in one of the forms that
have room for it. -/
def LaidOut (frame : Frame) (mask : Option MaskKey) (octets : Bytes) : Prop :=
  frame.payload.length < 2 ^ 64 ∧
    exists field : LengthField, field.Holds (UInt64.ofNat frame.payload.length) ∧
      octets = frame.layout mask field

/-- The rules for frames of their own: a control frame is whole and short, and no
payload is longer than a length can say or than the limit. -/
structure Keeps (limits : Limits) (frame : Frame) : Prop where
  final : frame.opcode.isControl = true -> frame.fin = true
  short : frame.opcode.isControl = true -> frame.payload.length <= 125
  small : frame.payload.length < 2 ^ 63
  limit : frame.payload.length <= limits.maxFrameSize.toNat

instance (limits : Limits) (frame : Frame) : Decidable (frame.Keeps limits) :=
  decidable_of_iff
    ((frame.opcode.isControl = true -> frame.fin = true) ∧
      (frame.opcode.isControl = true -> frame.payload.length <= 125) ∧
      frame.payload.length < 2 ^ 63 ∧ frame.payload.length <= limits.maxFrameSize.toNat)
    ⟨fun ⟨hfinal, hshort, hsmall, hlimit⟩ => ⟨hfinal, hshort, hsmall, hlimit⟩,
      fun ⟨hfinal, hshort, hsmall, hlimit⟩ => ⟨hfinal, hshort, hsmall, hlimit⟩⟩

theorem encode_eq_layout (frame : Frame) (mask : Option MaskKey) :
    frame.encode mask = frame.layout mask (.forLength (UInt64.ofNat frame.payload.length)) := by
  unfold encode appendTo appendByWords layout
  rw [FrameHeader.encode_eq_layout]
  cases mask with
  | none => rfl
  | some key => simp [masked, header, MaskKey.applyByWords_eq_apply]

theorem laidOut_encode {frame : Frame} (hlength : frame.payload.length < 2 ^ 64)
    (mask : Option MaskKey) : frame.LaidOut mask (frame.encode mask) :=
  And.intro hlength ⟨_, LengthField.holds_forLength _, frame.encode_eq_layout mask⟩

/-- Whether a header is valid for this role depends on the mask and on the rules
for its frame. -/
theorem validate_header_eq_ok_iff {role : Role} {limits : Limits} {frame : Frame}
    {mask : Option MaskKey} (hlength : frame.payload.length < 2 ^ 64) :
    (frame.header mask).validate role limits = .ok () <->
      mask.isSome = role.expectsMasked ∧
        (frame.opcode.isControl = true -> frame.payload.length <= 125) ∧
        frame.payload.length <= limits.maxFrameSize.toNat := by
  have hvalue : (UInt64.ofNat frame.payload.length).toNat = frame.payload.length := by
    rw [UInt64.toNat_ofNat', Nat.mod_eq_of_lt hlength]
  have hmasking : (frame.header mask).checkMasking role = .ok () <->
      mask.isSome = role.expectsMasked := by
    cases role <;> cases mask <;> simp [FrameHeader.checkMasking, header, FrameHeader.isMasked,
      Role.expectsMasked, Role.peer, Role.mustMask]
  have hsize : limits.checkFrameSize (frame.header mask).payloadLength = .ok () <->
      frame.payload.length <= limits.maxFrameSize.toNat := by
    simp [Limits.checkFrameSize, header, UInt64.lt_iff_toNat_lt, hvalue]
  have hshort : ((frame.header mask).opcode.isControl &&
        maxControlPayload < (frame.header mask).payloadLength.toNat) = false <->
      (frame.opcode.isControl = true -> frame.payload.length <= 125) := by
    cases hcontrol : frame.opcode.isControl <;>
      simp [header, hcontrol, hvalue, maxControlPayload]
  rw [← hmasking, ← hsize, ← hshort]
  unfold FrameHeader.validate
  cases hcheck : (frame.header mask).checkMasking role with
  | error error => simp [bind, Except.bind]
  | ok _ =>
      cases hlong : (frame.header mask).opcode.isControl &&
          maxControlPayload < (frame.header mask).payloadLength.toNat with
      | true => simp [bind, Except.bind, throw, throwThe, MonadExceptOf.throw]
      | false => simp [bind, Except.bind]

end Frame

end WebSocketClient
