import WebSocketClient.Proofs.Layout

/-!
# Frames behind other octets

A frame is appended to what a buffer holds and masked where it then stands.  What the
buffer holds stays as it is and makes no difference: each octet of the payload is masked
by its place in the payload.
-/

namespace WebSocketClient

namespace MaskKey

theorem getElem?_toBytes (key : MaskKey) (index : Nat) :
    key.toBytes[index % 4]? = some (key.octet index) := by
  have hless : index % 4 < 4 := Nat.mod_lt index (by decide)
  unfold octet toBytes
  generalize index % 4 = place at hless ⊢
  match place with
  | 0 | 1 | 2 | 3 => rfl

theorem getElem?_apply (key : MaskKey) (payload : Bytes) (index : Nat) :
    (key.apply payload)[index]? = payload[index]?.map (· ^^^ key.octet index) :=
  List.getElem?_mapIdx

theorem applyByWords_applyByWords (order : OctetOrder) (key : MaskKey) (octets : Bytes) :
    key.applyByWords order (key.applyByWords order octets) = octets := by
  rw [applyByWords_eq_apply, applyByWords_eq_apply, apply_apply]

end MaskKey

namespace Frame

theorem appendByWords_eq (order : OctetOrder) (buffer : Bytes) (frame : Frame)
    (mask : Option MaskKey) : appendByWords order buffer frame mask =
      buffer ++ ((frame.header mask).encode ++ masked mask frame.payload) := by
  unfold appendByWords
  cases mask with
  | none => exact List.append_assoc _ _ _
  | some key =>
      simp only
      rw [List.take_left, List.drop_left, key.applyByWords_eq_apply, List.append_assoc]
      rfl

/-- Masking by words in either octet order and octet by octet come to the same, and each
undoes itself.  A frame appended to a buffer leaves what the buffer held as it is, and
what is appended depends neither on that nor on the octet order: the header and the
payload, of which each octet is masked with the octet of the key that is due by its place
in the payload. -/
theorem masking_of_append :
    (forall (order : OctetOrder) (key : MaskKey) (octets : Bytes),
      key.applyByWords order octets = key.apply octets ∧
        key.apply (key.apply octets) = octets ∧
        key.applyByWords order (key.applyByWords order octets) = octets) ∧
      forall (frame : Frame) (mask : Option MaskKey),
        (forall buffer : Bytes,
          appendTo buffer frame mask = buffer ++ appendTo [] frame mask) ∧
        exists payload : Bytes, payload.length = frame.payload.length ∧
          (forall (order : OctetOrder) (buffer : Bytes), appendByWords order buffer frame mask =
            buffer ++ ((frame.header mask).encode ++ payload)) ∧
          (mask = none -> payload = frame.payload) ∧
          forall key, mask = some key -> forall (index : Nat) (octet keyOctet : UInt8),
            frame.payload[index]? = some octet -> key.toBytes[index % 4]? = some keyOctet ->
            payload[index]? = some (octet ^^^ keyOctet) := by
  constructor
  · intro order key octets
    exact ⟨key.applyByWords_eq_apply order octets, key.apply_apply octets,
      key.applyByWords_applyByWords order octets⟩
  · intro frame mask
    constructor
    · intro buffer
      rw [appendTo, appendTo, appendByWords_eq, appendByWords_eq, List.nil_append]
    · refine ⟨masked mask frame.payload, length_masked mask frame.payload, ?_, ?_, ?_⟩
      · intro order buffer
        exact appendByWords_eq order buffer frame mask
      · rintro rfl
        rfl
      · rintro key rfl index octet keyOctet hoctet hkey
        rw [key.getElem?_toBytes] at hkey
        cases hkey
        rw [masked, key.getElem?_apply, hoctet, Option.map_some]

/-- The last octet of a payload of five is masked with the first octet of the key, here
behind a buffer of three octets and a header of six. -/
theorem masking_of_hello :
    let frame : Frame := ⟨true, .text, [0x48, 0x65, 0x6C, 0x6C, 0x6F]⟩
    let key : MaskKey := ⟨0x37, 0xFA, 0x21, 0x3D⟩
    frame.payload[4]? = some 0x6F ∧ key.toBytes[4 % 4]? = some 0x37 ∧
      exists payload : Bytes, payload[4]? = some 0x58 ∧
        appendByWords .big [1, 2, 3] frame (some key) =
          [1, 2, 3] ++ ([0x81, 0x85, 0x37, 0xFA, 0x21, 0x3D] ++ payload) := by
  intro frame key
  have hheader : (frame.header (some key)).encode = [0x81, 0x85, 0x37, 0xFA, 0x21, 0x3D] := by
    decide
  rcases (masking_of_append.right frame (some key)).right with ⟨payload, _, happend, _, hmasked⟩
  refine ⟨rfl, rfl, payload, hmasked key rfl 4 0x6F 0x37 rfl rfl, ?_⟩
  rw [← hheader]
  exact happend .big [1, 2, 3]

end Frame

end WebSocketClient
