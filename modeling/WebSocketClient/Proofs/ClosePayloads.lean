import WebSocketClient.Proofs.Assembling
import WebSocketClient.Proofs.Farewells

/-!
# Close payloads

A close frame that is written is checked for its size and its code, and one that is read
for its form.  So what was written is read, with the name of its code if it has one, and
what was read is written unless its code is never sent.
-/

namespace WebSocketClient

namespace CloseCode

/-!
## Names of codes
-/

def namedValues : List UInt16 := [1000, 1001, 1002, 1003, 1007, 1008, 1009, 1010]

theorem isReserved_iff (code : CloseCode) : code.isReserved = true <->
    1004 <= code.toUInt16.toNat ∧ code.toUInt16.toNat <= 1006 ∨ code.toUInt16.toNat = 1015 := by
  simp [isReserved]

theorem ofUInt16_eq_other_iff (value : UInt16) :
    ofUInt16 value = .other value <-> value ∉ namedValues := by
  constructor
  · intro hother hnamed
    simp only [namedValues, List.mem_cons, List.not_mem_nil, or_false] at hnamed
    rcases hnamed with rfl | rfl | rfl | rfl | rfl | rfl | rfl | rfl <;>
      exact absurd hother (by decide)
  · intro hvalue
    have hback := toUInt16_ofUInt16 value
    cases hcode : ofUInt16 value with
    | other back =>
        rw [hcode] at hback
        exact congrArg other hback
    | _ =>
        rw [hcode] at hback
        exact absurd (hback ▸ by decide) hvalue

/-- A code is read back from its value unless it is kept as the value of another code,
one with a name. -/
theorem ofUInt16_toUInt16_eq_iff (code : CloseCode) : ofUInt16 code.toUInt16 = code <->
    forall value : UInt16, code = .other value -> value ∉ namedValues := by
  cases code with
  | other value =>
      refine (ofUInt16_eq_other_iff value).trans (Iff.intro ?_ ?_)
      · rintro hvalue _ ⟨⟩
        exact hvalue
      · intro hvalue
        exact hvalue value rfl
  | _ => exact iff_of_true rfl nofun

end CloseCode

namespace CloseFrame

variable {frame : CloseFrame} {payload : Bytes}

/-!
## Written and read
-/

theorem toPayload_eq_ok_iff : frame.toPayload = .ok payload <->
    (Utf8.encode frame.reason).length <= maxReasonLength ∧ frame.code.isReserved = false ∧
      payload = encodeCode frame.code ++ Utf8.encode frame.reason := by
  rw [toPayload, Utf8.length_encode]
  split
  case isTrue hlong =>
      refine iff_of_false (by rintro ⟨⟩) ?_
      rintro ⟨hshort, _⟩
      omega
  case isFalse hshort =>
      split
      case isTrue hreserved =>
          refine iff_of_false (by rintro ⟨⟩) ?_
          rintro ⟨_, hcode, _⟩
          cases hreserved.symm.trans hcode
      case isFalse hreserved =>
          constructor
          · rintro ⟨⟩
            exact ⟨Nat.le_of_not_lt hshort, Bool.eq_false_iff.mpr hreserved, rfl⟩
          · rintro ⟨_, _, rfl⟩
            rfl

theorem exists_toPayload_iff : (exists payload, frame.toPayload = .ok payload) <->
    (Utf8.encode frame.reason).length <= maxReasonLength ∧ frame.code.isReserved = false := by
  constructor
  · rintro ⟨payload, hpayload⟩
    rcases toPayload_eq_ok_iff.mp hpayload with ⟨hshort, hcode, _⟩
    exact And.intro hshort hcode
  · rintro ⟨hshort, hcode⟩
    exact ⟨_, toPayload_eq_ok_iff.mpr ⟨hshort, hcode, rfl⟩⟩

theorem ofPayload_toPayload (hpayload : frame.toPayload = .ok payload) :
    ofPayload payload = .ok (some ⟨.ofUInt16 frame.code.toUInt16, frame.reason⟩) := by
  rcases toPayload_eq_ok_iff.mp hpayload with ⟨_, _, rfl⟩
  exact ofPayload_of_isClosePayload (.reason _ _)

/-- What was read is the payload of what it was read as, if it has room in a control
frame and its code is sent. -/
theorem toPayload_ofPayload (hlength : payload.length <= maxControlPayload)
    (hread : ofPayload payload = .ok (some frame)) (hcode : frame.code.isReserved = false) :
    frame.toPayload = .ok payload := by
  cases isClosePayload_of_ofPayload hread with
  | reason code reason =>
      rw [List.length_append, Bytes.length_bigEndian, maxControlPayload] at hlength
      refine toPayload_eq_ok_iff.mpr ⟨?_, hcode, ?_⟩
      · show (Utf8.encode reason).length <= 123
        omega
      · rw [encodeCode, CloseCode.toUInt16_ofUInt16]

theorem ofPayload_eq_none_iff : ofPayload payload = .ok none <-> payload = [] := by
  constructor
  · intro hread
    cases isClosePayload_of_ofPayload hread
    rfl
  · rintro rfl
    rfl

theorem ofPayload_eq_error_iff : (exists error, ofPayload payload = .error error) <->
    payload.length = 1 ∨ ¬ exists text, payload.drop 2 = Utf8.encode text := by
  match payload with
  | [] =>
      refine iff_of_false nofun ?_
      rintro (hone | htext)
      · exact absurd hone (by decide)
      · exact htext ⟨"", Utf8.encode_empty.symm⟩
  | [_] => exact iff_of_true ⟨_, rfl⟩ (Or.inl rfl)
  | high :: low :: octets =>
      cases hdecode : decodeText octets with
      | error error =>
          refine iff_of_true ⟨error, by rw [ofPayload, hdecode]; rfl⟩ (Or.inr ?_)
          rintro ⟨text, htext⟩
          cases hdecode.symm.trans (decodeText_eq_ok_iff.mpr htext)
      | ok text =>
          refine iff_of_false ?_ ?_
          · rintro ⟨error, hread⟩
            rw [ofPayload, hdecode] at hread
            cases hread
          · rintro (hone | hnone)
            · exact absurd hone (Nat.succ_succ_ne_one _)
            · exact hnone ⟨text, decodeText_eq_ok_iff.mp hdecode⟩

/-- A close frame has a payload exactly if its reason is short enough and its code may be
sent; the payload then fits a control frame, and what is read from it is the close frame,
its code by its name.  A payload that fits and is read as a close frame whose code may be
sent is the payload of that close frame.  Nothing is read from no octets only, and what is
not read is one octet, or a code without a text behind it. -/
theorem close_payload_codec :
    (forall frame : CloseFrame, ((exists payload, frame.toPayload = .ok payload) <->
      (Utf8.encode frame.reason).length <= 123 ∧
        ¬ (1004 <= frame.code.toUInt16.toNat ∧ frame.code.toUInt16.toNat <= 1006) ∧
        frame.code.toUInt16.toNat ≠ 1015) ∧
      (forall payload, frame.toPayload = .ok payload -> payload.length <= 125 ∧
        ofPayload payload = .ok (some ⟨.ofUInt16 frame.code.toUInt16, frame.reason⟩)) ∧
      (CloseCode.ofUInt16 frame.code.toUInt16 = frame.code <->
        forall value, frame.code = .other value -> value ∉ CloseCode.namedValues)) ∧
      (forall (payload : Bytes) (frame : CloseFrame), payload.length <= 125 ->
        ofPayload payload = .ok (some frame) -> frame.code.isReserved = false ->
        frame.toPayload = .ok payload) ∧
      forall payload : Bytes, (ofPayload payload = .ok none <-> payload = []) ∧
        ((exists error, ofPayload payload = .error error) <->
          payload.length = 1 ∨ ¬ exists text, payload.drop 2 = Utf8.encode text) := by
  refine And.intro ?_ (And.intro ?_ ?_)
  · intro frame
    refine And.intro ?_ (And.intro ?_ (CloseCode.ofUInt16_toUInt16_eq_iff frame.code))
    · rw [exists_toPayload_iff, ← not_or, ← CloseCode.isReserved_iff, Bool.not_eq_true]
      rfl
    · intro payload hpayload
      exact And.intro (length_toPayload hpayload) (ofPayload_toPayload hpayload)
  · intro payload frame hlength hread hcode
    exact toPayload_ofPayload hlength hread hcode
  · intro payload
    exact And.intro ofPayload_eq_none_iff ofPayload_eq_error_iff

/-- The value 1000 kept as that of another code is read as the code of a normal end, and
the payload of either is the same. -/
theorem close_payload_of_unnamed_normal :
    let frame : CloseFrame := ⟨.other 1000, "bye"⟩
    let payload : Bytes := [0x03, 0xE8, 0x62, 0x79, 0x65]
    (exists written, frame.toPayload = .ok written) ∧ frame.toPayload = .ok payload ∧
      ofPayload payload = .ok (some ⟨.normal, "bye"⟩) ∧
      CloseFrame.toPayload ⟨.normal, "bye"⟩ = .ok payload := by
  intro frame payload
  rcases close_payload_codec with ⟨hwritten, hread, _⟩
  have hpayload : frame.toPayload = .ok payload :=
    toPayload_eq_ok_iff.mpr ⟨by decide +kernel, by decide, by decide +kernel⟩
  have hnormal := ((hwritten frame).right.left payload hpayload).right
  refine ⟨(hwritten frame).left.mpr (by decide +kernel), hpayload, hnormal, ?_⟩
  exact hread payload ⟨.normal, "bye"⟩ (by decide) hnormal (by decide)

end CloseFrame

end WebSocketClient
