import WebSocketClient.Connection.Receiving
import WebSocketClient.Proofs.Boundaries
import WebSocketClient.Proofs.Calls
import WebSocketClient.Proofs.Transcripts

/-!
# Farewells

What an open connection sends when the loop of its receiver has ended.  A close
frame is answered with its code, an error of the server is named with its code and
as much of its text as fits, and a stream that is gone gets nothing.
-/

namespace WebSocketClient

/-!
## Payloads
-/

/-- The payload of the close frame that an open connection sends when the loop has
ended, if it sends one. -/
inductive Farewell : Outcome -> Option Bytes -> Prop
  | answer {code : UInt16} {reason : String} {reply : Bool} :
      ¬ (1004 <= code.toNat ∧ code.toNat <= 1006) -> code.toNat ≠ 1015 ->
      Farewell (.closeReceived (some ⟨.ofUInt16 code, reason⟩) reply)
        (some (Bytes.ofUInt16 code))
  /-- A code that is never sent is answered without one. -/
  | unspeakable {code : UInt16} {reason : String} {reply : Bool} :
      1004 <= code.toNat ∧ code.toNat <= 1006 ∨ code.toNat = 1015 ->
      Farewell (.closeReceived (some ⟨.ofUInt16 code, reason⟩) reply) (some [])
  | empty {reply : Bool} : Farewell (.closeReceived none reply) (some [])
  | complaint {error : Error} {front : String} : error.kind = .protocol ->
      Utf8.IsLongestFront 123 error.message front ->
      Farewell (.failed error)
        (some (Bytes.ofUInt16 error.closeCode.toUInt16 ++ Utf8.octets front))
  | broken {reason : String} : Farewell (.failed (.transport reason)) none
  | ended : Farewell .endOfStream none

theorem Farewell.length_le {outcome : Outcome} {payload : Bytes}
    (hfarewell : Farewell outcome (some payload)) : payload.length <= 125 := by
  cases hfarewell with
  | answer _ _ => exact Nat.le_of_ble_eq_true rfl
  | unspeakable _ => exact Nat.zero_le _
  | empty => exact Nat.zero_le _
  | complaint _ hfront =>
      have hfits := hfront.fits
      rw [Utf8.encode_eq_octets] at hfits
      rw [List.length_append]
      exact Nat.add_le_add (Nat.le_refl 2) hfits

theorem CloseCode.toUInt16_ofUInt16 (value : UInt16) : (ofUInt16 value).toUInt16 = value := by
  unfold ofUInt16
  split <;> rename_i hvalue <;> first | rfl | exact UInt16.toNat_inj.mp hvalue.symm

theorem CloseCode.isReserved_ofUInt16 (value : UInt16) :
    (ofUInt16 value).isReserved = true <->
      1004 <= value.toNat ∧ value.toNat <= 1006 ∨ value.toNat = 1015 := by
  simp [isReserved, toUInt16_ofUInt16]

theorem Error.isReserved_closeCode (error : Error) : error.closeCode.isReserved = false := by
  cases error <;> rfl

namespace Connection

theorem farewell_answerPayload {payload : Bytes} {close : Option CloseFrame} {reply : Bool}
    (hclose : IsClosePayload payload close) :
    Farewell (.closeReceived close reply) (some (answerPayload close)) := by
  cases hclose with
  | empty => exact .empty
  | reason code reason =>
      have hshort : ¬ CloseFrame.maxReasonLength < Utf8.length "" := by decide
      cases hreserved : (CloseCode.ofUInt16 code).isReserved with
      | true =>
          have hcode := (CloseCode.isReserved_ofUInt16 code).mp hreserved
          simp only [answerPayload, CloseFrame.toPayload, hshort, hreserved, if_true, if_false]
          exact .unspeakable hcode
      | false =>
          have hcode := mt (CloseCode.isReserved_ofUInt16 code).mpr (Bool.eq_false_iff.mp hreserved)
          rw [not_or] at hcode
          simp only [answerPayload, CloseFrame.toPayload, hshort, hreserved, if_false,
            CloseFrame.encodeCode, CloseCode.toUInt16_ofUInt16, Bytes.bigEndian_two,
            Utf8.encode_empty, List.append_nil, Bool.false_eq_true]
          exact .answer hcode.left hcode.right

theorem farewell_failurePayload {error : Error} (hkind : error.kind = .protocol) :
    Farewell (.failed error) (some (failurePayload error)) := by
  have hfront := Utf8.isLongestFront_truncate CloseFrame.maxReasonLength error.message
  have hshort : ¬ CloseFrame.maxReasonLength < Utf8.length error.closeReason := by
    rw [Nat.not_lt, ← Utf8.length_encode]
    exact hfront.fits
  simp only [failurePayload, CloseFrame.toPayload, hshort, error.isReserved_closeCode, if_false,
    Bool.false_eq_true, CloseFrame.encodeCode, Bytes.bigEndian_two, Utf8.encode_eq_octets]
  exact .complaint hkind hfront

end Connection

end WebSocketClient
