import WebSocketClient.Proofs.ClosePayloads
import WebSocketClient.Proofs.Outline

/-!
# Reasons in close frames

An error that ends an open connection is named to the server by a close frame.  Its text
is cut to what fits behind the code, which can always be done between two characters, and
the code is one that may be sent.  So there is always a payload, and it has a code.
-/

namespace WebSocketClient

theorem Error.ofUInt16_closeCode (error : Error) :
    CloseCode.ofUInt16 error.closeCode.toUInt16 = error.closeCode := by
  cases error <;> rfl

theorem Error.length_closeReason (error : Error) :
    (Utf8.encode error.closeReason).length <= CloseFrame.maxReasonLength :=
  (Utf8.isLongestFront_truncate CloseFrame.maxReasonLength error.message).fits

namespace Connection

/-!
## The payload
-/

/-- An error always has a payload: that which would stand in for it is never used. -/
theorem toPayload_closeReason (error : Error) :
    CloseFrame.toPayload ⟨error.closeCode, error.closeReason⟩ = .ok (failurePayload error) := by
  have hpayload : exists payload,
      CloseFrame.toPayload ⟨error.closeCode, error.closeReason⟩ = .ok payload :=
    CloseFrame.exists_toPayload_iff.mpr
      (And.intro error.length_closeReason error.isReserved_closeCode)
  rcases hpayload with ⟨payload, hpayload⟩
  unfold failurePayload
  rw [hpayload]

theorem failurePayload_eq (error : Error) : failurePayload error =
    CloseFrame.encodeCode error.closeCode ++ Utf8.encode error.closeReason :=
  (CloseFrame.toPayload_eq_ok_iff.mp (toPayload_closeReason error)).right.right

theorem ofPayload_failurePayload (error : Error) :
    CloseFrame.ofPayload (failurePayload error) =
      .ok (some ⟨error.closeCode, error.closeReason⟩) := by
  rw [CloseFrame.ofPayload_toPayload (toPayload_closeReason error), error.ofUInt16_closeCode]

/-!
## The frame
-/

theorem transmissions_startTeardown (connection : Connection) :
    (connection.startTeardown none).transmissions = connection.transmissions := by
  unfold startTeardown
  simp only
  split
  case h_1 => rfl
  case h_2 =>
    exact transmissions_report _ .closed

theorem transmissions_startFarewell (connection : Connection) (payload : Bytes) :
    (connection.startFarewell payload).transmissions = connection.transmissions ++
      (connection.core.writer.map fun writer =>
        ⟨none, ⟨true, .close, payload⟩, writer.nextKey⟩).toList := by
  cases hwriter : connection.core.writer with
  | none =>
      simp only [startFarewell, hwriter, Option.map_none, Option.toList_none, List.append_nil]
      exact transmissions_startTeardown connection
  | some writer =>
      exact congrArg Outline.transmissions (outline_startFarewell hwriter payload)

/-- When the loop has failed, the receiver sends the close frame that names the error, if
the connection is open and the stream is not what failed, and nothing otherwise. -/
theorem transmissions_exit_failed (connection : Connection) (error : Error) :
    (connection.exit (.failed error)).transmissions = connection.transmissions ++
      if error.kind ≠ .transport ∧ connection.core.state = .opened then
        (connection.core.writer.map fun writer =>
          ⟨none, ⟨true, .close, failurePayload error⟩, writer.nextKey⟩).toList
      else [] := by
  have hreported : ((connection.setPhase .closing).report (.receiverFailed error)).transmissions =
      connection.transmissions := transmissions_report _ _
  have hcore : ((connection.setPhase .closing).report (.receiverFailed error)).core =
      connection.core := rfl
  unfold exit
  split
  case isTrue hclosed =>
      have hstate : connection.core.state ≠ .opened := by
        intro hopened
        rw [hopened] at hclosed
        cases hclosed
      rw [if_neg (fun hopened => hstate hopened.right), List.append_nil]
      rfl
  case isFalse =>
      simp only [hcore, Bool.and_eq_true, decide_eq_true_eq]
      split
      case isTrue =>
          rw [transmissions_startFarewell, hreported, hcore]
      case isFalse =>
          rw [transmissions_startTeardown, hreported, List.append_nil]

/-- The text of an error is cut to the longest front that ends between two characters and
has no more than 123 octets; the search for its end never leaves the text.  With the code
of the error it always makes a payload of 2 to 125 octets, so nothing else ever stands in
for that, and the close frame that an open connection sends after the error has the code. -/
theorem reason_of_error (error : Error) :
    (exists position, Utf8.boundaryUpTo? (Utf8.encode error.message) 123 = some position) ∧
      Utf8.truncate? 123 error.message = some error.closeReason ∧
      Utf8.IsLongestFront 123 error.message error.closeReason ∧
      (exists payload, CloseFrame.toPayload ⟨error.closeCode, error.closeReason⟩ = .ok payload ∧
        2 <= payload.length ∧ payload.length <= 125 ∧ failurePayload error = payload ∧
        CloseFrame.ofPayload payload = .ok (some ⟨error.closeCode, error.closeReason⟩)) ∧
      forall connection : Connection,
        (connection.exit (.failed error)).transmissions = connection.transmissions ++
          if error.kind ≠ .transport ∧ connection.core.state = .opened then
            (connection.core.writer.map fun writer =>
              ⟨none, ⟨true, .close, failurePayload error⟩, writer.nextKey⟩).toList
          else [] := by
  have hpayload := toPayload_closeReason error
  have hlong : 2 <= (failurePayload error).length := by
    rw [failurePayload_eq, CloseFrame.encodeCode, List.length_append, Bytes.length_bigEndian]
    exact Nat.le_add_right _ _
  refine ⟨?_, Utf8.truncate?_eq_some 123 error.message,
    Utf8.isLongestFront_truncate 123 error.message, ?_, ?_⟩
  · rcases Utf8.boundaryUpTo?_eq_some (Utf8.encode error.message) 123 with ⟨last, hfound, _⟩
    exact ⟨last, hfound⟩
  · exact ⟨_, hpayload, hlong, CloseFrame.length_toPayload hpayload, rfl,
      ofPayload_failurePayload error⟩
  · intro connection
    exact transmissions_exit_failed connection error

end Connection

end WebSocketClient
