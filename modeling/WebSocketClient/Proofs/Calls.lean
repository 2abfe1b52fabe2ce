import WebSocketClient.Connection.Receiving

/-!
# The frames of calls

What a call makes of its arguments.  Its frame carries the payload that was
judged, and it is a close frame only if the call closes.  A control frame is
final and short, whoever sends it.
-/

namespace WebSocketClient

namespace Opcode

theorem ne_close_of_startsMessage {opcode : Opcode} (hstarts : opcode.startsMessage = true) :
    opcode ≠ .close := by
  intro hclose
  rw [hclose] at hstarts
  cases hstarts

theorem isControl_of_startsMessage {opcode : Opcode} (hstarts : opcode.startsMessage = true) :
    opcode.isControl = false := by
  cases opcode <;> first | rfl | cases hstarts

end Opcode

theorem Message.startsMessage_opcode (message : Message) :
    message.opcode.startsMessage = true := by
  cases message <;> rfl

/-!
## Short payloads
-/

/-- The octets of a text, as a string holds them. -/
def Utf8.octets (text : String) : Bytes :=
  text.toUTF8.data.toList

theorem Utf8.encode_eq_octets (text : String) : encode text = octets text := by
  rw [octets, ← String.ofList_toList (s := text), String.toUTF8_eq_toByteArray,
    String.toByteArray_ofList, List.utf8Encode, List.toList_data_toByteArray, encode,
    String.toList_ofList]

theorem Utf8.length_encode (text : String) : (encode text).length = length text := by
  rw [encode_eq_octets, octets, Array.length_toList, String.toUTF8_eq_toByteArray]
  exact String.size_toByteArray

theorem CloseFrame.length_toPayload {frame : CloseFrame} {payload : Bytes}
    (hpayload : frame.toPayload = .ok payload) : payload.length <= maxControlPayload := by
  unfold toPayload at hpayload
  simp only at hpayload
  split at hpayload
  · cases hpayload
  · split at hpayload
    · cases hpayload
    · rename_i hlength _
      cases hpayload
      have hreason := Utf8.length_encode frame.reason
      simp only [encodeCode, List.length_append, Bytes.length_bigEndian, hreason,
        maxControlPayload, maxReasonLength] at hlength ⊢
      omega

namespace Connection

theorem length_answerPayload (frame : Option CloseFrame) :
    (answerPayload frame).length <= maxControlPayload := by
  unfold answerPayload
  split
  · exact Nat.zero_le _
  · split
    · rename_i hpayload
      exact CloseFrame.length_toPayload hpayload
    · exact Nat.zero_le _

theorem length_failurePayload (error : Error) :
    (failurePayload error).length <= maxControlPayload := by
  unfold failurePayload
  split
  · rename_i hpayload
    exact CloseFrame.length_toPayload hpayload
  · exact Nat.zero_le _

end Connection

/-!
## Frames
-/

namespace Call

variable {call : Call} {payload : Bytes} {streaming after : Bool} {frame : Frame}

/-- The three kinds of frames a call can send: a whole message, which needs that
no sequence is in progress, a chunk, and a control frame, which leaves the
sequence alone. -/
theorem frame_cases (hframe : call.frame payload streaming = .ok (frame, after)) :
    (exists message : Message, call = .send message ∧ streaming = false ∧ after = false ∧
        frame = ⟨true, message.opcode, payload⟩) ∨
      (exists (chunk : Message) (final : Bool), call = .stream chunk final ∧ after = !final ∧
        frame = ⟨final, if streaming then .continuation else chunk.opcode, payload⟩) ∨
      exists opcode : Opcode, opcode.isControl = true ∧ after = streaming ∧
        frame = ⟨true, opcode, payload⟩ ∧
        (opcode = .close <-> exists code reason, call = .close code reason) := by
  cases call with
  | send message =>
      left
      cases hstreaming : streaming with
      | true => simp [Call.frame, hstreaming] at hframe
      | false =>
          simp only [Call.frame, hstreaming, Bool.false_eq_true, if_false, Except.ok.injEq,
            Prod.mk.injEq] at hframe
          exact ⟨message, rfl, rfl, hframe.right.symm, hframe.left.symm⟩
  | stream chunk final =>
      right
      left
      cases hframe
      exact ⟨chunk, final, rfl, rfl, rfl⟩
  | ping data =>
      right
      right
      cases hframe
      exact ⟨.ping, rfl, rfl, rfl, by simp⟩
  | pong data =>
      right
      right
      cases hframe
      exact ⟨.pong, rfl, rfl, rfl, by simp⟩
  | close code reason =>
      right
      right
      cases hframe
      exact ⟨.close, rfl, rfl, rfl, by simp⟩

/-- A call is refused for its arguments or for a sequence that is in progress,
and the caller is told that it is at fault. -/
theorem kind_of_payload_eq_error {error : Error} (hpayload : call.payload = .error error) :
    error.kind = .usage := by
  have hdata {opcode data} (hjudged : controlPayload opcode data = .error error) :
      error.kind = .usage := by
    unfold controlPayload at hjudged
    split at hjudged
    · cases hjudged
      rfl
    · cases hjudged
  cases call with
  | send message => cases hpayload
  | stream chunk final => cases hpayload
  | ping data => exact hdata hpayload
  | pong data => exact hdata hpayload
  | close code reason =>
      simp only [Call.payload, CloseFrame.toPayload] at hpayload
      split at hpayload
      · cases hpayload
        rfl
      · split at hpayload
        · cases hpayload
          rfl
        · cases hpayload

theorem kind_of_frame_eq_error {error : Error}
    (hframe : call.frame payload streaming = .error error) : error.kind = .usage := by
  cases call with
  | send message =>
      cases streaming with
      | true =>
          cases hframe
          rfl
      | false => cases hframe
  | _ => cases hframe

theorem payload_frame (hframe : call.frame payload streaming = .ok (frame, after)) :
    frame.payload = payload := by
  rcases frame_cases hframe with ⟨_, _, _, _, rfl⟩ | ⟨_, _, _, _, rfl⟩ | ⟨_, _, _, rfl, _⟩
  · rfl
  · rfl
  · rfl

theorem opcode_frame_eq_close_iff (hframe : call.frame payload streaming = .ok (frame, after)) :
    frame.opcode = .close <-> exists code reason, call = .close code reason := by
  rcases frame_cases hframe with
    ⟨message, rfl, _, _, rfl⟩ | ⟨chunk, final, rfl, _, rfl⟩ | ⟨_, _, _, rfl, hclose⟩
  · have hopcode := Opcode.ne_close_of_startsMessage message.startsMessage_opcode
    simp [hopcode]
  · have hopcode := Opcode.ne_close_of_startsMessage chunk.startsMessage_opcode
    cases streaming <;> simp [hopcode]
  · exact hclose

theorem length_payload_of_isControl (hpayload : call.payload = .ok payload)
    (hframe : call.frame payload streaming = .ok (frame, after))
    (hcontrol : frame.opcode.isControl = true) :
    frame.fin = true ∧ frame.payload.length <= maxControlPayload := by
  have hdata {opcode data} (hjudged : controlPayload opcode data = .ok payload) :
      payload.length <= maxControlPayload := by
    unfold controlPayload at hjudged
    split at hjudged
    · cases hjudged
    · cases hjudged
      omega
  have hstarts (message : Message) : message.opcode.isControl = false :=
    Opcode.isControl_of_startsMessage message.startsMessage_opcode
  cases call with
  | send message =>
      cases hstreaming : streaming with
      | true => simp [Call.frame, hstreaming] at hframe
      | false =>
          simp only [Call.frame, hstreaming, Bool.false_eq_true, if_false, Except.ok.injEq,
            Prod.mk.injEq] at hframe
          rw [← hframe.left, hstarts message] at hcontrol
          cases hcontrol
  | stream chunk final =>
      cases hframe
      cases streaming with
      | true => cases hcontrol
      | false => simp [hstarts chunk] at hcontrol
  | ping data =>
      cases hframe
      exact And.intro rfl (hdata hpayload)
  | pong data =>
      cases hframe
      exact And.intro rfl (hdata hpayload)
  | close code reason =>
      cases hframe
      exact And.intro rfl (CloseFrame.length_toPayload hpayload)

end Call

/-!
## What calls ask for

The payload of a call by its arguments alone, without the functions that encode it, and
the frame that has to carry it.
-/

def Message.octets : Message -> Bytes
  | text content => Utf8.octets content
  | binary octets => octets

/-- The two octets of a close code, the most significant one first. -/
def Bytes.ofUInt16 (value : UInt16) : Bytes :=
  [(value >>> 8).toUInt8, value.toUInt8]

theorem Bytes.bigEndian_two (value : UInt16) : bigEndian 2 value.toNat = ofUInt16 value := by
  have hhigh : UInt8.ofNat (value.toNat / 256) = (value >>> 8).toUInt8 := by
    rw [← UInt8.toNat_inj]
    simp [Nat.shiftRight_eq_div_pow]
  have hlow : UInt8.ofNat value.toNat = value.toUInt8 := rfl
  simp only [bigEndian, Nat.pow_eq, Nat.pow_one, Nat.pow_zero, Nat.div_one]
  rw [hhigh, hlow, ofUInt16]

namespace Call

def asked : Call -> Bytes
  | send message => message.octets
  | stream chunk _ => chunk.octets
  | ping data | pong data => data
  | close code reason => Bytes.ofUInt16 code.toUInt16 ++ Utf8.octets reason

/-- This is the frame that a call asks for, given whether an outgoing sequence is in progress,
and whether one is after it. -/
inductive Asks : Call -> (streaming : Bool) -> Frame -> (after : Bool) -> Prop
  | send {message : Message} :
      Asks (send message) false ⟨true, message.opcode, message.octets⟩ false
  | lead {chunk : Message} {final : Bool} :
      Asks (stream chunk final) false ⟨final, chunk.opcode, chunk.octets⟩ (!final)
  | further {chunk : Message} {final : Bool} :
      Asks (stream chunk final) true ⟨final, .continuation, chunk.octets⟩ (!final)
  | ping {data : Bytes} {streaming : Bool} : data.length <= 125 ->
      Asks (ping data) streaming ⟨true, .ping, data⟩ streaming
  | pong {data : Bytes} {streaming : Bool} : data.length <= 125 ->
      Asks (pong data) streaming ⟨true, .pong, data⟩ streaming
  | close {code : CloseCode} {reason : String} {streaming : Bool} :
      (close code reason).asked.length <= 125 ->
      Asks (close code reason) streaming ⟨true, .close, (close code reason).asked⟩ streaming

def AsksFor (call : Call) (frame : Frame) : Prop :=
  exists streaming after, call.Asks streaming frame after

section Asks

variable {call : Call} {payload : Bytes} {streaming after : Bool} {frame : Frame}

theorem Asks.payload_eq (hasks : call.Asks streaming frame after) : frame.payload = call.asked := by
  cases hasks <;> rfl

theorem payload_message (message : Message) : message.payload = message.octets := by
  cases message with
  | text content => exact Utf8.encode_eq_octets content
  | binary octets => rfl

theorem payload_eq_asked (hpayload : call.payload = .ok payload) : payload = call.asked := by
  have hdata {opcode : Opcode} {data : Bytes}
      (hjudged : controlPayload opcode data = .ok payload) : payload = data := by
    unfold controlPayload at hjudged
    split at hjudged <;> cases hjudged
    rfl
  cases call with
  | send message =>
      cases hpayload
      exact payload_message message
  | stream chunk final =>
      cases hpayload
      exact payload_message chunk
  | ping data => exact hdata hpayload
  | pong data => exact hdata hpayload
  | close code reason =>
      simp only [Call.payload, CloseFrame.toPayload, CloseFrame.encodeCode, Bytes.bigEndian_two,
        Utf8.encode_eq_octets] at hpayload
      split at hpayload
      · cases hpayload
      · split at hpayload <;> cases hpayload
        rfl

theorem asks_of_frame (hpayload : call.payload = .ok payload)
    (hframe : call.frame payload streaming = .ok (frame, after)) :
    call.Asks streaming frame after := by
  have hasked := payload_eq_asked hpayload
  have hshort := length_payload_of_isControl hpayload hframe
  subst hasked
  cases call with
  | send message =>
      cases streaming with
      | true => cases hframe
      | false =>
          cases hframe
          exact .send
  | stream chunk final =>
      cases streaming <;> cases hframe
      · exact .lead
      · exact .further
  | ping data =>
      cases hframe
      exact .ping (hshort rfl).right
  | pong data =>
      cases hframe
      exact .pong (hshort rfl).right
  | close code reason =>
      cases hframe
      exact .close (hshort rfl).right

end Asks

end Call

end WebSocketClient
