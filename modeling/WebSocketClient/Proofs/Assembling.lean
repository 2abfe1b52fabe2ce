import WebSocketClient.Proofs.Framing
import WebSocketClient.Proofs.Transcripts
import WebSocketClient.Receiver.Assembly

/-!
# Assembling messages

Assembly accepts a frame exactly if it may come: if it goes on with the messages
so far, or closes the connection.  What it then makes of the frame is what the
transcript says.
-/

namespace WebSocketClient

theorem kind_of_decodeText {octets : Bytes} {error : Error}
    (hdecode : decodeText octets = .error error) : error.kind = .protocol := by
  unfold decodeText at hdecode
  split at hdecode <;> cases hdecode
  rfl

theorem TextDecoder.kind_of_decode {decoder after : TextDecoder} {octets : Bytes} {final : Bool}
    {error : Error} (hdecode : decoder.decode octets final = (.error error, after)) :
    error.kind = .protocol := by
  rw [decode_eq] at hdecode
  split at hdecode
  case h_1 => cases hdecode
  case h_2 =>
      split at hdecode <;> cases hdecode
      rfl
  case h_3 =>
      cases hdecode
      rfl

/-!
## Close frames
-/

namespace CloseFrame

variable {payload : Bytes} {close : Option CloseFrame}

theorem toNat_ofBigEndian_pair (high low : UInt8) :
    (UInt16.ofNat (Bytes.ofBigEndian [high, low])).toNat = Bytes.ofBigEndian [high, low] := by
  have hbound : Bytes.ofBigEndian [high, low] < 256 ^ 2 := Bytes.ofBigEndian_lt [high, low]
  rw [UInt16.toNat_ofNat', Nat.mod_eq_of_lt (by omega)]

theorem isClosePayload_of_ofPayload (hread : ofPayload payload = .ok close) :
    IsClosePayload payload close := by
  unfold ofPayload at hread
  split at hread
  case h_1 =>
      cases hread
      exact .empty
  case h_2 => cases hread
  case h_3 high low rest =>
      cases hdecode : decodeText rest with
      | error error =>
          rw [hdecode] at hread
          cases hread
      | ok reason =>
          rw [hdecode] at hread
          cases hread
          have hcode : Bytes.bigEndian 2 (Bytes.ofBigEndian [high, low]) = [high, low] :=
            Bytes.bigEndian_ofBigEndian [high, low]
          have hpayload := IsClosePayload.reason (.ofNat (Bytes.ofBigEndian [high, low])) reason
          rw [toNat_ofBigEndian_pair, hcode, ← decodeText_eq_ok_iff.mp hdecode] at hpayload
          exact hpayload

theorem ofPayload_of_isClosePayload (hpayload : IsClosePayload payload close) :
    ofPayload payload = .ok close := by
  cases hpayload with
  | empty => rfl
  | reason code reason =>
      have hcode : Bytes.ofBigEndian (Bytes.bigEndian 2 code.toNat) = code.toNat := by
        have hsmall : code.toNat < 256 ^ 2 := code.toNat_lt
        rw [Bytes.ofBigEndian_bigEndian, Nat.mod_eq_of_lt hsmall]
      have hreason : decodeText (Utf8.encode reason) = .ok reason := decodeText_eq_ok_iff.mpr rfl
      have hread : ofPayload (Bytes.bigEndian 2 code.toNat ++ Utf8.encode reason) = do
          let text ← decodeText (Utf8.encode reason)
          return some
            ⟨.ofUInt16 (.ofNat (Bytes.ofBigEndian (Bytes.bigEndian 2 code.toNat))), text⟩ :=
        rfl
      rw [hread, hreason, hcode, UInt16.ofNat_toNat]
      rfl

theorem kind_of_ofPayload {error : Error} (hread : ofPayload payload = .error error) :
    error.kind = .protocol := by
  unfold ofPayload at hread
  split at hread
  case h_1 => cases hread
  case h_2 =>
      cases hread
      rfl
  case h_3 high low rest =>
      cases hdecode : decodeText rest with
      | error fault =>
          rw [hdecode] at hread
          cases hread
          exact kind_of_decodeText hdecode
      | ok reason =>
          rw [hdecode] at hread
          cases hread

end CloseFrame

/-!
## Chunks
-/

/-- The octets are a text if it is whole, and otherwise the front of one. -/
def Utf8.IsTextSoFar (octets : Bytes) (whole : Bool) : Prop :=
  if whole then exists text, octets = encode text else IsFrontOfText octets

namespace Sequence

variable {sequence after : Sequence} {kind : Opcode} {records : List Record} {frame : Frame}

/-- What has been told of the octets received is all that can be told. -/
inductive Follows : Sequence -> Opcode -> List Record -> Prop
  | text {decoder : TextDecoder} {content : String} {records : List Record} :
      decoder.Follows (received records) content -> told records = Utf8.encode content ->
      InChunks .text records -> Follows (.text decoder) .text records
  | binary {records : List Record} : told records = received records ->
      InChunks .binary records -> Follows .binary .binary records

theorem Follows.inChunks (hfollows : sequence.Follows kind records) : InChunks kind records := by
  cases hfollows with
  | text _ _ hchunks => exact hchunks
  | binary _ hchunks => exact hchunks

theorem follows_text_empty : (Sequence.text .empty).Follows .text [] :=
  .text TextDecoder.follows_empty rfl (.nil .text)

theorem follows_binary : Sequence.binary.Follows .binary [] :=
  .binary rfl (.nil .binary)

theorem follows_of_chunk {chunk : Message} (hfollows : sequence.Follows kind records)
    (hchunk : sequence.chunk frame.payload frame.fin = .ok (chunk, after)) :
    after.Follows kind (records ++ [⟨frame, .chunk chunk frame.fin⟩]) ∧
      (kind = .text -> Utf8.IsTextSoFar (received records ++ frame.payload) frame.fin) ∧
      (frame.fin = true -> told (records ++ [⟨frame, .chunk chunk frame.fin⟩]) =
        received records ++ frame.payload) := by
  cases hfollows with
  | @text _ before _ hdecoder htold hchunks =>
      unfold Sequence.chunk at hchunk
      simp only at hchunk
      split at hchunk
      case h_1 content decoder hdecode =>
          cases hchunk
          rcases TextDecoder.decode_eq_ok hdecoder hdecode with ⟨hlongest, hnext, hfront, hwhole⟩
          have htold' : told (records ++ [⟨frame, .chunk (.text content) frame.fin⟩]) =
              Utf8.encode (before ++ content) := by
            rw [told_concat, htold, Utf8.encode_append]
            rfl
          refine ⟨.text ?_ htold' (hchunks.concat_text htold hlongest), fun _ => ?_, ?_⟩
          · rw [received_concat]
            exact hnext
          · unfold Utf8.IsTextSoFar
            split
            case isTrue hfin => exact ⟨_, hwhole hfin⟩
            case isFalse => exact hfront
          · intro hfin
            rw [htold', hwhole hfin]
      case h_2 => cases hchunk
  | binary htold hchunks =>
      cases hchunk
      have htold' : told (records ++ [⟨frame, .chunk (.binary frame.payload) frame.fin⟩]) =
          received records ++ frame.payload := by
        rw [told_concat, htold]
        rfl
      refine ⟨.binary ?_ (hchunks.concat_binary frame), by simp, fun _ => htold'⟩
      rw [htold', received_concat]

theorem exists_chunk (hfollows : sequence.Follows kind records)
    (htext : kind = .text -> Utf8.IsTextSoFar (received records ++ frame.payload) frame.fin) :
    exists chunk after, sequence.chunk frame.payload frame.fin = .ok (chunk, after) := by
  cases hfollows with
  | text hdecoder htold hchunks =>
      unfold Sequence.chunk
      simp only
      split
      case h_1 => exact ⟨_, _, rfl⟩
      case h_2 error decoder hdecode =>
          rcases TextDecoder.decode_eq_error hdecoder hdecode with ⟨_, hfront, hwhole⟩
          have hsofar := htext rfl
          unfold Utf8.IsTextSoFar at hsofar
          split at hsofar
          case isTrue hfin =>
              rcases hsofar with ⟨whole, htext⟩
              exact absurd htext (hwhole whole)
          case isFalse hfin => exact absurd hsofar (hfront (by simpa using hfin))
  | binary htold hchunks => exact ⟨_, _, rfl⟩

theorem kind_of_chunk {octets : Bytes} {final : Bool} {error : Error}
    (hchunk : sequence.chunk octets final = .error error) : error.kind = .protocol := by
  cases sequence with
  | text decoder =>
      simp only [chunk] at hchunk
      split at hchunk
      case h_1 => cases hchunk
      case h_2 fault after hdecode =>
          cases hchunk
          exact TextDecoder.kind_of_decode hdecode
  | binary => cases hchunk

end Sequence

/-!
## Accepted frames
-/

theorem Opcode.eq_text_or_binary {opcode : Opcode} (hstarts : opcode.startsMessage = true) :
    opcode = .text ∨ opcode = .binary := by
  cases opcode <;> simp [startsMessage] at hstarts ⊢

theorem Message.exists_of_payload {kind : Opcode} {octets : Bytes}
    (hstarts : kind.startsMessage = true)
    (htext : kind = .text -> exists text, octets = Utf8.encode text) :
    exists message : Message, message.opcode = kind ∧ message.payload = octets := by
  rcases Opcode.eq_text_or_binary hstarts with rfl | rfl
  · rcases htext rfl with ⟨text, rfl⟩
    exact ⟨.text text, rfl, rfl⟩
  · exact ⟨.binary octets, rfl, rfl⟩

namespace Assembly

variable {assembly : Assembly} {unfinished : Unfinished} {tail : List Record} {frame : Frame}

inductive Follows : Assembly -> Unfinished -> List Record -> Prop
  | outside : Follows ⟨none⟩ none []
  | inside {sequence : Sequence} {kind : Opcode} {parts : List Bytes} {tail : List Record} :
      sequence.Follows kind tail -> IsBegun kind parts tail ->
      Follows ⟨some sequence⟩ (some (kind, parts)) tail

/-- Everything was told, and the sequence in progress is the unfinished message. -/
structure Tells (assembly : Assembly) (messages : List (Message × List Bytes))
    (unfinished : Unfinished) (records : List Record) : Prop where
  apart : AreApart (records.map Record.event)
  inside : isInside (records.map Record.event) = unfinished.isSome
  controls : forall record, record ∈ records -> record.frame.opcode.isControl = true ->
    IsControlTold record
  data : exists whole tail, dataRecords records = whole ++ tail ∧ AreTold messages whole ∧
    assembly.Follows unfinished tail

theorem tells_nil : Tells {} [] none [] where
  apart := by
    intro front message hfront
    simp at hfront
  inside := rfl
  controls := by simp
  data := ⟨[], [], rfl, .nil, .outside⟩

section Records

variable {messages : List (Message × List Bytes)} {records whole : List Record} {record : Record}

theorem Tells.transcript (htells : assembly.Tells messages unfinished records) :
    Transcript messages unfinished records where
  apart := htells.apart
  controls := htells.controls
  data := by
    rcases htells.data with ⟨whole, tail, hdata, hwhole, hfollows⟩
    refine ⟨whole, tail, hdata, hwhole, ?_⟩
    cases hfollows with
    | outside => rfl
    | inside _ hbegun => exact hbegun

theorem Tells.apart_concat (htells : assembly.Tells messages unfinished records)
    (hevent : forall message, record.event = .message message -> unfinished = none) :
    AreApart ((records ++ [record]).map Record.event) := by
  rw [List.map_append]
  apply htells.apart.concat
  intro message hmessage
  rw [htells.inside, hevent message hmessage]
  rfl

theorem Tells.controls_concat (htells : assembly.Tells messages unfinished records)
    (hrecord : record.frame.opcode.isControl = true -> IsControlTold record) :
    forall other, other ∈ records ++ [record] -> other.frame.opcode.isControl = true ->
      IsControlTold other := by
  intro other hother
  rcases List.mem_append.mp hother with hother | hother
  · exact htells.controls other hother
  · rw [List.mem_singleton.mp hother]
    exact hrecord

theorem isInside_concat (records : List Record) (record : Record) :
    isInside ((records ++ [record]).map Record.event) =
      match record.event with
      | .chunk _ final => !final
      | .connected | .closed | .message _ | .ping _ | .pong _ =>
          isInside (records.map Record.event) := by
  rw [isInside, List.map_append, List.foldl_append]
  rfl

theorem Tells.control (htells : assembly.Tells messages unfinished records)
    (htold : IsControlTold record) : assembly.Tells messages unfinished (records ++ [record]) where
  apart := by
    apply htells.apart_concat
    intro message hmessage
    rcases htold with ⟨_, hevent⟩ | ⟨_, hevent⟩ <;> rw [hevent] at hmessage <;> cases hmessage
  inside := by
    rw [isInside_concat, ← htells.inside]
    rcases htold with ⟨_, hevent⟩ | ⟨_, hevent⟩ <;> rw [hevent]
  controls := htells.controls_concat fun _ => htold
  data := by
    rcases htells.data with ⟨whole, tail, hdata, hwhole, hfollows⟩
    refine ⟨whole, tail, ?_, hwhole, hfollows⟩
    rw [← hdata]
    rcases htold with ⟨hopcode, _⟩ | ⟨hopcode, _⟩ <;> simp [dataRecords, hopcode, Opcode.isControl]

theorem dataRecords_concat (hrecord : record.frame.opcode.isControl = false) :
    dataRecords (records ++ [record]) = dataRecords records ++ [record] := by
  simp [dataRecords, hrecord]

theorem Tells.begun {after : Assembly} {begun : Opcode × List Bytes} {chunk : Message}
    (htells : assembly.Tells messages unfinished records)
    (hrecords : dataRecords records = whole ++ tail) (hwhole : AreTold messages whole)
    (hrecord : record.frame.opcode.isControl = false) (hevent : record.event = .chunk chunk false)
    (hafter : after.Follows (some begun) (tail ++ [record])) :
    after.Tells messages (some begun) (records ++ [record]) where
  apart := htells.apart_concat (by simp [hevent])
  inside := by
    rw [isInside_concat, hevent]
    rfl
  controls := htells.controls_concat (by simp [hrecord])
  data := ⟨whole, tail ++ [record], by
    rw [dataRecords_concat hrecord, hrecords, List.append_assoc], hwhole, hafter⟩

theorem Tells.completed {message : Message} {parts : List Bytes}
    (htells : assembly.Tells messages unfinished records)
    (hrecords : dataRecords records = whole ++ tail) (hwhole : AreTold messages whole)
    (hrecord : record.frame.opcode.isControl = false)
    (hevent : (exists chunk, record.event = .chunk chunk true) ∨
      unfinished = none ∧ exists message, record.event = .message message)
    (htold : IsTold message parts (tail ++ [record])) :
    Tells ⟨none⟩ (messages ++ [(message, parts)]) none (records ++ [record]) where
  apart := by
    apply htells.apart_concat
    rcases hevent with ⟨chunk, hevent⟩ | ⟨hnone, _⟩
    · simp [hevent]
    · exact fun _ _ => hnone
  inside := by
    rw [isInside_concat]
    rcases hevent with ⟨chunk, hevent⟩ | ⟨hnone, message, hevent⟩ <;> rw [hevent]
    · rfl
    · exact htells.inside.trans (hnone ▸ rfl)
  controls := htells.controls_concat (by simp [hrecord])
  data := ⟨whole ++ (tail ++ [record]), [], by
    rw [dataRecords_concat hrecord, hrecords, List.append_nil, List.append_assoc],
    hwhole.concat htold, .outside⟩

end Records

theorem extend_eq_ok {sequence : Sequence} {kind : Opcode}
    (hfollows : sequence.Follows kind tail) (frame : Frame)
    (htext : kind = .text -> Utf8.IsTextSoFar (received tail ++ frame.payload) frame.fin) :
    exists chunk after,
      extend sequence frame =
        .ok (.event (.chunk chunk frame.fin), ⟨if frame.fin then none else some after⟩) ∧
      after.Follows kind (tail ++ [⟨frame, .chunk chunk frame.fin⟩]) ∧
      (frame.fin = true -> told (tail ++ [⟨frame, .chunk chunk frame.fin⟩]) =
        received tail ++ frame.payload) := by
  rcases Sequence.exists_chunk hfollows htext with ⟨chunk, after, hchunk⟩
  rcases Sequence.follows_of_chunk hfollows hchunk with ⟨hafter, _, hwhole⟩
  refine ⟨chunk, after, ?_, hafter, hwhole⟩
  rw [extend, hchunk]
  rfl

theorem isTextSoFar_of_extend {sequence : Sequence} {kind : Opcode} {incoming : Incoming}
    {after : Assembly} (hfollows : sequence.Follows kind tail)
    (hextend : extend sequence frame = .ok (incoming, after)) (htext : kind = .text) :
    Utf8.IsTextSoFar (received tail ++ frame.payload) frame.fin := by
  cases hchunk : sequence.chunk frame.payload frame.fin with
  | error error =>
      rw [extend, hchunk] at hextend
      cases hextend
  | ok chunked => exact (Sequence.follows_of_chunk hfollows hchunk).right.left htext

section Steps

variable {messages : List (Message × List Bytes)} {records : List Record}
  {completed : Option (Message × List Bytes)} {unfinished' : Unfinished}

theorem accept_control (hcontrol : frame.opcode = .ping ∨ frame.opcode = .pong)
    (htells : assembly.Tells messages unfinished records) :
    exists event after, assembly.judgeOpcode frame.opcode = .ok () ∧
      assembly.accept frame = .ok (.event event, after) ∧
      after.Tells messages unfinished (records ++ [⟨frame, event⟩]) := by
  have hjudge : assembly.judgeOpcode frame.opcode = .ok () := by
    rcases assembly with ⟨_ | _⟩ <;> rcases hcontrol with hopcode | hopcode <;> rw [hopcode] <;> rfl
  have hdata : (if frame.payload = [] then none else some frame.payload) = frame.payload? := by
    simp [Frame.payload?]
  rcases hcontrol with hopcode | hopcode
  · refine ⟨.ping frame.payload?, assembly, hjudge, by simp only [accept, hopcode], ?_⟩
    exact htells.control (Or.inl ⟨hopcode, congrArg Event.ping hdata.symm⟩)
  · refine ⟨.pong frame.payload?, assembly, hjudge, by simp only [accept, hopcode], ?_⟩
    exact htells.control (Or.inr ⟨hopcode, congrArg Event.pong hdata.symm⟩)

theorem accept_whole (message : Message) (htells : assembly.Tells messages none records) :
    exists event after, assembly.judgeOpcode message.opcode = .ok () ∧
      assembly.accept ⟨true, message.opcode, message.payload⟩ = .ok (.event event, after) ∧
      after.Tells (messages ++ [(message, [message.payload])]) none
        (records ++ [⟨⟨true, message.opcode, message.payload⟩, event⟩]) := by
  rcases htells.data with ⟨whole, tail, hrecords, hwhole, hfollows⟩
  cases hfollows
  have htold := htells.completed hrecords hwhole
    (Opcode.isControl_of_startsMessage message.startsMessage_opcode) (Or.inr ⟨rfl, message, rfl⟩)
    (.whole message)
  cases message with
  | text content =>
      have hdecode : decodeText (Utf8.encode content) = .ok content :=
        decodeText_eq_ok_iff.mpr rfl
      refine ⟨.message (.text content), _, rfl, ?_, htold⟩
      simp only [accept, Message.opcode, Message.payload, hdecode]
      rfl
  | binary octets => exact ⟨_, _, rfl, rfl, htold⟩

theorem accept_first {kind : Opcode} {part : Bytes} (hstarts : kind.startsMessage = true)
    (htext : kind = .text -> Utf8.IsFrontOfText part)
    (htells : assembly.Tells messages none records) :
    exists event after, assembly.judgeOpcode kind = .ok () ∧
      assembly.accept ⟨false, kind, part⟩ = .ok (.event event, after) ∧
      after.Tells messages (some (kind, [part])) (records ++ [⟨⟨false, kind, part⟩, event⟩]) := by
  rcases htells.data with ⟨whole, tail, hrecords, hwhole, hfollows⟩
  cases hfollows
  have hextend : exists chunk after, accept ⟨none⟩ ⟨false, kind, part⟩ =
        .ok (.event (.chunk chunk false), ⟨some after⟩) ∧
      after.Follows kind [⟨⟨false, kind, part⟩, .chunk chunk false⟩] := by
    rcases Opcode.eq_text_or_binary hstarts with rfl | rfl
    · rcases extend_eq_ok Sequence.follows_text_empty ⟨false, .text, part⟩ htext with
        ⟨chunk, after, hextend, hafter, _⟩
      exact ⟨chunk, after, hextend, hafter⟩
    · rcases extend_eq_ok Sequence.follows_binary ⟨false, .binary, part⟩ (by simp) with
        ⟨chunk, after, hextend, hafter, _⟩
      exact ⟨chunk, after, hextend, hafter⟩
  rcases hextend with ⟨chunk, after, haccept, hafter⟩
  have hjudge : judgeOpcode ⟨none⟩ kind = .ok () := by
    rcases Opcode.eq_text_or_binary hstarts with rfl | rfl <;> rfl
  refine ⟨_, _, hjudge, haccept, ?_⟩
  apply htells.begun hrecords hwhole (Opcode.isControl_of_startsMessage hstarts) rfl
  exact .inside hafter ⟨hstarts, by simp, rfl, hafter.inChunks⟩

theorem accept_more {kind : Opcode} {parts : List Bytes} {part : Bytes}
    (htext : kind = .text -> Utf8.IsFrontOfText (parts.flatten ++ part))
    (htells : assembly.Tells messages (some (kind, parts)) records) :
    exists event after, assembly.judgeOpcode .continuation = .ok () ∧
      assembly.accept ⟨false, .continuation, part⟩ = .ok (.event event, after) ∧
      after.Tells messages (some (kind, parts ++ [part]))
        (records ++ [⟨⟨false, .continuation, part⟩, event⟩]) := by
  rcases htells.data with ⟨whole, tail, hrecords, hwhole, hfollows⟩
  cases hfollows with
  | inside hsequence hbegun =>
      rw [← received_eq_flatten hbegun.frames] at htext
      rcases extend_eq_ok hsequence ⟨false, .continuation, part⟩ htext with
        ⟨chunk, after, hextend, hafter, _⟩
      refine ⟨_, _, rfl, hextend, ?_⟩
      apply htells.begun hrecords hwhole rfl rfl
      refine .inside hafter ⟨hbegun.startsMessage, by simp, ?_, hafter.inChunks⟩
      rw [List.map_append, hbegun.frames, firstFragments_concat hbegun.nonempty]
      rfl

theorem accept_last {message : Message} {parts : List Bytes} {part : Bytes}
    (hpayload : message.payload = parts.flatten ++ part)
    (htells : assembly.Tells messages (some (message.opcode, parts)) records) :
    exists event after, assembly.judgeOpcode .continuation = .ok () ∧
      assembly.accept ⟨true, .continuation, part⟩ = .ok (.event event, after) ∧
      after.Tells (messages ++ [(message, parts ++ [part])]) none
        (records ++ [⟨⟨true, .continuation, part⟩, event⟩]) := by
  rcases htells.data with ⟨whole, tail, hrecords, hwhole, hfollows⟩
  generalize hkind : message.opcode = kind at hfollows
  cases hfollows with
  | inside hsequence hbegun =>
      have hreceived := received_eq_flatten hbegun.frames
      have htext : kind = .text -> Utf8.IsTextSoFar (received tail ++ part) true := by
        rintro rfl
        rw [hreceived, ← hpayload]
        cases message with
        | text content => exact ⟨content, rfl⟩
        | binary octets => cases hkind
      rcases extend_eq_ok hsequence ⟨true, .continuation, part⟩ htext with
        ⟨chunk, after, hextend, hafter, htold⟩
      refine ⟨_, _, rfl, hextend, ?_⟩
      apply htells.completed hrecords hwhole rfl (Or.inl ⟨chunk, rfl⟩)
      have hlength := List.length_pos_iff.mpr hbegun.nonempty
      refine .chunked ?_ ?_ ?_ ?_ ?_
      · rw [List.length_append, List.length_singleton]
        omega
      · rw [List.map_append, hbegun.frames, hkind, fragments_concat hbegun.nonempty]
        rfl
      · rw [hkind]
        exact hafter.inChunks
      · rw [List.flatten_append, List.flatten_singleton, hpayload]
      · rw [htold rfl, hreceived, hpayload]

/-- A frame that goes on with the messages is accepted and told. -/
theorem accept_of_goesOn (htells : assembly.Tells messages unfinished records)
    (hgoes : GoesOn unfinished frame completed unfinished') :
    exists event after, assembly.judgeOpcode frame.opcode = .ok () ∧
      assembly.accept frame = .ok (.event event, after) ∧
      after.Tells (messages ++ completed.toList) unfinished' (records ++ [⟨frame, event⟩]) := by
  cases hgoes with
  | control hcontrol =>
      rw [Option.toList_none, List.append_nil]
      exact accept_control hcontrol htells
  | whole message => exact accept_whole message htells
  | first hstarts htext =>
      rw [Option.toList_none, List.append_nil]
      exact accept_first hstarts htext htells
  | more htext =>
      rw [Option.toList_none, List.append_nil]
      exact accept_more htext htells
  | last hpayload => exact accept_last hpayload htells

theorem goesOn_of_accept {event : Event} {after : Assembly}
    (hfollows : assembly.Follows unfinished tail)
    (hjudge : assembly.judgeOpcode frame.opcode = .ok ())
    (haccept : assembly.accept frame = .ok (.event event, after)) :
    exists completed unfinished', GoesOn unfinished frame completed unfinished' := by
  rcases frame with ⟨fin, opcode, payload⟩
  cases opcode with
  | continuation =>
      cases hfollows with
      | outside => cases hjudge
      | @inside sequence kind parts _ hsequence hbegun =>
          have hreads := isTextSoFar_of_extend hsequence haccept
          rw [received_eq_flatten hbegun.frames] at hreads
          cases fin with
          | true =>
              rcases Message.exists_of_payload hbegun.startsMessage hreads with
                ⟨message, rfl, hpayload⟩
              exact ⟨_, _, .last hpayload⟩
          | false => exact ⟨_, _, .more hreads⟩
  | text =>
      cases hfollows with
      | inside => cases hjudge
      | outside =>
          cases fin with
          | true =>
              cases hdecode : decodeText payload with
              | error error =>
                  simp only [accept, hdecode] at haccept
                  cases haccept
              | ok content =>
                  rw [decodeText_eq_ok_iff.mp hdecode]
                  exact ⟨_, _, .whole (.text content)⟩
          | false =>
              exact ⟨_, _, .first rfl fun htext =>
                isTextSoFar_of_extend Sequence.follows_text_empty haccept htext⟩
  | binary =>
      cases hfollows with
      | inside => cases hjudge
      | outside =>
          cases fin with
          | true => exact ⟨_, _, .whole (.binary payload)⟩
          | false => exact ⟨_, _, .first rfl (by simp)⟩
  | close =>
      cases hclose : CloseFrame.ofPayload payload <;> simp only [accept, hclose] at haccept <;>
        cases haccept
  | ping => exact ⟨_, _, .control (Or.inl rfl)⟩
  | pong => exact ⟨_, _, .control (Or.inr rfl)⟩

theorem extend_ne_close {sequence : Sequence} {close : Option CloseFrame} {after : Assembly} :
    extend sequence frame ≠ .ok (.close close, after) := by
  intro hextend
  cases hchunk : sequence.chunk frame.payload frame.fin <;> rw [extend, hchunk] at hextend <;>
    cases hextend

theorem accept_close {close : Option CloseFrame} (hopcode : frame.opcode = .close)
    (hpayload : IsClosePayload frame.payload close) :
    assembly.judgeOpcode frame.opcode = .ok () ∧
      assembly.accept frame = .ok (.close close, assembly) := by
  constructor
  · rcases assembly with ⟨_ | _⟩ <;> rw [hopcode] <;> rfl
  · simp only [accept, hopcode, CloseFrame.ofPayload_of_isClosePayload hpayload]
    rfl

theorem isClosePayload_of_accept {close : Option CloseFrame} {after : Assembly}
    (haccept : assembly.accept frame = .ok (.close close, after)) :
    frame.opcode = .close ∧ IsClosePayload frame.payload close := by
  unfold accept at haccept
  split at haccept
  case h_1 => exact absurd haccept extend_ne_close
  case h_2 =>
      split at haccept
      · cases hdecode : decodeText frame.payload <;> rw [hdecode] at haccept <;> cases haccept
      · exact absurd haccept extend_ne_close
  case h_3 =>
      split at haccept
      · cases haccept
      · exact absurd haccept extend_ne_close
  case h_4 hopcode =>
      cases hread : CloseFrame.ofPayload frame.payload with
      | error error =>
          rw [hread] at haccept
          cases haccept
      | ok read =>
          rw [hread] at haccept
          cases haccept
          exact And.intro hopcode (CloseFrame.isClosePayload_of_ofPayload hread)
  case h_5 => cases haccept
  case h_6 => cases haccept

theorem accept_of_mayCome (htells : assembly.Tells messages unfinished records)
    (hmay : MayCome unfinished frame) :
    assembly.judgeOpcode frame.opcode = .ok () ∧
      exists incoming after, assembly.accept frame = .ok (incoming, after) := by
  rcases hmay with ⟨completed, unfinished', hgoes⟩ | ⟨hopcode, close, hpayload⟩
  · rcases accept_of_goesOn htells hgoes with ⟨event, after, hjudge, haccept, _⟩
    exact And.intro hjudge ⟨_, _, haccept⟩
  · rcases accept_close hopcode hpayload with ⟨hjudge, haccept⟩
    exact And.intro hjudge ⟨_, _, haccept⟩

theorem kind_of_extend {sequence : Sequence} {error : Error}
    (hextend : extend sequence frame = .error error) : error.kind = .protocol := by
  cases hchunk : sequence.chunk frame.payload frame.fin with
  | ok chunked =>
      rw [extend, hchunk] at hextend
      cases hextend
  | error fault =>
      rw [extend, hchunk] at hextend
      cases hextend
      exact Sequence.kind_of_chunk hchunk

theorem kind_of_accept {error : Error} (haccept : assembly.accept frame = .error error) :
    error.kind = .protocol := by
  unfold accept at haccept
  split at haccept
  case h_1 => exact kind_of_extend haccept
  case h_2 =>
      split at haccept
      · cases hdecode : decodeText frame.payload with
        | error fault =>
            rw [hdecode] at haccept
            cases haccept
            exact kind_of_decodeText hdecode
        | ok content =>
            rw [hdecode] at haccept
            cases haccept
      · exact kind_of_extend haccept
  case h_3 =>
      split at haccept
      · cases haccept
      · exact kind_of_extend haccept
  case h_4 =>
      cases hread : CloseFrame.ofPayload frame.payload with
      | error fault =>
          rw [hread] at haccept
          cases haccept
          exact CloseFrame.kind_of_ofPayload hread
      | ok close =>
          rw [hread] at haccept
          cases haccept
  case h_5 => cases haccept
  case h_6 => cases haccept

theorem kind_of_judgeOpcode {opcode : Opcode} {error : Error}
    (hjudge : assembly.judgeOpcode opcode = .error error) : error.kind = .protocol := by
  unfold judgeOpcode at hjudge
  split at hjudge <;> cases hjudge <;> rfl

end Steps

/-!
## Frames at the front of a source
-/

section Reading

variable {limits : Limits} {source rest : Source}

def judgeFirst (assembly : Assembly) (first : UInt8) : Except Error Unit := do
  let (_, opcode) ← FrameHeader.decodeFirst first
  assembly.judgeOpcode opcode

theorem judgeFirst_firstOctet (hfinal : frame.opcode.isControl = true -> frame.fin = true) :
    assembly.judgeFirst (FrameHeader.firstOctet frame.fin frame.opcode) =
      assembly.judgeOpcode frame.opcode := by
  rw [judgeFirst, FrameHeader.decodeFirst_firstOctet hfinal]
  rfl

theorem kind_of_judgeFirst {first : UInt8} {error : Error}
    (hjudge : assembly.judgeFirst first = .error error) : error.kind = .protocol := by
  unfold judgeFirst at hjudge
  cases hdecode : FrameHeader.decodeFirst first with
  | error fault =>
      rw [hdecode] at hjudge
      cases hjudge
      exact FrameHeader.kind_of_decodeFirst hdecode
  | ok decoded =>
      rw [hdecode] at hjudge
      exact kind_of_judgeOpcode hjudge

/-- A frame that is read could be read whatever came before it. -/
theorem readFrame_eq_done (hdone : assembly.readFrame limits source = .done frame rest) :
    assembly.judgeOpcode frame.opcode = .ok () ∧
      Frame.read .client limits source = .done frame rest := by
  rcases Reading.andThen_eq_done hdone with ⟨first, behind, hfirst, hjudged⟩
  rcases Reading.andThen_eq_done hjudged with ⟨_, _, hverdict, hafter⟩
  rcases Reading.ofExcept_eq_done hverdict with ⟨hjudge, rfl⟩
  rcases Frame.first_of_readAfter hafter with ⟨rfl, hfinal⟩
  constructor
  · rw [← judgeFirst_firstOctet hfinal]
    exact hjudge
  · rw [Frame.read, hfirst]
    exact hafter

theorem readFrame_eq_ended (hended : assembly.readFrame limits source = .ended rest) :
    Frame.read .client limits source = .ended rest := by
  rcases Reading.andThen_eq_ended hended with hfirst | ⟨first, behind, hfirst, hjudged⟩
  · rw [Frame.read, hfirst]
    rfl
  · rcases Reading.andThen_eq_ended hjudged with hverdict | ⟨_, _, hverdict, hafter⟩
    · exact absurd hverdict Reading.ofExcept_ne_ended
    · rcases Reading.ofExcept_eq_done hverdict with ⟨_, rfl⟩
      rw [Frame.read, hfirst]
      exact hafter

theorem readFrame_gives {octets left : Bytes} {ending : Option Ending}
    (hlaid : frame.LaidOut none octets) (hkeeps : frame.Keeps limits)
    (hjudge : assembly.judgeOpcode frame.opcode = .ok ())
    (hbytes : source.bytes = octets ++ left) (hending : source.ending = ending) :
    (assembly.readFrame limits source).Gives frame left ending := by
  have hmask : (none : Option MaskKey).isSome = Role.client.expectsMasked := rfl
  rcases Frame.read_gives hlaid hmask hkeeps hbytes hending with ⟨rest, hread, hrest⟩
  rcases Reading.andThen_eq_done hread with ⟨first, behind, hfirst, hafter⟩
  rcases Frame.first_of_readAfter hafter with ⟨rfl, hfinal⟩
  have hverdict := (assembly.judgeFirst_firstOctet hfinal).trans hjudge
  refine ⟨rest, ?_, hrest⟩
  rw [readFrame, hfirst]
  change (Reading.ofExcept (assembly.judgeFirst _) behind).andThen _ = _
  rw [hverdict]
  exact hafter

theorem readFrame_outlasts {source' : Source} {more : Bytes}
    (hbytes : source'.bytes = source.bytes ++ more) :
    Reading.Outlasts more (assembly.readFrame limits source)
      (assembly.readFrame limits source') := by
  apply (Source.octet_outlasts hbytes).andThen
  intro first source source' hbytes
  apply (Reading.outlasts_ofExcept _ hbytes).andThen
  intro _ source source' hbytes
  exact Frame.readAfter_outlasts hbytes first

theorem readFrame_minds {ending : Option Ending} (hending : source.ending = ending) :
    (assembly.readFrame limits source).Minds ending := by
  apply (Source.octet_minds hending).andThen
  intro first source hending
  apply (Reading.minds_ofExcept (fun _ => kind_of_judgeFirst) hending).andThen
  intro _ source hending
  exact Frame.readAfter_minds hending first

end Reading

end Assembly

end WebSocketClient
