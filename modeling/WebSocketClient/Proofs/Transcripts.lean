import WebSocketClient.Event
import WebSocketClient.Frame
import WebSocketClient.Proofs.Characters
import WebSocketClient.Proofs.Messages

/-!
# Transcripts

What a listener is told of the frames of a server.  A message that comes in one
frame is told at once.  One that comes in several is told in chunks, one for each
frame: octets as they are, and of a text as many whole characters as have come.
Pings and pongs are told wherever they stand.
-/

namespace WebSocketClient

/-!
## Messages in parts
-/

def fragments (opcode : Opcode) : List Bytes -> List Frame
  | [] => []
  | part :: parts => ⟨parts.isEmpty, opcode, part⟩ :: fragments .continuation parts

/-- The first frames of a message of which more parts are to come. -/
def firstFragments (opcode : Opcode) : List Bytes -> List Frame
  | [] => []
  | part :: parts => ⟨false, opcode, part⟩ :: firstFragments .continuation parts

theorem firstFragments_concat {parts : List Bytes} (hparts : parts ≠ []) (opcode : Opcode)
    (part : Bytes) :
    firstFragments opcode (parts ++ [part]) =
      firstFragments opcode parts ++ [⟨false, .continuation, part⟩] := by
  induction parts generalizing opcode with
  | nil => exact absurd rfl hparts
  | cons first rest ih =>
      cases rest with
      | nil => rfl
      | cons second rest => exact congrArg (_ :: ·) (ih (List.cons_ne_nil _ _) .continuation)

theorem fragments_concat {parts : List Bytes} (hparts : parts ≠ []) (opcode : Opcode)
    (part : Bytes) :
    fragments opcode (parts ++ [part]) =
      firstFragments opcode parts ++ [⟨true, .continuation, part⟩] := by
  induction parts generalizing opcode with
  | nil => exact absurd rfl hparts
  | cons first rest ih =>
      cases rest with
      | nil => rfl
      | cons second rest => exact congrArg (_ :: ·) (ih (List.cons_ne_nil _ _) .continuation)

theorem payloads_firstFragments (opcode : Opcode) (parts : List Bytes) :
    (firstFragments opcode parts).flatMap Frame.payload = parts.flatten := by
  induction parts generalizing opcode with
  | nil => rfl
  | cons part rest ih =>
      rw [firstFragments, List.flatMap_cons, List.flatten_cons, ih]

/-!
## Records
-/

def Event.octets : Event -> Bytes
  | .message whole => whole.payload
  | .chunk part _ => part.payload
  | .connected | .closed | .ping _ | .pong _ => []

/-- A frame of the server and what the listener was told of it. -/
structure Record where
  frame : Frame
  event : Event

def received (records : List Record) : Bytes :=
  records.flatMap fun record => record.frame.payload

def told (records : List Record) : Bytes :=
  records.flatMap fun record => record.event.octets

@[simp] theorem received_concat (records : List Record) (record : Record) :
    received (records ++ [record]) = received records ++ record.frame.payload := by
  simp [received]

@[simp] theorem told_concat (records : List Record) (record : Record) :
    told (records ++ [record]) = told records ++ record.event.octets := by
  simp [told]

theorem received_eq_flatten {records : List Record} {opcode : Opcode} {parts : List Bytes}
    (hframes : records.map Record.frame = firstFragments opcode parts) :
    received records = parts.flatten := by
  rw [← payloads_firstFragments opcode parts, ← hframes, List.flatMap_map]
  rfl

/-!
## Messages in chunks
-/

/-- Records of one message in chunks, all of its kind.  A binary chunk has the
octets of its frame; the chunks of a text so far are all whole characters of what
has come so far. -/
structure InChunks (kind : Opcode) (records : List Record) : Prop where
  chunks : forall record, record ∈ records -> exists chunk : Message,
    record.event = .chunk chunk record.frame.fin ∧ chunk.opcode = kind
  binary : kind = .binary -> forall record, record ∈ records ->
    record.event = .chunk (.binary record.frame.payload) record.frame.fin
  text : kind = .text -> forall front, front <+: records -> exists content,
    told front = Utf8.encode content ∧ Utf8.IsLongestText content (received front)

theorem InChunks.nil (kind : Opcode) : InChunks kind [] where
  chunks := by simp
  binary := by simp
  text := by
    intro htext front hfront
    rw [List.prefix_nil.mp hfront]
    refine ⟨"", rfl, List.prefix_refl _, ?_⟩
    intro other hother
    exact hother

section Chunks

variable {records : List Record} {frame : Frame}

theorem InChunks.concat_binary (hchunks : InChunks .binary records) (frame : Frame) :
    InChunks .binary (records ++ [⟨frame, .chunk (.binary frame.payload) frame.fin⟩]) where
  chunks := by
    intro record hrecord
    rcases List.mem_append.mp hrecord with hrecord | hrecord
    · exact hchunks.chunks record hrecord
    · rw [List.mem_singleton.mp hrecord]
      exact ⟨_, rfl, rfl⟩
  binary := by
    intro hbinary record hrecord
    rcases List.mem_append.mp hrecord with hrecord | hrecord
    · exact hchunks.binary hbinary record hrecord
    · rw [List.mem_singleton.mp hrecord]
  text := by simp

theorem InChunks.concat_text {before content : String} (hchunks : InChunks .text records)
    (htold : told records = Utf8.encode before)
    (hlongest : Utf8.IsLongestText (before ++ content) (received records ++ frame.payload)) :
    InChunks .text (records ++ [⟨frame, .chunk (.text content) frame.fin⟩]) where
  chunks := by
    intro record hrecord
    rcases List.mem_append.mp hrecord with hrecord | hrecord
    · exact hchunks.chunks record hrecord
    · rw [List.mem_singleton.mp hrecord]
      exact ⟨_, rfl, rfl⟩
  binary := by simp
  text := by
    intro htext front hfront
    rcases List.prefix_concat_iff.mp hfront with rfl | hfront
    · refine ⟨before ++ content, ?_, ?_⟩
      · rw [told_concat, htold, Utf8.encode_append]
        rfl
      · rw [received_concat]
        exact hlongest
    · exact hchunks.text htext front hfront

end Chunks

/-!
## Whole messages
-/

/-- The message came in these parts, and this is how it was told. -/
inductive IsTold : Message -> List Bytes -> List Record -> Prop
  | whole (message : Message) :
      IsTold message [message.payload]
        [⟨⟨true, message.opcode, message.payload⟩, .message message⟩]
  | chunked {message : Message} {parts : List Bytes} {records : List Record} :
      2 <= parts.length -> records.map Record.frame = fragments message.opcode parts ->
      InChunks message.opcode records -> parts.flatten = message.payload ->
      told records = message.payload -> IsTold message parts records

/-- A message of which parts have come and more are to come, and how it was told so
far. -/
structure IsBegun (kind : Opcode) (parts : List Bytes) (records : List Record) : Prop where
  startsMessage : kind.startsMessage = true
  nonempty : parts ≠ []
  frames : records.map Record.frame = firstFragments kind parts
  chunks : InChunks kind records

inductive AreTold : List (Message × List Bytes) -> List Record -> Prop
  | nil : AreTold [] []
  | concat {messages : List (Message × List Bytes)} {message : Message} {parts : List Bytes}
      {records more : List Record} : AreTold messages records -> IsTold message parts more ->
      AreTold (messages ++ [(message, parts)]) (records ++ more)

def IsControlTold (record : Record) : Prop :=
  let data := if record.frame.payload = [] then none else some record.frame.payload
  record.frame.opcode = .ping ∧ record.event = .ping data ∨
    record.frame.opcode = .pong ∧ record.event = .pong data

def isInside (events : List Event) : Bool :=
  events.foldl (fun inside event =>
    match event with
    | .chunk _ final => !final
    | .connected | .closed | .message _ | .ping _ | .pong _ => inside) false

/-- No message in one frame is told inside a message in chunks. -/
def AreApart (events : List Event) : Prop :=
  forall front message, front ++ [.message message] <+: events -> isInside front = false

theorem AreApart.concat {events : List Event} {event : Event} (hapart : AreApart events)
    (hevent : forall message, event = .message message -> isInside events = false) :
    AreApart (events ++ [event]) := by
  intro front message hfront
  rcases List.prefix_concat_iff.mp hfront with hsame | hfront
  · rcases List.append_inj' hsame rfl with ⟨rfl, hlast⟩
    exact hevent message (List.cons.inj hlast).left.symm
  · exact hapart front message hfront

def dataRecords (records : List Record) : List Record :=
  records.filter fun record => !record.frame.opcode.isControl

abbrev Unfinished := Option (Opcode × List Bytes)

/-- Everything that was told: messages, perhaps the beginning of another one, and
pings and pongs anywhere. -/
structure Transcript (messages : List (Message × List Bytes)) (unfinished : Unfinished)
    (records : List Record) : Prop where
  apart : AreApart (records.map Record.event)
  controls : forall record, record ∈ records -> record.frame.opcode.isControl = true ->
    IsControlTold record
  data : exists whole tail, dataRecords records = whole ++ tail ∧ AreTold messages whole ∧
    match unfinished with
    | none => tail = []
    | some (kind, parts) => IsBegun kind parts tail

/-!
## The next frame
-/

/-- The frame goes on with the messages: it may complete one, and then there may be
an unfinished one. -/
inductive GoesOn : Unfinished -> Frame -> Option (Message × List Bytes) -> Unfinished -> Prop
  | control {unfinished : Unfinished} {frame : Frame} :
      frame.opcode = .ping ∨ frame.opcode = .pong -> GoesOn unfinished frame none unfinished
  | whole (message : Message) :
      GoesOn none ⟨true, message.opcode, message.payload⟩ (some (message, [message.payload])) none
  | first {kind : Opcode} {part : Bytes} : kind.startsMessage = true ->
      (kind = .text -> Utf8.IsFrontOfText part) ->
      GoesOn none ⟨false, kind, part⟩ none (some (kind, [part]))
  | more {kind : Opcode} {parts : List Bytes} {part : Bytes} :
      (kind = .text -> Utf8.IsFrontOfText (parts.flatten ++ part)) ->
      GoesOn (some (kind, parts)) ⟨false, .continuation, part⟩ none (some (kind, parts ++ [part]))
  | last {message : Message} {parts : List Bytes} {part : Bytes} :
      message.payload = parts.flatten ++ part ->
      GoesOn (some (message.opcode, parts)) ⟨true, .continuation, part⟩
        (some (message, parts ++ [part])) none

/-- Frames that go on with the messages one after another, and the messages that they
complete. -/
inductive AllGoOn : Unfinished -> List Frame -> List (Message × List Bytes) -> Unfinished -> Prop
  | nil {unfinished : Unfinished} : AllGoOn unfinished [] [] unfinished
  | cons {before between after : Unfinished} {frame : Frame} {frames : List Frame}
      {completed : Option (Message × List Bytes)} {messages : List (Message × List Bytes)} :
      GoesOn before frame completed between -> AllGoOn between frames messages after ->
      AllGoOn before (frame :: frames) (completed.toList ++ messages) after

theorem isFrontOfText_of_payload {message : Message} {front : Bytes}
    (hfront : front <+: message.payload) (htext : message.opcode = .text) :
    Utf8.IsFrontOfText front := by
  cases message with
  | text content => exact ⟨content, hfront⟩
  | binary octets => cases htext

section Fragments

variable {frame : Frame} {frames : List Frame} {message : Message} {parts : List Bytes}
  {part : Bytes} {messages : List (Message × List Bytes)}

theorem AllGoOn.first (hparts : (part :: parts).flatten = message.payload)
    (hlater : parts = [] -> AllGoOn none frames messages none)
    (hmore : parts ≠ [] -> AllGoOn (some (message.opcode, [part])) frames
      ((message, [part] ++ parts) :: messages) none) :
    AllGoOn none (⟨parts.isEmpty, message.opcode, part⟩ :: frames)
      ((message, part :: parts) :: messages) none := by
  cases parts with
  | nil =>
      rw [List.flatten_singleton] at hparts
      rw [hparts]
      exact .cons (.whole message) (hlater rfl)
  | cons next parts =>
      refine .cons (.first message.startsMessage_opcode ?_) (hmore (List.cons_ne_nil _ _))
      exact isFrontOfText_of_payload (hparts ▸ List.prefix_append part _)

theorem AllGoOn.continue {done : List Bytes}
    (hparts : (done ++ part :: parts).flatten = message.payload)
    (hlater : parts = [] -> AllGoOn none frames messages none)
    (hmore : parts ≠ [] -> AllGoOn (some (message.opcode, done ++ [part])) frames
      ((message, done ++ [part] ++ parts) :: messages) none) :
    AllGoOn (some (message.opcode, done)) (⟨parts.isEmpty, .continuation, part⟩ :: frames)
      ((message, done ++ part :: parts) :: messages) none := by
  rw [List.flatten_append, List.flatten_cons, ← List.append_assoc] at hparts
  cases parts with
  | nil =>
      refine .cons (.last ?_) (hlater rfl)
      rw [← hparts, List.flatten_nil, List.append_nil]
  | cons next parts =>
      rw [List.append_cons]
      refine .cons (.more ?_) (hmore (List.cons_ne_nil _ _))
      exact isFrontOfText_of_payload (hparts ▸ List.prefix_append _ _)

end Fragments

def ArePartsOf (messages : List (Message × List Bytes)) : Prop :=
  forall message, message ∈ messages -> message.2 ≠ [] ∧ message.2.flatten = message.1.payload

instance (messages : List (Message × List Bytes)) : Decidable (ArePartsOf messages) :=
  inferInstanceAs (Decidable (forall message, message ∈ messages ->
    message.2 ≠ [] ∧ message.2.flatten = message.1.payload))

def allFragments (messages : List (Message × List Bytes)) : List Frame :=
  messages.flatMap fun (message, parts) => fragments message.opcode parts

theorem ArePartsOf.tail {message : Message × List Bytes} {messages : List (Message × List Bytes)}
    (hparts : ArePartsOf (message :: messages)) : ArePartsOf messages := by
  intro other hother
  exact hparts other (List.mem_cons_of_mem _ hother)

/-- Messages in parts, or the parts of a message that are left and then messages, in
frames with pings and pongs anywhere between them. -/
theorem allGoOn_of_parts {wire : List Frame}
    (hcontrols : forall frame, frame ∈ wire -> frame.opcode.isControl = true ->
      frame.opcode = .ping ∨ frame.opcode = .pong) :
    (forall messages, ArePartsOf messages -> dataFrames wire = allFragments messages ->
        AllGoOn none wire messages none) ∧
      forall message done parts messages, parts ≠ [] ->
        (done ++ parts).flatten = message.payload -> ArePartsOf messages ->
        dataFrames wire = fragments .continuation parts ++ allFragments messages ->
        AllGoOn (some (message.opcode, done)) wire ((message, done ++ parts) :: messages) none := by
  -- A fragment may end a message or leave it unfinished, so both go together.
  induction wire with
  | nil =>
      constructor
      · intro messages hparts hdata
        cases messages with
        | nil => exact .nil
        | cons first messages =>
            rcases first with ⟨message, _ | ⟨part, parts⟩⟩
            · exact absurd rfl (hparts _ List.mem_cons_self).left
            · cases hdata
      · intro message done parts messages hnonempty hpayload hparts hdata
        cases parts with
        | nil => exact absurd rfl hnonempty
        | cons part parts => cases hdata
  | cons frame wire ih =>
      rcases ih (fun other hother => hcontrols other (List.mem_cons_of_mem _ hother)) with
        ⟨hnone, hsome⟩
      cases hcontrol : frame.opcode.isControl with
      | true =>
          have hgoes {unfinished : Unfinished} : GoesOn unfinished frame none unfinished :=
            .control (hcontrols frame List.mem_cons_self hcontrol)
          have hskip : dataFrames (frame :: wire) = dataFrames wire := by
            simp [dataFrames, hcontrol]
          rw [hskip]
          constructor
          · intro messages hparts hdata
            exact .cons hgoes (hnone messages hparts hdata)
          · intro message done parts messages hnonempty hpayload hparts hdata
            exact .cons hgoes (hsome message done parts messages hnonempty hpayload hparts hdata)
      | false =>
          have htake : dataFrames (frame :: wire) = frame :: dataFrames wire := by
            simp [dataFrames, hcontrol]
          rw [htake]
          constructor
          · intro messages hparts hdata
            cases messages with
            | nil => cases hdata
            | cons first messages =>
                rcases first with ⟨message, _ | ⟨part, parts⟩⟩
                · exact absurd rfl (hparts _ List.mem_cons_self).left
                · rcases List.cons.inj hdata with ⟨rfl, hlater⟩
                  have hpayload := (hparts _ List.mem_cons_self).right
                  apply AllGoOn.first hpayload
                  · rintro rfl
                    exact hnone messages hparts.tail hlater
                  · intro hmore
                    exact hsome message [part] parts messages hmore hpayload hparts.tail hlater
          · intro message done parts messages hnonempty hpayload hparts hdata
            cases parts with
            | nil => exact absurd rfl hnonempty
            | cons part parts =>
                rcases List.cons.inj hdata with ⟨rfl, hlater⟩
                apply AllGoOn.continue hpayload
                · rintro rfl
                  exact hnone messages hparts hlater
                · intro hmore
                  rw [List.append_cons] at hpayload
                  exact hsome message (done ++ [part]) parts messages hmore hpayload hparts hlater

/-- The payload of a close frame: nothing, or a code and a reason in UTF-8. -/
inductive IsClosePayload : Bytes -> Option CloseFrame -> Prop
  | empty : IsClosePayload [] none
  | reason (code : UInt16) (reason : String) :
      IsClosePayload (Bytes.bigEndian 2 code.toNat ++ Utf8.encode reason)
        (some ⟨.ofUInt16 code, reason⟩)

/-- The frame may come now: it goes on with the messages or closes the connection. -/
def MayCome (unfinished : Unfinished) (frame : Frame) : Prop :=
  (exists completed after, GoesOn unfinished frame completed after) ∨
    frame.opcode = .close ∧ exists close, IsClosePayload frame.payload close

end WebSocketClient
