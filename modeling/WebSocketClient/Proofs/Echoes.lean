import WebSocketClient.Proofs.Forecast
import WebSocketClient.Proofs.Returning
import WebSocketClient.Proofs.Speaking

/-!
# Calls that come back

What the receiver tells its listener when the frames of calls come back as they were sent,
but unmasked.  Every call is heard once, as what it was.  A message sent as a sequence of
one chunk is heard as a message, since on the wire it is one.
-/

namespace WebSocketClient

/-!
## What is heard of a call
-/

namespace Call

/-- What a listener is told when the frame of a call comes back, given whether an outgoing
sequence was in progress. -/
def echo (streaming : Bool) : Call -> Event
  | send message => .message message
  | stream chunk final => if final && !streaming then .message chunk else .chunk chunk final
  | ping data => .ping (if data.isEmpty then none else some data)
  | pong data => .pong (if data.isEmpty then none else some data)
  | close _ _ => .closed

def streamingAfter (streaming : Bool) : Call -> Bool
  | stream _ final => !final
  | send _ | ping _ | pong _ | close _ _ => streaming

def echoes : Bool -> List Call -> List Event
  | _, [] => []
  | streaming, call :: rest => call.echo streaming :: echoes (call.streamingAfter streaming) rest

def kindAfter (kind : Option Opcode) : Call -> Option Opcode
  | stream chunk final => if final then none else some (kind.getD chunk.opcode)
  | send _ | ping _ | pong _ | close _ _ => kind

def keepsKind (kind : Option Opcode) : Call -> Bool
  | stream chunk _ => chunk.opcode == kind.getD chunk.opcode
  | send _ | ping _ | pong _ | close _ _ => true

def keepKinds : Option Opcode -> List Call -> Bool
  | _, [] => true
  | kind, call :: rest => call.keepsKind kind && keepKinds (call.kindAfter kind) rest

/-- The payload of the call is no longer than a length can say or than the limit. -/
def fits (limits : Limits) (call : Call) : Bool :=
  match call.payload with
  | .ok payload => payload.length < 2 ^ 63 && payload.length <= limits.maxFrameSize.toNat
  | .error _ => true

/-- Calls whose frames can come back: none of them closes the connection, and their
payloads fit on both sides. -/
structure AreEchoable (limits limits' : Limits) (calls : List Call) : Prop where
  kinds : keepKinds none calls = true
  fits : forall call, call ∈ calls -> call.fits limits = true ∧ call.fits limits' = true
  stays : forall call, call ∈ calls -> call.stateAfter = .opened

instance (limits limits' : Limits) (calls : List Call) :
    Decidable (AreEchoable limits limits' calls) :=
  decidable_of_iff
    (keepKinds none calls = true ∧
      (forall call, call ∈ calls -> call.fits limits = true ∧ call.fits limits' = true) ∧
      forall call, call ∈ calls -> call.stateAfter = .opened)
    ⟨fun ⟨hkinds, hfits, hstays⟩ => ⟨hkinds, hfits, hstays⟩,
      fun ⟨hkinds, hfits, hstays⟩ => ⟨hkinds, hfits, hstays⟩⟩

/-- Calls that are accepted one after another, and the frames they send. -/
inductive Said : Bool -> List Call -> List Frame -> Prop
  | nil {streaming : Bool} : Said streaming [] []
  | cons {streaming after : Bool} {call : Call} {payload : Bytes} {frame : Frame}
      {calls : List Call} {frames : List Frame} : call.payload = .ok payload ->
      call.frame payload streaming = .ok (frame, after) -> Said after calls frames ->
      Said streaming (call :: calls) (frame :: frames)

section Said

variable {streaming after : Bool} {call : Call} {payload : Bytes} {frame : Frame}
  {kind : Option Opcode} {calls : List Call} {frames : List Frame}

theorem isSome_kindAfter (kind : Option Opcode) (call : Call) :
    (call.kindAfter kind).isSome = call.streamingAfter kind.isSome := by
  cases call with
  | stream chunk final => cases final <;> rfl
  | _ => rfl

theorem keepKinds_cons :
    keepKinds kind (call :: calls) = true <->
      call.keepsKind kind = true ∧ keepKinds (call.kindAfter kind) calls = true := by
  rw [keepKinds, Bool.and_eq_true]

theorem eq_streamingAfter (hframe : call.frame payload streaming = .ok (frame, after)) :
    after = call.streamingAfter streaming := by
  cases call with
  | send message =>
      cases streaming with
      | true => cases hframe
      | false =>
          cases hframe
          rfl
  | _ =>
      cases hframe
      rfl

theorem kindAfter_of_refused {error : Error}
    (hrefused : call.payload = .error error ∨ call.frame payload streaming = .error error)
    (kind : Option Opcode) : call.kindAfter kind = kind := by
  cases call with
  | stream chunk final => rcases hrefused with hpayload | hframe <;> contradiction
  | _ => rfl

/-- The frames that calls send on an open connection are those of the calls among them that
are accepted. -/
theorem exists_said (keys : MaskKeys) (streaming : Bool) (calls : List Call) :
    exists said, Said streaming said ((speak keys streaming calls).map Transmission.frame) ∧
      said.Sublist calls ∧
      forall kind, kind.isSome = streaming -> keepKinds kind calls = true ->
        keepKinds kind said = true := by
  induction calls generalizing keys streaming with
  | nil => exact ⟨[], .nil, .slnil, fun _ _ hkinds => hkinds⟩
  | cons call calls ih =>
      have hskipped {error : Error} (payload : Bytes)
          (hrefused : call.payload = .error error ∨ call.frame payload streaming = .error error)
          (hspeak : speak keys streaming (call :: calls) = speak keys streaming calls) :
          exists said, Said streaming said
              ((speak keys streaming (call :: calls)).map Transmission.frame) ∧
            said.Sublist (call :: calls) ∧
            forall kind, kind.isSome = streaming -> keepKinds kind (call :: calls) = true ->
              keepKinds kind said = true := by
        rcases ih keys streaming with ⟨said, hsaid, hsublist, hkeeps⟩
        refine ⟨said, hspeak ▸ hsaid, hsublist.cons call, fun kind hkind hkinds => ?_⟩
        have hrest := (keepKinds_cons.mp hkinds).right
        rw [kindAfter_of_refused hrefused] at hrest
        exact hkeeps kind hkind hrest
      cases hpayload : call.payload with
      | error error =>
          exact hskipped [] (Or.inl hpayload) (by rw [speak, hpayload])
      | ok payload =>
          cases hframe : call.frame payload streaming with
          | error error => exact hskipped payload (Or.inr hframe) (by simp only [speak, hpayload, hframe])
          | ok framed =>
              rcases framed with ⟨frame, after⟩
              rcases ih keys.next.2 after with ⟨said, hsaid, hsublist, hkeeps⟩
              refine ⟨call :: said, ?_, hsublist.cons_cons call, fun kind hkind hkinds => ?_⟩
              · simp only [speak, hpayload, hframe, List.map_cons]
                exact .cons hpayload hframe hsaid
              · rcases keepKinds_cons.mp hkinds with ⟨hfirst, hrest⟩
                refine keepKinds_cons.mpr (And.intro hfirst (hkeeps _ ?_ hrest))
                rw [isSome_kindAfter, hkind, eq_streamingAfter hframe]

theorem Said.length_eq (hsaid : Said streaming calls frames) : calls.length = frames.length := by
  induction hsaid with
  | nil => rfl
  | cons _ _ _ ih => rw [List.length_cons, List.length_cons, ih]

theorem Said.exists_front (hsaid : Said streaming calls frames) {front : List Frame}
    (hfront : front <+: frames) : exists early, early <+: calls ∧ Said streaming early front := by
  induction hsaid generalizing front with
  | nil =>
      rw [List.prefix_nil.mp hfront]
      exact ⟨[], List.nil_prefix, .nil⟩
  | @cons streaming after call payload frame calls frames hpayload hframe hrest ih =>
      cases front with
      | nil => exact ⟨[], List.nil_prefix, .nil⟩
      | cons other front =>
          rcases List.cons_prefix_cons.mp hfront with ⟨rfl, hmore⟩
          rcases ih hmore with ⟨early, hearly, hsaid⟩
          exact ⟨call :: early, List.cons_prefix_cons.mpr (And.intro rfl hearly),
            .cons hpayload hframe hsaid⟩

theorem Said.keeps {limits : Limits} (hsaid : Said streaming calls frames)
    (hfits : forall call, call ∈ calls -> call.fits limits = true) :
    forall frame, frame ∈ frames -> frame.Keeps limits := by
  induction hsaid with
  | nil => exact fun frame hframe => absurd hframe List.not_mem_nil
  | cons hpayload hframe _ ih =>
      intro frame hmem
      rcases List.mem_cons.mp hmem with rfl | hmem
      · have hfirst := hfits _ List.mem_cons_self
        simp only [fits, hpayload, Bool.and_eq_true, decide_eq_true_eq] at hfirst
        rcases hfirst with ⟨hsmall, hlimit⟩
        rw [← payload_frame hframe] at hsmall hlimit
        have hcontrol := length_payload_of_isControl hpayload hframe
        exact ⟨fun h => (hcontrol h).left, fun h => (hcontrol h).right, hsmall, hlimit⟩
      · exact ih (fun call hcall => hfits call (List.mem_cons_of_mem _ hcall)) frame hmem

theorem closed_not_mem_echoes (hstays : forall call, call ∈ calls -> call.stateAfter = .opened) :
    .closed ∉ echoes streaming calls := by
  induction calls generalizing streaming with
  | nil => exact List.not_mem_nil
  | cons call calls ih =>
      intro hmem
      rcases List.mem_cons.mp hmem with hclosed | hmem
      · cases call with
        | close code reason => cases hstays _ List.mem_cons_self
        | stream chunk final => cases final <;> cases streaming <;> cases hclosed
        | _ => cases hclosed
      · exact ih (fun other hother => hstays other (List.mem_cons_of_mem _ hother)) hmem

theorem keepKinds_of_prefix {early : List Call} (hearly : early <+: calls)
    (hkinds : keepKinds kind calls = true) : keepKinds kind early = true := by
  induction early generalizing kind calls with
  | nil => rfl
  | cons call early ih =>
      rcases hearly with ⟨rest, rfl⟩
      rcases keepKinds_cons.mp hkinds with ⟨hfirst, hrest⟩
      exact keepKinds_cons.mpr (And.intro hfirst (ih (List.prefix_append early rest) hrest))

theorem AreEchoable.front {limits limits' : Limits} {early : List Call}
    (hcalls : AreEchoable limits limits' calls) (hearly : early <+: calls) :
    AreEchoable limits limits' early where
  kinds := keepKinds_of_prefix hearly hcalls.kinds
  fits call hmem := hcalls.fits call (hearly.mem hmem)
  stays call hmem := hcalls.stays call (hearly.mem hmem)

end Said

end Call

/-!
## Frames of calls in an assembly
-/

theorem TextDecoder.decode_encode (content : String) (final : Bool) :
    empty.decode (Utf8.encode content) final = (.ok content, empty) := by
  have hfront : Utf8.decodeFront (Utf8.encode content) = some (content ++ "", none) := by
    have happend := Utf8.decodeFront_encode_append content []
    rwa [List.append_nil] at happend
  rw [String.append_empty] at hfront
  rw [decode_eq, show empty.carry ++ Utf8.encode content = Utf8.encode content from rfl, hfront]

def Sequence.ofKind : Opcode -> Sequence
  | .text => .text .empty
  | _ => .binary

theorem Sequence.chunk_payload (chunk : Message) (final : Bool) :
    (ofKind chunk.opcode).chunk chunk.payload final = .ok (chunk, ofKind chunk.opcode) := by
  cases chunk with
  | binary octets => rfl
  | text content =>
      show Sequence.chunk (.text .empty) (Utf8.encode content) final = _
      rw [Sequence.chunk, TextDecoder.decode_encode]
      rfl

namespace Assembly

def inside (kind : Option Opcode) : Assembly :=
  ⟨kind.map Sequence.ofKind⟩

/-- Frames that may come one after another, and what they mean. -/
inductive Means : Assembly -> List Frame -> List Event -> Prop
  | nil {assembly : Assembly} : Means assembly [] []
  | cons {assembly after : Assembly} {frame : Frame} {event : Event} {frames : List Frame}
      {told : List Event} : assembly.judgeOpcode frame.opcode = .ok () ->
      assembly.accept frame = .ok (.event event, after) -> Means after frames told ->
      Means assembly (frame :: frames) (event :: told)

theorem judgeOpcode_of_isControl {opcode : Opcode} (hcontrol : opcode.isControl = true)
    (assembly : Assembly) : assembly.judgeOpcode opcode = .ok () := by
  rcases assembly with ⟨sequence⟩
  cases opcode with
  | close | ping | pong => cases sequence <;> rfl
  | continuation | text | binary => cases hcontrol

theorem accept_message (assembly : Assembly) (message : Message) :
    assembly.accept ⟨true, message.opcode, message.payload⟩ =
      .ok (.event (.message message), assembly) := by
  cases message with
  | binary octets => rfl
  | text content =>
      have htext := decodeText_eq_ok_iff.mpr (Eq.refl (Utf8.encode content))
      simp only [accept, Message.opcode, Message.payload, if_true, htext]
      rfl

theorem extend_chunk (chunk : Message) (opcode : Opcode) (final : Bool) :
    extend (.ofKind chunk.opcode) ⟨final, opcode, chunk.payload⟩ =
      .ok (.event (.chunk chunk final), inside (if final then none else some chunk.opcode)) := by
  unfold extend
  rw [Sequence.chunk_payload]
  cases final <;> rfl

end Assembly

namespace Call

variable {kind : Option Opcode} {call : Call} {payload : Bytes} {frame : Frame} {after : Bool}

theorem eq_of_controlPayload {opcode : Opcode} {data : Bytes}
    (hpayload : controlPayload opcode data = .ok payload) : payload = data := by
  unfold controlPayload at hpayload
  split at hpayload
  case isTrue => cases hpayload
  case isFalse => exact (Except.ok.inj hpayload).symm

theorem accept_firstChunk (chunk : Message) (final : Bool) :
    (Assembly.inside none).judgeOpcode chunk.opcode = .ok () ∧
      (Assembly.inside none).accept ⟨final, chunk.opcode, chunk.payload⟩ =
        .ok (.event ((stream chunk final).echo false),
          .inside ((stream chunk final).kindAfter none)) := by
  refine And.intro (by cases chunk <;> rfl) ?_
  cases final with
  | true => exact Assembly.accept_message _ chunk
  | false =>
      rw [show kindAfter none (.stream chunk false) = some chunk.opcode from rfl]
      refine Eq.trans ?_ (Assembly.extend_chunk chunk chunk.opcode false)
      cases chunk <;> rfl

theorem accept_frame (hpayload : call.payload = .ok payload)
    (hframe : call.frame payload kind.isSome = .ok (frame, after))
    (hkind : call.keepsKind kind = true) (hstays : call.stateAfter = .opened) :
    (Assembly.inside kind).judgeOpcode frame.opcode = .ok () ∧
      (Assembly.inside kind).accept frame =
        .ok (.event (call.echo kind.isSome), .inside (call.kindAfter kind)) := by
  cases call with
  | close code reason => cases hstays
  | ping data =>
      rw [eq_of_controlPayload hpayload] at hframe
      cases hframe
      exact And.intro (Assembly.judgeOpcode_of_isControl rfl _) rfl
  | pong data =>
      rw [eq_of_controlPayload hpayload] at hframe
      cases hframe
      exact And.intro (Assembly.judgeOpcode_of_isControl rfl _) rfl
  | send message =>
      cases kind with
      | some _ => cases hframe
      | none =>
          cases hpayload
          cases hframe
          exact And.intro (by cases message <;> rfl) (Assembly.accept_message _ message)
  | stream chunk final =>
      cases hpayload
      cases hframe
      cases kind with
      | none => exact accept_firstChunk chunk final
      | some kind =>
          have hsame : chunk.opcode = kind := by simpa [keepsKind] using hkind
          subst hsame
          refine And.intro rfl ?_
          have hafter : kindAfter (some chunk.opcode) (.stream chunk final) =
              if final then none else some chunk.opcode := rfl
          rw [hafter]
          refine Eq.trans ?_ ((Assembly.extend_chunk chunk .continuation final).trans ?_)
          · rfl
          · simp [echo]

theorem Said.means {streaming : Bool} {calls : List Call} {frames : List Frame}
    (hsaid : Said streaming calls frames) (hstreaming : kind.isSome = streaming)
    (hkinds : keepKinds kind calls = true)
    (hstays : forall call, call ∈ calls -> call.stateAfter = .opened) :
    (Assembly.inside kind).Means frames (echoes streaming calls) := by
  induction hsaid generalizing kind with
  | nil => exact .nil
  | @cons streaming after call payload frame calls frames hpayload hframe _ ih =>
      subst hstreaming
      rcases keepKinds_cons.mp hkinds with ⟨hfirst, hrest⟩
      have hnext : (call.kindAfter kind).isSome = after := by
        rw [isSome_kindAfter, eq_streamingAfter hframe]
      rcases accept_frame hpayload hframe hfirst (hstays call List.mem_cons_self) with
        ⟨hjudge, haccept⟩
      rw [echoes, ← eq_streamingAfter hframe]
      exact .cons hjudge haccept (ih hnext hrest fun other hother =>
        hstays other (List.mem_cons_of_mem _ hother))

end Call

/-!
## Forecasts of frames that may come
-/

namespace Receiver

variable {limits : Limits} {receiver : Receiver}

/-- The loop reads frame after frame and tells what they mean, and then it waits. -/
theorem foretold_of_means {assembly : Assembly} {frames : List Frame} {told : List Event}
    {octets : Bytes} (hmeans : assembly.Means frames told)
    (hassembly : receiver.assembly = assembly) (hstream : Frame.Stream false frames octets)
    (hkeeps : forall frame, frame ∈ frames -> frame.Keeps limits)
    (hphase : receiver.phase = .checking) (hstop : receiver.stop = false)
    (haborted : receiver.aborted = false) (hbytes : receiver.source.bytes = octets)
    (hending : receiver.source.ending = none) : receiver.foretold limits = told := by
  induction hmeans generalizing receiver octets with
  | nil =>
      cases hstream
      have hread : receiver.assembly.readFrame limits receiver.source = .waiting := by
        rw [Assembly.readFrame, Source.octet_of_nothing hbytes hending]
        rfl
      have hchecking : receiver.step? limits = some ({ receiver with phase := .reading }, []) := by
        simp [step?, hphase, hstop]
      have hreading : ({ receiver with phase := .reading }).step? limits =
          some ({ receiver with phase := .parked }, []) := by
        simp [step?, readFrame, hread, haborted]
      rw [foretold_of_step hchecking, foretold_of_step hreading, foretold_of_parked rfl]
      rfl
  | @cons assembly after frame event frames told hjudge haccept _ ih =>
      subst hassembly
      cases hstream with
      | @cons _ mask octets behind _ hlaid hmask hrest =>
          rw [Option.isSome_eq_false_iff, Option.isNone_iff_eq_none] at hmask
          subst hmask
          rcases Assembly.readFrame_gives hlaid (hkeeps frame List.mem_cons_self) hjudge hbytes
            hending with ⟨rest, hread, hleft, hopen⟩
          rcases run_of_event hphase hstop hread haccept with ⟨hevents, hlast⟩
          let next : Receiver := { receiver with assembly := after, source := rest }
          have hnext : next.foretold limits = told :=
            ih rfl hrest (fun _ hlater => hkeeps _ (List.mem_cons_of_mem _ hlater)) hphase hstop
              haborted hleft hopen
          rw [foretold, hevents, hlast, List.cons_append]
          exact congrArg (event :: ·) hnext

theorem foretold_of_reading (hphase : receiver.phase = .reading) (hstop : receiver.stop = false) :
    receiver.foretold limits = ({ receiver with phase := .checking }).foretold limits := by
  have hstep : ({ receiver with phase := .checking }).step? limits = some (receiver, []) := by
    rcases receiver with ⟨phase, source, assembly, listener, stop, awaitingClose, aborted⟩
    cases hphase
    cases hstop
    rfl
  rw [foretold_of_step hstep]
  rfl

end Receiver

end WebSocketClient
