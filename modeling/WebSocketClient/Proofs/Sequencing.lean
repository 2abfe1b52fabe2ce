import Mathlib.Data.List.Forall2
import WebSocketClient.Proofs.Messages
import WebSocketClient.Proofs.Wire

/-!
# Frames on the wire

What the frames on the wire are.  Each of them is masked, and each but the
receiver's close frame is one that a call asks for.  They make up messages, and
the connection remembers whether the last message is unfinished.  A frame that a
stream has refused stays cut, so the whole frames are those of the calls that came
back without an error, and perhaps the receiver's close frame.
-/

namespace WebSocketClient

namespace Transmission

def HasSender (transmission : Transmission) : Prop :=
  match transmission.call with
  | none => transmission.frame.opcode = .close
  | some call => call.AsksFor transmission.frame

/-- The frame is masked, and short if it is a control frame. -/
structure IsFit (transmission : Transmission) : Prop where
  masked : transmission.mask.isSome = true
  control : transmission.frame.opcode.isControl = true ->
    transmission.frame.fin = true ∧ transmission.frame.payload.length <= maxControlPayload
  sender : transmission.HasSender

theorem IsFit.opcode_eq_close {transmission : Transmission} (hfit : transmission.IsFit)
    (hcall : transmission.call = none) : transmission.frame.opcode = .close := by
  have hsender := hfit.sender
  rwa [HasSender, hcall] at hsender

theorem IsFit.asksFor {transmission : Transmission} {call : Call} (hfit : transmission.IsFit)
    (hcall : transmission.call = some call) : call.AsksFor transmission.frame := by
  have hsender := hfit.sender
  rwa [HasSender, hcall] at hsender

theorem IsFit.cut {transmission : Transmission} (hfit : transmission.IsFit)
    (hlength : transmission.frame.payload.length < 2 ^ 64) {front : Bytes}
    (hfront : front <+: transmission.octets) (hshort : front ≠ transmission.octets) :
    exists (frame : Frame) (key : MaskKey) (missing : Bytes),
      missing ≠ [] ∧ frame.LaidOut (some key) (front ++ missing) := by
  rcases Option.isSome_iff_exists.mp hfit.masked with ⟨key, hkey⟩
  rcases hfront with ⟨missing, hmissing⟩
  refine ⟨transmission.frame, key, missing, ?_, ?_⟩
  · rintro rfl
    exact hshort (by simpa using hmissing)
  · rw [hmissing, octets, hkey]
    exact Frame.laidOut_encode hlength _

theorem forall₂_asksFor {transmissions : List Transmission}
    (hfit : forall transmission, transmission ∈ transmissions -> transmission.IsFit)
    (hcalls : forall transmission, transmission ∈ transmissions ->
      transmission.call.isSome = true) :
    List.Forall₂ Call.AsksFor (transmissions.filterMap call) (transmissions.map frame) := by
  induction transmissions with
  | nil => exact .nil
  | cons transmission rest ih =>
      have hmem := List.mem_cons_self (a := transmission) (l := rest)
      rcases Option.isSome_iff_exists.mp (hcalls transmission hmem) with ⟨call, hcall⟩
      rw [List.filterMap_cons_some hcall, List.map_cons]
      exact .cons ((hfit transmission hmem).asksFor hcall)
        (ih (fun other hother => hfit other (List.mem_cons_of_mem _ hother))
          fun other hother => hcalls other (List.mem_cons_of_mem _ hother))

def dataOf (transmissions : List Transmission) : List Frame :=
  dataFrames (transmissions.map frame)

end Transmission

namespace Outline

open Transmission

/-- Whether an outgoing sequence is in progress after the frame under way. -/
def expects (outline : Outline) : Bool :=
  match outline.task with
  | .sending after => after
  | _ => outline.streaming

structure Sequenced (outline : Outline) : Prop where
  fit : forall transmission, transmission ∈ outline.transmissions -> transmission.IsFit
  messages : exists unfinished, Messages unfinished (dataOf outline.transmissions)
  streaming : outline.state ≠ .closed -> Messages outline.expects (dataOf outline.transmissions)
  settled : exists unfinished, Messages unfinished (dataOf outline.settled)

/-- Who sent the last frames: calls, and at the end perhaps the receiver. -/
structure Signed (outline : Outline) : Prop where
  settled : forall transmission, transmission ∈ outline.settled -> transmission.call.isSome = true
  sending : (exists after, outline.task = .sending after) ->
    forall last, outline.transmissions = outline.settled ++ [last] -> last.call.isSome = true
  receiving : outline.task = .farewell ∨ outline.task = .leaving false ->
    forall last, outline.transmissions = outline.settled ++ [last] -> last.call = none

/-- A call's frame that was given up is cut, and stays cut while the stream
refuses. -/
structure Cut (outline : Outline) : Prop where
  refused : outline.task = .leaving true ->
    outline.sink.hasRefused = true ∧ outline.sink.policy.refuses = true
  short : outline.state = .closed ->
    forall last, outline.transmissions = outline.settled ++ [last] -> last.call.isSome = true ->
      outline.sink.content ≠ outline.due

/-!
## Messages
-/

theorem nextKey_isSome {writer : FrameWriter} (hrole : writer.role = .client) :
    writer.nextKey.isSome = true := by
  simp [FrameWriter.nextKey, hrole, Role.mustMask]

/-- Between two frames the connection expects what it remembers. -/
theorem expects_eq_streaming {outline : Outline}
    (htask : forall after, outline.task ≠ .sending after) :
    outline.expects = outline.streaming := by
  unfold expects
  cases hsending : outline.task <;> simp [hsending] at htask ⊢

theorem Sequenced.begin {outline : Outline} (hsequenced : outline.Sequenced) {task : Task}
    {state : ConnectionState} {writer : Option FrameWriter} {rest : Bytes}
    {last : Transmission} (hfit : last.IsFit)
    (hmessages : Messages (expects { outline with task := task })
      (dataOf (outline.transmissions ++ [last]))) :
    Sequenced { outline with
      state := state, task := task, writer := writer, rest := rest
      transmissions := outline.transmissions ++ [last] } := by
  constructor
  · intro transmission hmem
    rcases List.mem_append.mp hmem with hmem | hmem
    · exact hsequenced.fit transmission hmem
    · rw [List.mem_singleton.mp hmem]
      exact hfit
  · exact ⟨_, hmessages⟩
  · intro _
    exact hmessages
  · exact hsequenced.settled

theorem sequenced_change {old new : Outline} (hstage : old.Stage)
    (hchange : Change old new) (hlined : old.Lined) (hsequenced : old.Sequenced) :
    new.Sequenced := by
  rcases hsequenced with ⟨hfit, hmessages, hstreaming, hsettled⟩
  cases hchange with
  | nothing => exact ⟨hfit, hmessages, hstreaming, hsettled⟩
  | register listener _ _ => exact ⟨hfit, hmessages, hstreaming, hsettled⟩
  | treatWrites policy flush => exact ⟨hfit, hmessages, hstreaming, hsettled⟩
  | ask htask hstate hrole hbuffer =>
      refine ⟨hfit, hmessages, ?_, hsettled⟩
      intro _
      have hnow := hstreaming (by simp [hstate])
      rw [expects_eq_streaming (by simp [htask])] at hnow
      exact hnow
  | asked htask hunsent =>
      refine ⟨hfit, hmessages, ?_, hsettled⟩
      intro hopen
      have hnow := hstreaming hopen
      rw [expects_eq_streaming (by simp [htask])] at hnow
      exact hnow
  | failOpening htask hcontent =>
      refine ⟨hfit, hmessages, ?_, hsettled⟩
      intro _
      have hopen : old.state ≠ .closed := by
        rcases (early_of_task hstage htask).left with hstate | hstate <;> simp [hstate]
      have hbusy (after : Bool) : old.task ≠ .sending after := by
        rcases htask with htask | htask | ⟨htask, _⟩ <;> simp [htask]
      have hnow := hstreaming hopen
      rw [expects_eq_streaming hbusy] at hnow
      exact hnow
  | opened htask =>
      rcases opening_of_task hstage (Or.inr htask) with ⟨hstate, hunopened, _⟩
      refine ⟨hfit, hmessages, ?_, ?_⟩
      · intro _
        have hnow := hstreaming (by simp [hstate])
        rw [expects_eq_streaming (by simp [htask])] at hnow
        exact hnow
      · simpa [hunopened.transmissions] using hsettled
  | carryHeld htask hheld hrest hstep => exact ⟨hfit, hmessages, hstreaming, hsettled⟩
  | carry htask hheld hwriter hrest hstep => exact ⟨hfit, hmessages, hstreaming, hsettled⟩
  | begin htask hstate hwriter hpayload hframe =>
      have hnow := hstreaming (by simp [hstate])
      rw [expects_eq_streaming (by simp [htask])] at hnow
      have hrole := (live_of_writer hstage hwriter).right.left
      refine Sequenced.begin ⟨hfit, hmessages, hstreaming, hsettled⟩
        ⟨nextKey_isSome hrole, ?_, ?_⟩ ?_
      · exact Call.length_payload_of_isControl hpayload hframe
      · exact ⟨_, _, Call.asks_of_frame hpayload hframe⟩
      · have hcall := hnow.call hframe
        simpa [dataOf, expects] using hcall
  | @sent after htask hunsent =>
      rcases hlined.during (Or.inl ⟨after, htask⟩) with ⟨last, hlast⟩
      refine ⟨hfit, hmessages, ?_, ?_⟩
      · intro hopen
        have hnow := hstreaming hopen
        simp only [expects, htask] at hnow
        exact hnow
      · have hsent : old.settled ++ old.transmissions.getLast?.toList = old.transmissions := by
          simp [hlast]
        rw [hsent]
        exact hmessages
  | fall htask hheld hwriter hfailure => exact ⟨hfit, hmessages, by simp, hsettled⟩
  | @beginFarewell payload state writer htask hwriter hstate hlength =>
      rcases live_of_writer hstage hwriter with ⟨hlive, hrole, _⟩
      have hnow := hstreaming hlive.ne_closed.left
      rw [expects_eq_streaming (by simp [htask])] at hnow
      refine Sequenced.begin ⟨hfit, hmessages, hstreaming, hsettled⟩
        ⟨nextKey_isSome hrole, fun _ => And.intro rfl hlength, rfl⟩ ?_
      rw [dataOf, List.map_append, List.map_singleton, dataFrames_append_control rfl]
      exact hnow
  | leave htask hwriter hcontent => exact ⟨hfit, hmessages, by simp, hsettled⟩
  | abandon htask hcontent =>
      have hclosed := (leaving_of_task hstage htask).left
      exact ⟨hfit, hmessages, by simp [hclosed], hsettled⟩
  | part htask hcontent =>
      have hclosed := (leaving_of_task hstage htask).left
      exact ⟨hfit, hmessages, by simp [hclosed], hsettled⟩
  | parted hparting => exact ⟨hfit, hmessages, hstreaming, hsettled⟩
  | receive haudience hparting hnews => exact ⟨hfit, hmessages, hstreaming, hsettled⟩
  | tell haudience hnews => exact ⟨hfit, hmessages, hstreaming, hsettled⟩

/-!
## Senders
-/

theorem signed_change {old new : Outline} (hstage : old.Stage)
    (hchange : Change old new) (hlined : old.Lined) (hsigned : old.Signed) :
    new.Signed := by
  rcases hsigned with ⟨hsettled, hsending, hreceiving⟩
  cases hchange with
  | nothing => exact ⟨hsettled, hsending, hreceiving⟩
  | register listener _ _ => exact ⟨hsettled, hsending, hreceiving⟩
  | treatWrites policy flush => exact ⟨hsettled, hsending, hreceiving⟩
  | ask htask hstate hrole hbuffer => exact ⟨hsettled, by simp, by simp⟩
  | asked htask hunsent => exact ⟨hsettled, by simp, by simp⟩
  | failOpening htask hcontent => exact ⟨hsettled, by simp, by simp⟩
  | opened htask =>
      rcases opening_of_task hstage (Or.inr htask) with ⟨_, hunopened, _⟩
      exact ⟨by simp [hunopened.transmissions, hunopened.settled], by simp, by simp⟩
  | carryHeld htask hheld hrest hstep => exact ⟨hsettled, hsending, hreceiving⟩
  | carry htask hheld hwriter hrest hstep => exact ⟨hsettled, hsending, hreceiving⟩
  | begin htask hstate hwriter hpayload hframe =>
      refine ⟨hsettled, ?_, by simp⟩
      intro _ last hlast
      rw [hlined.between htask (by simp [hstate])] at hlast
      have hsame := List.append_cancel_left hlast
      simp only [List.cons.injEq, and_true] at hsame
      rw [← hsame]
      rfl
  | @sent after htask hunsent =>
      rcases hlined.during (Or.inl ⟨after, htask⟩) with ⟨last, hlast⟩
      refine ⟨?_, by simp, by simp⟩
      intro transmission hmem
      rcases List.mem_append.mp hmem with hmem | hmem
      · exact hsettled transmission hmem
      · have hsame : transmission = last := by simpa [hlast] using hmem
        rw [hsame]
        exact hsending ⟨after, htask⟩ last hlast
  | fall htask hheld hwriter hfailure => exact ⟨hsettled, by simp, by simp⟩
  | beginFarewell htask hwriter hstate hlength =>
      have hopen := (live_of_writer hstage hwriter).left.ne_closed.left
      refine ⟨hsettled, by simp, ?_⟩
      intro _ last hlast
      rw [hlined.between htask hopen] at hlast
      have hsame := List.append_cancel_left hlast
      simp only [List.cons.injEq, and_true] at hsame
      rw [← hsame]
  | leave htask hwriter hcontent =>
      refine ⟨hsettled, by simp, ?_⟩
      intro _ last hlast
      rcases htask with htask | ⟨htask, _⟩
      · exact hreceiving (Or.inl htask) last hlast
      · have hopen := (live_of_writer hstage hwriter).left.ne_closed.left
        have hnone := hlined.between htask hopen
        rw [show old.transmissions = old.settled ++ [last] from hlast] at hnone
        simp at hnone
  | abandon htask hcontent => exact ⟨hsettled, by simp, by simp⟩
  | part htask hcontent => exact ⟨hsettled, by simp, by simp⟩
  | parted hparting => exact ⟨hsettled, hsending, hreceiving⟩
  | receive haudience hparting hnews => exact ⟨hsettled, hsending, hreceiving⟩
  | tell haudience hnews => exact ⟨hsettled, hsending, hreceiving⟩

/-!
## Cut frames
-/

theorem cut_change {old new : Outline} (hstage : old.Stage)
    (hchange : Change old new) (hwired : old.Wired) (hsteady : old.sink.isSteady = true)
    (hsteady' : new.sink.isSteady = true) (hsigned : new.Signed) (hcut : old.Cut) : new.Cut := by
  rcases hcut with ⟨hrefused, hshort⟩
  have hnew := stage_change hstage hchange
  have hopen {writer : FrameWriter} (hwriter : new.writer = some writer) : new.state ≠ .closed :=
    (live_of_writer hnew hwriter).left.ne_closed.left
  cases hchange with
  | nothing => exact ⟨hrefused, hshort⟩
  | register listener _ _ => exact ⟨hrefused, hshort⟩
  | treatWrites policy flush =>
      constructor
      · intro htask
        have hhasRefused := (hrefused htask).left
        exact And.intro hhasRefused (Sink.refuses_of_isSteady hsteady' hhasRefused)
      · exact hshort
  | ask htask hstate hrole hbuffer => exact ⟨by simp, by simp⟩
  | asked htask hunsent =>
      exact ⟨by simp, by simp [(opening_of_task hstage (Or.inl htask)).left]⟩
  | failOpening htask hcontent => exact ⟨by simp, by simp⟩
  | opened htask => exact ⟨by simp, by simp⟩
  | @carryHeld writer output sink writing writing' htask hheld hrest hstep =>
      rcases htask with htask | ⟨byCaller, htask⟩
      · exact ⟨by simp [htask], by simp [(opening_of_task hstage (Or.inl htask)).left]⟩
      · cases byCaller with
        | true =>
            have hsame := Output.handOver_more_of_refuses (hrefused htask).right hstep
            constructor
            · intro _
              exact hsame ▸ hrefused htask
            · intro hclosed last hlast hcall
              have hcontent := hshort hclosed last hlast hcall
              rw [← hsame] at hcontent
              exact hcontent
        | false =>
            constructor
            · simp [htask]
            · intro _ last hlast hcall
              rw [hsigned.receiving (Or.inr htask) last hlast] at hcall
              cases hcall
  | carry htask hheld hwriter hrest hstep =>
      constructor
      · rcases htask with ⟨after, htask⟩ | htask <;> simp [htask]
      · intro hclosed
        exact absurd hclosed (hopen rfl)
  | begin htask hstate hwriter hpayload hframe =>
      exact ⟨by simp, fun hclosed => absurd hclosed (hopen rfl)⟩
  | sent htask hunsent =>
      rcases exists_writer_of_sending hstage htask with ⟨writer, hwriter⟩
      exact ⟨by simp, fun hclosed => absurd hclosed (hopen hwriter)⟩
  | fall htask hheld hwriter hfailure =>
      have hlive := (live_of_writer hstage hwriter).left.ne_closed
      rcases hfailure.of_isSteady hsteady with ⟨hunsent, hrefusal⟩
      constructor
      · intro _
        exact And.intro hrefusal.hasRefused hrefusal.refuses
      · intro _ last hlast hcall hdue
        have hwhole := hwired.whole hlive.left hlive.right
        rw [hrefusal.content_eq] at hdue
        rw [hdue] at hwhole
        exact hunsent (List.append_right_eq_self.mp hwhole)
  | beginFarewell htask hwriter hstate hlength =>
      exact ⟨by simp, fun hclosed => absurd hclosed (hopen rfl)⟩
  | leave htask hwriter hcontent =>
      constructor
      · simp
      · intro _ last hlast hcall
        rw [hsigned.receiving (Or.inr rfl) last hlast] at hcall
        cases hcall
  | abandon htask hcontent =>
      constructor
      · simp
      · intro hclosed last hlast hcall
        rw [hcontent]
        exact hshort hclosed last hlast hcall
  | part htask hcontent =>
      constructor
      · simp
      · intro hclosed last hlast hcall
        rw [hcontent]
        exact hshort hclosed last hlast hcall
  | parted hparting => exact ⟨hrefused, hshort⟩
  | receive haudience hparting hnews => exact ⟨hrefused, hshort⟩
  | tell haudience hnews => exact ⟨hrefused, hshort⟩

end Outline

/-!
## Any moves of a steady stream
-/

namespace Connection

open Transmission

def isSending (connection : Connection) : Bool :=
  match connection.holder with
  | some (.sending _ _) => true
  | _ => false

theorem isSending_of_task {connection : Connection} {after : Bool}
    (htask : connection.outline.task = .sending after) : connection.isSending = true := by
  rcases exists_sending_of_task htask with ⟨work, writing, hholder, _⟩
  simp [isSending, hholder]

theorem frames_fresh (config : Config) (offered : List String) (listener : Option ListenerId) :
    (fresh config offered listener).outline.Sequenced ∧
      (fresh config offered listener).outline.Signed := by
  have hnone : Messages false (Transmission.dataOf []) := Messages.nil
  constructor
  · refine ⟨?_, ⟨false, hnone⟩, fun _ => hnone, ⟨false, hnone⟩⟩
    intro transmission hmem
    cases hmem
  · constructor
    · intro transmission hmem
      cases hmem
    · rintro ⟨after, hafter⟩
      cases hafter
    · rintro (hfarewell | hleaving)
      · cases hfarewell
      · cases hleaving

theorem frames_invariant {connection : Connection} (hreachable : connection.Reachable) :
    connection.outline.Lined ∧ connection.outline.Sequenced ∧ connection.outline.Signed := by
  refine (@outline_invariant (fun outline => outline.Lined ∧ outline.Sequenced ∧ outline.Signed)
    ?_ ?_ _ hreachable).right
  · intro config offered listener
    have hfresh : (fresh config offered listener).Reachable := ⟨config, offered, listener, [], rfl⟩
    exact And.intro (wire_invariant hfresh).left (frames_fresh config offered listener)
  · rintro old new hstage hchange ⟨hlined, hsequenced, hsigned⟩
    exact ⟨Outline.lined_change hstage hchange hlined,
      Outline.sequenced_change hstage hchange hlined hsequenced,
      Outline.signed_change hstage hchange hlined hsigned⟩

theorem cut_of_reachable {connection : Connection} (hreachable : connection.SteadilyReachable) :
    connection.outline.Cut := by
  -- Whether a frame is cut depends on what is due, and on who has sent it.
  let P (outline : Outline) : Prop :=
    (outline.Lined ∧ outline.Wired) ∧ outline.Signed ∧ outline.Cut
  have hinvariant : P connection.outline := by
    refine steady_invariant ?_ ?_ hreachable
    · intro config offered listener
      have hfresh : (fresh config offered listener).Reachable :=
        ⟨config, offered, listener, [], rfl⟩
      refine ⟨wire_invariant hfresh, (frames_fresh config offered listener).right, ?_⟩
      constructor
      · intro hleaving
        cases hleaving
      · intro hclosed
        cases hclosed
    · rintro old new hstage hsteady hsteady' hchange ⟨⟨hlined, hwired⟩, hsigned, hcut⟩
      have hsigned' := Outline.signed_change hstage hchange hlined hsigned
      exact ⟨⟨Outline.lined_change hstage hchange hlined,
        Outline.wired_change hstage hchange hlined hwired⟩, hsigned',
        Outline.cut_change hstage hchange hwired hsteady hsteady' hsigned' hcut⟩
  exact hinvariant.right.right

/-- A whole frame that no call has settled is the receiver's close frame, unless
its call is just about to come back. -/
theorem sender_of_unsettled {connection : Connection}
    (hreachable : connection.SteadilyReachable) {last : Transmission}
    (hlast : connection.transmissions = connection.settled ++ [last])
    (hcontent : connection.outline.sink.content = connection.outline.due) :
    last.frame.opcode = .close ∨
      connection.isSending = true ∧ exists call : Call, call.AsksFor last.frame := by
  rcases frames_invariant hreachable.reachable with ⟨hlined, hsequenced, hsigned⟩
  have hcut := cut_of_reachable hreachable
  have hfit : last.IsFit := by
    apply hsequenced.fit
    show last ∈ connection.transmissions
    rw [hlast]
    simp
  have hunsettled : connection.transmissions ≠ connection.settled := by
    rw [hlast]
    simp
  cases hcall : last.call with
  | none => exact Or.inl (hfit.opcode_eq_close hcall)
  | some call =>
      have hsome : last.call.isSome = true := by rw [hcall]; rfl
      have hopen : connection.outline.state ≠ .closed := by
        intro hclosed
        exact hcut.short hclosed last hlast hsome hcontent
      rcases hlined.writing (stage_of_reachable hreachable.reachable) hunsettled hopen with
        ⟨after, htask⟩ | htask
      · exact Or.inr (And.intro (isSending_of_task htask) ⟨call, hfit.asksFor hcall⟩)
      · rw [hsigned.receiving (Or.inl htask) last hlast] at hsome
        cases hsome

/-!
## Frames behind the request
-/

def accepted (connection : Connection) : List Call :=
  connection.settled.filterMap Transmission.call

/-- The octets on the stream behind the request are those of these whole frames and of perhaps
one more, and then a front of a frame that is cut. -/
structure Wire (connection : Connection) (frames : List Frame) (more : Option Frame)
    (front : Bytes) : Prop where
  whole : exists octets, Frame.Stream true (frames ++ more.toList) octets ∧
    connection.sink.content = connection.request ++ (octets ++ front)
  cut : front = [] ∨ exists (frame : Frame) (key : MaskKey) (missing : Bytes),
    missing ≠ [] ∧ frame.LaidOut (some key) (front ++ missing)
  calls : List.Forall₂ Call.AsksFor connection.accepted frames
  /-- The receiver adds a close frame, or a call is just about to come back. -/
  added : forall frame, more = some frame -> frame.opcode = .close ∨
    connection.isSending = true ∧ exists call : Call, call.AsksFor frame
  control : forall frame, frame ∈ frames ++ more.toList -> frame.opcode.isControl = true ->
    frame.fin = true ∧ frame.payload.length <= 125
  messages : exists unfinished, Messages unfinished (dataFrames (frames ++ more.toList))
  streaming : connection.isFree = true ->
    connection.core.state = .opened ∨ connection.core.state = .closingLocal ->
    more = none ∧ front = [] ∧
      (connection.core.streaming = true <-> Messages true (dataFrames frames))

section Frames

variable {connection : Connection}

/-- On a connection that is free and open, the stream has the frames of the calls and nothing
else. -/
theorem content_of_isFree (hreachable : connection.Reachable) (hfree : connection.isFree = true)
    (hstate : connection.core.state = .opened ∨ connection.core.state = .closingLocal) :
    connection.transmissions = connection.settled ∧
      connection.sink.content = connection.request ++ octetsOf connection.settled := by
  rcases wire_invariant hreachable with ⟨hlined, hwired⟩
  have htask := task_outline_of_isFree hfree
  have hopen : connection.outline.state ≠ .closed ∧ connection.outline.state ≠ .disconnected := by
    show connection.core.state ≠ .closed ∧ connection.core.state ≠ .disconnected
    rcases hstate with hstate | hstate <;> simp [hstate]
  have hsettled : connection.transmissions = connection.settled := hlined.between htask hopen.left
  refine And.intro hsettled ?_
  rw [← hsettled]
  exact hwired.content_eq_due hopen.left hopen.right (hwired.flushed (Or.inl htask) hopen.left)

theorem streaming_iff (hreachable : connection.Reachable) (hfree : connection.isFree = true)
    (hstate : connection.core.state = .opened ∨ connection.core.state = .closingLocal) :
    connection.core.streaming = true <-> Messages true (dataOf connection.settled) := by
  have hopen : connection.outline.state ≠ .closed := by
    show connection.core.state ≠ .closed
    rcases hstate with hstate | hstate <;> simp [hstate]
  have hmessages := (frames_invariant hreachable).right.left.streaming hopen
  rw [Outline.expects_eq_streaming (by simp [task_outline_of_isFree hfree])] at hmessages
  have hmessages' : Messages connection.core.streaming (dataOf connection.settled) :=
    (content_of_isFree hreachable hfree hstate).left ▸ hmessages
  constructor
  · intro hstreaming
    rw [hstreaming] at hmessages'
    exact hmessages'
  · intro hunfinished
    exact hmessages'.unique hunfinished

theorem wire_of_content (hreachable : connection.Reachable) (more : Option Transmission)
    {front : Bytes} (hmore : connection.settled ++ more.toList <+: connection.transmissions)
    (hlength : forall transmission, transmission ∈ connection.transmissions ->
      transmission.frame.payload.length < 2 ^ 64)
    (hcontent : connection.sink.content =
      connection.request ++ (octetsOf (connection.settled ++ more.toList) ++ front))
    (hcut : front = [] ∨ exists (frame : Frame) (key : MaskKey) (missing : Bytes),
      missing ≠ [] ∧ frame.LaidOut (some key) (front ++ missing))
    (hadded : forall last, more = some last -> last.frame.opcode = .close ∨
      connection.isSending = true ∧ exists call : Call, call.AsksFor last.frame)
    (hmessages : exists unfinished,
      Messages unfinished (dataOf (connection.settled ++ more.toList))) :
    connection.Wire (connection.settled.map frame) (more.map frame) front := by
  rcases frames_invariant hreachable with ⟨_, hsequenced, hsigned⟩
  have hfit (transmission : Transmission)
      (hmem : transmission ∈ connection.settled ++ more.toList) : transmission.IsFit :=
    hsequenced.fit transmission (hmore.subset hmem)
  have hframes : connection.settled.map frame ++ (more.map frame).toList =
      (connection.settled ++ more.toList).map frame := by
    cases more <;> simp
  constructor
  case whole =>
      refine ⟨_, ?_, hcontent⟩
      rw [hframes]
      exact stream_octetsOf (fun _ hmem => (hfit _ hmem).masked)
        fun _ hmem => hlength _ (hmore.subset hmem)
  case cut => exact hcut
  case calls =>
      exact forall₂_asksFor (fun _ hmem => hfit _ (List.mem_append_left _ hmem)) hsigned.settled
  case added =>
      intro frame hframe
      rcases Option.map_eq_some_iff.mp hframe with ⟨last, hlast, rfl⟩
      exact hadded last hlast
  case control =>
      intro frame hmem
      rw [hframes] at hmem
      rcases List.mem_map.mp hmem with ⟨transmission, hmem', rfl⟩
      exact (hfit transmission hmem').control
  case messages =>
      rw [hframes]
      exact hmessages
  case streaming =>
      intro hfree hstate
      rcases content_of_isFree hreachable hfree hstate with ⟨hsettled, hwhole⟩
      have hnone : more = none := by
        rw [hsettled] at hmore
        cases more with
        | none => rfl
        | some last =>
            have hlength := hmore.length_le
            rw [Option.toList_some, List.length_append, List.length_singleton] at hlength
            omega
      subst hnone
      refine ⟨rfl, ?_, streaming_iff hreachable hfree hstate⟩
      rw [hwhole] at hcontent
      simpa using hcontent

end Frames

def brokenMoves : List Move :=
  [.call (.stream (.text "a") false), .hold, .hold, .hold,
    .treatWrites (.failingAfter 7 "broken pipe") .flushed, .call (.ping [1, 2, 3]), .hold, .hold,
    .hold, .hold]

end Connection

end WebSocketClient
