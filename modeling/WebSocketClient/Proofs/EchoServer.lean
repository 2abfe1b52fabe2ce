import WebSocketClient.Proofs.Arrivals
import WebSocketClient.Proofs.RoundTrip

/-!
# A server that writes everything back

A server reads the frames of its client and writes each of them back, unmasked.  It writes
those back that have arrived whole, wherever their octets were cut on the way.
-/

namespace WebSocketClient

/-!
## Fronts of frames
-/

theorem Bytes.arrived_cases {arrived octets behind : Bytes} (hfront : arrived <+: octets ++ behind) :
    (exists left, arrived = octets ++ left ∧ left <+: behind) ∨
      exists missing, missing ≠ [] ∧ arrived ++ missing = octets := by
  rcases hfront with ⟨more, hmore⟩
  rcases List.append_eq_append_iff.mp hmore with ⟨missing, hoctets, _⟩ | ⟨left, harrived, hbehind⟩
  · cases missing with
    | nil => exact Or.inl ⟨[], by simpa using hoctets.symm, List.nil_prefix⟩
    | cons octet missing => exact Or.inr ⟨octet :: missing, by simp, hoctets.symm⟩
  · exact Or.inl ⟨left, harrived, more, hbehind.symm⟩

namespace Frame

variable {role : Role} {limits : Limits} {source later : Source} {frame : Frame}

theorem read_stands {more : Bytes} {ending : Option Ending}
    (hgoes : source.GoesOn more ending later) :
    Reading.Stands more ending (read role limits source) (read role limits later) := by
  unfold read
  apply (Source.octet_stands hgoes).andThen
  intro first source later hgoes
  exact readAfter_stands hgoes first

theorem read_of_front {mask : Option MaskKey} {octets missing : Bytes}
    (hlaid : frame.LaidOut mask octets) (hmask : mask.isSome = role.expectsMasked)
    (hkeeps : frame.Keeps limits) (hbytes : source.bytes ++ missing = octets)
    (hmissing : missing ≠ []) (hending : source.ending = none) :
    read role limits source = .waiting := by
  let whole : Source := ⟨[octets], none⟩
  have hwhole : whole.bytes = octets := List.flatten_singleton
  have hgoes : source.GoesOn missing none whole :=
    ⟨hwhole.trans hbytes.symm, by rw [hending]; rfl, Or.inl hending⟩
  rcases read_gives hlaid hmask hkeeps (hwhole.trans (List.append_nil octets).symm) rfl with
    ⟨rest, hread, hleft, _⟩
  have hstands : Reading.Stands missing none (read role limits source) (read role limits whole) :=
    read_stands hgoes
  rw [hread] at hstands
  generalize read role limits source = early at hstands
  cases hstands with
  | waiting _ => rfl
  | done hrest =>
      have hnone := hrest.bytes.symm.trans hleft
      exact absurd (List.append_eq_nil_iff.mp hnone).right hmissing

theorem readAll_of_waiting (hread : read role limits source = .waiting) :
    readAll role limits source = ([], .waiting) := by
  rw [readAll]
  split
  case h_1 frame' rest' hread' =>
      rw [hread] at hread'
      cases hread'
  case h_2 => rw [hread]

/-- Of a row of frames of which a front has arrived, those are read that are whole. -/
theorem readAll_of_front {frames : List Frame} {octets : Bytes}
    (hstream : Stream role.expectsMasked frames octets)
    (hkeeps : forall frame, frame ∈ frames -> frame.Keeps limits)
    (hbytes : source.bytes <+: octets) (hending : source.ending = none) :
    exists front, front <+: frames ∧ (source.bytes = octets -> front = frames) ∧
      readAll role limits source = (front, .waiting) := by
  induction hstream generalizing source with
  | nil =>
      refine ⟨[], List.nil_prefix, fun _ => rfl, readAll_of_waiting ?_⟩
      rw [read, Source.octet_of_nothing (List.prefix_nil.mp hbytes) hending]
      rfl
  | @cons frame mask octets behind frames hlaid hmask _ ih =>
      have hkeep := hkeeps frame List.mem_cons_self
      rcases Bytes.arrived_cases hbytes with ⟨left, hsource, hbehind⟩ | ⟨missing, hmissing, hoctets⟩
      · rcases read_gives hlaid hmask hkeep hsource hending with ⟨rest, hread, hleft, hopen⟩
        rcases ih (fun _ hlater => hkeeps _ (List.mem_cons_of_mem _ hlater)) (hleft ▸ hbehind)
          hopen with ⟨front, hfront, hwhole, hall⟩
        refine ⟨frame :: front, List.cons_prefix_cons.mpr (And.intro rfl hfront), ?_, ?_⟩
        · intro hsame
          rw [hwhole (hleft.trans (List.append_cancel_left (hsource.symm.trans hsame)))]
        · rw [readAll_of_done hread, hall]
      · refine ⟨[], List.nil_prefix, fun hsame => ?_, readAll_of_waiting ?_⟩
        · have hlength := congrArg List.length hoctets
          have hpos := List.length_pos_iff.mpr hmissing
          simp only [hsame, List.length_append] at hlength
          omega
        · exact read_of_front hlaid hmask hkeep hoctets hmissing hending

end Frame

/-!
## The server
-/

/-- A server that reads frames and writes each of them back, on a stream that takes its
octets. -/
structure EchoServer where
  limits : Limits := {}
  /-- How the octets of the client are cut into chunks on their way. -/
  cut : Bytes -> List Bytes := fun octets => [octets]
  flatten_cut : forall octets, (cut octets).flatten = octets := by simp
  keys : MaskKeys := ⟨0⟩
  capacity : Nat := 8192
  policy : WritePolicy := .ready
  willing : policy.isWilling = true := by rfl

namespace EchoServer

/-- What the server has written when it waits for more than these octets.  A server that
does not get to the point of waiting for more gives up. -/
def echo? (server : EchoServer) (received : Bytes) : Option Bytes :=
  match Frame.readAll .server server.limits ⟨server.cut received, none⟩ with
  | (frames, .waiting) =>
      (FrameWriter.writeAll? ⟨.server, server.keys, .ofCapacity server.capacity⟩
        { policy := server.policy } frames).map fun (_, sink) => sink.content
  | _ => none

/-- The server writes the frames back that have arrived whole. -/
theorem exists_echo (server : EchoServer) {frames : List Frame} {octets received : Bytes}
    (hstream : Frame.Stream true frames octets)
    (hkeeps : forall frame, frame ∈ frames -> frame.Keeps server.limits)
    (hreceived : received <+: octets) :
    exists front written, front <+: frames ∧ (received = octets -> front = frames) ∧
      Frame.Stream false front written ∧ server.echo? received = some written := by
  let source : Source := ⟨server.cut received, none⟩
  let writer : FrameWriter := ⟨.server, server.keys, .ofCapacity server.capacity⟩
  have hbytes : source.bytes = received := server.flatten_cut received
  have hread : exists front, front <+: frames ∧ (source.bytes = octets -> front = frames) ∧
      Frame.readAll .server server.limits source = (front, .waiting) :=
    Frame.readAll_of_front hstream hkeeps (hbytes ▸ hreceived) rfl
  rcases hread with ⟨front, hfront, hwhole, hread⟩
  have hwrite : exists after sink,
      writer.writeAll? { policy := server.policy } front = some (after, sink) :=
    FrameWriter.writeAll?_of_isWilling ⟨server.willing, rfl⟩ front
  rcases hwrite with ⟨after, sink, hwrite⟩
  have hlength : forall frame, frame ∈ front -> frame.payload.length < 2 ^ 64 := fun frame hframe =>
    Nat.lt_trans (hkeeps frame (hfront.mem hframe)).small (by decide)
  rcases FrameWriter.stream_of_writeAll rfl hlength hwrite with ⟨written, hstream', hcontent⟩
  refine ⟨front, written, hfront, fun hsame => hwhole (hbytes.trans hsame), hstream', ?_⟩
  simp only [echo?]
  rw [show Frame.readAll .server server.limits ⟨server.cut received, none⟩ = _ from hread]
  refine (congrArg (Option.map fun (_, sink) => sink.content) hwrite).trans ?_
  exact congrArg some hcontent

end EchoServer

end WebSocketClient
