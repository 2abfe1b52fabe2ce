import WebSocketClient.Proofs.Calls

/-!
# Messages as frames

A message is one final data frame, or a data frame that is not final, any number
of continuation frames that are not, and a final one.  Frames one after another
make up messages, of which the last may be unfinished.
-/

namespace WebSocketClient

/-- The frames of a message of which more are to come. -/
inductive IsUnfinished : List Frame -> Prop
  | first {frame : Frame} : frame.opcode.startsMessage = true -> frame.fin = false ->
      IsUnfinished [frame]
  | more {front : List Frame} {frame : Frame} : IsUnfinished front ->
      frame.opcode = .continuation -> frame.fin = false -> IsUnfinished (front ++ [frame])

inductive IsMessage : List Frame -> Prop
  | single {frame : Frame} : frame.opcode.startsMessage = true -> frame.fin = true ->
      IsMessage [frame]
  | several {front : List Frame} {frame : Frame} : IsUnfinished front ->
      frame.opcode = .continuation -> frame.fin = true -> IsMessage (front ++ [frame])

/-- Frames that make up messages, and perhaps the beginning of another one. -/
def Messages (unfinished : Bool) (frames : List Frame) : Prop :=
  exists (messages : List (List Frame)) (tail : List Frame),
    frames = messages.flatten ++ tail ∧
      (forall message, message ∈ messages -> IsMessage message) ∧
      if unfinished then IsUnfinished tail else tail = []

def dataFrames (frames : List Frame) : List Frame :=
  frames.filter fun frame => !frame.opcode.isControl

/-!
## One more frame
-/

theorem Messages.nil : Messages false [] :=
  ⟨[], [], rfl, by simp, rfl⟩

section Frames

variable {frames : List Frame} {frame : Frame}

theorem Messages.append {message : List Frame} (hmessages : Messages false frames)
    (hmessage : IsMessage message) : Messages false (frames ++ message) := by
  rcases hmessages with ⟨messages, tail, rfl, hall, rfl⟩
  refine ⟨messages ++ [message], [], by simp, ?_, rfl⟩
  intro other hother
  rcases List.mem_append.mp hother with hother | hother
  · exact hall other hother
  · rw [List.mem_singleton.mp hother]
    exact hmessage

theorem Messages.begin (hmessages : Messages false frames)
    (hstarts : frame.opcode.startsMessage = true) (hfin : frame.fin = false) :
    Messages true (frames ++ [frame]) := by
  rcases hmessages with ⟨messages, tail, rfl, hall, rfl⟩
  exact ⟨messages, [frame], by simp, hall, .first hstarts hfin⟩

theorem Messages.continue (hmessages : Messages true frames)
    (hopcode : frame.opcode = .continuation) : Messages (!frame.fin) (frames ++ [frame]) := by
  rcases hmessages with ⟨messages, tail, rfl, hall, htail⟩
  have htail' : IsUnfinished tail := htail
  cases hfin : frame.fin with
  | true =>
      have hmessages : Messages false messages.flatten :=
        ⟨messages, [], by simp, hall, rfl⟩
      rw [List.append_assoc]
      exact hmessages.append (.several htail' hopcode hfin)
  | false =>
      refine ⟨messages, tail ++ [frame], by simp, hall, ?_⟩
      exact IsUnfinished.more htail' hopcode hfin

end Frames

/-!
## The end of the frames
-/

theorem IsUnfinished.ends {frames : List Frame} (hunfinished : IsUnfinished frames) :
    exists front last, frames = front ++ [last] ∧ last.fin = false := by
  cases hunfinished with
  | first hstarts hfin => exact ⟨[], _, rfl, hfin⟩
  | more hfront hopcode hfin => exact ⟨_, _, rfl, hfin⟩

theorem IsMessage.ends {frames : List Frame} (hmessage : IsMessage frames) :
    exists front last, frames = front ++ [last] ∧ last.fin = true := by
  cases hmessage with
  | single hstarts hfin => exact ⟨[], _, rfl, hfin⟩
  | several hfront hopcode hfin => exact ⟨_, _, rfl, hfin⟩

/-- Whether the last message is unfinished shows at the last frame. -/
theorem Messages.unfinished_iff {unfinished : Bool} {frames : List Frame}
    (hmessages : Messages unfinished frames) :
    unfinished = true <-> exists front last, frames = front ++ [last] ∧ last.fin = false := by
  rcases hmessages with ⟨messages, tail, rfl, hall, htail⟩
  cases unfinished with
  | true =>
      have htail' : IsUnfinished tail := htail
      rcases htail'.ends with ⟨front, last, rfl, hfin⟩
      simp only [true_iff]
      exact ⟨messages.flatten ++ front, last, by simp, hfin⟩
  | false =>
      have htail' : tail = [] := htail
      rw [htail', List.append_nil]
      simp only [Bool.false_eq_true, false_iff]
      rintro ⟨front, last, hlast, hfin⟩
      rcases List.eq_nil_or_concat messages with rfl | ⟨earlier, message, rfl⟩
      · simp at hlast
      · rcases (hall message (by simp)).ends with ⟨front', last', rfl, hfin'⟩
        rw [List.concat_eq_append, List.flatten_append, List.flatten_singleton,
          ← List.append_assoc] at hlast
        have hsame := (List.append_inj' hlast rfl).right
        simp only [List.cons.injEq, and_true] at hsame
        rw [hsame, hfin] at hfin'
        cases hfin'

theorem Messages.unique {first second : Bool} {frames : List Frame}
    (hfirst : Messages first frames) (hsecond : Messages second frames) : first = second := by
  have hiff := hfirst.unfinished_iff.trans hsecond.unfinished_iff.symm
  cases first <;> cases second <;> simp at hiff ⊢

/-!
## The frames of calls
-/

section Frames

variable {frames : List Frame} {frame : Frame}

theorem dataFrames_append_control (hcontrol : frame.opcode.isControl = true) :
    dataFrames (frames ++ [frame]) = dataFrames frames := by
  simp [dataFrames, hcontrol]

theorem dataFrames_append_data (hdata : frame.opcode.isControl = false) :
    dataFrames (frames ++ [frame]) = dataFrames frames ++ [frame] := by
  simp [dataFrames, hdata]

/-- A call goes on with the messages, and says whether the last one is unfinished
after it. -/
theorem Messages.call {call : Call} {payload : Bytes} {streaming after : Bool}
    (hmessages : Messages streaming (dataFrames frames))
    (hframe : call.frame payload streaming = .ok (frame, after)) :
    Messages after (dataFrames (frames ++ [frame])) := by
  rcases Call.frame_cases hframe with
    ⟨message, _, rfl, rfl, rfl⟩ | ⟨chunk, final, _, rfl, rfl⟩ | ⟨opcode, hcontrol, rfl, rfl, _⟩
  · have hstarts := message.startsMessage_opcode
    rw [dataFrames_append_data (Opcode.isControl_of_startsMessage hstarts)]
    exact hmessages.append (.single hstarts rfl)
  · have hstarts := chunk.startsMessage_opcode
    cases streaming with
    | true =>
        rw [dataFrames_append_data rfl]
        exact hmessages.continue rfl
    | false =>
        rw [dataFrames_append_data (Opcode.isControl_of_startsMessage hstarts)]
        cases final with
        | true => exact hmessages.append (.single hstarts rfl)
        | false => exact hmessages.begin hstarts rfl
  · rw [dataFrames_append_control hcontrol]
    exact hmessages

end Frames

end WebSocketClient
