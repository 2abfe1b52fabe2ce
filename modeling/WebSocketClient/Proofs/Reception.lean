import WebSocketClient.Receiver

/-!
# The receiver's loop

A step of the receiver's loop either tells the listener of the event that is due,
or it lets out diagnostics only and may have the next event in hand.  The events
it has in hand come from the server; it never makes up the beginning or the end
of a connection.
-/

namespace WebSocketClient

def Event.isNews : Event -> Bool
  | connected | closed => false
  | message _ | chunk _ _ | ping _ | pong _ => true

namespace ReceiverPhase

def news? : ReceiverPhase -> Option Event
  | delivering event => some event
  | _ => none

def parting? : ReceiverPhase -> Option ListenerId
  | notifying listener => some listener
  | _ => none

end ReceiverPhase

theorem Assembly.isNews_of_extend {sequence : Sequence} {frame : Frame} {event : Event}
    {assembly : Assembly} (hextend : extend sequence frame = .ok (.event event, assembly)) :
    event.isNews = true := by
  unfold extend at hextend
  cases hchunk : sequence.chunk frame.payload frame.fin with
  | error error =>
      rw [hchunk] at hextend
      cases hextend
  | ok chunked =>
      rw [hchunk] at hextend
      cases hextend
      rfl

theorem Assembly.isNews_of_accept {assembly assembly' : Assembly} {frame : Frame} {event : Event}
    (haccept : assembly.accept frame = .ok (.event event, assembly')) : event.isNews = true := by
  unfold accept at haccept
  split at haccept
  case h_1 => exact isNews_of_extend haccept
  case h_2 =>
      split at haccept
      · cases hdecode : decodeText frame.payload with
        | error error =>
            rw [hdecode] at haccept
            cases haccept
        | ok content =>
            rw [hdecode] at haccept
            cases haccept
            rfl
      · exact isNews_of_extend haccept
  case h_3 =>
      split at haccept
      · cases haccept
        rfl
      · exact isNews_of_extend haccept
  case h_4 =>
      cases hclose : CloseFrame.ofPayload frame.payload with
      | error error =>
          rw [hclose] at haccept
          cases haccept
      | ok close =>
          rw [hclose] at haccept
          cases haccept
  case h_5 =>
      cases haccept
      rfl
  case h_6 =>
      cases haccept
      rfl

namespace Receiver

/-- A step that tells the listener nothing and has only news of the server in
hand. -/
structure Listens (receiver next : Receiver) (signals : List Signal) : Prop where
  listener : next.listener = receiver.listener
  parting : next.phase.parting? = none
  news : forall event, next.phase.news? = some event -> event.isNews = true
  signals : forall signal, signal ∈ signals -> exists diagnostic, signal = .diagnostic diagnostic

theorem listens_takeFrame (receiver : Receiver) (frame : Frame) (rest : Source) :
    receiver.Listens (receiver.takeFrame frame rest).1 (receiver.takeFrame frame rest).2 := by
  unfold takeFrame
  split
  case h_1 error haccept =>
      constructor <;> simp [ReceiverPhase.news?, ReceiverPhase.parting?]
  case h_2 close assembly haccept =>
      constructor <;> simp [ReceiverPhase.news?, ReceiverPhase.parting?]
  case h_3 event assembly haccept =>
      have hnews := Assembly.isNews_of_accept haccept
      constructor <;> simp [ReceiverPhase.news?, ReceiverPhase.parting?, hnews]

theorem listens_readFrame (limits : Limits) (receiver : Receiver) :
    receiver.Listens (receiver.readFrame limits).1 (receiver.readFrame limits).2 := by
  unfold readFrame
  split
  case h_1 frame rest hread => exact receiver.listens_takeFrame frame rest
  case h_2 hread => constructor <;> simp [ReceiverPhase.news?, ReceiverPhase.parting?]
  case h_3 hread => constructor <;> simp [ReceiverPhase.news?, ReceiverPhase.parting?]
  case h_4 hread =>
      cases receiver.aborted <;> constructor <;>
        simp [ReceiverPhase.news?, ReceiverPhase.parting?]

theorem step_cases {limits : Limits} {receiver next : Receiver} {signals : List Signal}
    (hstep : receiver.step? limits = some (next, signals)) :
    (exists event, receiver.phase = .delivering event ∧
        next = { receiver with phase := .checking } ∧ signals = [.event event]) ∨
      receiver.phase.parting? = none ∧ receiver.Listens next signals := by
  unfold step? at hstep
  split at hstep
  case h_1 hphase =>
      cases hstep
      right
      rw [hphase]
      constructor
      · rfl
      · cases receiver.stop <;> constructor <;>
          simp [ReceiverPhase.news?, ReceiverPhase.parting?]
  case h_2 hphase =>
      right
      rw [hphase]
      have hread := receiver.listens_readFrame limits
      rw [Option.some.inj hstep] at hread
      exact And.intro rfl hread
  case h_3 event hphase =>
      cases hstep
      exact Or.inl ⟨event, hphase, rfl, rfl⟩
  all_goals cases hstep

end Receiver

end WebSocketClient
