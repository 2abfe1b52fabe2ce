import WebSocketClient.Connection.Holding
import WebSocketClient.Connection.Surroundings
import WebSocketClient.Proofs.Journal
import WebSocketClient.Proofs.Reception

/-!
# Outlines

The outline of a connection leaves out what decides when something happens: the
octets that arrive, the clock, the deadlines, the receiver's assembly and the
diagnostics.  What is left is what the laws of a connection are about, and each
part of a move changes it in one way.
-/

namespace WebSocketClient

inductive Task where
  /-- Nobody holds the lock. -/
  | free
  | requesting
  | awaitingAnswer
  /-- A caller's frame; whether an outgoing sequence is in progress after it. -/
  | sending (streamingAfter : Bool)
  | farewell
  /-- The shutdown, by a caller or by the receiver. -/
  | leaving (byCaller : Bool)
  deriving DecidableEq

structure Outline where
  state : ConnectionState
  task : Task
  streaming : Bool
  /-- The writer in the core. -/
  writer : Option FrameWriter
  /-- The writer that the holder of the lock has taken along. -/
  held : Option FrameWriter
  /-- The octets under way that are in no buffer yet. -/
  rest : Bytes
  sink : Sink
  /-- The listener of the next opening handshake. -/
  registered : Option ListenerId
  /-- The listener that is still to be told of the end. -/
  owed : Option ListenerId
  /-- The receiver's listener, once there is a receiver. -/
  audience : Option (Option ListenerId)
  /-- What the receiver is about to tell its listener. -/
  news : Option Event
  /-- The listener that the receiver is about to tell of the end. -/
  parting : Option ListenerId
  request : Bytes
  transmissions : List Transmission
  settled : List Transmission
  /-- How often an operation came back without an error. -/
  returns : Nat
  callbacks : List (ListenerId × Event)

namespace Holder

def task : Holder -> Task
  | requesting _ _ => .requesting
  | awaitingAnswer _ => .awaitingAnswer
  | sending work _ => .sending work.streamingAfter
  | farewell _ _ => .farewell
  | leaving _ _ _ failure => .leaving failure.isSome

def writer? : Holder -> Option FrameWriter
  | requesting attempt _ | awaitingAnswer attempt => some attempt.writer
  | sending _ _ | farewell _ _ => none
  | leaving writer _ _ _ => some writer

def rest : Holder -> Bytes
  | requesting _ writing | sending _ writing | farewell writing _ | leaving _ writing _ _ =>
      writing.rest
  | awaitingAnswer _ => []

end Holder

namespace Connection

def outline (connection : Connection) : Outline where
  state := connection.core.state
  task := (connection.holder.map Holder.task).getD .free
  streaming := connection.core.streaming
  writer := connection.core.writer
  held := connection.holder.bind Holder.writer?
  rest := (connection.holder.map Holder.rest).getD []
  sink := connection.sink
  registered := connection.listener
  owed := connection.core.listener
  audience := connection.receiver.map Receiver.listener
  news := connection.receiver.bind fun receiver => receiver.phase.news?
  parting := connection.receiver.bind fun receiver => receiver.phase.parting?
  request := Journal.request connection.journal
  transmissions := Journal.transmissions connection.journal
  settled := Journal.settled connection.journal
  returns := Journal.returns connection.journal
  callbacks := Journal.callbacks connection.journal

end Connection

namespace Outline

/-- The octets under way that have not reached the stream. -/
def unsent (outline : Outline) : Bytes :=
  (((outline.held <|> outline.writer).map fun writer => writer.output.buffer).getD [])
    ++ outline.rest

end Outline

/-!
## Outlines of the parts of a move
-/

namespace Holder

@[simp] theorem task_arrive (holder : Holder) (chunks : List Bytes) (ending : Option Ending) :
    (holder.arrive chunks ending).task = holder.task := by
  cases holder <;> rfl

@[simp] theorem writer?_arrive (holder : Holder) (chunks : List Bytes) (ending : Option Ending) :
    (holder.arrive chunks ending).writer? = holder.writer? := by
  cases holder <;> rfl

@[simp] theorem rest_arrive (holder : Holder) (chunks : List Bytes) (ending : Option Ending) :
    (holder.arrive chunks ending).rest = holder.rest := by
  cases holder <;> rfl

end Holder

namespace Receiver

@[simp] theorem listener_abort (receiver : Receiver) :
    receiver.abort.listener = receiver.listener := by
  unfold abort
  split <;> rfl

@[simp] theorem news?_abort (receiver : Receiver) :
    receiver.abort.phase.news? = receiver.phase.news? := by
  unfold abort
  split
  case h_1 hphase => simp [hphase, ReceiverPhase.news?]
  case h_2 => rfl

@[simp] theorem parting?_abort (receiver : Receiver) :
    receiver.abort.phase.parting? = receiver.phase.parting? := by
  unfold abort
  split
  case h_1 hphase => simp [hphase, ReceiverPhase.parting?]
  case h_2 => rfl

@[simp] theorem listener_release (core : Core) (abort : Bool) (receiver : Receiver) :
    (core.release abort receiver).listener = receiver.listener := by
  unfold Core.release
  split <;> simp

@[simp] theorem news?_release (core : Core) (abort : Bool) (receiver : Receiver) :
    (core.release abort receiver).phase.news? = receiver.phase.news? := by
  unfold Core.release
  split <;> simp

@[simp] theorem parting?_release (core : Core) (abort : Bool) (receiver : Receiver) :
    (core.release abort receiver).phase.parting? = receiver.phase.parting? := by
  unfold Core.release
  split <;> simp

@[simp] theorem listener_arrive (receiver : Receiver) (chunks : List Bytes)
    (ending : Option Ending) : (receiver.arrive chunks ending).listener = receiver.listener :=
  rfl

@[simp] theorem news?_arrive (receiver : Receiver) (chunks : List Bytes)
    (ending : Option Ending) :
    (receiver.arrive chunks ending).phase.news? = receiver.phase.news? := by
  unfold arrive
  cases receiver.phase <;> rfl

@[simp] theorem parting?_arrive (receiver : Receiver) (chunks : List Bytes)
    (ending : Option Ending) :
    (receiver.arrive chunks ending).phase.parting? = receiver.phase.parting? := by
  unfold arrive
  cases receiver.phase <;> rfl

end Receiver

namespace Connection

section Holder

variable {connection : Connection} {holder : Holder}

theorem task_of_holder (hholder : connection.holder = some holder) :
    connection.outline.task = holder.task := by
  simp [outline, hholder]

theorem held_of_holder (hholder : connection.holder = some holder) :
    connection.outline.held = holder.writer? := by
  simp [outline, hholder]

theorem rest_of_holder (hholder : connection.holder = some holder) :
    connection.outline.rest = holder.rest := by
  simp [outline, hholder]

end Holder

@[simp] theorem outline_report (connection : Connection) (diagnostic : Diagnostic) :
    (connection.report diagnostic).outline = connection.outline := by
  simp [outline, report, log]

@[simp] theorem transmissions_report (connection : Connection) (diagnostic : Diagnostic) :
    (connection.report diagnostic).transmissions = connection.transmissions :=
  congrArg Outline.transmissions (outline_report connection diagnostic)

@[simp] theorem callbacks_report (connection : Connection) (diagnostic : Diagnostic) :
    (connection.report diagnostic).callbacks = connection.callbacks :=
  congrArg Outline.callbacks (outline_report connection diagnostic)

@[simp] theorem outline_finish_some (connection : Connection) (error : Error) :
    (connection.finish (some error)).outline = connection.outline := by
  simp [outline, finish, record, log, Journal.request, Journal.transmissions, Journal.settled,
    Journal.returns, Journal.callbacks]

theorem outline_finish_none (connection : Connection) :
    (connection.finish none).outline = { connection.outline with
      settled := connection.outline.settled ++ connection.outline.transmissions.getLast?.toList
      returns := connection.outline.returns + 1 } := by
  simp [outline, finish, record, log, Journal.request, Journal.transmissions, Journal.settled,
    Journal.returns, Journal.callbacks]

theorem outline_notify (connection : Connection) (listener : Option ListenerId) (event : Event) :
    (connection.notify listener event).outline = { connection.outline with
      callbacks := connection.outline.callbacks ++
        (listener.map fun id => (id, event)).toList } := by
  simp [outline, notify, log]

theorem outline_failOpening (connection : Connection) (error : Error) :
    (connection.failOpening error).outline = { connection.outline with
      state := .disconnected, task := .free, held := none, rest := [] } := by
  rw [failOpening, outline_finish_some, outline_report]
  rfl

theorem outline_finishOpening (connection : Connection) (attempt : Attempt) (rest : Source)
    (protocols : List String) :
    (connection.finishOpening attempt rest protocols).outline = { connection.outline with
      state := .opened, task := .free, writer := some attempt.writer, held := none, rest := []
      owed := connection.listener, audience := some connection.listener
      news := none, parting := none
      settled := connection.outline.settled ++ connection.outline.transmissions.getLast?.toList
      returns := connection.outline.returns + 1
      callbacks := connection.outline.callbacks ++
        (connection.listener.map fun id => (id, .connected)).toList } := by
  rw [finishOpening, outline_finish_none, outline_notify, outline_report]
  rfl

theorem outline_setOutput (connection : Connection) (writer : FrameWriter) (output : Output)
    (sink : Sink) :
    (connection.setOutput writer output sink).outline = { connection.outline with
      writer := some { writer with output := output }, sink := sink } :=
  rfl

theorem outline_finishSending (connection : Connection) (sending : Sending) :
    (connection.finishSending sending).outline = { connection.outline with
      task := .free, streaming := sending.streamingAfter, held := none, rest := []
      settled := connection.outline.settled ++ connection.outline.transmissions.getLast?.toList
      returns := connection.outline.returns + 1 } := by
  rw [finishSending, outline_finish_none]
  simp [outline, report, log]

theorem outline_setPhase (connection : Connection) (phase : ReceiverPhase) :
    (connection.setPhase phase).outline = { connection.outline with
      news := connection.receiver.bind fun _ => phase.news?
      parting := connection.receiver.bind fun _ => phase.parting? } := by
  cases hreceiver : connection.receiver <;> simp [outline, setPhase, mapReceiver, hreceiver]

theorem outline_releaseReceiver (connection : Connection) (abort : Bool) :
    (connection.releaseReceiver abort).outline = connection.outline := by
  cases hreceiver : connection.receiver <;>
    simp [outline, releaseReceiver, mapReceiver, hreceiver]

theorem outline_startTeardown {connection : Connection} {writer : FrameWriter}
    (hwriter : connection.core.writer = some writer) (failure : Option Error) :
    (connection.startTeardown failure).outline = { connection.outline with
      state := .closed, task := .leaving failure.isSome, streaming := false, writer := none
      held := some writer, rest := [] } := by
  have hreleased := connection.outline_releaseReceiver failure.isSome
  simp only [startTeardown, hwriter]
  rw [← hreleased]
  rfl

theorem outline_finishTeardown_some (connection : Connection) (error : Error) :
    (connection.finishTeardown (some error)).outline = { connection.outline with
      task := .free, held := none, rest := [], owed := none
      callbacks := connection.outline.callbacks ++
        (connection.outline.owed.map fun id => (id, .closed)).toList } := by
  rw [finishTeardown, outline_finish_some, outline_notify]
  simp [outline, report, log]

theorem outline_finishTeardown_none {connection : Connection} {receiver : Receiver}
    (hreceiver : connection.receiver = some receiver) :
    (connection.finishTeardown none).outline = { connection.outline with
      task := .free, held := none, rest := [], owed := none
      news := none, parting := connection.outline.owed } := by
  cases hlistener : connection.core.listener <;>
    simp [outline, finishTeardown, report, log, mapReceiver, hreceiver, hlistener,
      ReceiverPhase.news?, ReceiverPhase.parting?]

theorem outline_startClosing (connection : Connection) (code : CloseCode) (reason : String) :
    (connection.startClosing code reason).outline =
      { connection.outline with state := .closingLocal } := by
  rw [startClosing, outline_report]
  cases connection.core.holdsControl <;> cases hreceiver : connection.receiver <;>
    simp [outline, mapReceiver, hreceiver]

theorem outline_startSending {connection : Connection} {writer : FrameWriter}
    (hwriter : connection.core.writer = some writer) (call : Call) (frame : Frame)
    (streamingAfter : Bool) :
    (connection.startSending call frame streamingAfter).outline = { connection.outline with
      task := .sending streamingAfter, writer := some (writer.start frame).2, held := none
      rest := frame.encode writer.nextKey
      transmissions := connection.outline.transmissions ++
        [⟨some call, frame, writer.nextKey⟩] } := by
  simp only [startSending, hwriter]
  rfl

theorem outline_startFarewell {connection : Connection} {writer : FrameWriter}
    (hwriter : connection.core.writer = some writer) (payload : Bytes) :
    (connection.startFarewell payload).outline = { connection.outline with
      task := .farewell, writer := some (writer.start ⟨true, .close, payload⟩).2, held := none
      rest := Frame.encode ⟨true, .close, payload⟩ writer.nextKey
      transmissions := connection.outline.transmissions ++
        [⟨none, ⟨true, .close, payload⟩, writer.nextKey⟩] } := by
  simp only [startFarewell, hwriter]
  rfl

theorem outline_supply (connection : Connection) (chunks : List Bytes) (ending : Option Ending) :
    (connection.supply chunks ending).outline = connection.outline := by
  cases hholder : connection.holder <;> cases hreceiver : connection.receiver <;>
    simp [outline, supply, hholder, hreceiver]

theorem outline_giveUp (connection : Connection) :
    connection.giveUp.outline = connection.outline := by
  simp only [giveUp]
  split
  · rw [outline_releaseReceiver]
    rfl
  · rfl

end Connection

end WebSocketClient
