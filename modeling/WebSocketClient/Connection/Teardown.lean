import WebSocketClient.Connection.Basic

/-!
# Tearing a connection down

The end of a connection under the lock.  It is closed at once; then the stream
is shut down, for which the buffer is emptied once more, and at last the listener
is told, by a caller before the call comes back, by the receiver after it has
given the lock back.
-/

namespace WebSocketClient

namespace Connection

/-- The last part: the stream is left behind and the listener is told. -/
def finishTeardown (connection : Connection) (failure : Option Error) : Connection :=
  let listener := connection.core.listener
  let connection :=
    { connection.report .closed with
      core := { connection.core with listener := none }
      holder := none }
  match failure with
  | some error => (connection.notify listener .closed).finish (some error)
  | none =>
      connection.mapReceiver fun receiver =>
        { receiver with
          phase := match listener with
            | some id => .notifying id
            | none => .finished }

/-- The first part: after a caller's failed write, whose error it is, or by the
receiver. -/
def startTeardown (connection : Connection) (failure : Option Error) : Connection :=
  let released := connection.releaseReceiver failure.isSome
  let closed :=
    { released with
      isConnected := false
      core := { released.core with state := .closed, streaming := false, writer := none } }
  match connection.core.writer with
  | some writer =>
      let deadline := connection.clock + connection.config.socketTimeout
      { closed with holder := some (.leaving writer ⟨[], false⟩ deadline failure) }
  | none => closed.finishTeardown failure

end Connection

end WebSocketClient
