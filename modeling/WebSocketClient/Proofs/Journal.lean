import WebSocketClient.Connection.Basic

/-!
# Reading the journal

A journal holds the last thing first.  These are the parts of it that the laws of
a connection are about, each in the order in which things happened.  Diagnostics
belong to none of them.
-/

namespace WebSocketClient

namespace Journal

def request : List Entry -> Bytes
  | [] => []
  | .began octets :: _ => octets
  | _ :: older => request older

def transmissions : List Entry -> List Transmission
  | [] => []
  | .transmitting transmission :: older => transmissions older ++ [transmission]
  | _ :: older => transmissions older

/-- The frames whose calls came back without an error.  A call that comes back
has sent the last frame before that. -/
def settled : List Entry -> List Transmission
  | [] => []
  | .returned none :: older => settled older ++ (transmissions older).getLast?.toList
  | _ :: older => settled older

def returns : List Entry -> Nat
  | [] => 0
  | .returned none :: older => returns older + 1
  | _ :: older => returns older

def callbacks : List Entry -> List (ListenerId × Event)
  | [] => []
  | .callback listener event :: older => callbacks older ++ [(listener, event)]
  | _ :: older => callbacks older

/-!
## Diagnostics
-/

section Diagnostics

variable (debug : Bool) (diagnostic : Diagnostic) (older : List Entry)

@[simp] theorem request_diagnostic :
    request ((if debug then [.diagnostic diagnostic] else []) ++ older) = request older := by
  cases debug <;> rfl

@[simp] theorem transmissions_diagnostic :
    transmissions ((if debug then [.diagnostic diagnostic] else []) ++ older) =
      transmissions older := by
  cases debug <;> rfl

@[simp] theorem settled_diagnostic :
    settled ((if debug then [.diagnostic diagnostic] else []) ++ older) = settled older := by
  cases debug <;> rfl

@[simp] theorem returns_diagnostic :
    returns ((if debug then [.diagnostic diagnostic] else []) ++ older) = returns older := by
  cases debug <;> rfl

@[simp] theorem callbacks_diagnostic :
    callbacks ((if debug then [.diagnostic diagnostic] else []) ++ older) =
      callbacks older := by
  cases debug <;> rfl

end Diagnostics

/-!
## Notifications
-/

section Notifications

variable (listener : Option ListenerId) (event : Event) (older : List Entry)

@[simp] theorem request_notification :
    request ((listener.map fun id => .callback id event).toList ++ older) = request older := by
  cases listener <;> rfl

@[simp] theorem transmissions_notification :
    transmissions ((listener.map fun id => .callback id event).toList ++ older) =
      transmissions older := by
  cases listener <;> rfl

@[simp] theorem settled_notification :
    settled ((listener.map fun id => .callback id event).toList ++ older) = settled older := by
  cases listener <;> rfl

@[simp] theorem returns_notification :
    returns ((listener.map fun id => .callback id event).toList ++ older) = returns older := by
  cases listener <;> rfl

@[simp] theorem callbacks_notification :
    callbacks ((listener.map fun id => .callback id event).toList ++ older) =
      callbacks older ++ (listener.map fun id => (id, event)).toList := by
  cases listener <;> simp [callbacks]

end Notifications

end Journal

/-!
## What a connection did
-/

namespace Connection

def request (connection : Connection) : Bytes :=
  Journal.request connection.journal

def transmissions (connection : Connection) : List Transmission :=
  Journal.transmissions connection.journal

def settled (connection : Connection) : List Transmission :=
  Journal.settled connection.journal

def returns (connection : Connection) : Nat :=
  Journal.returns connection.journal

def callbacks (connection : Connection) : List (ListenerId × Event) :=
  Journal.callbacks connection.journal

end Connection

end WebSocketClient
