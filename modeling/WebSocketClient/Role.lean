/-!
# Roles

The two ends of a connection.  A client masks what it sends; a server does not.
-/

namespace WebSocketClient

inductive Role where
  | client
  | server
  deriving DecidableEq

namespace Role

def name : Role -> String
  | client => "client"
  | server => "server"

def peer : Role -> Role
  | client => server
  | server => client

def mustMask : Role -> Bool
  | client => true
  | server => false

def expectsMasked (role : Role) : Bool :=
  role.peer.mustMask

end Role

end WebSocketClient
