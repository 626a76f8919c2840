/-
  TunnelBroker.Transport — connections to clients.

  A connection is open until someone closes it, from either side, and then stays closed. A channel to an
  endpoint that the client can reach is only opened while it is open.
-/

import TunnelBroker.Forward.Spec
import TunnelBroker.Net.Dial

namespace TunnelBroker

open TunnelBroker.Net (DialError Endpoint)

structure Connection where
  /-- Where the client connected from. -/
  address : Endpoint
  closed : Bool := false
  /-- The reasons that were given for closing it, the first one first. -/
  reasons : List String := []
  deriving DecidableEq, Repr, Inhabited

inductive TransportError where
  | connectionClosed
  | io (error : DialError)
  deriving DecidableEq, Repr

def TransportError.message : TransportError → String
  | .connectionClosed => "Connection closed"
  | .io error => s!"IO error: {error.message}"

namespace Connection

def close (c : Connection) (reason : String) : Connection :=
  { c with closed := true, reasons := c.reasons ++ [reason] }

/-- Opens a channel to the remote side of a forward, where `reach` says what can be reached. -/
def openChannel (c : Connection) (reach : Forward → Option DialError) (f : Forward) : Except TransportError Unit :=
  if c.closed then .error .connectionClosed
  else
    match reach f with
    | some error => .error (.io error)
    | none => .ok ()

end Connection

/-- Why the remote side of a forward is not reached from a host without a network. -/
def unreachable (f : Forward) : Option DialError := some (Net.isolatedDial f.remoteChars f.remoteHost.toList)

end TunnelBroker
