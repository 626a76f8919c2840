/-
  TunnelBroker.Session.Accept — the callers of a tunnel.

  A listening tunnel takes one caller after the other. A caller whom the tunnel's list allows is counted as
  accepted and gets a relay; any other is counted as rejected. A relay asks the client for a channel to the
  tunnel's remote side, and passes bytes on when it has one.

  The loop that takes the callers and the relays go on side by side. A tunnel that was halted may take callers
  until its loop sees that, and a relay that has not asked for its channel yet still does.

  - `Tunnel.receive`: the decision about one caller, and the counter that it moves.
  - `Relay.step`: a relay, from the caller that was let in to its end.
  - `Accepting.step`: one event of the loop or of a relay.
-/

import TunnelBroker.Session.Tunnel
import TunnelBroker.Transport

namespace TunnelBroker

open TunnelBroker.Net (Endpoint)

/-- Counts a caller; whether it is let in. -/
def Tunnel.receive (t : Tunnel) (caller : Endpoint) : Bool × Tunnel :=
  if t.acl.allowsCaller caller then (true, { t with accepted := t.accepted + 1 })
  else (false, { t with rejected := t.rejected + 1 })

/-! ## Relays -/

inductive RelayStage where
  /-- It has yet to ask for a channel. -/
  | waiting
  /-- It has asked for a channel to the remote side of a forward. -/
  | asking (target : Forward)
  /-- It has the channel, and passes bytes on. -/
  | passing (target : Forward)
  | ended (target : Forward)
  deriving DecidableEq, Repr

/-- What connects a caller with the client. -/
structure Relay where
  caller : Endpoint
  stage : RelayStage := .waiting
  deriving DecidableEq, Repr

inductive RelayEvent where
  /-- It asks for its channel. -/
  | ask
  /-- The client opens the channel, unless there is a failure. -/
  | answer (failure : Option TransportError)
  /-- Both sides have sent everything, one is broken, or the tunnel was halted. -/
  | finish
  deriving DecidableEq, Repr

namespace Relay

/-- The forward to whose remote side the relay has asked for a channel. -/
def target? (r : Relay) : Option Forward :=
  match r.stage with
  | .waiting => none
  | .asking target | .passing target | .ended target => some target

/-- One event of a relay of a tunnel with the given forward. -/
def step (forward : Forward) (r : Relay) (e : RelayEvent) : Relay :=
  match r.stage, e with
  | .waiting, .ask => { r with stage := .asking forward }
  | .asking target, .answer none => { r with stage := .passing target }
  | .asking target, .answer (some _) => { r with stage := .ended target }
  | .passing target, .finish => { r with stage := .ended target }
  | _, _ => r

end Relay

/-! ## The loop -/

/-- A tunnel whose listener takes callers. -/
structure Accepting where
  tunnel : Tunnel
  /-- The loop was left: nobody is taken any more. -/
  left : Bool := false
  /-- The relays of all the callers that were let in, the first one first. -/
  relays : List Relay := []
  deriving DecidableEq, Repr

/-- What happens at a listener and with the relays of its callers. -/
inductive AcceptEvent where
  /-- The loop takes a caller. -/
  | caller (endpoint : Endpoint)
  /-- A caller could not be taken. -/
  | trouble
  /-- The tunnel is told to end. -/
  | halt
  /-- The loop sees that its tunnel was halted. -/
  | leave
  /-- Something happens with the relay at a position. -/
  | relay (position : Nat) (event : RelayEvent)
  deriving DecidableEq, Repr

namespace Accepting

/-- One event at a listener. Nobody is taken after the loop was left, and it is only left when the tunnel was
halted before. -/
def step (a : Accepting) (e : AcceptEvent) : Accepting :=
  match e with
  | .caller caller =>
    if a.left then a
    else
      match a.tunnel.receive caller with
      | (true, t) => { a with tunnel := t, relays := a.relays ++ [{ caller }] }
      | (false, t) => { a with tunnel := t }
  | .trouble => a
  | .halt => { a with tunnel := a.tunnel.halt }
  | .leave => { a with left := a.left || a.tunnel.halted }
  | .relay position event => { a with relays := a.relays.modify position fun r => r.step a.tunnel.forward event }

def run (a : Accepting) (events : List AcceptEvent) : Accepting := events.foldl step a

end Accepting

end TunnelBroker
