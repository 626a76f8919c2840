/-
  TunnelBroker.Session.Tunnel — one forward that a session has opened.

  A tunnel is created open and halted at most once. One whose port was assigned by the server holds a lease
  on it until the lease is given back, at most once.
-/

import TunnelBroker.Forward.Spec
import TunnelBroker.Session.Record

namespace TunnelBroker

open TunnelBroker.Net (Port Endpoint)
open TunnelBroker.Time (Timestamp)

structure Tunnel where
  id : String
  /-- The forward, with its local side decided. -/
  forward : Forward
  acl : Acl
  autoAssigned : Bool
  createdAt : Timestamp
  /-- Its listener and all that is relayed through it were told to end. -/
  halted : Bool := false
  holdsLease : Bool := false
  /-- How many callers were let in, and how many were turned away. -/
  accepted : UInt64 := 0
  rejected : UInt64 := 0
  deriving DecidableEq, Repr

namespace Tunnel

def localPort (t : Tunnel) : Port := t.forward.localPort.getD 0

def halt (t : Tunnel) : Tunnel := { t with halted := true }

/-- The port on which the tunnel holds a lease. -/
def leasedPort? (t : Tunnel) : Option Port := if t.holdsLease then some t.localPort else none

/-- Halted and without a lease, as every tunnel is in the end. -/
def retire (t : Tunnel) : Tunnel := { t with halted := true, holdsLease := false }

def record (t : Tunnel) : TunnelRecord := ⟨t.id, t.forward, t.acl, t.autoAssigned, t.createdAt⟩

/-- A tunnel of the past. -/
def ofRecord (r : TunnelRecord) : Tunnel :=
  { id := r.id, forward := r.forward, acl := r.acl, autoAssigned := r.autoAssigned, createdAt := r.createdAt,
    halted := true }

end Tunnel

end TunnelBroker
