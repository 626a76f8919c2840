/-
  TunnelBroker.Session.Basic — the session of one client.

  A session is live while it has a connection. It becomes lost once, with the time of that, and stays lost.
  Its context may be cancelled before: whoever owns the session is thereby asked to end it, and none of its
  tunnels is open any more.

  Tunnels are started as pending ones, in a batch, and become part of the session together or not at all.

  - `Session.start`: validates a forward, refuses one whose local side is in use, and starts a tunnel.
  - `Session.commit`, `Session.discard`: the two ends of a batch.
  - `Session.disconnect`: the session is lost and all its tunnels are halted.
-/

import TunnelBroker.Session.Error
import TunnelBroker.Session.Tunnel
import TunnelBroker.Text.Decimal

namespace TunnelBroker

open TunnelBroker.Net (Port)
open TunnelBroker.Time (Timestamp)

/-- The number of a connection among those of the broker. -/
abbrev ConnectionRef := Nat

structure Session where
  id : String
  profile : Profile
  /-- Where the client connected from. -/
  address : String
  user : Option User := none
  /-- The session was asked to end. -/
  cancelled : Bool := false
  connection : Option ConnectionRef := none
  disconnectedAt : Option Timestamp := none
  /-- The committed tunnels, in the order in which they were started. -/
  tunnels : List Tunnel := []
  /-- The tunnels of the batch that is under way. -/
  pending : List Tunnel := []
  /-- The tunnels that were taken out of the session or never became part of it. -/
  retired : List Tunnel := []
  /-- The number of the last committed tunnel; numbers wrap around at 2^64. -/
  lastId : UInt64 := 0
  deriving DecidableEq, Repr

namespace Session

/-- What a reference to no session shows: a lost session of nobody. -/
def nobody : Session :=
  { id := "", profile := {}, address := "", cancelled := true, disconnectedAt := some Time.Timestamp.epoch }

instance : Inhabited Session := ⟨nobody⟩

/-- The session of a client that has just connected. -/
def connect (id : String) (connection : ConnectionRef) (address : String) (profile : Profile)
    (user : Option User) (cancelled : Bool) : Session :=
  { id, profile, address, user, cancelled, connection := some connection }

/-- The numbers that the ids of tunnels denote. -/
def idNumbers (tunnels : List TunnelRecord) : List UInt64 := tunnels.filterMap fun t => Text.word64? t.id.toList

/-- A lost session of the past; one that was connected when it was recorded is lost now. -/
def ofRecord (now : Timestamp) (r : SessionRecord) : Session :=
  { id := r.id, profile := r.profile, address := r.address, user := r.user, cancelled := true,
    disconnectedAt := some (r.disconnectedAt.getD now), tunnels := r.tunnels.map Tunnel.ofRecord,
    lastId := (idNumbers r.tunnels).foldl max 0 }

def isActive (s : Session) : Bool := s.connection.isSome && s.disconnectedAt.isNone

/-- The session was lost before `cutoff`. -/
def isLostBefore (s : Session) (cutoff : Timestamp) : Bool :=
  match s.disconnectedAt with
  | some moment => moment.before cutoff
  | none => false

/-- A tunnel of the session is open while neither it nor the session was told to end. -/
def isOpen (s : Session) (t : Tunnel) : Bool := !t.halted && !s.cancelled

/-- Asks whoever owns the session to end it. -/
def cancel (s : Session) : Session := { s with cancelled := true }

/-- The session is lost from now on, if it was not before; the connection that it gives up. -/
def markDisconnected (s : Session) (moment : Timestamp) : Option ConnectionRef × Session :=
  match s.disconnectedAt with
  | some _ => (none, s)
  | none => (s.connection, { s with disconnectedAt := some moment, connection := none })

/-- Halts all tunnels but keeps them; the ports whose leases they give back. -/
def haltTunnels (s : Session) : List Port × Session :=
  (s.tunnels.filterMap Tunnel.leasedPort?, { s with tunnels := s.tunnels.map Tunnel.retire })

/-- The session is lost and its tunnels are halted; the ports whose leases they give back. -/
def disconnect (s : Session) (moment : Timestamp) : List Port × Session := (s.markDisconnected moment).2.haltTunnels

def tunnel? (s : Session) (id : String) : Option Tunnel := s.tunnels.find? (·.id = id)

/-- Takes a tunnel out of the session and halts it; the tunnel as it was before. -/
def removeTunnel? (s : Session) (id : String) : Option (Tunnel × Session) :=
  match s.tunnels.findIdx? (·.id = id) with
  | none => none
  | some i =>
    (s.tunnels[i]?).map fun t =>
      (t, { s with tunnels := s.tunnels.eraseIdx i, retired := s.retired ++ [t.retire] })

/-- Halts one tunnel but keeps it. -/
def haltTunnel (s : Session) (id : String) : Session :=
  { s with tunnels := s.tunnels.map fun t => if t.id = id then t.halt else t }

/-! ## Batches -/

/-- The number of the next tunnel. -/
def nextId (s : Session) : UInt64 := s.lastId + UInt64.ofNat s.pending.length + 1

/-- The first open tunnel, committed or pending, whose local side collides with that of a forward. -/
def collision? (s : Session) (f : Forward) : Option Tunnel :=
  (s.tunnels ++ s.pending).find? fun t => s.isOpen t && t.forward.collides f

/-- The tunnel that is started next. -/
def nextTunnel (s : Session) (f : Forward) (acl : Acl) (autoAssigned : Bool) (now : Timestamp) : Tunnel :=
  { id := String.ofList (Text.digitsOf s.nextId.toNat), forward := f, acl, autoAssigned, createdAt := now,
    holdsLease := autoAssigned }

/-- Starts a pending tunnel. -/
def start (s : Session) (f : Forward) (acl : Acl) (autoAssigned : Bool) (now : Timestamp) :
    Except SessionError Tunnel × Session :=
  match f.validate with
  | .error e => (.error (.ofForward f e), s)
  | .ok () =>
    match s.collision? f with
    | some t => (.error (.duplicateBinding f.localText t.id), s)
    | none =>
      let t := s.nextTunnel f acl autoAssigned now
      (.ok t, { s with pending := s.pending ++ [t] })

/-- The pending tunnels become part of the session. -/
def commit (s : Session) : List Tunnel × Session :=
  (s.pending, { s with tunnels := s.tunnels ++ s.pending, pending := [],
                       lastId := s.lastId + UInt64.ofNat s.pending.length })

/-- The pending tunnels are halted and their numbers are free again. -/
def discard (s : Session) : Session :=
  { s with pending := [], retired := s.retired ++ s.pending.map Tunnel.retire }

/-- Starts one tunnel whose local side is decided, in a batch of its own. -/
def startAlone (s : Session) (f : Forward) (acl : Acl) (now : Timestamp) : Except SessionError Tunnel × Session :=
  match s.start f acl false now with
  | (.ok t, s) => (.ok t, s.commit.2)
  | (.error e, s) => (.error e, s.discard)

/-! ## Records -/

/-- The record of the session with the given tunnels. -/
def recordWith (s : Session) (tunnels : List TunnelRecord) : SessionRecord :=
  ⟨s.id, s.profile, s.address, s.user, tunnels, s.disconnectedAt⟩

def record (s : Session) : SessionRecord := s.recordWith (s.tunnels.map Tunnel.record)

end Session

end TunnelBroker
