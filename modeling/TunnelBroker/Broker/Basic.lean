/-
  TunnelBroker.Broker.Basic — the state of a broker.

  A broker keeps all sessions that ever came to be, by number, and the registry of those that are known
  under an id. Several sessions may have had the same id; the registry knows the last one that was
  registered under it.

  `Outside` is all that does not depend on the broker: the time, what a random choice hits, who else listens,
  and when the host or the store refuses something. It may change between two steps.
-/

import TunnelBroker.Ports.Allocator
import TunnelBroker.Session.Basic
import TunnelBroker.Store.Basic
import TunnelBroker.Task
import TunnelBroker.Transport

namespace TunnelBroker

open TunnelBroker.Net (Endpoint ListenError ListenRule Port)
open TunnelBroker.Ports (Allocator Occupancy)
open TunnelBroker.Store (Table)
open TunnelBroker.Time (Timestamp Duration)

/-- The number of a session among those of the broker. -/
abbrev SessionRef := Nat

structure Outside where
  now : Timestamp := .epoch
  /-- The index of the port that a random choice among some ports hits. -/
  draw : List Port → Nat := fun _ => 0
  /-- A handler whose connection is closed and whose session is asked to end goes by the first. -/
  prefersClose : Bool := true
  occupancy : Occupancy := .listed []
  /-- What other programs listen on. -/
  held : List Endpoint := []
  listenRule : ListenRule := fun _ => none
  refusal : Store.Refusal := fun _ => none
  deriving Inhabited

/-- A socket that listens for the callers of a tunnel. -/
structure Listener where
  endpoint : Endpoint
  session : SessionRef
  /-- The id of the tunnel. -/
  tunnel : String
  /-- The tunnel is committed, and callers are being let in. -/
  serving : Bool := false
  deriving DecidableEq, Repr

/-- The locks of a session: one for its whole life, one for its tunnels. -/
inductive Lock where
  | lifecycle (session : SessionRef)
  | tunnels (session : SessionRef)
  deriving DecidableEq, Repr

structure Broker where
  outside : Outside := {}
  allocator : Allocator
  /-- Every session there ever was. -/
  sessions : List Session := []
  /-- Every connection there ever was. -/
  connections : List Connection := []
  /-- The sessions that are known under an id. -/
  registry : Table SessionRef := {}
  store : Option Store := none
  listeners : List Listener := []
  /-- How long lost sessions are kept; without it they are not kept at all. -/
  keepLost : Option Duration := none

/-- An operation of a broker. -/
abbrev Operation := Task Broker Lock

namespace Broker

def session (b : Broker) (i : SessionRef) : Session := b.sessions[i]?.getD .nobody

def setSession (b : Broker) (i : SessionRef) (s : Session) : Broker := { b with sessions := b.sessions.set i s }

/-- The broker with one more session, whose number is the number of those before it. -/
def addSession (b : Broker) (s : Session) : SessionRef × Broker :=
  (b.sessions.length, { b with sessions := b.sessions ++ [s] })

def connection (b : Broker) (c : ConnectionRef) : Connection := b.connections[c]?.getD default

def addConnection (b : Broker) (c : Connection) : ConnectionRef × Broker :=
  (b.connections.length, { b with connections := b.connections ++ [c] })

/-- The handler of a session goes by the end of its connection. If the session was asked to end as well, it may go by
that instead. -/
def endsByClose (b : Broker) (c : ConnectionRef) (i : SessionRef) : Bool :=
  (b.connection c).closed && (!(b.session i).cancelled || b.outside.prefersClose)

/-- Everything that is listened on. -/
def occupied (b : Broker) : List Endpoint := b.outside.held ++ b.listeners.map (·.endpoint)

/-- Whether one more listener can be had on an endpoint. -/
def canListen (b : Broker) (e : Endpoint) : Except ListenError Unit :=
  Net.listen b.outside.listenRule b.occupied e

/-- The listener's tunnel is a committed tunnel of its session, and open. -/
def isServed (b : Broker) (l : Listener) : Bool :=
  let s := b.session l.session
  s.tunnels.any fun t => t.id = l.tunnel && s.isOpen t

/-- The listeners of tunnels that are not open any more are closed. A listener does this by itself, but not
at the very moment at which its tunnel is halted. -/
def closeStale (b : Broker) : Broker :=
  { b with listeners := b.listeners.filter fun l => !l.serving || b.isServed l }

/-- The sessions that are known, in the order of their ids. -/
def known (b : Broker) : List Session := b.registry.values.map b.session

end Broker

/-! ## The atomic steps of operations -/

namespace Operation

/-- A look at a session. -/
def look {α : Type} (i : SessionRef) (f : Session → α) : Operation α := .read fun b => f (b.session i)

/-- A step of one session. -/
def update {α : Type} (i : SessionRef) (f : Broker → Session → α × Session) : Operation α :=
  .atomic fun b =>
    let (a, s) := f b (b.session i)
    (a, b.setSession i s)

/-- A step of the allocator. -/
def allocate {α : Type} (f : Broker → Allocator → α × Allocator) : Operation α :=
  .atomic fun b =>
    let (a, allocator) := f b b.allocator
    (a, { b with allocator })

def now : Operation Timestamp := .read fun b => b.outside.now

/-- Gives ports back, one after the other. -/
def releasePorts : List Port → Operation Unit
  | [] => pure ()
  | port :: rest => do
    let _ ← allocate fun _ a => a.release port
    releasePorts rest

def closeConnection (c : ConnectionRef) (reason : String) : Operation Unit :=
  .change fun b => { b with connections := b.connections.modify c (·.close reason) }

end Operation

end TunnelBroker
