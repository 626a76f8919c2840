/-
  TunnelBroker.Broker.Tunnels — opening tunnels in batches.

  A batch opens one tunnel for each forward, in order, or none at all. It refreshes once what ports are
  busy; a forward without a local port gets one from the allocator, on all interfaces. The first forward
  that fails ends the batch: its listeners are closed, its tunnels halted and its leases given back.

  - `openBatch`: the part of it under the lock of the session's tunnels.
  - `startTunnels`: the whole.
-/

import TunnelBroker.Broker.Basic

namespace TunnelBroker.Operation

open TunnelBroker.Net (Port)
open TunnelBroker.Ports (PortError)

/-- Asks which ports are busy. -/
def refresh : Operation (Except PortError Unit) := do
  let candidates ← .read fun b => b.allocator.candidates
  let answer ← .read fun b => b.outside.occupancy.ask b.canListen candidates
  allocate fun _ a => a.adopt answer

/-- The forward with its local side decided, and the port that was leased for it. -/
def resolve (f : Forward) : Operation (Except SessionError (Forward × Option Port)) :=
  if f.isLocalGiven then pure (.ok (f, none))
  else do
    match ← allocate fun b a => a.lease b.outside.draw with
    | .error e => return .error (.ofPort e)
    | .ok port => return .ok (f.withLocal Forward.allInterfaces port, some port)

/-- Listens on the local side of a pending tunnel. -/
def listen (i : SessionRef) (t : Tunnel) : Operation (Except SessionError Listener) :=
  .atomic fun b =>
    match t.forward.localEndpoint with
    | .error e => (.error (.ofForward t.forward e), b)
    | .ok e =>
      match b.canListen e with
      | .error error => (.error (.bind e.text error.message), b)
      | .ok () =>
        let l : Listener := { endpoint := e, session := i, tunnel := t.id }
        (.ok l, { b with listeners := b.listeners ++ [l] })

/-- Starts a pending tunnel and listens for it. -/
def place (i : SessionRef) (f : Forward) (acl : Acl) (autoAssigned : Bool) :
    Operation (Except SessionError Listener) := do
  match ← update i fun b s => s.start f acl autoAssigned b.outside.now with
  | .error e => return .error e
  | .ok t => listen i t

/-- What a batch has taken so far: the ports it leased and the listeners it opened. -/
structure Taken where
  leased : List Port := []
  listeners : List Listener := []

/-- Opens one forward of a batch, in addition to what the batch has taken. -/
def attempt (i : SessionRef) (acl : Acl) (f : Forward) (taken : Taken) :
    Operation (Except SessionError Unit × Taken) := do
  match ← resolve f with
  | .error e => return (.error e, taken)
  | .ok (f, port) =>
    let taken := { taken with leased := taken.leased ++ port.toList }
    match ← place i f acl port.isSome with
    | .error e => return (.error e, taken)
    | .ok l => return (.ok (), { taken with listeners := taken.listeners ++ [l] })

/-- Opens each forward, up to the first that fails. -/
def fill (i : SessionRef) (acl : Acl) : List Forward → Taken → Operation (Except SessionError Unit × Taken)
  | [], taken => pure (.ok (), taken)
  | f :: rest, taken => do
    match ← attempt i acl f taken with
    | (.error e, taken) => return (.error e, taken)
    | (.ok (), taken) => fill i acl rest taken

/-- Closes listeners. -/
def closeListeners (opened : List Listener) : Operation Unit :=
  .change fun b => { b with listeners := b.listeners.filter fun l => !opened.contains l }

/-- Lets callers in at the listeners of committed tunnels. -/
def serve (i : SessionRef) (tunnels : List Tunnel) : Operation Unit :=
  .change fun b =>
    let ids := tunnels.map (·.id)
    { b with listeners := b.listeners.map fun l =>
        if l.session == i && ids.contains l.tunnel then { l with serving := true } else l }

/-- The tunnels that were committed, or why there are none and which ports are still leased. -/
abbrev BatchResult := Except (SessionError × List Port) (List Tunnel)

/-- The part of a batch during which nobody else changes the session's tunnels. -/
def openBatch (i : SessionRef) (forwards : List Forward) (acl : Acl) : Operation BatchResult := do
  match ← look i fun s => (s.connection, s.id) with
  | (none, id) => return .error (.notConnected id, [])
  | (some _, _) =>
    match ← refresh with
    | .error e => return .error (.ofPort e, [])
    | .ok () =>
      match ← fill i acl forwards {} with
      | (.ok (), _) => return .ok (← update i fun _ s => s.commit)
      | (.error e, taken) =>
        closeListeners taken.listeners
        update i fun _ s => ((), s.discard)
        return .error (e, taken.leased)

/-- Opens a tunnel for each forward, or none. -/
def startTunnels (i : SessionRef) (forwards : List Forward) (acl : Acl) :
    Operation (Except SessionError (List Tunnel)) := do
  match ← Task.locked (.tunnels i) (openBatch i forwards acl) with
  | .ok tunnels =>
    serve i tunnels
    return .ok tunnels
  | .error (e, leased) =>
    releasePorts leased
    return .error e

end TunnelBroker.Operation
