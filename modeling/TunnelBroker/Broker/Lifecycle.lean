/-
  TunnelBroker.Broker.Lifecycle — sessions from their start to their end.

  - `startSession`: a client has connected. Its session is registered after all its tunnels are open, or
    not at all.
  - `openTunnels`, `closeTunnel`: changes of a live session, which are persisted.
  - `terminate`: the session is lost and its tunnels are halted; then it is forgotten, or kept as lost.
  - `forget`, `deleteObsolete`: lost sessions are forgotten at once, or when they have been kept long enough.
  - `handle`: a connection from its start to the end of its session.
-/

import TunnelBroker.Broker.Registry
import TunnelBroker.Broker.Tunnels

namespace TunnelBroker.Operation

open TunnelBroker.Time (Duration)

/-- Halts all tunnels of a session and gives their leases back. -/
def haltTunnels (i : SessionRef) : Operation Unit := do
  releasePorts (← Task.locked (.tunnels i) (update i fun _ s => s.haltTunnels))

/-- Opens the session of a client that has connected; `cancelled` means that it was asked to end before. -/
def startSession (id : String) (connection : ConnectionRef) (request : ConnectionRequest) (user : Option User)
    (cancelled : Bool) : Operation (Except SessionError SessionRef) := do
  let i ← .atomic fun b =>
    b.addSession (.connect id connection (b.connection connection).address.text request.profile user cancelled)
  match ← startTunnels i request.forwards {} with
  | .error e => return .error e
  | .ok _ =>
    match ← register i with
    | .ok () => return .ok i
    | .error e =>
      haltTunnels i
      return .error (.registry e)

def openTunnels (i : SessionRef) (forwards : List Forward) (acl : Acl) :
    Operation (Except SessionError (List Tunnel)) :=
  Task.locked (.lifecycle i) do
    match ← startTunnels i forwards acl with
    | .error e => return .error e
    | .ok tunnels =>
      match ← register i with
      | .error e => return .error (.registry e)
      | .ok () => return .ok tunnels

def closeTunnel (i : SessionRef) (tunnel : String) : Operation (Except SessionError Unit) :=
  Task.locked (.lifecycle i) do
    match ← look i fun s => (s.isActive, s.id) with
    | (false, id) => return .error (.notConnected id)
    | (true, id) =>
      let removed ← Task.locked (.tunnels i) <| update i fun _ s =>
        match s.removeTunnel? tunnel with
        | none => (none, s)
        | some (t, s) => (some t, s)
      match removed with
      | none => return .error (.tunnelNotFound id tunnel)
      | some t =>
        releasePorts t.leasedPort?.toList
        return (← register i).mapError .registry

/-- Ends a session. The moment of its end is read before its tunnels are waited for. -/
def terminate (i : SessionRef) : Operation (Except SessionError Unit) :=
  Task.locked (.lifecycle i) do
    let moment ← now
    let ports ← Task.locked (.tunnels i) (update i fun _ s => s.disconnect moment)
    releasePorts ports
    update i fun _ s => ((), s.cancel)
    match ← .read fun b => b.keepLost with
    | none => return (← unregister (← look i (·.id))).mapError .registry
    | some _ => return (← register i).mapError .registry

/-- Asks whoever owns the session to end it. -/
def cancel (i : SessionRef) : Operation Unit := update i fun _ s => ((), s.cancel)

/-- Forgets a lost session. -/
def forget (id : String) : Operation (Except SessionError Unit) := do
  match ← find id with
  | .error e => return .error (.registry e)
  | .ok i =>
    if ← look i (·.isActive) then return .error (.sessionActive id)
    else return (← unregister id).mapError .registry

/-- Forgets the sessions that have been lost for longer than they are kept; how many there were. -/
def deleteObsolete : Operation (Except SessionError Nat) := do
  match ← .read fun b => b.keepLost with
  | none => return .ok 0
  | some keep => return (← deleteLostFor keep).mapError .registry

/-- Forgets obsolete sessions `n` times, as the sweeper does at each of its ticks; failures do not stop it. -/
def sweep : (n : Nat) → Operation Unit
  | 0 => pure ()
  | n + 1 => do
    let _ ← deleteObsolete
    sweep n

/-- Drives the session of a connection until the connection is closed or the session is asked to end. -/
def handle (id : String) (connection : ConnectionRef) (request : ConnectionRequest) (user : Option User)
    (cancelled : Bool) : Operation (Except SessionError Unit) := do
  match ← startSession id connection request user cancelled with
  | .error e =>
    closeConnection connection s!"session start failed: {e.message}"
    return .error e
  | .ok i =>
    Task.waitFor fun b => (b.connection connection).closed || (b.session i).cancelled
    if ← .read fun b => b.endsByClose connection i then pure ()
    else closeConnection connection "session terminated"
    let _ ← terminate i
    return .ok ()

end TunnelBroker.Operation
