/-
  TunnelBroker.Broker.Registry — the sessions that are known under an id, and their records in the store.

  Every change is written to the store first and then made in the registry; the two are separate steps.

  - `register`, `unregister`: a session becomes known under its id, or an id unknown.
  - `restore`: the sessions of the store become known as lost ones.
  - `deleteLostFor`: the sessions that have been lost for longer than some time become unknown.
-/

import TunnelBroker.Broker.Basic

namespace TunnelBroker.Operation

open TunnelBroker.Time (Timestamp Duration)

/-- The session that is known under an id. -/
def find (id : String) : Operation (Except RegistryError SessionRef) :=
  .read fun b =>
    match b.registry.find? id with
    | some i => .ok i
    | none => .error (.notFound id)

/-- The session that is known under an id, if it is active. -/
def findActive (id : String) : Operation (Except RegistryError SessionRef) :=
  .read fun b =>
    match b.registry.find? id with
    | some i => if (b.session i).isActive then .ok i else .error (.notFound id)
    | none => .error (.notFound id)

def hasStore : Operation Bool := .read fun b => b.store.isSome

/-- Writes a record to the store, if there is one. -/
def saveRecord (r : SessionRecord) : Operation (Except RegistryError Unit) :=
  .atomic fun b =>
    match b.store with
    | none => (.ok (), b)
    | some store =>
      let (result, store) := store.save b.outside.refusal b.outside.now r
      (result, { b with store := some store })

/-- Deletes a record from the store, if there is one. -/
def deleteRecord (id : String) : Operation (Except RegistryError Unit) :=
  .atomic fun b =>
    match b.store with
    | none => (.ok (), b)
    | some store =>
      let (result, store) := store.delete b.outside.refusal id
      (result, { b with store := some store })

/-- The session's record. The tunnels are looked at first, then the rest. -/
def takeRecord (i : SessionRef) : Operation SessionRecord := do
  let tunnels ← Task.locked (.tunnels i) (look i fun s => s.tunnels.map Tunnel.record)
  look i fun s => s.recordWith tunnels

/-- The session is known under its id from now on. -/
def enter (i : SessionRef) : Operation Unit :=
  .change fun b => { b with registry := b.registry.insert (b.session i).id i }

/-- Nothing is known under the id from now on. -/
def remove (id : String) : Operation Unit := .change fun b => { b with registry := b.registry.erase id }

/-- Writes the session's record, if there is a store. -/
def persist (i : SessionRef) : Operation (Except RegistryError Unit) := do
  if ← hasStore then saveRecord (← takeRecord i) else return .ok ()

/-- Makes a session known under its id, in place of another one that was. -/
def register (i : SessionRef) : Operation (Except RegistryError Unit) := do
  match ← persist i with
  | .error e => return .error e
  | .ok () =>
    enter i
    return .ok ()

/-- Makes an id unknown. -/
def unregister (id : String) : Operation (Except RegistryError Unit) := do
  match ← find id with
  | .error e => return .error e
  | .ok _ =>
    match ← deleteRecord id with
    | .error e => return .error e
    | .ok () =>
      remove id
      return .ok ()

/-- Makes the session of a record known as a lost one. If it was still connected when it was recorded, it
counts as lost now, and its record is written again. -/
def restoreRecord (r : SessionRecord) : Operation (Except RegistryError Unit) := do
  let i ← .atomic fun b => b.addSession (.ofRecord b.outside.now r)
  if r.isLost then
    enter i
    return .ok ()
  else
    match ← saveRecord (← takeRecord i) with
    | .error e => return .error e
    | .ok () =>
      enter i
      return .ok ()

def restoreRecords : List SessionRecord → Operation (Except RegistryError Unit)
  | [] => pure (.ok ())
  | r :: rest => do
    match ← restoreRecord r with
    | .error e => return .error e
    | .ok () => restoreRecords rest

/-- Makes all sessions of the store known as lost ones; how many there are. -/
def restore : Operation (Except RegistryError Nat) := do
  match ← .read fun b => (b.store, b.outside.refusal) with
  | (none, _) => return .ok 0
  | (some store, refusal) =>
    match store.load refusal with
    | .error e => return .error e
    | .ok records =>
      match ← restoreRecords records with
      | .error e => return .error e
      | .ok () => return .ok records.length

/-- Makes ids unknown, one after the other; how many were known. -/
def unregisterAll : List String → Operation (Except RegistryError Nat)
  | [] => pure (.ok 0)
  | id :: rest => do
    match ← unregister id with
    | .ok () => return (← unregisterAll rest).map (· + 1)
    | .error (.notFound _) => unregisterAll rest
    | .error e => return .error e

/-- The ids of the sessions that were lost before `cutoff`. -/
def lostBefore (cutoff : Timestamp) (b : Broker) : List String :=
  (b.registry.entries.filter fun (_, i) => (b.session i).isLostBefore cutoff).map (·.1)

/-- Makes the sessions unknown that have been lost for longer than `keep`; how many there were. No session
has been lost for longer than a time that reaches back too far. -/
def deleteLostFor (keep : Duration) : Operation (Except RegistryError Nat) := do
  match (← now).minus? keep with
  | none => return .ok 0
  | some cutoff => unregisterAll (← .read (lostBefore cutoff))

end TunnelBroker.Operation
