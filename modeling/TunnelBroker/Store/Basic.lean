/-
  TunnelBroker.Store.Basic — where session records are kept across restarts.

  A store is a map in memory or a table of a database. The table may be absent, in which case every use of
  the database fails.

  - `save`, `delete`, `load`: each is one atomic step, and one that fails changes nothing.
  - `Refusal`: the store may also refuse a use for a reason of its own.
-/

import TunnelBroker.Session.Error
import TunnelBroker.Store.Row
import TunnelBroker.Store.Table

namespace TunnelBroker

open TunnelBroker.Time (Timestamp)

namespace Store

/-- The uses of a store. -/
inductive Use where
  | save (id : String)
  | delete (id : String)
  | load
  deriving DecidableEq, Repr

/-- For each use, the reason for which it is refused, if it is. -/
abbrev Refusal := Use → Option String

end Store

inductive Store where
  | memory (records : Store.Table SessionRecord)
  | database (table : Option (Store.Table Store.Row))
  deriving DecidableEq, Repr

namespace Store

/-- The reason given where the database fails. -/
def databaseFault : RegistryError := .storage "database"

/-- The reason given where a column does not decode. -/
def encodingFault : RegistryError := .storage "record encoding"

/-- Whether there is a record with the id. -/
def contains (store : Store) (id : String) : Bool :=
  match store with
  | .memory records => records.contains id
  | .database none => false
  | .database (some rows) => rows.contains id

/-- Inserts the record, or overwrites the one with the same id. -/
def save (store : Store) (refusal : Refusal) (now : Timestamp) (r : SessionRecord) :
    Except RegistryError Unit × Store :=
  match refusal (.save r.id) with
  | some reason => (.error (.storage reason), store)
  | none =>
    match store with
    | .memory records => (.ok (), .memory (records.insert r.id r))
    | .database none => (.error databaseFault, store)
    | .database (some rows) => (.ok (), .database (some (rows.insert r.id (.ofRecord now r))))

/-- Deletes the record with the id, if there is one. -/
def delete (store : Store) (refusal : Refusal) (id : String) : Except RegistryError Unit × Store :=
  match refusal (.delete id) with
  | some reason => (.error (.storage reason), store)
  | none =>
    match store with
    | .memory records => (.ok (), .memory (records.erase id))
    | .database none => (.error databaseFault, store)
    | .database (some rows) => (.ok (), .database (some (rows.erase id)))

/-- The records, in the order of their ids. -/
def load (store : Store) (refusal : Refusal) : Except RegistryError (List SessionRecord) :=
  match refusal .load with
  | some reason => .error (.storage reason)
  | none =>
    match store with
    | .memory records => .ok records.values
    | .database none => .error databaseFault
    | .database (some rows) =>
      match rows.values.mapM Row.record? with
      | some records => .ok records
      | none => .error encodingFault

/-- Inserts a row as it is, unless there is one with its id. -/
def insertRow (store : Store) (row : Row) : Except RegistryError Unit × Store :=
  match store with
  | .database (some rows) =>
    if rows.contains row.id then (.error databaseFault, store)
    else (.ok (), .database (some (rows.insert row.id row)))
  | _ => (.error databaseFault, store)

/-- Creates the table, if there is none. -/
def migrate : Store → Store
  | .database none => .database (some {})
  | store => store

/-- Drops the table with all that is in it. -/
def dropTable : Store → Store
  | .database _ => .database none
  | store => store

end Store

end TunnelBroker
