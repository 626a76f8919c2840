/-
  TunnelBroker.Server.Run — a run of the server, from its start to its end.

  A server reads its ports, opens its store and restores the sessions of it as lost ones. Where lost
  sessions are not kept they are dropped at once; where they are kept, a sweeper runs. It stops when it is
  asked to, and what it logs until then and after that is the report of the run.

  - `start`: the broker of a server, or why there is none, and what is logged on the way.
  - `run`: the report of a run, with the lines that the filter lets through.
-/

import TunnelBroker.Broker.Lifecycle
import TunnelBroker.Ports.Pool
import TunnelBroker.Server.Filter
import TunnelBroker.Server.Settings
import TunnelBroker.Store.Location
import TunnelBroker.Text.Escaped

namespace TunnelBroker.Server

open TunnelBroker.Ports (Pool PortError)
open TunnelBroker.Time (Duration)

/-- What a server finds where it runs. -/
structure Surroundings where
  environment : String → Option String := fun _ => none
  /-- The database in a file, if the file is there. -/
  file? : String → Option Store := fun _ => none
  /-- Whether a file that is not there can be made. -/
  canCreate : String → Bool := fun _ => false
  outside : Outside := {}

/-- Why a server ends by itself. -/
inductive Failure where
  | filter (error : FilterError)
  | pool (error : PortError)
  | database
  | migrating
  | restoring (error : RegistryError)
  | dropping (error : SessionError)
  deriving DecidableEq, Repr

namespace Failure

def message : Failure → String
  | .filter .malformed => "invalid filter directive"
  | .filter .splitCharacter => "a filter directive ends inside of a character"
  | .pool _ => "Invalid port pool configuration"
  | .database => "Failed to connect to database"
  | .migrating => "Failed to run database migrations"
  | .restoring _ => "Failed to restore stored sessions"
  | .dropping error => error.message

def causes : Failure → List String
  | .pool error => [error.message]
  | .restoring error => [error.message]
  | _ => []

/-- The server breaks down at a filter that cannot be cut into its parts, and ends in order otherwise. -/
def exitCode : Failure → Nat
  | .filter .splitCharacter => 101
  | _ => 1

end Failure

structure Report where
  /-- What is logged until the server waits for its end. -/
  started : List Entry := []
  /-- What is logged after it has been asked to end. -/
  stopped : List Entry := []
  failure : Option Failure := none
  /-- What is in the store in the end, if one was opened. -/
  store : Option Store := none

namespace Report

def entries (r : Report) : List Entry := r.started ++ r.stopped

def exitCode (r : Report) : Nat := r.failure.elim 0 (·.exitCode)

end Report

/-! ## What is logged -/

namespace Entry

def server (level : Level) (message : String) : Entry := { level, source := "burrow", message }

def service (message : String) : Entry := { level := .info, source := "burrow_control::service", message }

def sweeper (level : Level) (message : String) : Entry :=
  { level, source := "burrow_control::cleanup", message, task := some .sweeper }

def api (message : String) : Entry := { level := .info, source := "burrow_api", message, task := some .api }

/-- The lines about a record of the store that becomes a lost session. -/
def restored (r : SessionRecord) : List Entry :=
  (if r.isLost then []
    else [{ level := .debug, source := "burrow_control::store", message := "Stored session record",
            fields := [("session_id", r.id)] }]) ++
  [{ level := .debug, source := "burrow_control::repository", message := "Restored lost session",
     fields := [("session_id", Text.escaped r.id)] }]

def allRestored (count : Nat) : Entry :=
  { level := .info, source := "burrow_control::repository", message := s!"Restored {count} lost sessions from store" }

def deleted (id : String) : Entry :=
  { level := .debug, source := "burrow_control::store", message := "Deleted session record",
    fields := [("session_id", id)] }

def connected : Entry :=
  { level := .info, source := "burrow_relay_db", message := "Session store connected (Sqlite backend)" }

/-- The line about the table of a database, which may have to be created. -/
def migrated (store : Store) : Entry :=
  if store matches .database none then
    { level := .info, source := "burrow_relay_db", message := "Applying 1 session store migrations" }
  else { level := .debug, source := "burrow_relay_db", message := "Session store schema is up to date" }

end Entry

/-! ## The start -/

/-- Forgets lost sessions, one after the other, until one cannot be forgotten. -/
def dropAll : List String → Operation (List Entry × Option SessionError)
  | [] => pure ([], none)
  | id :: rest => do
    match ← Operation.forget id with
    | .error e => return ([], some e)
    | .ok () =>
      let (entries, error) ← dropAll rest
      return ([.deleted id, .service "Lost session forgotten"] ++ entries, error)

/-- Restores the sessions of the store, and drops them again where lost sessions are not kept. -/
def restoreSessions (records : List SessionRecord) (keep : Bool) : Operation (List Entry × Option Failure) := do
  let result ← Operation.restore
  let registry ← .read fun b => b.registry
  let restored := (records.filter fun r => registry.contains r.id).flatMap Entry.restored
  match result with
  | .error e => return (restored, some (.restoring e))
  | .ok 0 => return (restored, none)
  | .ok count =>
    let restored := restored ++ [.allRestored count]
    if keep then return (restored, none)
    else
      let dropping := Entry.server .warn s!"Retention is disabled, dropping {count} stored sessions"
      let (dropped, error) ← dropAll (← .read fun b => b.known.map (·.id))
      return (restored ++ [dropping] ++ dropped, error.map .dropping)

/-- The database at a location, if it can be opened. One in memory is empty, and so is a new file. -/
def openDatabase (around : Surroundings) (l : Store.Location) : Option Store :=
  match l.file with
  | none => some (.database none)
  | some file =>
    match around.file? file with
    | some store => some store
    | none => if l.creates && !l.readOnly && around.canCreate file then some (.database none) else none

/-- A database that is only read refuses all changes. -/
def readOnlyRefusal : Store.Refusal
  | .load => none
  | _ => some "Execution Error: error returned from database: (code: 8) attempt to write a readonly database"

/-- What a server does with its database until it waits for its end, with its lines of the log: at most its
broker. -/
def startOn (settings : Settings) (outside : Outside) (pool : Pool) (store : Store) :
    List Entry × Except Failure Broker :=
  let b : Broker :=
    { outside
      allocator := { pool, timeout := .ofSeconds settings.refreshTimeout }
      store := some store
      keepLost := settings.keepLost.map .ofSeconds }
  let records := (store.load outside.refusal).toOption.getD []
  match (restoreSessions records settings.keepLost.isSome).run b with
  | ((restored, some failure), _) => (restored, .error failure)
  | ((restored, none), b) => (restored, .ok b)

/-- What a server does until it waits for its end, with its lines of the log: at most its broker. -/
def start (settings : Settings) (around : Surroundings) : List Entry × Except Failure Broker :=
  let starting := [Entry.server .info "Starting burrow server"]
  match Pool.read settings.usedPorts settings.excludedPorts with
  | .error e => (starting, .error (.pool e))
  | .ok pool =>
    let starting := starting ++
      [{ level := .info, source := "burrow_ports::allocator", message := s!"Port allocator pool: {pool.size} ports" }]
    match (Store.Location.read? settings.databaseUrl).bind fun l => (openDatabase around l).map (l, ·) with
    | none => (starting, .error .database)
    | some (l, store) =>
      let starting := starting ++ [.connected]
      if l.readOnly && store matches .database none then (starting, .error .migrating)
      else
        let outside := if l.readOnly then { around.outside with refusal := readOnlyRefusal } else around.outside
        let (restoring, result) := startOn settings outside pool store.migrate
        (starting ++ [.migrated store] ++ restoring, result)

/-! ## Beside the server -/

/-- The lines of the API until it serves operators, or cannot. -/
def apiEntries (settings : Settings) (b : Broker) : List Entry :=
  let address := settings.apiAddress.text
  [.api s!"Starting API server on {address}", .api s!"OpenAPI spec: http://{address}/api/openapi.json",
   .api s!"Swagger UI: http://{address}/swagger-ui"] ++
  match b.canListen settings.apiAddress with
  | .ok () => []
  | .error e => [{ Entry.server .error s!"API server error: {e.message}" with task := some .api }]

/-- The first sweep. -/
def firstSweep (b : Broker) : List Entry × Broker :=
  let ids (b : Broker) : List String := b.known.map (·.id)
  let (result, after) := Operation.deleteObsolete.run b
  let gone := (ids b).filter fun id => !(ids after).contains id
  let told := match result with
    | .error e => [Entry.sweeper .warn s!"Failed to delete obsolete sessions: {e.message}"]
    | .ok 0 => [.sweeper .debug "No obsolete lost sessions"]
    | .ok n => [.service s!"Deleted {n} obsolete lost sessions"]
  (gone.map Entry.deleted ++ told, after)

/-- All that is logged by a server that is asked to end after its first sweep. -/
def serve (settings : Settings) (starting : List Entry) (b : Broker) : Report :=
  let every := (Duration.ofSeconds settings.cleanupInterval).text
  let (sweeping, b) := if settings.keepLost.isSome then firstSweep b else ([], b)
  let (before, after) := match settings.keepLost with
    | none => ([], [])
    | some n =>
      ([Entry.server .info s!"Keeping lost client sessions for {(Duration.ofSeconds n).text}",
        .sweeper .info s!"Obsolete session sweeper started (every {every})"],
       [Entry.sweeper .info "Obsolete session sweeper stopped"])
  let api := if settings.withApi then apiEntries settings b else [.server .info "API server disabled"]
  { started := starting ++ before ++ api ++
      [.server .info "Burrow server is running", .server .info "Press Ctrl+C to stop"] ++ sweeping
    stopped := [.server .info "Shutdown signal received, stopping server..."] ++ after ++
      [.server .info "Burrow server stopped"]
    store := b.store }

/-- The filter of a server: that of the environment unless it is malformed, else that of the settings. -/
def filter (settings : Settings) (around : Surroundings) : Except FilterError Filter :=
  match (around.environment "RUST_LOG").map Filter.read with
  | some (.ok filter) => .ok filter
  | some (.error .splitCharacter) => .error .splitCharacter
  | _ => Filter.read settings.logLevel

/-- The report of a run that is asked to end after its first sweep, or ends by itself. -/
def run (settings : Settings) (around : Surroundings) : Report :=
  match filter settings around with
  | .error e => { failure := some (.filter e) }
  | .ok filter =>
    let r : Report := match start settings around with
      | (starting, .error failure) => { started := starting, failure := some failure }
      | (starting, .ok b) => serve settings starting b
    { r with started := r.started.filter filter.passes, stopped := r.stopped.filter filter.passes }

end TunnelBroker.Server
