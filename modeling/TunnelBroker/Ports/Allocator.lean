/-
  TunnelBroker.Ports.Allocator — leases of ports of a pool.

  A batch of tunnels first refreshes what is busy, then leases a port for each tunnel that needs one. A
  leased port is not given to anybody else until it is released, whatever a refresh says about it.

  A refresh has two steps with the question to the occupancy source between them: `candidates` is what it
  is asked about, `adopt` takes its answer. Each function here is one atomic step.
-/

import TunnelBroker.Ports.Occupancy
import TunnelBroker.Ports.Pool
import TunnelBroker.Text.Escaped
import TunnelBroker.Time.Duration

namespace TunnelBroker.Ports

open TunnelBroker.Net (Port)
open TunnelBroker.Time (Duration)

structure Allocator where
  pool : Pool
  /-- The ports that the last good answer named. -/
  busy : List Port := []
  /-- The ports that were given out and not released since. -/
  leased : List Port := []
  /-- How long an answer may take. -/
  timeout : Duration := .ofSeconds 5
  deriving Repr

namespace Allocator

/-- The ports that a refresh asks about. Leased ports are not among them: whoever holds one may be about
to listen on it. -/
def candidates (a : Allocator) : List Port := a.pool.toList.filter fun port => !a.leased.contains port

/-- Takes the answer of the occupancy source. What was known stays in force without a good answer. -/
def adopt (a : Allocator) : Answer → Except PortError Unit × Allocator
  | .busy ports => (.ok (), { a with busy := ports })
  | .failed error => (.error error, a)
  | .brokeDown task complaint =>
    (.error (.unavailable
      s!"occupancy query panicked: task {task} panicked with message {Text.escaped complaint}"), a)
  | .timedOut => (.error (.unavailable s!"occupancy query timed out after {a.timeout.text}"), a)

/-- The ports that may be leased. -/
def free (a : Allocator) : List Port :=
  a.pool.toList.filter fun port => !a.busy.contains port && !a.leased.contains port

/-- Leases one of the free ports; `draw` says which one, as an index that is reduced to their number. -/
def lease (a : Allocator) (draw : List Port → Nat) : Except PortError Port × Allocator :=
  let free := a.free
  match free[draw free % free.length]? with
  | none => (.error (.exhausted a.pool.size), a)
  | some port => (.ok port, { a with leased := port :: a.leased })

/-- Gives a port back; whether it was leased. -/
def release (a : Allocator) (port : Port) : Bool × Allocator :=
  (a.leased.contains port, { a with leased := a.leased.erase port })

def isLeased (a : Allocator) (port : Port) : Bool := a.leased.contains port

def leasedCount (a : Allocator) : Nat := a.leased.length

end Allocator

end TunnelBroker.Ports
