/-
  TunnelBroker.Ports.Pool — the ports that may be assigned to tunnels.

  - `PortRange.read`: `8080` or `20000-30000`, without port 0.
  - `PortRange.addTo`, `PortRange.removeFrom`: a set of ports, as an ascending list, and one more range.
  - `Pool.read`: the set to which the used ranges were added and from which the excluded ones were removed.
  - `Pool.contains`: by halving the part of the pool in which the port can still lie.
-/

import TunnelBroker.Text.Blank
import TunnelBroker.Text.Split
import TunnelBroker.Net.Endpoint
import TunnelBroker.Ports.Error

namespace TunnelBroker.Ports

open TunnelBroker.Net (Port)

/-- An inclusive range of ports. -/
structure PortRange where
  first : Port
  last : Port
  deriving DecidableEq, Repr

namespace PortRange

/-- The ports of the range, in ascending order. -/
def ports (r : PortRange) : List Port := (List.range' r.first.toNat (r.last.toNat + 1 - r.first.toNat)).map UInt16.ofNat

/-- The set with the ports of the range in addition. The list of the set is ascending, so that the ports of a
range stand together in it. -/
def addTo (r : PortRange) (set : List Port) : List Port :=
  set.takeWhile (· < r.first) ++ r.ports ++ set.dropWhile (· ≤ r.last)

/-- The set without the ports of the range. -/
def removeFrom (r : PortRange) (set : List Port) : List Port :=
  set.takeWhile (· < r.first) ++ set.dropWhile (· ≤ r.last)

def readPort (spec : String) (cs : List Char) : Except PortError Port :=
  let cs := Text.trim cs
  match Text.word16? cs with
  | none => .error ((PoolFault.notAPort (String.ofList cs)).inSpec spec)
  | some port => if port = 0 then .error (PoolFault.zeroPort.inSpec spec) else .ok port

/-- The range that a text denotes: a port, or the first and the last one with `-` between them. -/
def read (spec : String) : Except PortError PortRange :=
  match Text.cut? '-' spec.toList with
  | none => (readPort spec spec.toList).map fun port => ⟨port, port⟩
  | some (a, b) => do
    let first ← readPort spec a
    let last ← readPort spec b
    if last < first then .error (PoolFault.reversed.inSpec spec) else .ok ⟨first, last⟩

end PortRange

structure Pool where
  /-- The ports, in ascending order. -/
  ports : Array Port
  deriving DecidableEq, Repr

namespace Pool

/-- The ports of the used ranges, without those of the excluded ones. -/
def ofRanges (used excluded : List PortRange) : Pool :=
  let ports := used.foldl (fun set r => r.addTo set) []
  let left := excluded.foldl (fun set r => r.removeFrom set) ports
  ⟨left.toArray⟩

/-- The pool that the texts of used and excluded ranges denote; there has to be a port in it. -/
def read (used excluded : List String) : Except PortError Pool := do
  let used' ← used.mapM PortRange.read
  let excluded' ← excluded.mapM PortRange.read
  let pool := ofRanges used' excluded'
  if pool.ports.isEmpty then .error (PoolFault.nothingLeft.inSpec (",".intercalate used)) else .ok pool

/-- The pool of one inclusive range. -/
def ofRange (first last : Port) : Except PortError Pool :=
  if last < first ∨ first = 0 then
    .error (PoolFault.badRange.inSpec s!"{first.toNat}-{last.toNat}")
  else .ok ⟨(PortRange.ports ⟨first, last⟩).toArray⟩

def size (pool : Pool) : Nat := pool.ports.size

def isEmpty (pool : Pool) : Bool := pool.ports.isEmpty

def toList (pool : Pool) : List Port := pool.ports.toList

/-- Whether `port` is among the ports from position `lo` up to, and without, position `hi`. -/
def search (ports : Array Port) (port : Port) (lo hi : Nat) (hi_le : hi ≤ ports.size) : Bool :=
  if h : lo < hi then
    let mid := (lo + hi) / 2
    let found := ports[mid]
    if found = port then true
    else if found < port then search ports port (mid + 1) hi hi_le
    else search ports port lo mid (by omega)
  else false
termination_by hi - lo

def contains (pool : Pool) (port : Port) : Bool := search pool.ports port 0 pool.ports.size (Nat.le_refl _)

end Pool

end TunnelBroker.Ports
