/-
  TunnelBroker.Time.Duration — lengths of time, to the nanosecond, and their text for messages.

  - `Duration.text`: in the largest of `s`, `ms`, `µs` and `ns` of which there is at least one, with the
    decimals that are needed: `3600s`, `1.5ms`, `10µs`, `0ns`.
-/

import TunnelBroker.Time.Timestamp

namespace TunnelBroker.Time

structure Duration where
  nanos : Nat
  deriving DecidableEq, Repr, Inhabited

namespace Duration

def ofSeconds (n : Nat) : Duration := ⟨n * billion⟩

def ofMicros (n : Nat) : Duration := ⟨n * 1000⟩

/-- The text of `n` nanoseconds in a unit of 10^`places` of them, without zeros at the end of the decimals. -/
def inUnit (n places : Nat) (unit : String) : String :=
  let decimals := Timestamp.padded places (n % Text.powerOfTen places)
  let kept := (decimals.reverse.dropWhile (· = '0')).reverse
  let point := if kept.isEmpty then [] else ['.']
  String.ofList (Text.digitsOf (n / Text.powerOfTen places) ++ point ++ kept) ++ unit

def text (d : Duration) : String :=
  if billion ≤ d.nanos then inUnit d.nanos 9 "s"
  else if 1000000 ≤ d.nanos then inUnit d.nanos 6 "ms"
  else if 1000 ≤ d.nanos then inUnit d.nanos 3 "µs"
  else s!"{d.nanos}ns"

/-- The longest duration that can be taken from a moment, in nanoseconds: 2^63 - 1 milliseconds. -/
def longest : Nat := 9223372036854775807 * 1000000

end Duration

/-- The moment a duration earlier, unless it lies before the first one or the duration is too long. -/
def Timestamp.minus? (t : Timestamp) (d : Duration) : Option Timestamp :=
  if Duration.longest < d.nanos then none
  else
    let total : Int := t.seconds * billion + (t.nanos : Int) - d.nanos
    Timestamp.make? (total / billion) (total % billion).toNat

end TunnelBroker.Time
