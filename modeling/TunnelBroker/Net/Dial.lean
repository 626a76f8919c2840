/-
  TunnelBroker.Net.Dial — why a host cannot be reached.

  A host is given by an address or by a name. An IPv4 address may also be written in fewer than four parts, of
  which the last one fills the rest, and its parts may be octal or hexadecimal.

  - `readShortV4?`: such an address.
  - `isolatedDial`: the failures of a host without a network.
-/

import TunnelBroker.Net.Endpoint
import TunnelBroker.Text.Split

namespace TunnelBroker.Net

open TunnelBroker.Text (isDigit ofDigits)

inductive DialError where
  | networkUnreachable
  | unknownName
  /-- The address cannot be dialled at all. -/
  | invalid
  deriving DecidableEq, Repr

def DialError.message : DialError → String
  | .networkUnreachable => "Network is unreachable (os error 101)"
  | .unknownName => "failed to lookup address information: Name or service not known"
  | .invalid => "Invalid argument (os error 22)"

/-- A part of an address: hexadecimal after `0x`, octal after another zero, else decimal. -/
def readAnyBase? (cs : List Char) : Option Nat :=
  match cs with
  | [] => none
  | ['0'] => some 0
  | '0' :: x :: rest =>
    if x = 'x' ∨ x = 'X' then
      if !rest.isEmpty && rest.all isHexDigit then some (ofHexDigits rest) else none
    else
      if (x :: rest).all fun c => isDigit c && c ≤ '7' then
        some ((x :: rest).foldl (fun n c => 8 * n + Text.digitValue c) 0)
      else none
  | cs => Text.nat? cs

/-- An IPv4 address of `parts` after the parts that make `high`, with room for so many bytes in all of them. -/
def joinParts? (room high : Nat) : (parts : List Nat) → Option Nat
  | [] => none
  | [last] => if last < Nat.pow 256 room then some (high * Nat.pow 256 room + last) else none
  | part :: rest => if 1 < room ∧ part < 256 then joinParts? (room - 1) (256 * high + part) rest else none

/-- An IPv4 address of one to four parts, which is the whole text. -/
def readShortV4? (cs : List Char) : Option IpAddr := do
  let parts ← (Text.cutAll '.' cs).mapM readAnyBase?
  return .v4 (BitVec.ofNat 32 (← joinParts? 4 0 parts))

/-- Why a host without a network does not reach an endpoint, which is given as text, on a host of this name.
It knows the name of itself only. -/
def isolatedDial (endpoint host : List Char) : DialError :=
  match Endpoint.read? endpoint with
  | some e => if e.isUnboundLink then .invalid else .networkUnreachable
  | none =>
    if host.contains '\x00' then .invalid
    else if (readShortV4? host).isSome || (String.ofList host).toLower == "localhost" then .networkUnreachable
    else .unknownName

end TunnelBroker.Net
