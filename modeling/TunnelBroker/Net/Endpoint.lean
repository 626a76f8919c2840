/-
  TunnelBroker.Net.Endpoint — where a socket is bound: an address and a port.

  - `Endpoint.read?`: `1.2.3.4:80` or `[::1]:80`, the latter with an optional scope, `[fe80::1%3]:80`.
  - `Endpoint.text`: the same form; a scope of zero is left out.
-/

import TunnelBroker.Net.Ip

namespace TunnelBroker.Net

open TunnelBroker.Text (isDigit ofDigits digitsOf)

abbrev Port := UInt16

structure Endpoint where
  ip : IpAddr
  port : Port
  /-- The scope of an IPv6 address; zero where none is given. -/
  scope : UInt32 := 0
  deriving DecidableEq, Repr, Inhabited

/-- A decimal number up to `most` at the start of the text, and the text after its digits. -/
def readNumber? (most : Nat) (cs : List Char) : Option (Nat × List Char) :=
  let digits := cs.takeWhile isDigit
  if digits.isEmpty || most < ofDigits digits then none else some (ofDigits digits, cs.dropWhile isDigit)

/-- A colon and a port that ends the text. -/
def readPortEnd? (cs : List Char) : Option Port := do
  let (n, rest) ← readNumber? 65535 (← eat? ':' cs)
  if rest.isEmpty then some (UInt16.ofNat n) else none

/-- The scope at the start of the text, zero if there is none, and the text after it. -/
def readScope (cs : List Char) : UInt32 × List Char :=
  match (eat? '%' cs).bind (readNumber? 4294967295) with
  | some (n, rest) => (UInt32.ofNat n, rest)
  | none => (0, cs)

namespace Endpoint

/-- The endpoint that the whole text denotes. -/
def read? (cs : List Char) : Option Endpoint :=
  match (readV4? cs).bind fun (a, rest) => (readPortEnd? rest).map fun port => ⟨.v4 a, port, 0⟩ with
  | some endpoint => some endpoint
  | none => do
    let (a, rest) ← readV6? (← eat? '[' cs)
    let (scope, rest) := readScope rest
    let port ← readPortEnd? (← eat? ']' rest)
    return ⟨.v6 a, port, scope⟩

/-- An address that is only known on one link, without a scope that would name the link. -/
def isUnboundLink (e : Endpoint) : Bool := e.ip.isLinkLocal && e.scope == 0

def chars (e : Endpoint) : List Char :=
  let host := match e.ip with
    | .v4 a => textV4 a
    | .v6 a => '[' :: textV6 a ++ (if e.scope = 0 then [] else '%' :: digitsOf e.scope.toNat) ++ [']']
  host ++ ':' :: digitsOf e.port.toNat

def text (e : Endpoint) : String := String.ofList e.chars

end Endpoint

end TunnelBroker.Net
