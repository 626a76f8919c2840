/-
  TunnelBroker.Text.Decimal — unsigned decimal numbers.

  - `ofDigits`: the value of a list of digits.
  - `nat?`: digits only, at least one, leading zeros allowed.
  - `unsigned?`: the same after one optional `+`, up to a largest value.
  - `digitsOf`: the decimal digits of a number, without leading zeros.
-/

namespace TunnelBroker.Text

def isDigit (c : Char) : Bool := '0' ≤ c && c ≤ '9'

def digitValue (c : Char) : Nat := c.toNat - '0'.toNat

/-- The number that the digits `cs` denote. -/
def ofDigits (cs : List Char) : Nat := cs.foldl (fun n c => 10 * n + digitValue c) 0

/-- The value of a text made of digits only, of which there is at least one. -/
def nat? (cs : List Char) : Option Nat :=
  if !cs.isEmpty && cs.all isDigit then some (ofDigits cs) else none

/-- A number up to `most`: digits, leading zeros allowed, after at most one `+`. -/
def unsigned? (most : Nat) (cs : List Char) : Option Nat :=
  let body := match cs with
    | '+' :: rest => rest
    | _ => cs
  (nat? body).filter (· ≤ most)

/-- A one with `n` zeros. -/
def powerOfTen (n : Nat) : Nat := Nat.pow 10 n

def digitsOf (n : Nat) : List Char := Nat.toDigits 10 n

def word16? (cs : List Char) : Option UInt16 := (unsigned? 65535 cs).map UInt16.ofNat

def word64? (cs : List Char) : Option UInt64 := (unsigned? 18446744073709551615 cs).map UInt64.ofNat

end TunnelBroker.Text
