/-
  TunnelBroker.Json.Number — JSON numbers, of which only the unsigned integers below 2^64 have a value here.

  - `readNumber`: a number that is such an integer, or just some number, and the text after it. A number
    beyond the range of binary floating point in double precision is no number.
  - `skipNumber`: the text after a number of any size.
-/

import TunnelBroker.Text.Decimal
import TunnelBroker.Json.Quoted

namespace TunnelBroker.Json

open TunnelBroker.Text (isDigit digitValue ofDigits powerOfTen)

/-- The digits at the start of a text, at least one, and the text after them. -/
def readDigits (atEnd : Failure) (cs : List Char) : Except Failure (List Char × List Char) :=
  match cs.takeWhile isDigit with
  | [] => .error (if cs.isEmpty then atEnd else .malformed)
  | digits => .ok (digits, cs.dropWhile isDigit)

/-- The parts of a number: digits before and after the point, and the exponent if there is one. -/
structure Numeral where
  whole : List Char
  fraction : Option (List Char)
  exponent : Option Int
  rest : List Char

/-- The fraction of a number, if the text starts with a point. -/
def readFraction (atEnd : Failure) : List Char → Except Failure (Option (List Char) × List Char)
  | '.' :: rest => (readDigits atEnd rest).map fun (digits, rest) => (some digits, rest)
  | cs => .ok (none, cs)

/-- The exponent of a number, if the text starts with one. -/
def readExponent (atEnd : Failure) : List Char → Except Failure (Option Int × List Char)
  | c :: rest =>
    if c = 'e' ∨ c = 'E' then
      match rest with
      | '-' :: rest => (readDigits atEnd rest).map fun (digits, rest) => (some (-(ofDigits digits : Int)), rest)
      | '+' :: rest => (readDigits atEnd rest).map fun (digits, rest) => (some (ofDigits digits : Int), rest)
      | rest => (readDigits atEnd rest).map fun (digits, rest) => (some (ofDigits digits : Int), rest)
    else .ok (none, c :: rest)
  | [] => .ok (none, [])

/-- A number without its sign. A leading zero stands alone; `atEnd` is the failure where the text ends
before a digit that has to follow. -/
def readNumeral (atEnd : Failure) (cs : List Char) : Except Failure Numeral := do
  let (whole, rest) ← readDigits atEnd cs
  if 1 < whole.length ∧ whole.head? = some '0' then .error .malformed
  else do
    let (fraction, rest) ← readFraction atEnd rest
    let (exponent, rest) ← readExponent atEnd rest
    .ok ⟨whole, fraction, exponent, rest⟩

/-- A number rounded to 53 binary places, a half to the even neighbour. -/
def rounded (n : Nat) : Nat :=
  let unit := Nat.pow 2 (Nat.log2 n - 52)
  let below := n / unit
  let rest := n % unit
  if unit < 2 * rest ∨ (2 * rest = unit ∧ below % 2 = 1) then (below + 1) * unit else below * unit

/-- Reads digits after those of `n` for as long as 64 bits hold the number, and counts the other ones. -/
def significand (n : Nat) : List Char → Nat × Nat
  | [] => (n, 0)
  | c :: rest =>
    let longer := 10 * n + digitValue c
    if longer < 18446744073709551616 then significand longer rest else (n, rest.length + 1)

/-- The first digits of a number and the power of ten that they are multiplied with, both rounded, have a
product that rounds to 2^1024 or more. Digits of the fraction that were not read do not count. -/
def Numeral.overflows (n : Numeral) : Bool :=
  let fraction := n.fraction.getD []
  let (whole, left) := significand 0 n.whole
  let (digits, unread) := significand whole fraction
  match digits, n.exponent.getD 0 + left + unread - fraction.length with
  | 0, _ => false
  | digits, .ofNat e =>
    308 < e || Nat.pow 2 1024 - Nat.pow 2 970 ≤ rounded digits * rounded (powerOfTen e)
  | _, .negSucc _ => false

/-- The value of a number, if it is an unsigned integer below 2^64, and the text after it. -/
def readNumber (cs : List Char) : Except Failure (Option Nat × List Char) := do
  let (signed, body) := match cs with
    | '-' :: rest => (true, rest)
    | _ => (false, cs)
  let n ← readNumeral .truncated body
  if n.overflows then .error .malformed
  else
    let plain := !signed && n.fraction.isNone && n.exponent.isNone
    let value := ofDigits n.whole
    .ok (if plain && value < 18446744073709551616 then some value else none, n.rest)

def skipNumber (cs : List Char) : Except Failure (List Char) := do
  let body := match cs with
    | '-' :: rest => rest
    | _ => cs
  let n ← readNumeral .malformed body
  .ok n.rest

end TunnelBroker.Json
