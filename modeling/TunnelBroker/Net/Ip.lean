/-
  TunnelBroker.Net.Ip — IPv4 and IPv6 addresses as words of 32 and 128 bits, and their text.

  - `IpAddr.read?`: the whole text is one address. An IPv4 address has four decimal parts of one to
    three digits without leading zeros; an IPv6 address has eight groups of one to four hexadecimal
    digits, of which one run may be left out as `::` and the last two may be written as an IPv4 address.
  - `IpAddr.text`: an IPv6 address in lower case with its first longest run of two or more zero
    groups left out; the addresses that map IPv4 end in the IPv4 text.
-/

import TunnelBroker.Text.Decimal

namespace TunnelBroker.Net

open TunnelBroker.Text (isDigit ofDigits digitsOf)

inductive IpAddr where
  | v4 (bits : BitVec 32)
  | v6 (bits : BitVec 128)
  deriving DecidableEq, Repr, Inhabited

namespace IpAddr

/-- The address that stands for all interfaces of its family. -/
def isUnspecified : IpAddr → Bool
  | .v4 a => a == 0
  | .v6 a => a == 0

/-- An IPv6 address that is only known on one link. -/
def isLinkLocal : IpAddr → Bool
  | .v4 _ => false
  | .v6 a => a.extractLsb' 118 10 == 0x3fa

def isV4 : IpAddr → Bool
  | .v4 _ => true
  | .v6 _ => false

/-- The number of bits of an address of this family. -/
def width : IpAddr → Nat
  | .v4 _ => 32
  | .v6 _ => 128

end IpAddr

/-! ## Reading -/

/-- The first character is `c`; the text after it. -/
def eat? (c : Char) : List Char → Option (List Char)
  | [] => none
  | d :: rest => if d = c then some rest else none

/-- One decimal part of an IPv4 address, and the text after its digits. -/
def readPart? (cs : List Char) : Option (BitVec 8 × List Char) :=
  let digits := cs.takeWhile isDigit
  let value := ofDigits digits
  if digits.isEmpty || 3 < digits.length || 255 < value || (1 < digits.length && digits.head? = some '0') then none
  else some (BitVec.ofNat 8 value, cs.dropWhile isDigit)

/-- An IPv4 address at the start of the text, and the text after it. -/
def readV4? (cs : List Char) : Option (BitVec 32 × List Char) := do
  let (a, cs) ← readPart? cs
  let (b, cs) ← readPart? (← eat? '.' cs)
  let (c, cs) ← readPart? (← eat? '.' cs)
  let (d, cs) ← readPart? (← eat? '.' cs)
  return (a ++ b ++ c ++ d, cs)

/-- The value of a hexadecimal digit of either case. -/
def hexValue? (c : Char) : Option Nat :=
  if isDigit c then some (c.toNat - '0'.toNat)
  else if 'a' ≤ c && c ≤ 'f' then some (c.toNat - 'a'.toNat + 10)
  else if 'A' ≤ c && c ≤ 'F' then some (c.toNat - 'A'.toNat + 10)
  else none

def isHexDigit (c : Char) : Bool := (hexValue? c).isSome

/-- The number that hexadecimal digits denote. -/
def ofHexDigits (cs : List Char) : Nat := cs.foldl (fun n c => 16 * n + (hexValue? c).getD 0) 0

/-- One hexadecimal group of an IPv6 address, and the text after its digits. -/
def readGroup? (cs : List Char) : Option (BitVec 16 × List Char) :=
  let digits := cs.takeWhile isHexDigit
  if digits.isEmpty || 4 < digits.length then none
  else some (BitVec.ofNat 16 (ofHexDigits digits), cs.dropWhile isHexDigit)

/-- The groups at the start of a text, whether they end in an IPv4 address, and the text after them. -/
structure Groups where
  groups : List (BitVec 16)
  endsInV4 : Bool
  rest : List Char

/-- Reads at most `room` groups separated by colons; `first` means that no colon stands before the next
one. Two groups may be written as an IPv4 address, after which there are no more. -/
def readGroups : (room : Nat) → (first : Bool) → List Char → Groups
  | 0, _, cs => ⟨[], false, cs⟩
  | room + 1, first, cs =>
    let body := if first then some cs else eat? ':' cs
    match (if 0 < room then body.bind readV4? else none) with
    | some (a, rest) => ⟨[a.extractLsb' 16 16, a.extractLsb' 0 16], true, rest⟩
    | none =>
      match body.bind readGroup? with
      | some (g, rest) =>
        let more := readGroups room false rest
        ⟨g :: more.groups, more.endsInV4, more.rest⟩
      | none => ⟨[], false, cs⟩

/-- The word made of the groups, the first one highest. -/
def ofGroups (groups : List (BitVec 16)) : BitVec 128 :=
  groups.foldl (fun n g => (n <<< 16) ||| g.setWidth 128) 0

/-- An IPv6 address at the start of the text, and the text after it. -/
def readV6? (cs : List Char) : Option (BitVec 128 × List Char) :=
  let head := readGroups 8 true cs
  if head.groups.length = 8 then some (ofGroups head.groups, head.rest)
  else if head.endsInV4 then none
  else do
    let rest ← eat? ':' (← eat? ':' head.rest)
    let tail := readGroups (7 - head.groups.length) true rest
    let gap := List.replicate (8 - head.groups.length - tail.groups.length) 0
    return (ofGroups (head.groups ++ gap ++ tail.groups), tail.rest)

/-- An address at the start of the text, and the text after it. -/
def readIp? (cs : List Char) : Option (IpAddr × List Char) :=
  match readV4? cs with
  | some (a, rest) => some (.v4 a, rest)
  | none => (readV6? cs).map fun (a, rest) => (.v6 a, rest)

/-- The address that the whole text denotes. -/
def IpAddr.read? (cs : List Char) : Option IpAddr :=
  match readIp? cs with
  | some (ip, []) => some ip
  | _ => none

/-! ## Printing -/

def textV4 (a : BitVec 32) : List Char :=
  let part (i : Nat) := digitsOf (a.extractLsb' i 8).toNat
  part 24 ++ '.' :: part 16 ++ '.' :: part 8 ++ '.' :: part 0

/-- The eight groups of an IPv6 address, the highest one first. -/
def toGroups (a : BitVec 128) : List (BitVec 16) :=
  [112, 96, 80, 64, 48, 32, 16, 0].map fun i => a.extractLsb' i 16

def hexDigitsOf (n : Nat) : List Char := Nat.toDigits 16 n

/-- The groups in hexadecimal, with colons between them. -/
def textGroups (groups : List (BitVec 16)) : List Char :=
  [':'].intercalate (groups.map fun g => hexDigitsOf g.toNat)

/-- Where a run of zero groups starts, and its length. -/
structure ZeroRun where
  start : Nat
  length : Nat

/-- The first longest run of zeros among `groups`, which start at position `here`; `current` is the run that
ends just before them. -/
def longestZeros (here : Nat) (current longest : ZeroRun) : List (BitVec 16) → ZeroRun
  | [] => longest
  | g :: rest =>
    if g = 0 then
      let current := ⟨if current.length = 0 then here else current.start, current.length + 1⟩
      longestZeros (here + 1) current (if longest.length < current.length then current else longest) rest
    else longestZeros (here + 1) ⟨0, 0⟩ longest rest

def textV6 (a : BitVec 128) : List Char :=
  if a.extractLsb' 32 96 = 0xffff then [':', ':', 'f', 'f', 'f', 'f', ':'] ++ textV4 (a.extractLsb' 0 32)
  else
    let groups := toGroups a
    let zeros := longestZeros 0 ⟨0, 0⟩ ⟨0, 0⟩ groups
    if 1 < zeros.length then
      textGroups (groups.take zeros.start) ++ [':', ':'] ++ textGroups (groups.drop (zeros.start + zeros.length))
    else textGroups groups

def IpAddr.chars : IpAddr → List Char
  | .v4 a => textV4 a
  | .v6 a => textV6 a

def IpAddr.text (ip : IpAddr) : String := String.ofList ip.chars

end TunnelBroker.Net
