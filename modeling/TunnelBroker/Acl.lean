/-
  TunnelBroker.Acl — which callers may use a tunnel.

  A `Network` is an address and a number of leading bits; an address lies in it when it is of the same
  family and agrees on these bits. An `Acl` is a list of networks; the empty one allows every caller.

  - `Network.contains?`: the answer as it is worked out, with shifts that are only defined below the width of
    a word; `Network.contains` is the answer, which there always is.
  - `Network.read`, `Network.text`: `192.0.2.1` for one address, `10.0.0.0/8` for a range. Bits after the
    leading ones are kept as they are written.
  - `Acl.read`: every entry is a network; the first that is not is the error.
-/

import TunnelBroker.Text.Blank
import TunnelBroker.Text.Split
import TunnelBroker.Net.Endpoint

namespace TunnelBroker

open TunnelBroker.Net (IpAddr Endpoint)

inductive AclError where
  | invalidAddress (entry : String)
  | invalidRange (entry : String)
  deriving DecidableEq, Repr

def AclError.message : AclError → String
  | .invalidAddress entry => s!"Invalid IP address: {entry}"
  | .invalidRange entry => s!"Invalid CIDR notation: {entry}"

structure Network where
  ip : IpAddr
  /-- How many leading bits an address shares with `ip`. -/
  bits : Nat
  bits_le : bits ≤ ip.width := by omega
  deriving DecidableEq, Repr

namespace Network

/-- The word moved to the left. A move by the whole width or by more has no result. -/
def shiftLeft? {w : Nat} (a : BitVec w) (n : Nat) : Option (BitVec w) := if n < w then some (a <<< n) else none

/-- Whether the words agree on their `bits` leading bits. Without leading bits there is no word that masks them. -/
def agree? {w : Nat} (bits : Nat) (a b : BitVec w) : Option Bool :=
  (shiftLeft? (BitVec.allOnes w) (w - bits)).map fun mask => a &&& mask == b &&& mask

/-- The address is of the network's family and agrees with it on the leading bits. Without leading bits
the family decides alone, so that no word is ever shifted by its whole width. -/
def contains? (n : Network) (ip : IpAddr) : Option Bool :=
  if n.bits = 0 then some (n.ip.isV4 == ip.isV4)
  else
    match n.ip, ip with
    | .v4 a, .v4 b => agree? n.bits a b
    | .v6 a, .v6 b => agree? n.bits a b
    | _, _ => some false

theorem isSome_agree? {w bits : Nat} (hw : 0 < w) (hbits : bits ≠ 0) (a b : BitVec w) : (agree? bits a b).isSome := by
  have hlt : w - bits < w := by omega
  simp [agree?, shiftLeft?, hlt]

/-- There always is an answer. -/
theorem isSome_contains? (n : Network) (ip : IpAddr) : (n.contains? ip).isSome := by
  unfold contains?
  split
  · rfl
  · rename_i hbits
    split
    · exact isSome_agree? (by decide) hbits ..
    · exact isSome_agree? (by decide) hbits ..
    · rfl

def contains (n : Network) (ip : IpAddr) : Bool := (n.contains? ip).get (n.isSome_contains? ip)

/-- The network with an address and a number of bits, unless there are more bits than the address has. -/
def make? (ip : IpAddr) (bits : Nat) : Option Network :=
  if h : bits ≤ ip.width then some ⟨ip, bits, h⟩ else none

/-- The network that an entry denotes. Blanks around the entry do not count. -/
def read (entry : String) : Except AclError Network :=
  let cs := Text.trim entry.toList
  match Text.cut? '/' cs with
  | none =>
    match IpAddr.read? cs with
    | none => .error (.invalidAddress (String.ofList cs))
    | some ip => .ok ⟨ip, ip.width, Nat.le_refl _⟩
  | some (address, length) =>
    match IpAddr.read? address with
    | none => .error (.invalidAddress (String.ofList cs))
    | some ip =>
      match (Text.unsigned? 255 length).bind (make? ip) with
      | none => .error (.invalidRange (String.ofList cs))
      | some n => .ok n

def chars (n : Network) : List Char :=
  if n.bits = n.ip.width then n.ip.chars else n.ip.chars ++ '/' :: Text.digitsOf n.bits

def text (n : Network) : String := String.ofList n.chars

end Network

structure Acl where
  networks : List Network := []
  deriving DecidableEq, Repr, Inhabited

namespace Acl

/-- The list that restricts nobody. -/
def unrestricted : Acl := {}

/-- The networks of all the entries, in order. -/
def read (entries : List String) : Except AclError Acl :=
  (entries.mapM Network.read).map Acl.mk

/-- The address may call: the list is empty or one of its networks contains the address. -/
def allows (acl : Acl) (ip : IpAddr) : Bool :=
  acl.networks.isEmpty || acl.networks.any (·.contains ip)

def allowsCaller (acl : Acl) (caller : Endpoint) : Bool := acl.allows caller.ip

/-- The entries in their normal form. -/
def entries (acl : Acl) : List String := acl.networks.map Network.text

end Acl

end TunnelBroker
