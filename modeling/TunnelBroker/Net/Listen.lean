/-
  TunnelBroker.Net.Listen — when a host lets a program listen on an endpoint.

  A host has its own rule about addresses and low ports; apart from it, two listeners must not collide.

  - `listen`: whether one can listen on an endpoint beside those that are held.
  - `isolatedHost`: the rule of a host without a network, for a program without privileges.
-/

import TunnelBroker.Net.Endpoint

namespace TunnelBroker.Net

/-- Why one cannot listen on an endpoint. -/
inductive ListenError where
  | inUse
  | denied
  | noSuchAddress
  /-- The address is for groups of hosts, or for a link that is not named. -/
  | invalid
  | noSuchLink
  deriving DecidableEq, Repr

def ListenError.message : ListenError → String
  | .inUse => "Address already in use (os error 98)"
  | .denied => "Permission denied (os error 13)"
  | .noSuchAddress => "Cannot assign requested address (os error 99)"
  | .invalid => "Invalid argument (os error 22)"
  | .noSuchLink => "No such device (os error 19)"

/-- What a host refuses whether or not anyone else listens. -/
abbrev ListenRule := Endpoint → Option ListenError

/-- An IPv6 address that maps an IPv4 one, as that. -/
def IpAddr.unmapped : IpAddr → IpAddr
  | .v4 a => .v4 a
  | .v6 a => if a.extractLsb' 32 96 = 0xffff then .v4 (a.extractLsb' 0 32) else .v6 a

/-- Two listeners collide when they have the same port and either the same address or one address that
stands for all interfaces. Port 0 asks for any port that is left. -/
def Endpoint.collides (a b : Endpoint) : Bool :=
  a.port != 0 && a.port == b.port &&
    (a.ip.unmapped == b.ip.unmapped || a.ip.unmapped.isUnspecified || b.ip.unmapped.isUnspecified)

def listen (rule : ListenRule) (held : List Endpoint) (e : Endpoint) : Except ListenError Unit :=
  match rule e with
  | some error => .error error
  | none => if held.any e.collides then .error .inUse else .ok ()

/-- An IPv6 address for groups of hosts. -/
def isGroupV6 : IpAddr → Bool
  | .v4 _ => false
  | .v6 a => a.extractLsb' 120 8 = 0xff

/-- Ports below 1024 are denied. Every IPv4 address can be listened on, of IPv6 only the address that stands
for all interfaces. The host has one link, which is its first. -/
def isolatedHost : ListenRule := fun e =>
  if isGroupV6 e.ip then some .invalid
  else if 0 < e.port ∧ e.port < 1024 then some .denied
  else if e.isUnboundLink then some .invalid
  else if e.ip.isLinkLocal && e.scope ≠ 1 then some .noSuchLink
  else
    match e.ip.unmapped with
    | .v6 a => if a ≠ 0 then some .noSuchAddress else none
    | .v4 _ => none

end TunnelBroker.Net
