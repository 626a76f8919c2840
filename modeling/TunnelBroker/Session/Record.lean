/-
  TunnelBroker.Session.Record — what clients say when they connect, and what is kept of their sessions.

  A `SessionRecord` is a session at one moment, as a store keeps it. A record without a time of
  disconnection is of a session that was connected; with one, the session is lost.
-/

import TunnelBroker.Acl
import TunnelBroker.Forward.Basic
import TunnelBroker.Time.Timestamp

namespace TunnelBroker

open TunnelBroker.Time (Timestamp)

/-- What a client says about itself and its machine. -/
structure Profile where
  name : String := ""
  tags : List String := []
  os : String := ""
  hostname : String := ""
  version : String := ""
  ipv4 : List String := []
  ipv6 : List String := []
  deriving DecidableEq, Repr, Inhabited

/-- What a client sends when it connects: itself, and the forwards to open at once. -/
structure ConnectionRequest where
  profile : Profile := {}
  forwards : List Forward := []
  deriving DecidableEq, Repr, Inhabited

/-- Who established a session. -/
structure User where
  username : String
  groups : List String := []
  deriving DecidableEq, Repr, Inhabited

structure TunnelRecord where
  id : String
  /-- The forward, with its local side decided. -/
  forward : Forward
  acl : Acl := {}
  autoAssigned : Bool := false
  createdAt : Timestamp
  deriving DecidableEq, Repr

structure SessionRecord where
  id : String
  profile : Profile
  /-- The endpoint from which the client connected. -/
  address : String
  user : Option User
  tunnels : List TunnelRecord
  disconnectedAt : Option Timestamp
  deriving DecidableEq, Repr

def SessionRecord.isLost (r : SessionRecord) : Bool := r.disconnectedAt.isSome

end TunnelBroker
