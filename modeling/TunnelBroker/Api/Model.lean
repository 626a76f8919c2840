/-
  TunnelBroker.Api.Model — what operators send and are answered, and its JSON.
-/

import TunnelBroker.Wire.Records

namespace TunnelBroker.Api

open TunnelBroker.Json (Codec Field Fields)
open TunnelBroker.Net (Port)
open TunnelBroker.Time (Timestamp)

inductive SessionStatus where
  | connected
  | lost
  deriving DecidableEq, Repr

def SessionStatus.name : SessionStatus → String
  | .connected => "connected"
  | .lost => "lost"

/-- A tunnel as operators see it. -/
structure TunnelInfo where
  id : String
  /-- The whole forward as a text. -/
  spec : String
  localHost : String
  localPort : Port
  remoteHost : String
  remotePort : Port
  /-- The networks that may call; an empty list restricts nobody. -/
  acl : List String
  autoAssigned : Bool
  createdAt : Timestamp
  accepted : UInt64
  rejected : UInt64
  deriving DecidableEq, Repr

/-- A session as operators see it. -/
structure SessionInfo where
  id : String
  profile : Profile
  address : String
  username : Option String
  status : SessionStatus
  disconnectedAt : Option Timestamp
  tunnels : List TunnelInfo
  deriving DecidableEq, Repr

structure SessionList where
  sessions : List SessionInfo
  total : UInt64
  deriving DecidableEq, Repr

structure OpenTunnelsRequest where
  /-- The forwards to open, each as a text. -/
  remotes : List String
  acl : List String := []
  deriving DecidableEq, Repr

structure OpenTunnelsResponse where
  tunnels : List TunnelInfo
  deriving DecidableEq, Repr

structure HealthResponse where
  status : String
  version : String
  /-- How many sessions are known, connected or lost. -/
  sessions : UInt64
  deriving DecidableEq, Repr

structure ErrorResponse where
  error : String
  code : Option String
  deriving DecidableEq, Repr

def SessionStatus.json : Codec SessionStatus :=
  .choice [("connected", .connected), ("lost", .lost)] SessionStatus.name

def TunnelInfo.json : Codec TunnelInfo :=
  (Codec.record
    (.cons (.required "id" .text) <|
     .cons (.required "spec" .text) <|
     .cons (.required "local_host" .text) <|
     .cons (.required "local_port" .word16) <|
     .cons (.required "remote_host" .text) <|
     .cons (.required "remote_port" .word16) <|
     .cons (.required "acl" (.list .text)) <|
     .cons (.required "auto_assigned" .flag) <|
     .cons (.required "created_at" Timestamp.json) <|
     .cons (.required "accepted_connections" .word64) <|
     .cons (.required "rejected_connections" .word64) .nil)).iso
    (fun (id, spec, localHost, localPort, remoteHost, remotePort, acl, autoAssigned, createdAt, accepted,
        rejected, ()) =>
      ⟨id, spec, localHost, localPort, remoteHost, remotePort, acl, autoAssigned, createdAt, accepted, rejected⟩)
    (fun t => (t.id, t.spec, t.localHost, t.localPort, t.remoteHost, t.remotePort, t.acl, t.autoAssigned,
      t.createdAt, t.accepted, t.rejected, ()))

def SessionInfo.json : Codec SessionInfo :=
  (Codec.record
    (.cons (.required "id" .text) <|
     .cons (.required "name" .text) <|
     .cons (.required "tags" (.list .text)) <|
     .cons (.required "os" .text) <|
     .cons (.required "hostname" .text) <|
     .cons (.required "version" .text) <|
     .cons (.required "ipv4" (.list .text)) <|
     .cons (.required "ipv6" (.list .text)) <|
     .cons (.required "address" .text) <|
     .cons (.omitted "username" .text) <|
     .cons (.required "status" SessionStatus.json) <|
     .cons (.omitted "disconnected_at" Timestamp.json) <|
     .cons (.required "tunnels" (.list TunnelInfo.json)) .nil)).iso
    (fun (id, name, tags, os, hostname, version, ipv4, ipv6, address, username, status, disconnectedAt,
        tunnels, ()) =>
      ⟨id, ⟨name, tags, os, hostname, version, ipv4, ipv6⟩, address, username, status, disconnectedAt, tunnels⟩)
    (fun s => (s.id, s.profile.name, s.profile.tags, s.profile.os, s.profile.hostname, s.profile.version,
      s.profile.ipv4, s.profile.ipv6, s.address, s.username, s.status, s.disconnectedAt, s.tunnels, ()))

def SessionList.json : Codec SessionList :=
  (Codec.record
    (.cons (.required "sessions" (.list SessionInfo.json)) <| .cons (.required "total" .word64) .nil)).iso
    (fun (sessions, total, ()) => ⟨sessions, total⟩)
    (fun l => (l.sessions, l.total, ()))

def OpenTunnelsRequest.json : Codec OpenTunnelsRequest :=
  (Codec.record
    (.cons (.required "remotes" (.list .text)) <| .cons (.withDefault "acl" (.list .text) []) .nil)).iso
    (fun (remotes, acl, ()) => ⟨remotes, acl⟩)
    (fun r => (r.remotes, r.acl, ()))

def OpenTunnelsResponse.json : Codec OpenTunnelsResponse :=
  (Codec.record (.cons (.required "tunnels" (.list TunnelInfo.json)) .nil)).iso
    (fun (tunnels, ()) => ⟨tunnels⟩)
    (fun r => (r.tunnels, ()))

def HealthResponse.json : Codec HealthResponse :=
  (Codec.record
    (.cons (.required "status" .text) <|
     .cons (.required "version" .text) <|
     .cons (.required "sessions" .word64) .nil)).iso
    (fun (status, version, sessions, ()) => ⟨status, version, sessions⟩)
    (fun h => (h.status, h.version, h.sessions, ()))

def ErrorResponse.json : Codec ErrorResponse :=
  (Codec.record (.cons (.required "error" .text) <| .cons (.omitted "code" .text) .nil)).iso
    (fun (error, code, ()) => ⟨error, code⟩)
    (fun e => (e.error, e.code, ()))

end TunnelBroker.Api
