/-
  TunnelBroker.Wire.Records — the JSON of forwards, lists of callers, requests and records.

  An absent local host or port has no member. A list of callers is a list of its entries, which have to be
  networks. A moment is its text.
-/

import TunnelBroker.Json.Record
import TunnelBroker.Session.Record

namespace TunnelBroker

open TunnelBroker.Json (Codec Field Fields)
open TunnelBroker.Time (Timestamp)

def Time.Timestamp.json : Codec Timestamp := Codec.chars.refine Timestamp.read? Timestamp.chars

def Forward.json : Codec Forward :=
  (Codec.record
    (.cons (.optional "local_host" .text) <|
     .cons (.optional "local_port" .word16) <|
     .cons (.required "remote_host" .text) <|
     .cons (.required "remote_port" .word16) .nil)).iso
    (fun (localHost, localPort, remoteHost, remotePort, ()) => ⟨localHost, localPort, remoteHost, remotePort⟩)
    (fun f => (f.localHost, f.localPort, f.remoteHost, f.remotePort, ()))

/-- The callers that a list of entries allows, if each is a network. -/
def Acl.ofEntries? (entries : List String) : Option Acl := (Acl.read entries).toOption

def Acl.json : Codec Acl := (Codec.list .text).refine Acl.ofEntries? Acl.entries

def ConnectionRequest.json : Codec ConnectionRequest :=
  (Codec.record
    (.cons (.withDefault "name" .text "") <|
     .cons (.withDefault "tags" (.list .text) []) <|
     .cons (.withDefault "os" .text "") <|
     .cons (.withDefault "hostname" .text "") <|
     .cons (.withDefault "version" .text "") <|
     .cons (.withDefault "ipv4" (.list .text) []) <|
     .cons (.withDefault "ipv6" (.list .text) []) <|
     .cons (.withDefault "remotes" (.list Forward.json) []) .nil)).iso
    (fun (name, tags, os, hostname, version, ipv4, ipv6, forwards, ()) =>
      ⟨⟨name, tags, os, hostname, version, ipv4, ipv6⟩, forwards⟩)
    (fun r => (r.profile.name, r.profile.tags, r.profile.os, r.profile.hostname, r.profile.version,
      r.profile.ipv4, r.profile.ipv6, r.forwards, ()))

def User.json : Codec User :=
  (Codec.record (.cons (.required "username" .text) <| .cons (.withDefault "groups" (.list .text) []) .nil)).iso
    (fun (username, groups, ()) => ⟨username, groups⟩)
    (fun u => (u.username, u.groups, ()))

def TunnelRecord.json : Codec TunnelRecord :=
  (Codec.record
    (.cons (.required "id" .text) <|
     .cons (.required "remote" Forward.json) <|
     .cons (.withDefault "acl" Acl.json {}) <|
     .cons (.withDefault "auto_assigned" .flag false) <|
     .cons (.required "created_at" Timestamp.json) .nil)).iso
    (fun (id, forward, acl, autoAssigned, createdAt, ()) => ⟨id, forward, acl, autoAssigned, createdAt⟩)
    (fun t => (t.id, t.forward, t.acl, t.autoAssigned, t.createdAt, ()))

def SessionRecord.json : Codec SessionRecord :=
  (Codec.record
    (.cons (.required "id" .text) <|
     .cons (.required "name" .text) <|
     .cons (.required "tags" (.list .text)) <|
     .cons (.required "os" .text) <|
     .cons (.required "hostname" .text) <|
     .cons (.required "version" .text) <|
     .cons (.required "ipv4" (.list .text)) <|
     .cons (.required "ipv6" (.list .text)) <|
     .cons (.required "address" .text) <|
     .cons (.nullable "user" User.json) <|
     .cons (.required "tunnels" (.list TunnelRecord.json)) <|
     .cons (.nullable "disconnected_at" Timestamp.json) .nil)).iso
    (fun (id, name, tags, os, hostname, version, ipv4, ipv6, address, user, tunnels, disconnectedAt, ()) =>
      ⟨id, ⟨name, tags, os, hostname, version, ipv4, ipv6⟩, address, user, tunnels, disconnectedAt⟩)
    (fun r => (r.id, r.profile.name, r.profile.tags, r.profile.os, r.profile.hostname, r.profile.version,
      r.profile.ipv4, r.profile.ipv6, r.address, r.user, r.tunnels, r.disconnectedAt, ()))

end TunnelBroker
