/-
  TunnelBroker.Store.Row — session records as rows of a database.

  Lists, the user and the tunnels are kept as JSON in columns of text. A row says in addition when it was
  last written.
-/

import TunnelBroker.Wire.Records

namespace TunnelBroker.Store

open TunnelBroker.Json (Codec)
open TunnelBroker.Time (Timestamp)

structure Row where
  id : String
  name : String
  tags : String
  os : String
  hostname : String
  version : String
  ipv4 : String
  ipv6 : String
  address : String
  user : Option String
  tunnels : String
  disconnectedAt : Option Timestamp
  updatedAt : Timestamp
  deriving DecidableEq, Repr

namespace Row

def texts : Codec (List String) := .list .text

def tunnelRecords : Codec (List TunnelRecord) := .list TunnelRecord.json

def ofRecord (now : Timestamp) (r : SessionRecord) : Row :=
  { id := r.id
    name := r.profile.name
    tags := texts.encode r.profile.tags
    os := r.profile.os
    hostname := r.profile.hostname
    version := r.profile.version
    ipv4 := texts.encode r.profile.ipv4
    ipv6 := texts.encode r.profile.ipv6
    address := r.address
    user := r.user.map User.json.encode
    tunnels := tunnelRecords.encode r.tunnels
    disconnectedAt := r.disconnectedAt
    updatedAt := now }

/-- The record that a row keeps, unless one of its columns does not decode. -/
def record? (row : Row) : Option SessionRecord := do
  let tags ← (texts.decode row.tags).toOption
  let ipv4 ← (texts.decode row.ipv4).toOption
  let ipv6 ← (texts.decode row.ipv6).toOption
  let user ← match row.user with
    | none => some none
    | some text => ((User.json.decode text).toOption).map some
  let tunnels ← (tunnelRecords.decode row.tunnels).toOption
  return {
    id := row.id
    profile := ⟨row.name, tags, row.os, row.hostname, row.version, ipv4, ipv6⟩
    address := row.address
    user
    tunnels
    disconnectedAt := row.disconnectedAt }

end Row

end TunnelBroker.Store
