/-
  TunnelBroker.Proofs.Rows — records that are kept in a database and taken out again.

  - `Forward.json_isFaithful`, `Acl.json_isFaithful`, `User.json_isFaithful`, `TunnelRecord.json_isFaithful`: every
    part of a record is read back from its JSON; `ConnectionRequest.json_isFaithful`, `SessionRecord.json_isFaithful`:
    so is the whole.
  - `record?_ofRecord`: every record is read back from its row, whenever that was written.
  - `records_read_back`: all of this, for whole texts and rows.
-/

import TunnelBroker.Proofs.AddressText
import TunnelBroker.Proofs.Codecs
import TunnelBroker.Proofs.MomentText
import TunnelBroker.Store.Row

namespace TunnelBroker

open TunnelBroker.Json (Codec Field Fields)
open TunnelBroker.Json.Codec
open TunnelBroker.Time (Timestamp)

/-! ## Parts of records -/

theorem Time.Timestamp.json_isFaithful : Timestamp.json.IsFaithful := by
  intro t
  exact (chars_isFaithful t.chars).refine (Timestamp.read?_chars t)

theorem Acl.json_isFaithful : Acl.json.IsFaithful := by
  intro acl
  refine (text_isFaithful.list acl.entries).refine ?_
  rw [Acl.ofEntries?, Acl.read_entries]
  rfl

theorem text_isPlain (s : String) : text.IsPlain s := by
  intro more h
  cases h

theorem word16_isPlain (n : UInt16) : word16.IsPlain n := by
  intro more h
  have hdigit : Text.isDigit 'n' = true := Text.isDigit_of_mem (n := n.toNat) (by
    rw [show Text.digitsOf n.toNat = 'n' :: more from h]
    exact List.mem_cons_self ..)
  exact absurd hdigit (by decide)

theorem Forward.json_isFaithful : Forward.json.IsFaithful := by
  refine IsFaithful.iso (record_isFaithful ?_) fun _ => rfl
  refine .cons (Field.optional_isFaithful _ text_isFaithful text_isPlain) (by decide) ?_
  refine .cons (Field.optional_isFaithful _ word16_isFaithful word16_isPlain) (by decide) ?_
  refine .cons (Field.required_isFaithful _ text_isFaithful) (by decide) ?_
  exact .cons (Field.required_isFaithful _ word16_isFaithful) (by decide) .nil

theorem User.json_isFaithful : User.json.IsFaithful := by
  refine IsFaithful.iso (record_isFaithful ?_) fun _ => rfl
  refine .cons (Field.required_isFaithful _ text_isFaithful) (by decide) ?_
  exact .cons (Field.withDefault_isFaithful _ text_isFaithful.list []) (by decide) .nil

theorem TunnelRecord.json_isFaithful : TunnelRecord.json.IsFaithful := by
  refine IsFaithful.iso (record_isFaithful ?_) fun _ => rfl
  refine .cons (Field.required_isFaithful _ text_isFaithful) (by decide) ?_
  refine .cons (Field.required_isFaithful _ Forward.json_isFaithful) (by decide) ?_
  refine .cons (Field.withDefault_isFaithful _ Acl.json_isFaithful {}) (by decide) ?_
  refine .cons (Field.withDefault_isFaithful _ flag_isFaithful false) (by decide) ?_
  exact .cons (Field.required_isFaithful _ Timestamp.json_isFaithful) (by decide) .nil

/-- A moment is written as a string. -/
theorem Time.Timestamp.json_isPlain (t : Timestamp) : Timestamp.json.IsPlain t := by
  intro more h
  exact absurd (List.cons.inj h).1 (by decide)

/-- A user is written as an object. -/
theorem User.json_isPlain (u : User) : User.json.IsPlain u := by
  intro more h
  exact absurd (List.cons.inj h).1 (by decide)

/-! ## Whole records -/

theorem ConnectionRequest.json_isFaithful : ConnectionRequest.json.IsFaithful := by
  refine IsFaithful.iso (record_isFaithful ?_) fun _ => rfl
  refine .cons (Field.withDefault_isFaithful _ text_isFaithful "") (by decide) ?_
  refine .cons (Field.withDefault_isFaithful _ text_isFaithful.list []) (by decide) ?_
  refine .cons (Field.withDefault_isFaithful _ text_isFaithful "") (by decide) ?_
  refine .cons (Field.withDefault_isFaithful _ text_isFaithful "") (by decide) ?_
  refine .cons (Field.withDefault_isFaithful _ text_isFaithful "") (by decide) ?_
  refine .cons (Field.withDefault_isFaithful _ text_isFaithful.list []) (by decide) ?_
  refine .cons (Field.withDefault_isFaithful _ text_isFaithful.list []) (by decide) ?_
  exact .cons (Field.withDefault_isFaithful _ Forward.json_isFaithful.list []) (by decide) .nil

/-- An absent user and an absent moment are written as `null`, which nothing else is written as. -/
theorem SessionRecord.json_isFaithful : SessionRecord.json.IsFaithful := by
  refine IsFaithful.iso (record_isFaithful ?_) fun _ => rfl
  refine .cons (Field.required_isFaithful _ text_isFaithful) (by decide) ?_
  refine .cons (Field.required_isFaithful _ text_isFaithful) (by decide) ?_
  refine .cons (Field.required_isFaithful _ text_isFaithful.list) (by decide) ?_
  refine .cons (Field.required_isFaithful _ text_isFaithful) (by decide) ?_
  refine .cons (Field.required_isFaithful _ text_isFaithful) (by decide) ?_
  refine .cons (Field.required_isFaithful _ text_isFaithful) (by decide) ?_
  refine .cons (Field.required_isFaithful _ text_isFaithful.list) (by decide) ?_
  refine .cons (Field.required_isFaithful _ text_isFaithful.list) (by decide) ?_
  refine .cons (Field.required_isFaithful _ text_isFaithful) (by decide) ?_
  refine .cons (Field.nullable_isFaithful _ User.json_isFaithful User.json_isPlain) (by decide) ?_
  refine .cons (Field.required_isFaithful _ TunnelRecord.json_isFaithful.list) (by decide) ?_
  exact .cons (Field.nullable_isFaithful _ Timestamp.json_isFaithful Timestamp.json_isPlain) (by decide) .nil

/-! ## Rows -/

namespace Store.Row

theorem texts_isFaithful : texts.IsFaithful := text_isFaithful.list

theorem tunnelRecords_isFaithful : tunnelRecords.IsFaithful := TunnelRecord.json_isFaithful.list

/-- Every record is read back from its row. -/
theorem record?_ofRecord (now : Timestamp) (r : SessionRecord) : (Row.ofRecord now r).record? = some r := by
  have htexts (l : List String) : texts.decode (texts.encode l) = .ok l := (texts_isFaithful l).decode_encode
  have htunnels : tunnelRecords.decode (tunnelRecords.encode r.tunnels) = .ok r.tunnels :=
    (tunnelRecords_isFaithful r.tunnels).decode_encode
  have huser (u : User) : User.json.decode (User.json.encode u) = .ok u := (User.json_isFaithful u).decode_encode
  obtain ⟨id, profile, address, user, tunnels, disconnectedAt⟩ := r
  unfold record? ofRecord
  cases user with
  | none =>
    simp only [htexts, htunnels, Except.toOption, Option.map_none, Option.bind_eq_bind, Option.bind_some,
      Option.pure_def]
  | some u =>
    simp only [htexts, htunnels, huser, Except.toOption, Option.map_some, Option.bind_eq_bind, Option.bind_some,
      Option.pure_def]

end Store.Row

/-- What is sent or stored is read back as it was: each kind of value from its JSON text, and a record from its row. -/
theorem records_read_back :
    (∀ f : Forward, Forward.json.decode (Forward.json.encode f) = .ok f) ∧
    (∀ acl : Acl, Acl.json.decode (Acl.json.encode acl) = .ok acl) ∧
    (∀ r : ConnectionRequest, ConnectionRequest.json.decode (ConnectionRequest.json.encode r) = .ok r) ∧
    (∀ u : User, User.json.decode (User.json.encode u) = .ok u) ∧
    (∀ t : TunnelRecord, TunnelRecord.json.decode (TunnelRecord.json.encode t) = .ok t) ∧
    (∀ r : SessionRecord, SessionRecord.json.decode (SessionRecord.json.encode r) = .ok r) ∧
    ∀ (now : Timestamp) (r : SessionRecord), (Store.Row.ofRecord now r).record? = some r :=
  ⟨fun f => (Forward.json_isFaithful f).decode_encode, fun acl => (Acl.json_isFaithful acl).decode_encode,
    fun r => (ConnectionRequest.json_isFaithful r).decode_encode, fun u => (User.json_isFaithful u).decode_encode,
    fun t => (TunnelRecord.json_isFaithful t).decode_encode, fun r => (SessionRecord.json_isFaithful r).decode_encode,
    Store.Row.record?_ofRecord⟩

end TunnelBroker
