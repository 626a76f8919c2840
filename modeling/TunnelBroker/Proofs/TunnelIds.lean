/-
  TunnelBroker.Proofs.TunnelIds — the ids of a session's tunnels, over its whole life.

  Tunnels are numbered. A number is given to a tunnel when it is started and is used up when the tunnel becomes part of
  the session: a batch that is dropped gives its numbers back, a tunnel that is taken out does not. A session of the past
  goes on after the largest number that one of its tunnels has for an id, however that was written; its other ids are
  texts that no number is written as.

  - `Session.started`, `Session.committed`: the tunnels that changes start, and those that become part of the session.
  - `Session.Counts`: the numbers of the pending tunnels follow the last one, and there is room for more.
  - `Counts.apply`, `Counts.committed`: tunnels become part of the session with consecutive numbers.
  - `tunnels_after`: the session's tunnels are some of those that it began with, and then some of these.
  - `tunnel_ids_never_reused`: so no id is ever given to two tunnels of a session.
-/

import TunnelBroker.Proofs.Bindings
import TunnelBroker.Proofs.Digits

namespace TunnelBroker

open TunnelBroker.Time (Timestamp)
open scoped List

/-! ## Numbers as ids -/

namespace Text

/-- The decimal text of a number. -/
def decimal (n : Nat) : String := String.ofList (digitsOf n)

theorem decimal_injective {n m : Nat} (h : decimal n = decimal m) : n = m := by
  have hdigits : digitsOf n = digitsOf m := by
    have hlists := congrArg String.toList h
    simpa [decimal] using hlists
  rw [← ofDigits_digitsOf n, hdigits, ofDigits_digitsOf]

/-- The text of a number is read as the number. -/
theorem word64?_decimal {n : Nat} (h : n < UInt64.size) : word64? (decimal n).toList = some (UInt64.ofNat n) := by
  have hmost : n ≤ 18446744073709551615 := Nat.le_of_lt_succ h
  unfold word64? decimal
  rw [String.toList_ofList, unsigned?_digitsOf hmost]
  rfl

end Text

/-- The ids are numbers above `low`, each greater than the one before it. -/
def Ascending (low : Nat) (ids : List String) : Prop :=
  ∃ numbers : List Nat, numbers.Pairwise (· < ·) ∧ (∀ n ∈ numbers, low < n) ∧ ids = numbers.map Text.decimal

theorem ascending_range' (low k : Nat) : Ascending low ((List.range' (low + 1) k).map Text.decimal) := by
  refine ⟨_, List.pairwise_lt_range', ?_, rfl⟩
  intro n hn
  have hrange := List.mem_range'_1.mp hn
  omega

theorem Ascending.sublist {low : Nat} {ids ids' : List String} (h : Ascending low ids) (hsub : ids' <+ ids) :
    Ascending low ids' := by
  obtain ⟨numbers, hpairwise, hlow, rfl⟩ := h
  obtain ⟨numbers', hsub', rfl⟩ := List.sublist_map_iff.mp hsub
  exact ⟨numbers', hpairwise.sublist hsub', fun n hn => hlow n (hsub'.subset hn), rfl⟩

theorem Ascending.nodup {low : Nat} {ids : List String} (h : Ascending low ids) : ids.Nodup := by
  obtain ⟨numbers, hpairwise, -, rfl⟩ := h
  refine List.pairwise_map.mpr (hpairwise.imp ?_)
  intro n m hlt heq
  exact Nat.ne_of_lt hlt (Text.decimal_injective heq)

namespace Session

variable {s origin : Session} {c : Change} {room : Nat}

/-! ## What changes start and commit -/

/-- The tunnel that a change starts. -/
def startedBy (s : Session) : Change → Option Tunnel
  | .start f acl autoAssigned now => (s.start f acl autoAssigned now).1.toOption
  | .startAlone f acl now => (s.startAlone f acl now).1.toOption
  | _ => none

/-- The tunnels that become part of the session by a change. -/
def committedBy (s : Session) : Change → List Tunnel
  | .commit => s.commit.1
  | .startAlone f acl now =>
    match s.start f acl false now with
    | (.ok _, s') => s'.commit.1
    | (.error _, _) => []
  | _ => []

/-- The tunnels that are started, the first one first. -/
def started (s : Session) : List Change → List Tunnel
  | [] => []
  | c :: rest => (s.startedBy c).toList ++ (s.apply c).started rest

/-- The tunnels that become part of the session, the first one first. Each is listed once and for all, whatever becomes
of it. -/
def committed (s : Session) : List Change → List Tunnel
  | [] => []
  | c :: rest => s.committedBy c ++ (s.apply c).committed rest

/-- The largest number that is the id of a tunnel, or zero. -/
def largestId (s : Session) : Nat := ((idNumbers s.record.tunnels).map UInt64.toNat).foldl max 0

/-- The session with one more pending tunnel. -/
def awaiting (s : Session) (t : Tunnel) : Session := { s with pending := s.pending ++ [t] }

/-- What a change comes to: the tunnel that it starts, those that it commits, and the session after it. -/
inductive Tally (s : Session) : Option Tunnel → List Tunnel → Session → Prop
  | idle {s' : Session} : s'.pending = s.pending ∨ s'.pending = [] → s'.lastId = s.lastId →
      s'.record.tunnels <+ s.record.tunnels → Tally s none [] s'
  | started (f : Forward) (acl : Acl) (autoAssigned : Bool) (now : Timestamp) :
      Tally s (some (s.nextTunnel f acl autoAssigned now)) [] (s.awaiting (s.nextTunnel f acl autoAssigned now))
  | committed : Tally s none s.pending s.commit.2
  | startedAlone (f : Forward) (acl : Acl) (now : Timestamp) :
      Tally s (some (s.nextTunnel f acl false now)) (s.pending ++ [s.nextTunnel f acl false now])
        (s.awaiting (s.nextTunnel f acl false now)).commit.2

theorem Tally.kept {s' : Session} (hpending : s'.pending = s.pending) (hlast : s'.lastId = s.lastId)
    (hrecords : s'.record.tunnels = s.record.tunnels) : s.Tally none [] s' :=
  .idle (.inl hpending) hlast (by rw [hrecords])

/-- Tunnels that are halted have the records that they had before. -/
theorem records_retire (ts : List Tunnel) : (ts.map Tunnel.retire).map Tunnel.record = ts.map Tunnel.record :=
  List.map_map

theorem tally_disconnect (s : Session) (moment : Timestamp) : s.Tally none [] (s.disconnect moment).2 := by
  unfold disconnect markDisconnected
  split
  · exact .kept rfl rfl (records_retire s.tunnels)
  · exact .kept rfl rfl (records_retire s.tunnels)

/-- Every change starts or commits what it is said to, and leaves the other tunnels as they are or takes some out. -/
theorem tally_apply (s : Session) (c : Change) : s.Tally (s.startedBy c) (s.committedBy c) (s.apply c) := by
  cases c with
  | start f acl autoAssigned now =>
    simp only [apply, startedBy, committedBy]
    rcases s.start_cases f acl autoAssigned now with ⟨e, he⟩ | ⟨-, hok⟩
    · rw [he]
      exact .kept rfl rfl rfl
    · rw [hok]
      exact .started f acl autoAssigned now
  | startAlone f acl now =>
    simp only [apply, startedBy, committedBy, startAlone]
    rcases s.start_cases f acl false now with ⟨e, he⟩ | ⟨-, hok⟩
    · rw [he]
      exact .idle (.inr rfl) rfl (.refl _)
    · rw [hok]
      exact .startedAlone f acl now
  | commit => exact .committed
  | discard => exact .idle (.inr rfl) rfl (.refl _)
  | removeTunnel id =>
    simp only [apply, startedBy, committedBy]
    cases hremoved : s.removeTunnel? id with
    | none => exact .kept rfl rfl rfl
    | some p =>
      obtain ⟨k, -, hs⟩ := removeTunnel?_some hremoved
      rw [Option.map_some, Option.getD_some, hs]
      exact .idle (.inl rfl) rfl ((List.eraseIdx_sublist s.tunnels k).map Tunnel.record)
  | haltTunnel id =>
    refine .kept rfl rfl (List.map_map.trans (List.map_congr_left ?_))
    intro t _
    by_cases hid : t.id = id
    · simp [hid, Tunnel.halt, Tunnel.record]
    · simp [hid]
  | haltTunnels => exact .kept rfl rfl (records_retire s.tunnels)
  | disconnect moment => exact s.tally_disconnect moment
  | cancel => exact .kept rfl rfl rfl

/-! ## Counting -/

/-- The pending tunnels have the numbers after the last one, and there is room for more. -/
structure Counts (s : Session) (room : Nat) : Prop where
  ids : s.pending.map (·.id) = (List.range' (s.lastId.toNat + 1) s.pending.length).map Text.decimal
  room : s.lastId.toNat + s.pending.length + room < UInt64.size

/-- The tunnels that a change commits have the numbers after the last one. -/
structure Advances (s s' : Session) (ts : List Tunnel) (room : Nat) : Prop where
  counts : s'.Counts room
  lastId : s'.lastId.toNat = s.lastId.toNat + ts.length
  ids : ts.map (·.id) = (List.range' (s.lastId.toNat + 1) ts.length).map Text.decimal

namespace Counts

variable {s' : Session}

theorem of_nil (hpending : s.pending = []) (hroom : s.lastId.toNat + room < UInt64.size) : s.Counts room := by
  constructor
  · simp [hpending]
  · simpa [hpending] using hroom

/-- The last number, with those of the pending tunnels. -/
theorem toNat_lastId (h : s.Counts room) :
    (s.lastId + UInt64.ofNat s.pending.length).toNat = s.lastId.toNat + s.pending.length := by
  have hroom := h.room
  simp only [UInt64.size] at hroom
  simp only [UInt64.toNat_add, UInt64.toNat_ofNat']
  omega

theorem toNat_nextId (h : s.Counts (room + 1)) : s.nextId.toNat = s.lastId.toNat + s.pending.length + 1 := by
  have hroom := h.room
  simp only [UInt64.size] at hroom
  unfold nextId
  rw [UInt64.toNat_add, h.toNat_lastId]
  simp only [UInt64.toNat_one]
  omega

/-- Nothing is committed; the pending tunnels keep their numbers, or give them back. -/
theorem idle (h : s.Counts room) (hpending : s'.pending = s.pending ∨ s'.pending = []) (hlast : s'.lastId = s.lastId) :
    s.Advances s' [] room := by
  refine ⟨?_, by rw [hlast]; rfl, rfl⟩
  have hroom := h.room
  rcases hpending with hsame | hnone
  · constructor
    · rw [hsame, hlast]
      exact h.ids
    · rw [hsame, hlast]
      exact hroom
  · refine of_nil hnone ?_
    rw [hlast]
    omega

/-- The tunnel that is started has the next number. -/
theorem started (h : s.Counts (room + 1)) (f : Forward) (acl : Acl) (autoAssigned : Bool) (now : Timestamp) :
    (s.awaiting (s.nextTunnel f acl autoAssigned now)).Counts room := by
  have hroom := h.room
  constructor
  · have hnext : s.lastId.toNat + 1 + s.pending.length = s.nextId.toNat := by
      rw [h.toNat_nextId]
      omega
    unfold awaiting
    rw [List.map_append, h.ids, List.length_append, List.length_singleton, List.range'_1_concat, hnext, List.map_append]
    rfl
  · show s.lastId.toNat + (s.pending ++ [s.nextTunnel f acl autoAssigned now]).length + room < UInt64.size
    rw [List.length_append, List.length_singleton]
    omega

/-- The numbers of a batch are used up when it becomes part of the session. -/
theorem commit (h : s.Counts room) : s.Advances s.commit.2 s.pending room := by
  refine ⟨of_nil rfl ?_, h.toNat_lastId, h.ids⟩
  show (s.lastId + UInt64.ofNat s.pending.length).toNat + room < UInt64.size
  rw [h.toNat_lastId]
  exact h.room

/-- One change, if there is room for the tunnel that it starts. -/
theorem apply (h : s.Counts ((s.startedBy c).toList.length + room)) : s.Advances (s.apply c) (s.committedBy c) room := by
  have htally := s.tally_apply c
  generalize s.startedBy c = t, s.committedBy c = ts, s.apply c = s' at h htally
  cases htally with
  | idle hpending hlast _ =>
    rw [Option.toList_none, List.length_nil, Nat.zero_add] at h
    exact h.idle hpending hlast
  | started f acl autoAssigned now =>
    rw [Option.toList_some, List.length_singleton, Nat.add_comm] at h
    exact ⟨h.started f acl autoAssigned now, rfl, rfl⟩
  | committed =>
    rw [Option.toList_none, List.length_nil, Nat.zero_add] at h
    exact h.commit
  | startedAlone f acl now =>
    rw [Option.toList_some, List.length_singleton, Nat.add_comm] at h
    obtain ⟨hcounts, hlast, hids⟩ := (h.started f acl false now).commit
    exact ⟨hcounts, hlast, hids⟩

/-- If there is room for all tunnels that are started, those that become part of the session have consecutive numbers. -/
theorem committed (changes : List Change) (h : s.Counts (s.started changes).length) :
    (s.committed changes).map (·.id) =
        (List.range' (s.lastId.toNat + 1) (s.committed changes).length).map Text.decimal ∧
      s.lastId.toNat + (s.committed changes).length < UInt64.size := by
  induction changes generalizing s with
  | nil =>
    have hroom := h.room
    refine ⟨rfl, ?_⟩
    show s.lastId.toNat + 0 < UInt64.size
    omega
  | cons c rest ih =>
    rw [Session.started, List.length_append] at h
    obtain ⟨hcounts, hlast, hids⟩ := h.apply
    obtain ⟨hrest, hbound⟩ := ih hcounts
    have hnext : s.lastId.toNat + (s.committedBy c).length + 1 = s.lastId.toNat + 1 + (s.committedBy c).length := by omega
    rw [hlast, hnext] at hrest
    rw [hlast] at hbound
    rw [Session.committed, List.map_append, List.length_append, hids, hrest, ← List.map_append, List.range'_append_1]
    exact ⟨rfl, by omega⟩

end Counts

/-! ## The tunnels that are there -/

/-- A change keeps tunnels of the session, or some of them, and adds those that it commits. -/
theorem tunnels_apply (s : Session) (c : Change) : ∃ kept : List TunnelRecord, kept <+ s.record.tunnels ∧
    (s.apply c).record.tunnels = kept ++ (s.committedBy c).map Tunnel.record := by
  have htally := s.tally_apply c
  generalize s.startedBy c = t, s.committedBy c = ts, s.apply c = s' at htally
  cases htally with
  | idle _ _ htunnels => exact ⟨_, htunnels, by simp⟩
  | started f acl autoAssigned now => exact ⟨s.record.tunnels, .refl _, (List.append_nil _).symm⟩
  | committed => exact ⟨s.record.tunnels, .refl _, List.map_append⟩
  | startedAlone f acl now => exact ⟨s.record.tunnels, .refl _, List.map_append⟩

/-- After any changes, a session has some of its tunnels left, and behind them some of those that it got. -/
theorem tunnels_after (s : Session) (changes : List Change) : ∃ old new : List TunnelRecord,
    (s.after changes).record.tunnels = old ++ new ∧ old <+ s.record.tunnels ∧
      new <+ (s.committed changes).map Tunnel.record := by
  induction changes generalizing s with
  | nil => exact ⟨s.record.tunnels, [], (List.append_nil _).symm, .refl _, .slnil⟩
  | cons c rest ih =>
    obtain ⟨kept, hkept, happly⟩ := s.tunnels_apply c
    obtain ⟨left, new, hafter, hleft, hnew⟩ := ih (s.apply c)
    -- what is left of the tunnels after the first change is left of the kept ones and of those that it committed
    rw [happly] at hleft
    obtain ⟨old, newer, rfl, hold, hnewer⟩ := List.sublist_append_iff.mp hleft
    refine ⟨old, newer ++ new, ?_, hold.trans hkept, ?_⟩
    · rw [← List.append_assoc]
      exact hafter
    · rw [committed, List.map_append]
      exact hnewer.append hnew

/-! ## Where sessions begin -/

theorem le_foldl_max (ns : List Nat) (a : Nat) : a ≤ ns.foldl max a ∧ ∀ n ∈ ns, n ≤ ns.foldl max a := by
  induction ns generalizing a with
  | nil => exact ⟨Nat.le_refl a, fun n hn => by cases hn⟩
  | cons m rest ih =>
    obtain ⟨hstart, hall⟩ := ih (max a m)
    refine ⟨Nat.le_trans (Nat.le_max_left a m) hstart, ?_⟩
    intro n hn
    rcases List.mem_cons.mp hn with rfl | hn
    · exact Nat.le_trans (Nat.le_max_right a n) hstart
    · exact hall n hn

theorem toNat_foldl_max (ns : List UInt64) (a : UInt64) :
    (ns.foldl max a).toNat = (ns.map UInt64.toNat).foldl max a.toNat := by
  induction ns generalizing a with
  | nil => rfl
  | cons n rest ih =>
    have hmax : (max a n).toNat = max a.toNat n.toNat := by
      show (if a ≤ n then n else a).toNat = _
      split
      · rename_i hle
        exact (Nat.max_eq_right (UInt64.le_iff_toNat_le.mp hle)).symm
      · rename_i hnle
        rw [UInt64.le_iff_toNat_le] at hnle
        omega
    rw [List.foldl_cons, List.map_cons, List.foldl_cons, ih, hmax]

/-- No tunnel of the session has a larger number for its id. -/
theorem le_largestId {t : TunnelRecord} {n : UInt64} (ht : t ∈ s.record.tunnels) (hn : Text.word64? t.id.toList = some n) :
    n.toNat ≤ s.largestId := by
  refine (le_foldl_max _ 0).2 n.toNat (List.mem_map_of_mem ?_)
  exact List.mem_filterMap.mpr ⟨t, ht, hn⟩

theorem IsOrigin.lastId (h : origin.IsOrigin) : origin.lastId.toNat = origin.largestId := by
  cases h with
  | connected id connection address profile user cancelled => rfl
  | restored now r =>
    have hrecords : (ofRecord now r).record.tunnels = r.tunnels := by
      show (r.tunnels.map Tunnel.ofRecord).map Tunnel.record = r.tunnels
      rw [List.map_map]
      exact List.map_id' r.tunnels
    unfold largestId
    rw [hrecords]
    exact toNat_foldl_max (idNumbers r.tunnels) 0

theorem IsOrigin.pending (h : origin.IsOrigin) : origin.pending = [] := by
  cases h with
  | connected id connection address profile user cancelled => rfl
  | restored now r => rfl

/-- The text of a number above the largest one is the id of no tunnel. -/
theorem decimal_not_mem {n : Nat} (hlarge : s.largestId < n) (hn : n < UInt64.size) :
    Text.decimal n ∉ s.record.tunnels.map (·.id) := by
  intro hmem
  obtain ⟨t, ht, hid⟩ := List.mem_map.mp hmem
  have hread : Text.word64? t.id.toList = some (UInt64.ofNat n) := by rw [hid, Text.word64?_decimal hn]
  have hle := le_largestId ht hread
  rw [UInt64.toNat_ofNat_of_lt' hn] at hle
  omega

end Session

/-- Whatever is done with a session, of a client or of the past, as long as the largest number among its ids and the number
of tunnels that are started leave room: the tunnels that become part of it have consecutive numbers for ids, from the one
after that largest number on. None of these ids is that of another tunnel that is or ever was part of the session. The
tunnels that are there have different ids: first come some that were there from the beginning, then some that became part
of the session later, in the order of their numbers. -/
theorem tunnel_ids_never_reused {origin : Session} (h : origin.IsOrigin)
    (hdistinct : (origin.tunnels.map (·.id)).Nodup) (changes : List Session.Change)
    (hroom : origin.largestId + (origin.started changes).length < UInt64.size) :
    let committed := origin.committed changes
    let s := origin.after changes
    committed.map (·.id) = (List.range' (origin.largestId + 1) committed.length).map Text.decimal ∧
      ((origin.tunnels ++ committed).map (·.id)).Nodup ∧
      (s.tunnels.map (·.id)).Nodup ∧
      ∃ old new : List TunnelRecord, s.record.tunnels = old ++ new ∧ old <+ origin.record.tunnels ∧
        new <+ committed.map Tunnel.record ∧ Ascending origin.largestId (new.map (·.id)) := by
  intro committed s
  obtain ⟨hids, hbound⟩ : committed.map (·.id) = (List.range' (origin.largestId + 1) committed.length).map Text.decimal ∧
      origin.largestId + committed.length < UInt64.size := by
    rw [← h.lastId] at hroom ⊢
    exact Session.Counts.committed changes (.of_nil h.pending hroom)
  have hascending : Ascending origin.largestId (committed.map (·.id)) := by
    rw [hids]
    exact ascending_range' _ _
  have hrecordIds (ts : List Tunnel) : (ts.map Tunnel.record).map (·.id) = ts.map (·.id) := List.map_map
  have hnever : ((origin.tunnels ++ committed).map (·.id)).Nodup := by
    rw [List.map_append]
    refine List.nodup_append'.mpr ⟨hdistinct, hascending.nodup, ?_⟩
    intro id hold hnew
    rw [hids] at hnew
    obtain ⟨n, hn, rfl⟩ := List.mem_map.mp hnew
    have hrange := List.mem_range'_1.mp hn
    have hlarge : origin.largestId < n := by omega
    have hsmall : n < UInt64.size := by omega
    rw [← hrecordIds] at hold
    exact Session.decimal_not_mem hlarge hsmall hold
  obtain ⟨old, new, hrecords, hold, hnew⟩ := origin.tunnels_after changes
  have hsub : s.record.tunnels <+ (origin.tunnels ++ committed).map Tunnel.record := by
    rw [hrecords, List.map_append]
    exact hold.append hnew
  refine ⟨hids, hnever, ?_, old, new, hrecords, hold, hnew, ?_⟩
  · have hsubIds := hsub.map (·.id)
    rw [hrecordIds] at hsubIds
    rw [← hrecordIds]
    exact hnever.sublist hsubIds
  · have hsubIds := hnew.map (·.id)
    rw [hrecordIds] at hsubIds
    exact hascending.sublist hsubIds

/-- A session of the past whose largest number is written with a sign and zeros goes on after it; a batch that is dropped
gives its number back, and a tunnel that is taken out does not. -/
theorem restored_session_goes_on :
    let record (id : String) : TunnelRecord := ⟨id, ⟨none, some 9000, "web", 80⟩, {}, false, .epoch⟩
    let forward (port : Net.Port) : Forward := ⟨none, some port, "web", 80⟩
    let origin := Session.ofRecord .epoch
      ⟨"a", {}, "198.51.100.4:40000", none, ["3", "+007", "old", "18446744073709551616"].map record, none⟩
    let changes : List Session.Change :=
      [.startAlone (forward 1) {} .epoch, .start (forward 2) {} false .epoch, .start ⟨none, none, "", 0⟩ {} false .epoch,
        .discard, .start (forward 3) {} true .epoch, .start (forward 4) {} false .epoch, .commit, .removeTunnel "10",
        .disconnect .epoch, .startAlone (forward 5) {} .epoch]
    let s := origin.after changes
    origin.IsOrigin ∧ (origin.tunnels.map (·.id)).Nodup ∧
      origin.largestId + (origin.started changes).length < UInt64.size ∧
      (origin.committed changes).map (·.id) = ["8", "9", "10", "11"] ∧
      s.tunnels.map (·.id) = ["3", "+007", "old", "18446744073709551616", "8", "9", "11"] ∧
      ((origin.tunnels ++ origin.committed changes).map (·.id)).Nodup ∧ (s.tunnels.map (·.id)).Nodup := by
  intro record forward origin changes s
  have horigin : origin.IsOrigin := .restored ..
  have hdistinct : (origin.tunnels.map (·.id)).Nodup := by decide +kernel
  have hroom : origin.largestId + (origin.started changes).length < UInt64.size := by decide +kernel
  have hcommitted : (origin.committed changes).map (·.id) = ["8", "9", "10", "11"] := by decide +kernel
  have hleft : s.tunnels.map (·.id) = ["3", "+007", "old", "18446744073709551616", "8", "9", "11"] := by decide +kernel
  obtain ⟨-, hnever, hnow, -⟩ := tunnel_ids_never_reused horigin hdistinct changes hroom
  exact ⟨horigin, hdistinct, hroom, hcommitted, hleft, hnever, hnow⟩

end TunnelBroker
