/-
  TunnelBroker.Proofs.Leases — where the leases of an allocator are.

  A lease is known to the allocator and to the tunnel that holds it. The two agree (`Conserved`) before and
  after every command, whatever fails on the way.

  - `Conserved.release`, `Conserved.lease`: a session gives leases back, or gets some, and the allocator
    with it.
  - `Conserved.move`: each move is one of these or touches no lease.
  - `leases_conserved`: what this says about every broker that events lead to.
-/

import Mathlib.Data.List.Nodup
import TunnelBroker.Proofs.History

namespace TunnelBroker

open TunnelBroker.Net (Port)
open TunnelBroker.Ports (Pool)
open TunnelBroker.Time (Timestamp)

/-! ## The leases of a session -/

/-- The ports on which tunnels of a session hold leases. -/
def Session.leasedPorts (s : Session) : List Port := s.tunnels.filterMap Tunnel.leasedPort?

/-- What is true of a session between two commands. -/
structure Session.Settled (s : Session) : Prop where
  pending : s.pending = []
  /-- A tunnel that nobody has halted has its lease if its port is a leased one. -/
  holds : ∀ t ∈ s.tunnels, t.halted = false → t.holdsLease = t.autoAssigned
  lost : s.disconnectedAt.isSome → s.connection = none
  free : s.connection = none → s.leasedPorts = []

namespace Session

variable {s s' : Session} {t : Tunnel} {ts : List Tunnel}

theorem mem_leasedPorts {port : Port} :
    port ∈ s.leasedPorts ↔ ∃ t ∈ s.tunnels, t.holdsLease ∧ t.localPort = port := by
  simp [leasedPorts, List.mem_filterMap, Tunnel.leasedPort?]

theorem nobody_settled : nobody.Settled := ⟨rfl, fun t ht => (by cases ht), fun _ => rfl, fun _ => rfl⟩

theorem connect_settled (id : String) (c : ConnectionRef) (address : String) (profile : Profile) (user : Option User)
    (cancelled : Bool) : (connect id c address profile user cancelled).Settled :=
  ⟨rfl, fun t ht => (by cases ht), fun h => (by cases h), fun _ => rfl⟩

theorem leasedPorts_ofRecord (now : Timestamp) (r : SessionRecord) : (ofRecord now r).leasedPorts = [] := by
  refine List.filterMap_eq_nil_iff.mpr fun t ht => ?_
  obtain ⟨_, _, rfl⟩ := List.mem_map.mp ht
  rfl

theorem ofRecord_settled (now : Timestamp) (r : SessionRecord) : (ofRecord now r).Settled where
  pending := rfl
  holds t ht hopen := by
    obtain ⟨_, _, rfl⟩ := List.mem_map.mp ht
    cases hopen
  lost _ := rfl
  free _ := leasedPorts_ofRecord now r

theorem retired_of_retire (s : Session) : ∀ t ∈ s.tunnels.map Tunnel.retire, t.halted ∧ t.holdsLease = false := by
  intro t ht
  obtain ⟨t₀, -, rfl⟩ := List.mem_map.mp ht
  exact ⟨rfl, rfl⟩

theorem leasedPorts_haltTunnels (s : Session) : s.haltTunnels.2.leasedPorts = [] := by
  refine List.filterMap_eq_nil_iff.mpr fun t ht => ?_
  obtain ⟨_, _, rfl⟩ := List.mem_map.mp ht
  rfl

theorem Settled.haltTunnels (h : s.Settled) : s.haltTunnels.2.Settled where
  pending := h.pending
  holds t ht hopen := by
    obtain ⟨_, _, rfl⟩ := List.mem_map.mp ht
    cases hopen
  lost := h.lost
  free _ := s.leasedPorts_haltTunnels

theorem Settled.cancel (h : s.Settled) : s.cancel.Settled := ⟨h.pending, h.holds, h.lost, h.free⟩

theorem tunnels_markDisconnected (s : Session) (moment : Timestamp) :
    (s.markDisconnected moment).2.tunnels = s.tunnels := by
  unfold markDisconnected; split <;> rfl

theorem connection_markDisconnected (h : s.Settled) (moment : Timestamp) :
    (s.markDisconnected moment).2.connection = none := by
  unfold markDisconnected
  split
  · rename_i hd
    exact h.lost (by rw [hd]; rfl)
  · rfl

/-- A session that is lost gives all its leases back. -/
theorem disconnect_ports (s : Session) (moment : Timestamp) : (s.disconnect moment).1 = s.leasedPorts := by
  simp [disconnect, Session.haltTunnels, tunnels_markDisconnected, leasedPorts]

/-- The moment at which a session was lost first counts. -/
theorem disconnect_eq (s : Session) (hlost : s.disconnectedAt.isSome → s.connection = none) (now : Timestamp) :
    (s.disconnect now).2 = { s with
      disconnectedAt := some (s.disconnectedAt.getD now)
      connection := none
      tunnels := s.tunnels.map Tunnel.retire } := by
  unfold disconnect markDisconnected haltTunnels
  cases hd : s.disconnectedAt with
  | none => rfl
  | some moment =>
    have hnone : s.connection = none := hlost (by rw [hd]; rfl)
    simp only [hd, hnone, Option.getD_some]

theorem Settled.disconnect (h : s.Settled) (moment : Timestamp) : (s.disconnect moment).2.Settled where
  pending := by
    have hp : (s.markDisconnected moment).2.pending = s.pending := by unfold markDisconnected; split <;> rfl
    exact hp.trans h.pending
  holds t ht hopen := by
    obtain ⟨_, _, rfl⟩ := List.mem_map.mp ht
    cases hopen
  lost _ := connection_markDisconnected h moment
  free _ := leasedPorts_haltTunnels _

/-- The tunnel that is taken out is one of the session's, and the others stay as they are. -/
theorem removeTunnel?_some {id : String} (h : s.removeTunnel? id = some (t, s')) :
    ∃ k, s.tunnels[k]? = some t ∧
      s' = { s with tunnels := s.tunnels.eraseIdx k, retired := s.retired ++ [t.retire] } := by
  unfold removeTunnel? at h
  split at h
  · cases h
  · rename_i k _
    obtain ⟨t', ht, he⟩ := Option.map_eq_some_iff.mp h
    cases he
    exact ⟨k, ht, rfl⟩

theorem leasedPorts_eraseIdx {k : Nat} (h : ts[k]? = some t) :
    (ts.filterMap Tunnel.leasedPort?).Perm (t.leasedPort?.toList ++ (ts.eraseIdx k).filterMap Tunnel.leasedPort?) := by
  obtain ⟨hk, rfl⟩ := List.getElem?_eq_some_iff.mp h
  have hperm := ((List.getElem_cons_eraseIdx_perm hk).filterMap Tunnel.leasedPort?).symm
  rw [List.filterMap_cons] at hperm
  cases ht : ts[k].leasedPort? <;> simpa [ht] using hperm

theorem Settled.removed (h : s.Settled) {id : String} (hr : s.removeTunnel? id = some (t, s')) :
    s'.Settled ∧ s.leasedPorts.Perm (t.leasedPort?.toList ++ s'.leasedPorts) := by
  obtain ⟨k, hk, rfl⟩ := removeTunnel?_some hr
  have hports : s.leasedPorts.Perm _ := leasedPorts_eraseIdx hk
  refine ⟨⟨h.pending, fun t ht => h.holds t (List.mem_of_mem_eraseIdx ht), h.lost, fun hc => ?_⟩, hports⟩
  rw [h.free hc] at hports
  exact (List.append_eq_nil_iff.mp hports.symm.eq_nil).2

theorem Settled.dropped (h : s.Settled) (ts : List Tunnel) : (s.dropped ts).Settled := ⟨rfl, h.holds, h.lost, h.free⟩

theorem Settled.joined (h : s.Settled) (hc : s.connection.isSome) (hts : ∀ t ∈ ts, t.Fresh) :
    (s.joined ts).Settled where
  pending := rfl
  holds t ht hopen := by
    rcases List.mem_append.mp ht with ht | ht
    · exact h.holds t ht hopen
    · exact (hts t ht).2
  lost := h.lost
  free hn := by
    have : s.connection = none := hn
    rw [this] at hc; cases hc

end Session

/-! ## The leases of all sessions -/

namespace Broker

variable {b : Broker} {i : SessionRef} {s : Session}

/-- The ports on which tunnels of any session hold leases, each as often as it is held. -/
def heldPorts (b : Broker) : List Port := b.sessions.flatMap Session.leasedPorts

/-- Those that tunnels of other sessions hold. -/
def otherPorts (b : Broker) (i : SessionRef) : List Port := (b.sessions.eraseIdx i).flatMap Session.leasedPorts

theorem heldPorts_perm (h : i < b.sessions.length) :
    b.heldPorts.Perm ((b.session i).leasedPorts ++ b.otherPorts i) := by
  have hperm := (List.getElem_cons_eraseIdx_perm h).symm.flatMap_right Session.leasedPorts
  rwa [List.flatMap_cons, ← session_eq h] at hperm

theorem heldPorts_set (h : i < b.sessions.length) :
    ((b.sessions.set i s).flatMap Session.leasedPorts).Perm (s.leasedPorts ++ b.otherPorts i) := by
  have hperm := heldPorts_perm (b := b.setSession i s) (i := i) (by simpa using h)
  rw [session_setSession_self h] at hperm
  simpa [heldPorts, otherPorts, setSession, List.eraseIdx_set_eq] using hperm

theorem mem_heldPorts {port : Port} :
    port ∈ b.heldPorts ↔ ∃ s ∈ b.sessions, ∃ t ∈ s.tunnels, t.holdsLease ∧ t.localPort = port := by
  simp only [heldPorts, List.mem_flatMap, Session.mem_leasedPorts]

theorem mem_heldPorts_of_session {port : Port} (h : port ∈ (b.session i).leasedPorts) : port ∈ b.heldPorts := by
  by_cases hi : i < b.sessions.length
  · exact List.mem_flatMap.mpr ⟨_, session_mem hi, h⟩
  · rw [session_of_le (Nat.le_of_not_lt hi)] at h; cases h

end Broker

/-- The leases of the allocator are those that tunnels hold, and every session is settled. -/
structure Conserved (pool : Pool) (b : Broker) : Prop where
  samePool : b.allocator.pool = pool
  leased : b.allocator.leased.Perm b.heldPorts
  nodup : b.allocator.leased.Nodup
  inPool : ∀ port ∈ b.allocator.leased, port ∈ pool.toList
  settled : ∀ s ∈ b.sessions, s.Settled

namespace Conserved

variable {pool : Pool} {b b' : Broker} {i : SessionRef} {s : Session}

theorem session (h : Conserved pool b) (i : SessionRef) : (b.session i).Settled := by
  by_cases hi : i < b.sessions.length
  · exact h.settled _ (Broker.session_mem hi)
  · rw [Broker.session_of_le (Nat.le_of_not_lt hi)]; exact Session.nobody_settled

/-- Only the sessions and the leases matter. -/
theorem congr (h : Conserved pool b) (hpool : b'.allocator.pool = b.allocator.pool)
    (hleased : b'.allocator.leased = b.allocator.leased) (hsessions : b'.sessions = b.sessions) :
    Conserved pool b' where
  samePool := hpool.trans h.samePool
  leased := by rw [hleased, Broker.heldPorts, hsessions]; exact h.leased
  nodup := by rw [hleased]; exact h.nodup
  inPool := by rw [hleased]; exact h.inPool
  settled := by rw [hsessions]; exact h.settled

theorem settled_set (h : Conserved pool b) (hs : s.Settled) : ∀ s' ∈ b.sessions.set i s, s'.Settled := by
  intro s' hs'
  rcases List.mem_or_eq_of_mem_set hs' with hs' | rfl
  · exact h.settled s' hs'
  · exact hs

/-- A session gives leases back. -/
theorem release (h : Conserved pool b) (ports : List Port) (hs : s.Settled)
    (hports : (b.session i).leasedPorts.Perm (ports ++ s.leasedPorts)) :
    Conserved pool ((b.setSession i s).withLeased (b.allocator.leased.diff ports)) := by
  by_cases hi : i < b.sessions.length
  · have hleft : (b.allocator.leased.diff ports).Perm (s.leasedPorts ++ b.otherPorts i) := by
      have hall : b.allocator.leased.Perm (ports ++ (s.leasedPorts ++ b.otherPorts i)) := by
        rw [← List.append_assoc]
        exact h.leased.trans ((Broker.heldPorts_perm hi).trans (hports.append_right _))
      exact diff_perm_of_perm_append hall
    exact
      { samePool := h.samePool
        leased := hleft.trans (Broker.heldPorts_set hi).symm
        nodup := List.Nodup.diff h.nodup
        inPool := fun port hp => h.inPool port (List.diff_subset _ _ hp)
        settled := h.settled_set hs }
  · -- A session that is not there holds no leases that it could give back.
    have hle := Nat.le_of_not_lt hi
    rw [Broker.session_of_le hle] at hports
    obtain ⟨rfl, -⟩ := List.append_eq_nil_iff.mp hports.symm.eq_nil
    exact h.congr rfl rfl (by simp [Broker.withLeased, Broker.setSession, List.set_eq_of_length_le hle])

/-- A session gets leases of free ports. -/
theorem lease (h : Conserved pool b) (ports : List Port) (hi : i < b.sessions.length) (hs : s.Settled)
    (hports : s.leasedPorts.Perm (ports ++ (b.session i).leasedPorts)) (hnodup : ports.Nodup)
    (hfree : ∀ port ∈ ports, port ∈ b.allocator.free) :
    Conserved pool ((b.setSession i s).withLeased (ports.reverse ++ b.allocator.leased)) where
  samePool := h.samePool
  leased := by
    have hheld : (s.leasedPorts ++ b.otherPorts i).Perm (ports ++ b.heldPorts) :=
      (hports.append_right _).trans (by
        rw [List.append_assoc]; exact (Broker.heldPorts_perm hi).symm.append_left ports)
    exact ((List.reverse_perm ports).append h.leased).trans (hheld.symm.trans (Broker.heldPorts_set hi).symm)
  nodup := by
    refine List.nodup_append.mpr ⟨List.nodup_reverse.mpr hnodup, h.nodup, fun p hp q hq hpq => ?_⟩
    subst hpq
    exact (Ports.Allocator.mem_free.mp (hfree p (List.mem_reverse.mp hp))).2.2 hq
  inPool port hp := by
    rcases List.mem_append.mp hp with hp | hp
    · rw [← h.samePool]
      exact (Ports.Allocator.mem_free.mp (hfree port (List.mem_reverse.mp hp))).1
    · exact h.inPool port hp
  settled := h.settled_set hs

/-- A session comes to be, without any leases. -/
theorem add (h : Conserved pool b) (hs : s.Settled) (hports : s.leasedPorts = []) :
    Conserved pool (b.addSession s).2 where
  samePool := h.samePool
  leased := by
    have hheld : (b.addSession s).2.heldPorts = b.heldPorts := by
      simp [Broker.heldPorts, Broker.addSession, hports]
    rw [hheld]; exact h.leased
  nodup := h.nodup
  inPool := h.inPool
  settled s' hs' := by
    rcases List.mem_append.mp hs' with hs' | hs'
    · exact h.settled s' hs'
    · rw [List.mem_singleton.mp hs']; exact hs

/-- A lost session gives all its leases back. -/
theorem disconnected (h : Conserved pool b) (i : SessionRef) (moment : Timestamp) :
    Conserved pool (b.disconnected i moment) := by
  refine h.release _ ((h.session i).disconnect moment) ?_
  have hnone : ((b.session i).disconnect moment).2.leasedPorts = [] := Session.leasedPorts_haltTunnels _
  rw [Session.disconnect_ports, hnone, List.append_nil]

theorem halted (h : Conserved pool b) (i : SessionRef) : Conserved pool (b.halted i) := by
  refine h.release _ (h.session i).haltTunnels ?_
  rw [Session.leasedPorts_haltTunnels, List.append_nil]
  exact .refl _

theorem cancelled (h : Conserved pool b) (i : SessionRef) : Conserved pool (b.cancelled i) :=
  h.release [] (h.session i).cancel (.refl _)

/-- A batch gives back what it leased if it fails; else its tunnels hold it. -/
theorem ended (h : Conserved pool b) {acl : Acl} {forwards : List Forward} {r : Except SessionError (List Tunnel)}
    (he : Ended b i acl forwards r b') : Conserved pool b' := by
  cases he with
  | notConnected _ => exact h
  | unrefreshed _ _ => exact h
  | @failed busy _ g _ _ _ _ _ =>
    have hbusy : Conserved pool (b.withBusy busy) := h.congr rfl rfl rfl
    exact hbusy.release [] ((h.session i).dropped _) (.refl _)
  | @opened busy g hc _ hf =>
    have hbusy : Conserved pool (b.withBusy busy) := h.congr rfl rfl rfl
    have hi : i < b.sessions.length := Broker.lt_of_connection hc
    obtain ⟨hports, hfresh, -⟩ := hf.tunnels
    obtain ⟨hnodup, hfree⟩ := hf.free
    have hts : ((b.withBusy busy).session i).pending ++ g.tunnels = g.tunnels := by
      rw [(hbusy.session i).pending]; rfl
    have hjoined := hbusy.lease g.leased hi ((hbusy.session i).joined hc hfresh) ?_ hnodup hfree
    · refine hjoined.congr rfl rfl ?_
      unfold Broker.committed
      simp only [hts]
      simp [Operation.serve, Broker.grown, Broker.setSession, Broker.withLeased]
    · rw [← hports]
      simp only [Session.leasedPorts, Session.joined, List.filterMap_append]
      exact List.perm_append_comm

/-- Whatever one move changes, the leases are conserved. -/
theorem move (h : Conserved pool b) (hm : Move i b b') : Conserved pool b' := by
  cases hm with
  | records hr => exact h.congr (by rw [hr.allocator]) (by rw [hr.allocator]) hr.sessions
  | connected id c address profile user cancelled _ => exact h.add (Session.connect_settled ..) rfl
  | restored now r _ => exact h.add (Session.ofRecord_settled now r) (Session.leasedPorts_ofRecord now r)
  | batch he => exact h.ended he
  | removed hr =>
    obtain ⟨hs, hports⟩ := (h.session i).removed hr
    exact h.release _ hs hports
  | halted => exact h.halted i
  | disconnected moment => exact h.disconnected i moment
  | cancelled => exact h.cancelled i

theorem fresh (setup : Setup) : Conserved setup.pool setup.fresh :=
  ⟨rfl, .refl _, .nil, fun _ hp => (by cases hp), fun _ hs => (by cases hs)⟩

theorem stable (pool : Pool) : Stable (Conserved pool) where
  move hm h := h.move hm
  outside _ h := h.congr rfl rfl rfl
  connections _ h := h.congr rfl rfl rfl
  listeners _ h := h.congr rfl rfl rfl

/-- The leases of every broker that events lead to are conserved. -/
theorem boot_after (setup : Setup) (events : List Event) : Conserved setup.pool (setup.boot.after events) :=
  (stable setup.pool).boot_after setup events (fresh setup)

/-! ### What follows -/

theorem mem_leased_iff (h : Conserved pool b) (port : Port) :
    port ∈ b.allocator.leased ↔ ∃ s ∈ b.sessions, ∃ t ∈ s.tunnels, t.holdsLease ∧ t.localPort = port :=
  h.leased.mem_iff.trans Broker.mem_heldPorts

theorem mem_leased_of_session (h : Conserved pool b) {port : Port} (hp : port ∈ (b.session i).leasedPorts) :
    port ∈ b.allocator.leased := h.leased.symm.subset (Broker.mem_heldPorts_of_session hp)

theorem holds (h : Conserved pool b) (hs : s ∈ b.sessions) {t : Tunnel} (ht : t ∈ s.tunnels)
    (hauto : t.autoAssigned = true) (hopen : t.halted = false) : t.holdsLease ∧ t.localPort ∈ pool.toList := by
  have hholds : t.holdsLease = true := ((h.settled s hs).holds t ht hopen).trans hauto
  exact ⟨hholds, h.inPool _ ((h.mem_leased_iff _).mpr ⟨s, hs, t, ht, hholds, rfl⟩)⟩

/-- A command keeps the leases of all sessions that it is not about. -/
theorem others_kept (h : Conserved pool b) {c : Command} {j : SessionRef} (hj : c.subject? b ≠ some j) {port : Port}
    (hp : port ∈ (b.session j).leasedPorts) :
    port ∈ ((c.operation.run b).2.session j).leasedPorts ∧ port ∈ (c.operation.run b).2.allocator.leased := by
  obtain ⟨i, hm⟩ := c.exists_moves b
  have h' : Conserved pool (c.operation.run b).2 := (stable pool).moves hm h
  have hp' : port ∈ ((c.operation.run b).2.session j).leasedPorts := by rw [c.session_ne hj]; exact hp
  exact ⟨hp', h'.mem_leased_of_session hp'⟩

theorem leased_eq_nil (h : Conserved pool b) (hall : ∀ i < b.sessions.length, (b.session i).leasedPorts = []) :
    b.allocator.leased = [] := by
  have hnone : b.heldPorts = [] := by
    refine List.flatMap_eq_nil_iff.mpr fun s hs => ?_
    obtain ⟨i, hi, rfl⟩ := List.getElem_of_mem hs
    rw [← Broker.session_eq hi]
    exact hall i hi
  exact (hnone ▸ h.leased).eq_nil

end Conserved

/-! ## Sessions that hold no leases any more -/

/-- The session was terminated at some time, when it was there. -/
def Terminated (b : Broker) (events : List Event) (i : SessionRef) : Prop :=
  ∃ before after, events = before ++ .command (.terminate i) :: after ∧ i < (b.after before).sessions.length

/-- The session could not be started, and nobody has used it since. -/
def Refused (b : Broker) (events : List Event) (i : SessionRef) : Prop :=
  ∃ before id connection request user cancelled e after,
    events = before ++ .command (.start id connection request user cancelled) :: after ∧
    i = (b.after before).sessions.length ∧
    ((Operation.startSession id connection request user cancelled).run (b.after before)).1 = .error e ∧
    ∀ c, .command c ∈ after → c.session? ≠ some i

variable {b b' : Broker} {i : SessionRef}

theorem Move.unconnected (hm : Move i b b') (hi : i < b.sessions.length) (hc : (b.session i).connection = none) :
    (b'.session i).connection = none := by
  have hset (s : Session) (hs : s.connection = none) : ((b.setSession i s).session i).connection = none := by
    rw [Broker.session_setSession_self hi]; exact hs
  have hmark (moment : Timestamp) : ((b.session i).markDisconnected moment).2.connection = none := by
    unfold Session.markDisconnected; split
    · exact hc
    · rfl
  cases hm with
  | records hr => rw [hr.session]; exact hc
  | connected _ _ _ _ _ _ hnew => exact absurd hnew (Nat.ne_of_lt hi)
  | restored _ _ hnew => exact absurd hnew (Nat.ne_of_lt hi)
  | batch he =>
    cases he with
    | notConnected _ => exact hc
    | unrefreshed _ _ => exact hc
    | failed _ _ _ _ => exact hset _ hc
    | opened hsome _ _ => rw [hc] at hsome; cases hsome
  | removed hr =>
    obtain ⟨_, _, rfl⟩ := Session.removeTunnel?_some hr
    exact hset _ hc
  | halted => exact hset _ hc
  | disconnected moment => exact hset _ (hmark moment)
  | cancelled => exact hset _ hc

/-- A session without a connection never has one again. -/
theorem Stable.unconnected (i : SessionRef) :
    Stable fun b => i < b.sessions.length ∧ (b.session i).connection = none where
  move {j b b'} hm h := by
    refine ⟨Nat.lt_of_lt_of_le h.1 hm.length_le, ?_⟩
    by_cases hij : i = j
    · subst hij; exact hm.unconnected h.1 h.2
    · rw [hm.session_ne hij]; exact h.2
  outside _ h := h
  connections _ h := h
  listeners _ h := h

/-- The sessions of a broker that has just read its store are lost. -/
theorem Setup.boot_unconnected (setup : Setup) (i : SessionRef) : (setup.boot.session i).connection = none := by
  have hall : Restorable fun b => ∀ i, (b.session i).connection = none := by
    refine ⟨fun hr h i => by rw [hr.session]; exact h i, fun {b} now r h i => ?_⟩
    by_cases hi : i = b.sessions.length
    · rw [hi, Broker.session_addSession]; rfl
    · rw [Broker.session_addSession_ne _ hi]; exact h i
  exact hall.boot setup (fun _ => rfl) i

/-- A terminated session has no connection. -/
theorem Conserved.terminate {pool : Pool} (h : Conserved pool b) (hi : i < b.sessions.length) :
    (((Operation.terminate i).run b).2.session i).connection = none := by
  have hend : ((b.terminated i).session i).connection = none := by
    rw [Broker.session_terminated hi]
    exact Session.connection_markDisconnected (h.session i) _
  rw [(Operation.terminate_onlyRecords i b).session]
  exact hend

/-- A session that could not be started holds no leases. -/
theorem Operation.startSession_refused {id : String} {connection : ConnectionRef} {request : ConnectionRequest}
    {user : Option User} {cancelled : Bool} {e : SessionError}
    (h : ((startSession id connection request user cancelled).run b).1 = .error e) :
    ((((startSession id connection request user cancelled).run b).2).session b.sessions.length).leasedPorts = [] := by
  rw [startSession_run] at h ⊢
  generalize hs : Session.connect id connection (b.connection connection).address.text request.profile user
    cancelled = s at h ⊢
  have hnew : ((b.addSession s).2.session b.sessions.length).tunnels = [] := by
    rw [Broker.session_addSession]; subst hs; rfl
  have hend := startTunnels_run b.sessions.length request.forwards {} (b.addSession s).2
  dsimp only at h ⊢
  generalize (startTunnels b.sessions.length request.forwards {}).run (b.addSession s).2 = p at h hend ⊢
  rcases p with ⟨e | ts, b'⟩
  · unfold Session.leasedPorts
    rw [hend.untouched.tunnels, hnew]; rfl
  · have hlen : b.sessions.length < b'.sessions.length :=
      Nat.lt_of_lt_of_le (by simp) (Move.batch hend).length_le
    have hreg := register_onlyRecords b.sessions.length b'
    dsimp only at h ⊢
    generalize (register b.sessions.length).run b' = q at h hreg ⊢
    rcases q with ⟨e | _, b''⟩
    · dsimp only at hreg ⊢
      rw [Broker.session_halted (by rw [hreg.sessions]; exact hlen)]
      exact Session.leasedPorts_haltTunnels _
    · cases h

theorem leasedPorts_of_terminated {setup : Setup} {events : List Event} (h : Terminated setup.boot events i) :
    ((setup.boot.after events).session i).leasedPorts = [] := by
  obtain ⟨before, after, rfl, hi⟩ := h
  have hcon := Conserved.boot_after setup (before ++ .command (.terminate i) :: after)
  refine (hcon.session i).free ?_
  rw [Broker.after_append]
  generalize hb : setup.boot.after before = b at hi
  have hb' : Conserved setup.pool b := by rw [← hb]; exact Conserved.boot_after setup before
  have hstep : b.step (.command (.terminate i)) = ((Operation.terminate i).run b).2 := by
    rw [Broker.step_command, if_pos (by simpa [Command.isPossible, Command.session?] using hi)]; rfl
  refine ((Stable.unconnected i).after after (b := b.step (.command (.terminate i))) ⟨?_, ?_⟩).2
  · exact (Stable.length_le (i + 1)).step _ hi
  · rw [hstep]; exact hb'.terminate hi

theorem leasedPorts_of_refused {events : List Event} (h : Refused b events i) :
    ((b.after events).session i).leasedPorts = [] := by
  obtain ⟨before, id, connection, request, user, cancelled, e, after, rfl, hi, he, hafter⟩ := h
  rw [Broker.after_append]
  generalize b.after before = b at hi he
  subst hi
  let c : Command := .start id connection request user cancelled
  have hstep : b.step (.command c) = ((Operation.startSession id connection request user cancelled).run b).2 := by
    have hc : c.isPossible b = true := rfl
    rw [Broker.step_command, if_pos hc]; simp [c, Command.operation]
  have hlen : b.sessions.length < (b.step (.command c)).sessions.length := by
    rw [hstep]
    have hmoves := Operation.startSession_moves_added id connection request user cancelled b
    exact Nat.lt_of_lt_of_le (by simp) hmoves.length_le
  show (((b.step (.command c)).after after).session b.sessions.length).leasedPorts = []
  rw [Broker.session_after after hlen hafter, hstep]
  exact Operation.startSession_refused he

/-- Whatever happens to a broker, the ports that are leased are those on which committed tunnels hold leases,
each held once. A tunnel whose port was leased for it and that nobody has halted holds its lease, on a port
of the pool. So no command takes a lease away from a session that it is not about, and when all sessions have
ended no port is leased. -/
theorem leases_conserved (setup : Setup) (events : List Event) :
    let b := setup.boot.after events
    (∀ port, port ∈ b.allocator.leased ↔ ∃ s ∈ b.sessions, ∃ t ∈ s.tunnels, t.holdsLease ∧ t.localPort = port) ∧
      b.allocator.leased.Nodup ∧ b.heldPorts.Nodup ∧
      (∀ s ∈ b.sessions, ∀ t ∈ s.tunnels, t.autoAssigned → t.halted = false →
        t.holdsLease ∧ t.localPort ∈ setup.pool.toList) ∧
      (∀ (c : Command) (j : SessionRef), c.subject? b ≠ some j → ∀ port ∈ (b.session j).leasedPorts,
        port ∈ ((c.operation.run b).2.session j).leasedPorts ∧ port ∈ (c.operation.run b).2.allocator.leased) ∧
      ((∀ i < b.sessions.length, i < setup.boot.sessions.length ∨ Terminated setup.boot events i ∨
        Refused setup.boot events i) → b.allocator.leased = []) := by
  intro b
  have h : Conserved setup.pool b := Conserved.boot_after setup events
  refine ⟨h.mem_leased_iff, h.nodup, h.leased.nodup h.nodup, fun s hs t ht => h.holds hs ht, ?_, ?_⟩
  · intro c j hj port hp
    exact h.others_kept hj hp
  · intro hall
    refine h.leased_eq_nil fun i hi => ?_
    rcases hall i hi with hboot | hterminated | hrefused
    · have hlost := (Stable.unconnected i).after events ⟨hboot, setup.boot_unconnected i⟩
      exact (h.session i).free hlost.2
    · exact leasedPorts_of_terminated hterminated
    · exact leasedPorts_of_refused hrefused

/-- Two sessions of one id share a small pool, and give it back. -/
example :
    let setup : Setup := { pool := ⟨#[20000, 20001]⟩ }
    let request : ConnectionRequest := { forwards := [⟨none, none, "web", 80⟩] }
    let start (c : ConnectionRef) : Event := .command (.start "a" c request none false)
    let events := [.arrival default, start 0, .arrival default, start 1]
    (setup.boot.after events).allocator.leased = [20001, 20000] ∧
      (setup.boot.after (events ++ [.command (.terminate 0), .command (.terminate 1)])).allocator.leased = [] := by
  decide

end TunnelBroker
