/-
  TunnelBroker.Proofs.Restart — a broker that starts again with the store of another one.

  Every record of the store becomes a lost session, in the order of the ids. One that was recorded while it was
  connected is stamped with the time of the restart, and its record is saved again; so a second restart finds only
  lost sessions and writes nothing.

  - `Restoring`: the records before some place have become sessions, those after it are still to be read.
  - `restore_run`: what a restart leaves, from the records that the store holds.
  - `restart_preserves_registry`: the ids, sessions and records over any run, a restart and another one.
-/

import TunnelBroker.Proofs.WriteThrough

namespace TunnelBroker

open TunnelBroker.Store (Table Refusal)
open TunnelBroker.Time (Timestamp)

/-! ## Records and the sessions of the past -/

/-- The record of a session that counts as lost at `now` unless it was lost before. -/
def SessionRecord.stamped (now : Timestamp) (r : SessionRecord) : SessionRecord :=
  { r with disconnectedAt := some (r.disconnectedAt.getD now) }

namespace SessionRecord

theorem stamped_of_isLost {r : SessionRecord} (h : r.isLost = true) (now : Timestamp) : r.stamped now = r := by
  obtain ⟨moment, hmoment⟩ := Option.isSome_iff_exists.mp h
  unfold stamped
  rw [hmoment, Option.getD_some, ← hmoment]

theorem isLost_stamped (now : Timestamp) (r : SessionRecord) : (r.stamped now).isLost = true := rfl

end SessionRecord

namespace Store.Table

variable {t : Table SessionRecord}

/-- The records of a table, all stamped. -/
def stamped (now : Timestamp) (t : Table SessionRecord) : Table SessionRecord :=
  ⟨t.entries.map fun e => (e.1, e.2.stamped now)⟩

@[simp] theorem keys_stamped (now : Timestamp) (t : Table SessionRecord) : (t.stamped now).keys = t.keys := by
  unfold keys stamped
  rw [List.map_map]
  rfl

@[simp] theorem values_stamped (now : Timestamp) (t : Table SessionRecord) :
    (t.stamped now).values = t.values.map (.stamped now) := by
  unfold values stamped
  rw [List.map_map, List.map_map]
  rfl

@[simp] theorem size_stamped (now : Timestamp) (t : Table SessionRecord) : (t.stamped now).size = t.size := by
  unfold size stamped
  rw [List.length_map]

theorem IsSorted.stamped (h : t.IsSorted) (now : Timestamp) : (t.stamped now).IsSorted := by
  unfold IsSorted
  rw [keys_stamped]
  exact h

/-- Stamped records have the ids that they had. -/
theorem named_stamped (hsorted : t.IsSorted) (hnames : ∀ id r, t.find? id = some r → r.id = id) (now : Timestamp) :
    ∀ id r, (t.stamped now).find? id = some r → r.id = id := by
  intro id r hr
  obtain ⟨e, he, hentry⟩ := List.mem_map.mp (mem_of_find? hr)
  obtain ⟨rfl, rfl⟩ := Prod.mk.inj hentry
  exact hnames e.1 e.2 (find?_of_mem hsorted he)

end Store.Table

namespace Session

/-- The session of a record has the record, stamped. -/
theorem record_ofRecord (now : Timestamp) (r : SessionRecord) : (ofRecord now r).record = r.stamped now := by
  have htunnels : (r.tunnels.map Tunnel.ofRecord).map Tunnel.record = r.tunnels := by
    rw [List.map_map, show Tunnel.record ∘ Tunnel.ofRecord = fun t => t from rfl, List.map_id']
  unfold record recordWith ofRecord SessionRecord.stamped
  dsimp only
  rw [htunnels]

/-- A stamped record makes the same session at any later time. -/
theorem ofRecord_stamped (now later : Timestamp) (r : SessionRecord) :
    ofRecord later (r.stamped now) = ofRecord now r := rfl

/-- A session of the past is lost and was asked to end, and none of its tunnels is open. -/
theorem isOpen_ofRecord (now : Timestamp) (r : SessionRecord) (tunnel : Tunnel) :
    (ofRecord now r).isOpen tunnel = false := by
  unfold isOpen ofRecord
  simp

end Session

/-! ## Restoring records -/

namespace Broker

/-- The broker after a session of the past was added and entered under its id. -/
def restored (b : Broker) (r : SessionRecord) : Broker :=
  { b with sessions := b.sessions ++ [.ofRecord b.outside.now r], registry := b.registry.insert r.id b.sessions.length }

end Broker

namespace Operation

theorem restoreRecord_run_lost {r : SessionRecord} (h : r.isLost = true) (b : Broker) :
    (restoreRecord r).run b = (.ok (), b.restored r) := by
  have hid : ((b.addSession (.ofRecord b.outside.now r)).2.session b.sessions.length).id = r.id := by
    rw [Broker.session_addSession]
    rfl
  simp only [restoreRecord, Task.run_bind, Task.run_atomic, h, if_true, Broker.fst_addSession, enter, Task.run_change,
    Task.run_pure, hid]
  rfl

theorem restoreRecord_run_connected {r : SessionRecord} (h : r.isLost = false) {b : Broker} {store store' : Store}
    (hstore : b.store = some store)
    (hsave : store.save b.outside.refusal b.outside.now (r.stamped b.outside.now) = (.ok (), store')) :
    (restoreRecord r).run b = (.ok (), { b.restored r with store := some store' }) := by
  have hsession := b.session_addSession (.ofRecord b.outside.now r)
  have hsaved : (saveRecord (r.stamped b.outside.now)).run (b.addSession (.ofRecord b.outside.now r)).2 =
      (.ok (), { (b.addSession (.ofRecord b.outside.now r)).2 with store := some store' }) := by
    have hstore' : (b.addSession (.ofRecord b.outside.now r)).2.store = some store := hstore
    simp only [saveRecord, Task.run_atomic, hstore']
    rw [show (b.addSession (.ofRecord b.outside.now r)).2.outside = b.outside from rfl, hsave]
  simp only [restoreRecord, Task.run_bind, Task.run_atomic, h, Bool.false_eq_true, if_false, Broker.fst_addSession,
    takeRecord_run, hsession, Session.record_ofRecord, hsaved, enter, Task.run_change, Task.run_pure]
  have hid : (({ (b.addSession (.ofRecord b.outside.now r)).2 with store := some store' } : Broker).session
      b.sessions.length).id = r.id := by
    show ((b.addSession (.ofRecord b.outside.now r)).2.session b.sessions.length).id = r.id
    rw [hsession]
    rfl
  rw [hid]
  rfl

end Operation

/-- The records of `before` have become sessions and are stamped; those of `after` are as they were. -/
structure Restoring (now : Timestamp) (start b : Broker) (before after : List (String × SessionRecord)) : Prop where
  sessions : b.sessions = before.map fun e => .ofRecord now e.2
  registry : b.registry.entries = (before.map (·.1)).zipIdx
  store : ∃ store, b.store = some store ∧ store.Holds ⟨(before.map fun e => (e.1, e.2.stamped now)) ++ after⟩
  outside : b.outside = start.outside
  allocator : b.allocator = start.allocator

namespace Restoring

variable {now : Timestamp} {start b : Broker} {before after : List (String × SessionRecord)} {id : String}
  {r : SessionRecord}

/-- The next session is entered under its id, after the ones before it. -/
theorem registry_insert (h : Restoring now start b before ((id, r) :: after)) (hid : ∀ e ∈ before, e.1 < id) :
    (b.registry.insert id b.sessions.length).entries = ((before ++ [(id, r)]).map (·.1)).zipIdx := by
  have hlength : b.sessions.length = (before.map (·.1)).length := by
    rw [h.sessions, List.length_map, List.length_map]
  have hbefore : ∀ e ∈ b.registry.entries, e.1 < id := by
    intro e he
    rw [h.registry] at he
    obtain ⟨e', he', hkey⟩ := List.mem_map.mp (List.fst_mem_of_mem_zipIdx he)
    rw [← hkey]
    exact hid e' he'
  have hinsert : Table.insertEntry id b.sessions.length (b.registry.entries ++ []) = _ := Table.insertEntry_append hbefore
  rw [List.append_nil] at hinsert
  unfold Table.insert
  rw [hinsert, h.registry, hlength, List.map_append, List.zipIdx_append]
  simp [Table.insertEntry]

/-- The next record becomes a session. Nothing is written for a session that was lost before. -/
theorem step (h : Restoring now start b before ((id, r) :: after)) (hnow : start.outside.now = now) (hname : r.id = id)
    (hid : ∀ e ∈ before, e.1 < id) (hsave : r.isLost = false → start.outside.refusal (.save id) = none) :
    ∃ b', (Operation.restoreRecord r).run b = (.ok (), b') ∧ Restoring now start b' (before ++ [(id, r)]) after ∧
      (r.isLost = true → b'.store = b.store) := by
  obtain ⟨store, hstore, hholds⟩ := h.store
  have hnow' : b.outside.now = now := by rw [h.outside, hnow]
  have hsessions : (b.restored r).sessions = (before ++ [(id, r)]).map fun e => .ofRecord now e.2 := by
    show b.sessions ++ [Session.ofRecord b.outside.now r] = _
    rw [h.sessions, hnow', List.map_append]
    rfl
  have hregistry : (b.restored r).registry.entries = ((before ++ [(id, r)]).map (·.1)).zipIdx := by
    rw [← h.registry_insert hid, ← hname]
    rfl
  cases hlost : r.isLost with
  | true =>
    refine ⟨b.restored r, Operation.restoreRecord_run_lost hlost b, ⟨hsessions, hregistry, ?_, h.outside, h.allocator⟩,
      fun _ => rfl⟩
    refine ⟨store, hstore, ?_⟩
    rw [List.map_append, List.append_assoc, List.map_singleton, SessionRecord.stamped_of_isLost hlost]
    exact hholds
  | false =>
    rcases hholds.save b.outside.refusal b.outside.now (r.stamped b.outside.now) with
      ⟨store', hsaved, hholds'⟩ | ⟨reason, hrefused, -⟩
    · refine ⟨{ b.restored r with store := some store' }, Operation.restoreRecord_run_connected hlost hstore hsaved,
        ⟨hsessions, hregistry, ⟨store', rfl, ?_⟩, h.outside, h.allocator⟩, fun h => by cases h⟩
      -- The record is overwritten where it stands: it comes after those before it.
      have hbefore : ∀ e ∈ before.map fun e => (e.1, e.2.stamped now), e.1 < r.id := by
        intro e he
        obtain ⟨e', he', rfl⟩ := List.mem_map.mp he
        rw [hname]
        exact hid e' he'
      have hinsert : Table.insertEntry r.id (r.stamped now)
          ((before.map fun e => (e.1, e.2.stamped now)) ++ (id, r) :: after) = _ := Table.insertEntry_append hbefore
      have hhere : Table.insertEntry r.id (r.stamped now) ((id, r) :: after) = (id, r.stamped now) :: after := by
        rw [Table.insertEntry, if_pos hname, hname]
      rw [hhere] at hinsert
      rw [hnow'] at hholds'
      have htable : (Table.mk ((before.map fun e => (e.1, e.2.stamped now)) ++ (id, r) :: after)).insert r.id (r.stamped now) =
          ⟨((before ++ [(id, r)]).map fun e => (e.1, e.2.stamped now)) ++ after⟩ := by
        unfold Table.insert
        rw [hinsert, List.map_append, List.append_assoc]
        rfl
      rw [← htable]
      exact hholds'
    · rw [show (r.stamped b.outside.now).id = id from hname, h.outside, hsave hlost] at hrefused
      cases hrefused

/-- All records become sessions, if nothing is refused that has to be written. -/
theorem run (h : Restoring now start b before after) (hnow : start.outside.now = now)
    (hsorted : ((before ++ after).map (·.1)).Pairwise (· < ·)) (hnames : ∀ e ∈ after, e.2.id = e.1)
    (hsave : ∀ e ∈ after, e.2.isLost = false → start.outside.refusal (.save e.1) = none) :
    ∃ b', (Operation.restoreRecords (after.map (·.2))).run b = (.ok (), b') ∧ Restoring now start b' (before ++ after) [] ∧
      ((∀ e ∈ after, e.2.isLost = true) → b'.store = b.store) := by
  induction after generalizing b before with
  | nil =>
    rw [List.append_nil]
    exact ⟨b, rfl, h, fun _ => rfl⟩
  | cons e after ih =>
    obtain ⟨id, r⟩ := e
    obtain ⟨hname, hnames'⟩ := List.forall_mem_cons.mp hnames
    obtain ⟨hsave₁, hsave'⟩ := List.forall_mem_cons.mp hsave
    have hid : ∀ e ∈ before, e.1 < id := by
      intro e he
      rw [List.map_append, List.pairwise_append] at hsorted
      exact hsorted.2.2 e.1 (List.mem_map_of_mem he) id (List.mem_cons_self ..)
    obtain ⟨b₁, hrun, hnext, hkept⟩ := h.step hnow hname hid hsave₁
    have hassoc : before ++ (id, r) :: after = (before ++ [(id, r)]) ++ after := by simp
    rw [hassoc] at hsorted ⊢
    obtain ⟨b', hrest, hend, hkept'⟩ := ih hnext hsorted hnames' hsave'
    refine ⟨b', ?_, hend, ?_⟩
    · simp only [List.map_cons, Operation.restoreRecords, Task.run_bind, hrun, hrest]
    · intro hlost
      obtain ⟨hlost₁, hlost'⟩ := List.forall_mem_cons.mp hlost
      rw [hkept' hlost', hkept hlost₁]

end Restoring

/-! ## Restarts -/

/-- What a restart leaves: all records are lost sessions, under their ids, and the store has them stamped. -/
structure Restarted (setup : Setup) (t : Table SessionRecord) : Prop where
  result : (Operation.restore.run setup.fresh).1 = .ok t.size
  sessions : setup.boot.sessions = t.values.map (.ofRecord setup.outside.now)
  registry : setup.boot.registry.entries = t.keys.zipIdx
  leased : setup.boot.allocator.leased = []
  store : ∃ store, setup.boot.store = some store ∧ store.Holds (t.stamped setup.outside.now)
  kept : (∀ e ∈ t.entries, e.2.isLost = true) → setup.boot.store = setup.store

theorem restore_run {setup : Setup} {store : Store} {t : Table SessionRecord} (hstore : setup.store = some store)
    (hholds : store.Holds t) (hsorted : t.IsSorted) (hnames : ∀ id r, t.find? id = some r → r.id = id)
    (hload : setup.outside.refusal .load = none)
    (hsave : ∀ e ∈ t.entries, e.2.isLost = false → setup.outside.refusal (.save e.1) = none) : Restarted setup t := by
  have hstart : Restoring setup.outside.now setup.fresh setup.fresh [] t.entries :=
    ⟨rfl, rfl, ⟨store, hstore, hholds⟩, rfl, rfl⟩
  have hnames' : ∀ e ∈ t.entries, e.2.id = e.1 := fun e he => hnames e.1 e.2 (Table.find?_of_mem hsorted he)
  obtain ⟨b', hrun, hend, hkept⟩ := hstart.run rfl hsorted hnames' hsave
  have hrestore : Operation.restore.run setup.fresh = (.ok t.values.length, b') := by
    have hfresh : setup.fresh.store = some store := hstore
    have hread : store.load setup.fresh.outside.refusal = .ok t.values := hholds.load hload
    have hrun' : (Operation.restoreRecords t.values).run setup.fresh = (.ok (), b') := hrun
    simp only [Operation.restore, Task.run_bind, Task.run_read, hfresh, hread, hrun', Task.run_pure]
  have hboot : setup.boot = b' := by
    unfold Setup.boot
    rw [hrestore]
  rw [List.nil_append] at hend
  refine ⟨?_, ?_, ?_, ?_, ?_, ?_⟩
  · rw [hrestore, Table.values, List.length_map]
    rfl
  · rw [hboot, hend.sessions, Table.values, List.map_map]
    rfl
  · rw [hboot, hend.registry]
    rfl
  · rw [hboot, hend.allocator]
    rfl
  · obtain ⟨store', hstore', hholds'⟩ := hend.store
    rw [List.append_nil] at hholds'
    rw [hboot]
    exact ⟨store', hstore', hholds'⟩
  · intro hlost
    rw [hboot, hkept hlost]
    rfl

namespace Restarted

variable {setup : Setup} {t : Table SessionRecord}

theorem keys (h : Restarted setup t) : setup.boot.registry.keys = t.keys := by
  unfold Table.keys
  rw [h.registry]
  exact List.zipIdx_map_fst ..

/-- The session of a record is known under the record's id. -/
theorem find? (h : Restarted setup t) (hsorted : t.IsSorted) {id : String} {r : SessionRecord} (hr : t.find? id = some r) :
    ∃ i, setup.boot.registry.find? id = some i ∧ setup.boot.session i = .ofRecord setup.outside.now r := by
  obtain ⟨i, hi, hentry⟩ := List.getElem_of_mem (Table.mem_of_find? hr)
  have hsorted' : setup.boot.registry.IsSorted := by
    unfold Table.IsSorted
    rw [h.keys]
    exact hsorted
  refine ⟨i, Table.find?_of_mem hsorted' ?_, ?_⟩
  · rw [h.registry, List.mk_mem_zipIdx_iff_getElem?, Table.keys, List.getElem?_map, List.getElem?_eq_getElem hi, hentry]
    rfl
  · rw [Broker.session, h.sessions, Table.values, List.getElem?_map, List.getElem?_map, List.getElem?_eq_getElem hi, hentry]
    rfl

/-- The sessions that are known are all there are, in the order of their ids. -/
theorem known (h : Restarted setup t) : setup.boot.known = setup.boot.sessions := by
  have hvalues : setup.boot.registry.values = List.range setup.boot.sessions.length := by
    rw [Table.values, h.registry, List.zipIdx_map_snd, h.sessions, List.length_map, Table.values, List.length_map,
      Table.keys, List.length_map, List.range_eq_range']
  have hsessions : (List.range setup.boot.sessions.length).map setup.boot.session = setup.boot.sessions := by
    refine List.ext_getElem (by simp) ?_
    intro i hi hi'
    rw [List.getElem_map, List.getElem_range, Broker.session_eq hi']
  unfold Broker.known
  rw [hvalues, hsessions]

theorem records (h : Restarted setup t) :
    setup.boot.known.map Session.record = t.values.map (.stamped setup.outside.now) := by
  rw [h.known, h.sessions, List.map_map]
  exact List.map_congr_left fun r _ => Session.record_ofRecord setup.outside.now r

end Restarted

/-! ## From an empty store on -/

/-- A broker with an empty store starts without sessions, whether or not the store refuses to be read. -/
theorem Setup.boot_of_isEmpty {setup : Setup} {store : Store} (hstore : setup.store = some store) (hempty : store.IsEmpty) :
    setup.boot = setup.fresh := by
  have hfresh : setup.fresh.store = some store := hstore
  unfold Setup.boot
  simp only [Operation.restore, Task.run_bind, Task.run_read, hfresh]
  cases hload : setup.fresh.outside.refusal .load with
  | none =>
    have hread : store.load setup.fresh.outside.refusal = .ok [] := hempty.holds.load hload
    simp only [hread, Task.run_bind, Operation.restoreRecords, Task.run_pure]
  | some reason =>
    have hread : store.load setup.fresh.outside.refusal = .error (.storage reason) := by
      unfold Store.load
      rw [hload]
    simp only [hread, Task.run_pure]

theorem InStep.of_isEmpty {b : Broker} {store : Store} (hstore : b.store = some store) (hempty : store.IsEmpty)
    (hregistry : b.registry = {}) : InStep b {} where
  holds := ⟨store, hstore, hempty.holds⟩
  keys := by rw [hregistry]; rfl
  sorted := .nil
  named id r h := by cases h

theorem Setup.inStep_boot {setup : Setup} {store : Store} (hstore : setup.store = some store) (hempty : store.IsEmpty) :
    InStep setup.boot {} := by
  rw [Setup.boot_of_isEmpty hstore hempty]
  exact .of_isEmpty hstore hempty rfl

/-- From an empty store on, the registry and the store have the same ids after any events, whatever the store refuses.
A broker that starts again with that store, and is refused nothing, knows exactly these ids. Each stands for a lost
session with the record that was saved last under it, stamped if it was connected then; nothing is open or leased. The
store has these records, so that a third broker restores the same sessions from it and writes nothing, even if every
save is refused. -/
theorem restart_preserves_registry {setup : Setup} {kept : Store} (hstore : setup.store = some kept) (hempty : kept.IsEmpty)
    (events : List Event) :
    let b := setup.boot.after events
    ∃ store, b.store = some store ∧ store.ids = b.registry.keys ∧
      ∀ again : Setup, again.store = some store → (∀ use, again.outside.refusal use = none) →
        let b' := again.boot
        (Operation.restore.run again.fresh).1 = .ok b.registry.size ∧ b'.registry.keys = b.registry.keys ∧
        b'.allocator.leased = [] ∧
        (∀ id, b.registry.contains id → ∃ i r, b'.registry.find? id = some i ∧ setup.boot.lastSaved events id = some r ∧
          b'.session i = .ofRecord again.outside.now r ∧ (b'.session i).record = r.stamped again.outside.now ∧
          (b'.session i).isActive = false ∧ (b'.session i).cancelled = true ∧ (b'.session i).leasedPorts = [] ∧
          ∀ tunnel ∈ (b'.session i).tunnels, (b'.session i).isOpen tunnel = false) ∧
        ∃ store', b'.store = some store' ∧ store'.ids = b.registry.keys ∧
          store'.load (fun _ => none) = .ok (b'.known.map Session.record) ∧
          ∀ third : Setup, third.store = some store' → third.outside.refusal .load = none →
            (Operation.restore.run third.fresh).1 = .ok b.registry.size ∧ third.boot.sessions = b'.sessions ∧
            third.boot.registry = b'.registry ∧ third.boot.store = some store' := by
  intro b
  obtain ⟨t, hstep, hlast⟩ := (Setup.inStep_boot hstore hempty).after events
  obtain ⟨store, hstored, hholds⟩ := hstep.holds
  have hsize : b.registry.size = t.size := by
    have hlength := congrArg List.length hstep.keys
    rwa [Table.keys, Table.keys, List.length_map, List.length_map] at hlength
  refine ⟨store, hstored, by rw [hholds.ids, hstep.keys], ?_⟩
  intro again hagain hallowed b'
  have hrestarted := restore_run hagain hholds hstep.sorted hstep.named (hallowed .load) fun e _ _ => hallowed (.save e.1)
  refine ⟨by rw [hrestarted.result, hsize], by rw [hrestarted.keys, hstep.keys], hrestarted.leased, ?_, ?_⟩
  · intro id hid
    rw [Table.contains_iff, hstep.keys, ← Table.contains_iff] at hid
    obtain ⟨r, hr⟩ := Option.isSome_iff_exists.mp hid
    obtain ⟨i, hfind, hsession⟩ := hrestarted.find? hstep.sorted hr
    refine ⟨i, r, hfind, hlast id r hr, hsession, ?_⟩
    rw [hsession]
    exact ⟨Session.record_ofRecord _ r, rfl, rfl, Session.leasedPorts_ofRecord _ r, fun t _ => Session.isOpen_ofRecord _ r t⟩
  · obtain ⟨store', hstored', hholds'⟩ := hrestarted.store
    refine ⟨store', hstored', by rw [hholds'.ids, Table.keys_stamped, hstep.keys], ?_, ?_⟩
    · rw [hholds'.load rfl, Table.values_stamped, hrestarted.records]
    · intro third hthird hload
      have hlost : ∀ e ∈ (t.stamped again.outside.now).entries, e.2.isLost = true := by
        intro e he
        obtain ⟨e', -, rfl⟩ := List.mem_map.mp he
        exact e'.2.isLost_stamped _
      have hthird' := restore_run hthird hholds' (hstep.sorted.stamped _) (Table.named_stamped hstep.sorted hstep.named _) hload
        fun e he hconnected => by rw [hlost e he] at hconnected; cases hconnected
      refine ⟨?_, ?_, ?_, ?_⟩
      · rw [hthird'.result, hsize, Table.size_stamped]
      · rw [hthird'.sessions, hrestarted.sessions, Table.values_stamped, List.map_map]
        exact List.map_congr_left fun r _ => Session.ofRecord_stamped _ _ r
      · have hentries : third.boot.registry.entries = b'.registry.entries := by
          rw [hthird'.registry, hrestarted.registry, Table.keys_stamped]
        exact congrArg Table.mk hentries
      · rw [hthird'.kept hlost, hthird]

/-- A client is connected when the store fails; its end is not recorded any more, so that the restart ends it. -/
theorem unrecorded_end_is_stamped :
    let setup : Setup := { pool := ⟨#[20000]⟩, store := some (.database (some {})), keepLost := some (.ofSeconds 60) }
    let request : ConnectionRequest := { forwards := [⟨none, none, "web", 80⟩] }
    let events : List Event := [.arrival default, .command (.start "a" 0 request none false),
      .outside { refusal := fun _ => some "full" }, .command (.terminate 0)]
    let b := setup.boot.after events
    let again : Setup := { pool := ⟨#[20000]⟩, store := b.store }
    (b.session 0).isActive = false ∧ again.boot.registry.keys = ["a"] ∧
      ∃ i r, again.boot.registry.find? "a" = some i ∧ setup.boot.lastSaved events "a" = some r ∧ r.isLost = false ∧
        (again.boot.session i).record = r.stamped .epoch := by
  intro setup request events b again
  obtain ⟨store, hstore, -, hrestart⟩ := @restart_preserves_registry setup (.database (some {})) rfl (.inr rfl) events
  have hagain : again.store = (setup.boot.after events).store := by simp only [again, b]
  obtain ⟨-, hkeys, -, hknown, -⟩ := hrestart again (hagain.trans hstore) fun _ => rfl
  have hended : ((setup.boot.after events).session 0).isActive = false := by decide +kernel
  have hids : (setup.boot.after events).registry.keys = ["a"] := by decide +kernel
  have hcontains : (setup.boot.after events).registry.contains "a" = true := by decide +kernel
  have hconnected : (setup.boot.lastSaved events "a").all (!·.isLost) = true := by decide +kernel
  obtain ⟨i, r, hfind, hlast, -, hrecord, -⟩ := hknown "a" hcontains
  have hrecorded : r.isLost = false := by
    rw [hlast] at hconnected
    simpa using hconnected
  exact ⟨hended, hkeys.trans hids, i, r, hfind, hlast, hrecorded, hrecord⟩

end TunnelBroker
