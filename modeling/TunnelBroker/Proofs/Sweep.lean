/-
  TunnelBroker.Proofs.Sweep — forgetting the sessions that have been lost for too long.

  A sweep looks once which sessions were lost before a moment, the cutoff, and then makes their ids unknown, one after
  the other. The store may refuse any of them, and the sweep ends there. The order of the ids is that of the registry,
  but nothing here depends on it.

  - `Timestamp.minus?_eq_some`: the cutoff lies as long before now as sessions are kept, and there may be none.
  - `Broker.forgetting`: the broker without the sessions and the records of some ids.
  - `Operation.unregister_forgets`: making an id unknown comes to that, or the store refuses and nothing changes.
  - `Operation.unregisterAll_swept`: so do many ids, up to the first that is refused.
  - `sweep_forgets_the_obsolete`: what is forgotten is what is obsolete, and the registry and the store keep the same ids.
-/

import TunnelBroker.Proofs.Restart

namespace TunnelBroker

open TunnelBroker.Store (Refusal Table Use)
open TunnelBroker.Time (Duration Timestamp billion)

/-! ## Moments and durations -/

namespace Time.Timestamp

variable {t cutoff : Timestamp} {d : Duration}

/-- The nanoseconds since the start of the year 1970. -/
def instant (t : Timestamp) : Int := t.seconds * billion + t.nanos

/-- The moment lies a duration before another one, and the duration is not too long. -/
def IsEarlierBy (cutoff : Timestamp) (d : Duration) (t : Timestamp) : Prop :=
  d.nanos ≤ Duration.longest ∧ cutoff.nanos < billion ∧ cutoff.instant + d.nanos = t.instant

theorem make?_eq_some {seconds : Int} {nanos : Nat} :
    make? seconds nanos = some t ↔ t.seconds = seconds ∧ t.nanos = nanos := by
  unfold make?
  constructor
  · intro h
    split at h
    · split at h
      · obtain rfl := Option.some.inj h
        exact ⟨rfl, rfl⟩
      · cases h
    · cases h
  · intro h
    obtain ⟨rfl, rfl⟩ := h
    rw [dif_pos t.inRange, dif_pos t.nanos_lt]

/-- The moment a duration earlier, by its nanoseconds. -/
theorem minus?_eq_some : t.minus? d = some cutoff ↔ cutoff.IsEarlierBy d t := by
  unfold minus? IsEarlierBy instant
  split
  · constructor
    · exact nofun
    · intro h
      omega
  · rw [make?_eq_some]
    unfold billion
    omega

/-- There is no moment a duration earlier if it is too long or reaches back too far. -/
theorem minus?_eq_none : t.minus? d = none ↔ ∀ cutoff : Timestamp, ¬ cutoff.IsEarlierBy d t := by
  simp only [Option.eq_none_iff_forall_ne_some, ne_eq, minus?_eq_some]

end Time.Timestamp

/-! ## Tables and stores without some ids -/

namespace Store.Table

variable {α : Type} {t : Table α} {key : String} {keys : List String}

/-- The table without these keys. -/
def without (t : Table α) (keys : List String) : Table α := ⟨t.entries.filter fun e => !keys.contains e.1⟩

@[simp] theorem without_nil (t : Table α) : t.without [] = t := by
  simp [without]

/-- The keys may be taken out one after the other. -/
theorem without_cons (t : Table α) (key : String) (keys : List String) :
    t.without (key :: keys) = (t.erase key).without keys := by
  unfold without erase
  rw [List.filter_filter]
  congr 2
  funext e
  rw [List.contains_cons, Bool.not_or, Bool.and_comm]
  rfl

theorem without_singleton (t : Table α) (key : String) : t.without [key] = t.erase key := by
  rw [without_cons, without_nil]

theorem find?_without (t : Table α) (keys : List String) (key : String) :
    (t.without keys).find? key = if key ∈ keys then none else t.find? key := by
  induction keys generalizing t with
  | nil => simp
  | cons k keys ih =>
    rw [without_cons, ih]
    by_cases hrest : key ∈ keys
    · simp [hrest]
    · by_cases hk : key = k
      · simp [hk]
      · simp [hrest, hk, find?_erase_of_ne t hk]

theorem contains_without (t : Table α) (keys : List String) (key : String) :
    (t.without keys).contains key = (t.contains key && !keys.contains key) := by
  unfold contains
  rw [find?_without]
  by_cases hkey : key ∈ keys <;> simp [hkey]

end Store.Table

namespace Store

/-- The store without the records of these ids. -/
def without (ids : List String) : Store → Store
  | .memory records => .memory (records.without ids)
  | .database table => .database (table.map (·.without ids))

@[simp] theorem without_nil (store : Store) : store.without [] = store := by
  cases store with
  | memory records => simp [without]
  | database table => cases table <;> simp [without]

theorem without_cons (store : Store) (id : String) (ids : List String) :
    store.without (id :: ids) = (store.without [id]).without ids := by
  cases store with
  | memory records => simp [without, Table.without_cons records id ids, Table.without_singleton]
  | database table =>
    cases table with
    | none => rfl
    | some rows => simp [without, Table.without_cons rows id ids, Table.without_singleton]

theorem contains_without (store : Store) (ids : List String) (id : String) :
    (store.without ids).contains id = (store.contains id && !ids.contains id) := by
  cases store with
  | memory records => exact records.contains_without ids id
  | database table =>
    cases table with
    | none => rfl
    | some rows => exact rows.contains_without ids id

theorem contains_iff (store : Store) (id : String) : store.contains id = true ↔ id ∈ store.ids := by
  cases store with
  | memory records => exact Table.contains_iff
  | database table =>
    cases table with
    | none => simp [contains, ids]
    | some rows => exact Table.contains_iff

/-- Nothing stands against a use of the store: it has a table, and does not refuse. -/
def Serves (store : Store) (refusal : Refusal) (use : Use) : Prop := refusal use = none ∧ store ≠ .database none

theorem serves_without {store : Store} {ids : List String} {refusal : Refusal} {use : Use} :
    (store.without ids).Serves refusal use ↔ store.Serves refusal use := by
  cases store with
  | memory records => simp [Serves, without]
  | database table => cases table <;> simp [Serves, without]

/-- A deletion that is served takes the record out, and any other fails. -/
theorem delete_serves (store : Store) (refusal : Refusal) (id : String) :
    (store.Serves refusal (.delete id) ∧ store.delete refusal id = (.ok (), store.without [id])) ∨
      (¬ store.Serves refusal (.delete id) ∧
        ∃ reason, store.delete refusal id = (.error (.storage reason), store)) := by
  unfold delete Serves
  cases refusal (.delete id) with
  | some reason => exact .inr ⟨fun h => Option.some_ne_none _ h.1, reason, rfl⟩
  | none =>
    cases store with
    | memory records => exact .inl ⟨⟨rfl, nofun⟩, by simp [without, Table.without_singleton]⟩
    | database table =>
      cases table with
      | none => exact .inr ⟨fun h => h.2 rfl, _, rfl⟩
      | some rows => exact .inl ⟨⟨rfl, nofun⟩, by simp [without, Table.without_singleton]⟩

end Store

/-! ## Forgetting -/

namespace Broker

variable {b : Broker} {id : String} {ids : List String} {use : Use}

/-- The broker without the sessions and the records of these ids. Nothing else of it differs. -/
def forgetting (b : Broker) (ids : List String) : Broker :=
  { b with registry := b.registry.without ids, store := b.store.map (·.without ids) }

@[simp] theorem forgetting_nil (b : Broker) : b.forgetting [] = b := by
  simp [forgetting]

theorem forgetting_cons (b : Broker) (id : String) (ids : List String) :
    b.forgetting (id :: ids) = (b.forgetting [id]).forgetting ids := by
  unfold forgetting
  rw [Table.without_cons, ← Table.without_singleton, Option.map_map]
  congr 2
  funext store
  exact store.without_cons id ids

theorem find?_forgetting (b : Broker) (ids : List String) (id : String) :
    (b.forgetting ids).registry.find? id = if id ∈ ids then none else b.registry.find? id :=
  b.registry.find?_without ids id

/-- Nothing stands against a use of the store, if there is one. -/
def StoreServes (b : Broker) (use : Use) : Prop := ∀ store, b.store = some store → store.Serves b.outside.refusal use

theorem storeServes_forgetting : (b.forgetting ids).StoreServes use ↔ b.StoreServes use := by
  unfold StoreServes forgetting
  cases b.store with
  | none => simp
  | some store => simp [Store.serves_without]

/-- The registry and the store, if there is one, have the same ids. -/
def SameIds (b : Broker) : Prop := ∀ store, b.store = some store → ∀ id, store.contains id = b.registry.contains id

theorem SameIds.forgetting (h : b.SameIds) (ids : List String) : (b.forgetting ids).SameIds := by
  intro store' hstore' id
  obtain ⟨store, hstore, rfl⟩ := Option.map_eq_some_iff.mp hstore'
  rw [store.contains_without, h store hstore id]
  exact (b.registry.contains_without ids id).symm

end Broker

namespace Operation

open Broker (storeServes_forgetting)

variable {b : Broker} {id : String} {ids : List String}

/-- Making a known id unknown forgets its session and its record, or the store refuses and nothing changes. -/
theorem unregister_forgets (hknown : b.registry.contains id = true) :
    (b.StoreServes (.delete id) ∧ (unregister id).run b = (.ok (), b.forgetting [id])) ∨
      (¬ b.StoreServes (.delete id) ∧ ∃ reason, (unregister id).run b = (.error (.storage reason), b)) := by
  obtain ⟨i, hfind⟩ := Option.isSome_iff_exists.mp hknown
  unfold Broker.StoreServes Broker.forgetting
  rw [Table.without_singleton]
  cases hstore : b.store with
  | none =>
    refine .inl ⟨nofun, ?_⟩
    simp [unregister, find, hfind, deleteRecord, hstore, remove]
  | some store =>
    rcases store.delete_serves b.outside.refusal id with ⟨hserves, hdelete⟩ | ⟨hrefuses, reason, hdelete⟩
    · refine .inl ⟨?_, ?_⟩
      · intro store' hstore'
        obtain rfl := Option.some.inj hstore'
        exact hserves
      · simp [unregister, find, hfind, deleteRecord, hstore, hdelete, remove]
    · refine .inr ⟨fun h => hrefuses (h store rfl), reason, ?_⟩
      simp [unregister, find, hfind, deleteRecord, hstore, hdelete, Broker.withStore_self hstore]

/-- What comes of making ids unknown one after the other: all of them are forgotten, or those before the first that the
store refuses. -/
inductive Swept (b : Broker) (ids : List String) : Except RegistryError Nat → Broker → Prop
  | all : (∀ id ∈ ids, b.StoreServes (.delete id)) → Swept b ids (.ok ids.length) (b.forgetting ids)
  | stopped (forgotten rest : List String) (id reason : String) : ids = forgotten ++ id :: rest →
      ¬ b.StoreServes (.delete id) → Swept b ids (.error (.storage reason)) (b.forgetting forgotten)

/-- One more id is forgotten before the others. -/
theorem Swept.cons {result : Except RegistryError Nat} {b' : Broker} (hserves : b.StoreServes (.delete id))
    (h : Swept (b.forgetting [id]) ids result b') : Swept b (id :: ids) (result.map (· + 1)) b' := by
  cases h with
  | all hall =>
    rw [← b.forgetting_cons]
    refine .all fun k hk => ?_
    rcases List.mem_cons.mp hk with rfl | hk
    · exact hserves
    · exact storeServes_forgetting.mp (hall k hk)
  | stopped forgotten rest k reason hids hrefuses =>
    rw [← b.forgetting_cons]
    subst hids
    exact .stopped (id :: forgotten) rest k reason rfl fun h => hrefuses (storeServes_forgetting.mpr h)

theorem unregisterAll_swept (hdistinct : ids.Nodup) (hknown : ∀ id ∈ ids, b.registry.contains id = true) :
    Swept b ids ((unregisterAll ids).run b).1 ((unregisterAll ids).run b).2 := by
  induction ids generalizing b with
  | nil =>
    have hnil : Swept b [] (.ok 0) (b.forgetting []) := .all nofun
    rwa [b.forgetting_nil] at hnil
  | cons id ids ih =>
    obtain ⟨hnew, hdistinct⟩ := List.nodup_cons.mp hdistinct
    obtain ⟨hid, hids⟩ := List.forall_mem_cons.mp hknown
    simp only [unregisterAll, Task.run_bind]
    rcases unregister_forgets hid with ⟨hserves, hrun⟩ | ⟨hrefuses, reason, hrun⟩
    · -- The other ids are known still, as this one is not among them.
      have hstill : ∀ k ∈ ids, (b.forgetting [id]).registry.contains k = true := by
        intro k hk
        have hne : k ≠ id := fun h => hnew (h ▸ hk)
        rw [Table.contains, Broker.find?_forgetting, if_neg (by simpa using hne)]
        exact hids k hk
      simp only [hrun, Task.run_bind, Task.run_pure]
      exact .cons hserves (ih hdistinct hstill)
    · simp only [hrun, Task.run_pure]
      have hstopped : Swept b (id :: ids) (.error (.storage reason)) (b.forgetting []) :=
        .stopped [] ids id reason rfl hrefuses
      rwa [b.forgetting_nil] at hstopped

end Operation

/-- What is in step has the same ids, and the registry knows one session under each. -/
theorem InStep.sameIds {b : Broker} {t : Table SessionRecord} (h : InStep b t) : b.SameIds ∧ b.registry.IsSorted := by
  obtain ⟨store, hstore, hholds⟩ := h.holds
  refine ⟨?_, ?_⟩
  · intro store' hstore' id
    obtain rfl : store = store' := Option.some.inj (hstore.symm.trans hstore')
    rw [Bool.eq_iff_iff, store.contains_iff, hholds.ids, Table.contains_iff, h.keys]
  · unfold Table.IsSorted
    rw [h.keys]
    exact h.sorted

/-! ## The sweep -/

variable {b : Broker} {keep : Duration} {id : String}

/-- The session that is known under the id was lost before the moment that lies `keep` before now. -/
def Broker.IsObsolete (b : Broker) (keep : Duration) (id : String) : Prop :=
  ∃ i moment cutoff, b.registry.find? id = some i ∧ (b.session i).disconnectedAt = some moment ∧
    cutoff.IsEarlierBy keep b.outside.now ∧ moment.before cutoff = true

/-- What the result of a sweep and the broker that it leaves are to be. -/
structure IsSweep (b : Broker) (keep : Duration) (r : Except RegistryError Nat × Broker) : Prop where
  /-- A sweep that goes well forgets the obsolete sessions with their records, and counts them. -/
  ok : ∀ n, r.1 = .ok n →
    ∃ ids : List String, ids.Nodup ∧ ids.length = n ∧ (∀ id, id ∈ ids ↔ b.IsObsolete keep id) ∧ r.2 = b.forgetting ids
  /-- It goes well unless the store refuses to delete the record of an obsolete session. -/
  served : (∃ n, r.1 = .ok n) ↔ ∀ id, b.IsObsolete keep id → b.StoreServes (.delete id)
  /-- A time that is too long, or reaches back too far, keeps everything. -/
  tooLong : (∀ cutoff : Timestamp, ¬ cutoff.IsEarlierBy keep b.outside.now) → r = (.ok 0, b)
  /-- One that fails has been stopped by the store, and forgets obsolete sessions only. -/
  error : ∀ e, r.1 = .error e →
    (∃ reason, e = .storage reason) ∧ ∃ ids : List String, (∀ id ∈ ids, b.IsObsolete keep id) ∧ r.2 = b.forgetting ids
  sameIds : r.2.SameIds
  active : ∀ id i, b.registry.find? id = some i → (b.session i).isActive = true → r.2.registry.find? id = some i

/-- An obsolete session is lost, so an active one is not obsolete. -/
theorem Broker.IsObsolete.not_isActive {i : SessionRef} (h : b.IsObsolete keep id) (hfind : b.registry.find? id = some i) :
    (b.session i).isActive = false := by
  obtain ⟨k, moment, cutoff, hknown, hmoment, -, -⟩ := h
  obtain rfl := Option.some.inj (hfind.symm.trans hknown)
  unfold Session.isActive
  rw [hmoment, Option.isNone_some, Bool.and_false]

/-- An active session stays known where only obsolete ones are forgotten. -/
theorem Broker.find?_forgetting_of_isActive {ids : List String} {i : SessionRef} (hids : ∀ id ∈ ids, b.IsObsolete keep id)
    (hfind : b.registry.find? id = some i) (hactive : (b.session i).isActive = true) :
    (b.forgetting ids).registry.find? id = some i := by
  have hid : id ∉ ids := by
    intro hid
    rw [(hids id hid).not_isActive hfind] at hactive
    cases hactive
  rw [find?_forgetting, if_neg hid]
  exact hfind

namespace Operation

variable {cutoff : Timestamp} {ids : List String}

/-- The sweep finds the obsolete sessions, whatever is known under an id being one session. -/
theorem mem_lostBefore (hsorted : b.registry.IsSorted) (hcutoff : cutoff.IsEarlierBy keep b.outside.now) :
    id ∈ lostBefore cutoff b ↔ b.IsObsolete keep id := by
  have huntil : b.outside.now.minus? keep = some cutoff := Timestamp.minus?_eq_some.mpr hcutoff
  unfold lostBefore Broker.IsObsolete
  simp only [List.mem_map, List.mem_filter]
  constructor
  · intro h
    obtain ⟨⟨k, i⟩, ⟨hentry, hlost⟩, rfl⟩ := h
    unfold Session.isLostBefore at hlost
    split at hlost
    · rename_i moment hmoment
      exact ⟨i, moment, cutoff, Table.find?_of_mem hsorted hentry, hmoment, hcutoff, hlost⟩
    · cases hlost
  · intro h
    obtain ⟨i, moment, cutoff', hfind, hmoment, hcutoff', hbefore⟩ := h
    obtain rfl : cutoff = cutoff' := Option.some.inj (huntil.symm.trans (Timestamp.minus?_eq_some.mpr hcutoff'))
    refine ⟨(id, i), ⟨Table.mem_of_find? hfind, ?_⟩, rfl⟩
    unfold Session.isLostBefore
    rw [hmoment]
    exact hbefore

theorem nodup_lostBefore (hsorted : b.registry.IsSorted) (cutoff : Timestamp) : (lostBefore cutoff b).Nodup := by
  have hkeys : b.registry.keys.Nodup := hsorted.imp ne_of_lt
  exact hkeys.sublist (List.filter_sublist.map _)

/-- Making all obsolete ids unknown is a sweep, in whatever order. -/
theorem Swept.isSweep {r : Except RegistryError Nat × Broker} (h : Swept b ids r.1 r.2) (hdistinct : ids.Nodup)
    (hobsolete : ∀ id, id ∈ ids ↔ b.IsObsolete keep id) (hcutoff : cutoff.IsEarlierBy keep b.outside.now)
    (hsame : b.SameIds) : IsSweep b keep r := by
  obtain ⟨result, b'⟩ := r
  have hfar : ¬ ∀ cutoff : Timestamp, ¬ cutoff.IsEarlierBy keep b.outside.now := fun hnone => hnone cutoff hcutoff
  cases h with
  | all hserves =>
    have hall : ∀ id ∈ ids, b.IsObsolete keep id := fun id hid => (hobsolete id).mp hid
    exact
      { ok := fun n hn => ⟨ids, hdistinct, Except.ok.inj hn, hobsolete, rfl⟩
        served := ⟨fun _ id hid => hserves id ((hobsolete id).mpr hid), fun _ => ⟨_, rfl⟩⟩
        tooLong := fun hnone => absurd hnone hfar
        error := fun _ he => (by cases he)
        sameIds := hsame.forgetting ids
        active := fun _ _ hfind hactive => Broker.find?_forgetting_of_isActive hall hfind hactive }
  | stopped forgotten rest id reason hids hrefuses =>
    have hmem (k : String) (hk : k ∈ forgotten ++ id :: rest) : b.IsObsolete keep k := (hobsolete k).mp (hids ▸ hk)
    have hpart : ∀ k ∈ forgotten, b.IsObsolete keep k := fun k hk => hmem k (List.mem_append_left _ hk)
    have hstop : b.IsObsolete keep id := hmem id (List.mem_append_right _ (List.mem_cons_self ..))
    have hfailed : ¬ ∃ n, (Except.error (.storage reason) : Except RegistryError Nat) = .ok n := by simp
    exact
      { ok := fun n hn => absurd ⟨n, hn⟩ hfailed
        served := ⟨fun hok => absurd hok hfailed, fun hserves => absurd (hserves id hstop) hrefuses⟩
        tooLong := fun hnone => absurd hnone hfar
        error := fun e he => ⟨⟨reason, (Except.error.inj he).symm⟩, forgotten, hpart, rfl⟩
        sameIds := hsame.forgetting forgotten
        active := fun _ _ hfind hactive => Broker.find?_forgetting_of_isActive hpart hfind hactive }

end Operation

/-- A sweep forgets exactly the sessions that have been lost for longer than they are kept, in the registry and in the
store; and so does one that takes them in another order. -/
theorem sweep_forgets_the_obsolete (b : Broker) (keep : Duration) (hsorted : b.registry.IsSorted) (hsame : b.SameIds) :
    IsSweep b keep ((Operation.deleteLostFor keep).run b) ∧
      ∀ cutoff : Timestamp, cutoff.IsEarlierBy keep b.outside.now → ∀ ids : List String,
        ids.Perm (Operation.lostBefore cutoff b) → IsSweep b keep ((Operation.unregisterAll ids).run b) := by
  have hany (cutoff : Timestamp) (hcutoff : cutoff.IsEarlierBy keep b.outside.now) (ids : List String)
      (hperm : ids.Perm (Operation.lostBefore cutoff b)) : IsSweep b keep ((Operation.unregisterAll ids).run b) := by
    have hdistinct : ids.Nodup := hperm.nodup_iff.mpr (Operation.nodup_lostBefore hsorted cutoff)
    have hobsolete (id : String) : id ∈ ids ↔ b.IsObsolete keep id := by
      rw [hperm.mem_iff, Operation.mem_lostBefore hsorted hcutoff]
    have hknown (id : String) (hid : id ∈ ids) : b.registry.contains id = true := by
      obtain ⟨i, _, _, hfind, -⟩ := (hobsolete id).mp hid
      rw [Table.contains, hfind]
      rfl
    exact (Operation.unregisterAll_swept hdistinct hknown).isSweep hdistinct hobsolete hcutoff hsame
  refine ⟨?_, hany⟩
  simp only [Operation.deleteLostFor, Operation.now, Task.run_bind, Task.run_read]
  cases hcutoff : b.outside.now.minus? keep with
  | none =>
    have hnone := Timestamp.minus?_eq_none.mp hcutoff
    have hkept (id : String) : ¬ b.IsObsolete keep id := by
      intro hid
      obtain ⟨-, -, cutoff, -, -, hcutoff, -⟩ := hid
      exact hnone cutoff hcutoff
    exact
      { ok := fun n hn => ⟨[], .nil, Except.ok.inj hn, by simp [hkept], b.forgetting_nil.symm⟩
        served := ⟨fun _ id hid => absurd hid (hkept id), fun _ => ⟨0, rfl⟩⟩
        tooLong := fun _ => rfl
        error := fun _ he => (by cases he)
        sameIds := hsame
        active := fun _ _ hfind _ => hfind }
  | some cutoff =>
    simp only [Task.run_bind, Task.run_read]
    exact hany cutoff (Timestamp.minus?_eq_some.mp hcutoff) _ (.refl _)

/-- Of two lost sessions, one was lost too recently; the third is live. -/
theorem one_of_three_is_obsolete :
    let clock (now : Timestamp) : Event := .outside { now }
    let start (id : String) (connection : ConnectionRef) : Event := .command (.start id connection {} none false)
    let events : List Event := [.arrival default, start "a" 0, .arrival default, start "b" 1, .arrival default,
      start "c" 2, .command (.terminate 0), clock ⟨50, 0, by decide, by decide⟩, .command (.terminate 1),
      clock ⟨100, 0, by decide, by decide⟩]
    let setup : Setup := { pool := ⟨#[20000]⟩, store := some (.memory {}), keepLost := some (.ofSeconds 60) }
    let b := setup.boot.after events
    let r := (Operation.deleteLostFor (.ofSeconds 60)).run b
    b.registry.IsSorted ∧ b.SameIds ∧ b.registry.keys = ["a", "b", "c"] ∧ r.1 = .ok 1 ∧ r.2.registry.keys = ["b", "c"] ∧
      ∃ id, (∀ k, k ∈ [id] ↔ b.IsObsolete (.ofSeconds 60) k) ∧ r.2 = b.forgetting [id] := by
  intro clock start events setup b r
  obtain ⟨t, hstep, -⟩ := (@Setup.inStep_boot setup (.memory {}) rfl (.inl rfl)).after events
  obtain ⟨hsame, hsorted⟩ := hstep.sameIds
  have hrun : r.1 = .ok 1 := by decide +kernel
  obtain ⟨ids, -, hlength, hobsolete, hleft⟩ := (sweep_forgets_the_obsolete b (.ofSeconds 60) hsorted hsame).1.ok 1 hrun
  obtain ⟨id, rfl⟩ := List.length_eq_one_iff.mp hlength
  exact ⟨hsorted, hsame, by decide +kernel, hrun, by decide +kernel, id, hobsolete, hleft⟩

end TunnelBroker
