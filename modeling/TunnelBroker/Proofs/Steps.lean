/-
  TunnelBroker.Proofs.Steps — what the single steps of operations do to a broker.

  One equation or one case distinction for each step; nothing above this module opens their definitions.

  - `releasePorts_run`: the leases that are given back are the only change.
  - `register_cases`, `unregister_cases`: a session or an id is entered or removed in the registry and in
    the store, or the store refuses and nothing changes at all.
  - `OnlyRecords`: a change of the registry and the store alone.
-/

import Mathlib.Data.List.Perm.Basic
import TunnelBroker.Broker.Lifecycle

namespace TunnelBroker

open TunnelBroker.Net (Port)
open TunnelBroker.Store (Refusal Row)
open TunnelBroker.Time (Timestamp)

/-! ## Sessions by their number -/

namespace Broker

variable {b : Broker} {i j : SessionRef} {s : Session}

theorem session_eq (h : i < b.sessions.length) : b.session i = b.sessions[i] := by simp [session, h]

theorem session_mem (h : i < b.sessions.length) : b.session i ∈ b.sessions := by
  rw [session_eq h]; exact List.getElem_mem h

theorem session_of_le (h : b.sessions.length ≤ i) : b.session i = .nobody := by
  simp [session, List.getElem?_eq_none h]

/-- A session that has a connection is one of the broker's. -/
theorem lt_of_connection (h : (b.session i).connection.isSome) : i < b.sessions.length := by
  by_cases hi : i < b.sessions.length
  · exact hi
  · rw [session_of_le (Nat.le_of_not_lt hi)] at h; cases h

@[simp] theorem session_setSession_self (h : i < b.sessions.length) : (b.setSession i s).session i = s := by
  simp [session, setSession, h]

@[simp] theorem session_setSession_ne (h : j ≠ i) : (b.setSession i s).session j = b.session j := by
  simp [session, setSession, List.getElem?_set_ne (Ne.symm h)]

theorem setSession_of_le (h : b.sessions.length ≤ i) : b.setSession i s = b := by
  simp [setSession, List.set_eq_of_length_le h]

/-- Setting a session to what it is changes nothing. -/
@[simp] theorem setSession_of_eq (h : b.session i = s) : b.setSession i s = b := by
  subst h
  by_cases hi : i < b.sessions.length
  · rw [session_eq hi]; simp [setSession]
  · exact setSession_of_le (Nat.le_of_not_lt hi)

@[simp] theorem length_setSession (b : Broker) (i : SessionRef) (s : Session) :
    (b.setSession i s).sessions.length = b.sessions.length := by simp [setSession]

theorem fst_addSession (b : Broker) (s : Session) : (b.addSession s).1 = b.sessions.length := rfl

theorem session_addSession (b : Broker) (s : Session) : (b.addSession s).2.session b.sessions.length = s := by
  simp [session, addSession]

@[simp] theorem length_addSession (b : Broker) (s : Session) :
    (b.addSession s).2.sessions.length = b.sessions.length + 1 := by simp [addSession]

theorem session_addSession_ne (s : Session) (h : i ≠ b.sessions.length) :
    (b.addSession s).2.session i = b.session i := by
  rcases Nat.lt_or_gt_of_ne h with hlt | hgt
  · simp [session, addSession, List.getElem?_append_left hlt]
  · rw [session_of_le (by rw [length_addSession]; exact hgt), session_of_le (Nat.le_of_lt hgt)]

theorem withStore_self {store : Option Store} (h : b.store = store) : { b with store := store } = b := by rw [← h]

/-- The broker with other leases. -/
def withLeased (b : Broker) (ports : List Port) : Broker := { b with allocator := { b.allocator with leased := ports } }

end Broker

/-! ## Steps of a session -/

/-- A start is refused and changes nothing, or the next tunnel is pending. -/
theorem Session.start_cases (s : Session) (f : Forward) (acl : Acl) (autoAssigned : Bool) (now : Timestamp) :
    (∃ e, s.start f acl autoAssigned now = (.error e, s)) ∨
      f.validate = .ok () ∧ s.start f acl autoAssigned now = (.ok (s.nextTunnel f acl autoAssigned now),
        { s with pending := s.pending ++ [s.nextTunnel f acl autoAssigned now] }) := by
  unfold start
  split
  · exact .inl ⟨_, rfl⟩
  · rename_i hvalid
    split
    · exact .inl ⟨_, rfl⟩
    · exact .inr ⟨hvalid, rfl⟩

/-! ## Steps of the allocator -/

namespace Operation

theorem releasePorts_run (ports : List Port) (b : Broker) :
    (releasePorts ports).run b = ((), b.withLeased (b.allocator.leased.diff ports)) := by
  induction ports generalizing b with
  | nil => rfl
  | cons port rest ih =>
    have hstep : (releasePorts (port :: rest)).run b =
        (releasePorts rest).run (b.withLeased (b.allocator.leased.erase port)) := rfl
    rw [hstep, ih, List.diff_cons]; rfl

theorem refresh_run (b : Broker) :
    refresh.run b =
      let r := b.allocator.adopt (b.outside.occupancy.ask b.canListen b.allocator.candidates)
      (r.1, { b with allocator := r.2 }) := rfl

end Operation

/-- An answer that is no good leaves the allocator as it was; a good one replaces what is known to be busy. -/
theorem Ports.Allocator.adopt_cases (a : Ports.Allocator) (answer : Ports.Answer) :
    (∃ ports, a.adopt answer = (.ok (), { a with busy := ports })) ∨ ∃ e, a.adopt answer = (.error e, a) := by
  cases answer with
  | busy ports => exact .inl ⟨ports, rfl⟩
  | failed e => exact .inr ⟨e, rfl⟩
  | brokeDown task complaint => exact .inr ⟨_, rfl⟩
  | timedOut => exact .inr ⟨_, rfl⟩

/-! ## Uses of the store -/

namespace Store

/-- The store has the record under its id; a row also says when it was written. -/
def Keeps (store : Store) (now : Timestamp) (r : SessionRecord) : Prop :=
  match store with
  | .memory records => records.find? r.id = some r
  | .database none => False
  | .database (some rows) => rows.find? r.id = some (Row.ofRecord now r)

theorem save_cases (store : Store) (refusal : Refusal) (now : Timestamp) (r : SessionRecord) :
    (∃ store', store.save refusal now r = (.ok (), store') ∧ store'.Keeps now r) ∨
      ∃ reason, store.save refusal now r = (.error (.storage reason), store) := by
  unfold save
  split
  · exact .inr ⟨_, rfl⟩
  · split
    · exact .inl ⟨_, rfl, Table.find?_insert_self ..⟩
    · exact .inr ⟨_, rfl⟩
    · exact .inl ⟨_, rfl, Table.find?_insert_self ..⟩

theorem delete_cases (store : Store) (refusal : Refusal) (id : String) :
    (∃ store', store.delete refusal id = (.ok (), store') ∧ store'.contains id = false) ∨
      ∃ reason, store.delete refusal id = (.error (.storage reason), store) := by
  unfold delete
  split
  · exact .inr ⟨_, rfl⟩
  · split
    · exact .inl ⟨_, rfl, by simp [contains, Table.contains]⟩
    · exact .inr ⟨_, rfl⟩
    · exact .inl ⟨_, rfl, by simp [contains, Table.contains]⟩

end Store

/-! ## Changes of the registry -/

/-- Nothing but the registry and the store differs. -/
def OnlyRecords (b b' : Broker) : Prop := b' = { b with registry := b'.registry, store := b'.store }

namespace OnlyRecords

variable {a b c : Broker}

theorem refl (b : Broker) : OnlyRecords b b := rfl

theorem trans (h : OnlyRecords a b) (h' : OnlyRecords b c) : OnlyRecords a c := by
  unfold OnlyRecords at *; rw [h', h]

theorem sessions (h : OnlyRecords a b) : b.sessions = a.sessions := by rw [h]

theorem allocator (h : OnlyRecords a b) : b.allocator = a.allocator := by rw [h]

theorem session (h : OnlyRecords a b) (i : SessionRef) : b.session i = a.session i := by
  simp only [Broker.session, h.sessions]

end OnlyRecords

namespace Operation

theorem saveRecord_onlyRecords (r : SessionRecord) (b : Broker) : OnlyRecords b ((saveRecord r).run b).2 := by
  simp only [saveRecord, Task.run_atomic]
  cases hs : b.store with
  | none => exact .refl b
  | some store => rfl

theorem takeRecord_run (i : SessionRef) (b : Broker) : (takeRecord i).run b = ((b.session i).record, b) := rfl

/-- The store's part of a registration, if it goes well. -/
def Stored (b : Broker) (r : SessionRecord) (store' : Option Store) : Prop :=
  (b.store = none ∧ store' = none) ∨ ∃ store, store' = some store ∧ store.Keeps b.outside.now r

/-- The store has nothing under an id, or there is no store. -/
def Erased (id : String) (store' : Option Store) : Prop := ∀ store, store' = some store → store.contains id = false

theorem persist_cases (i : SessionRef) (b : Broker) :
    (∃ store', (persist i).run b = (.ok (), { b with store := store' }) ∧ Stored b (b.session i).record store') ∨
      ∃ reason, (persist i).run b = (.error (.storage reason), b) := by
  cases hs : b.store with
  | none =>
    refine .inl ⟨none, ?_, .inl ⟨hs, rfl⟩⟩
    rw [Broker.withStore_self hs]; simp [persist, hasStore, hs]
  | some store =>
    have hrun : (persist i).run b = (saveRecord (b.session i).record).run b := by
      simp [persist, hasStore, hs, takeRecord_run]
    rw [hrun]
    rcases store.save_cases b.outside.refusal b.outside.now (b.session i).record with ⟨store', he, hk⟩ | ⟨reason, he⟩
    · exact .inl ⟨some store', by simp [saveRecord, hs, he], .inr ⟨store', rfl, hk⟩⟩
    · exact .inr ⟨reason, by simp [saveRecord, hs, he, Broker.withStore_self hs]⟩

/-- A registration enters the session in the registry and its record in the store, or changes nothing. -/
theorem register_cases (i : SessionRef) (b : Broker) :
    (∃ store', (register i).run b =
        (.ok (), { b with registry := b.registry.insert (b.session i).id i, store := store' }) ∧
      Stored b (b.session i).record store') ∨
      ∃ reason, (register i).run b = (.error (.storage reason), b) := by
  rcases persist_cases i b with ⟨store', he, hs⟩ | ⟨reason, he⟩
  · exact .inl ⟨store', by simp [register, he, enter]; rfl, hs⟩
  · exact .inr ⟨reason, by simp [register, he]⟩

/-- Making an id unknown removes it from the registry and from the store, or changes nothing. -/
theorem unregister_cases (id : String) (b : Broker) :
    (∃ i store', b.registry.find? id = some i ∧
      (unregister id).run b = (.ok (), { b with registry := b.registry.erase id, store := store' }) ∧
      Erased id store') ∨
      ∃ e, (unregister id).run b = (.error e, b) := by
  cases hf : b.registry.find? id with
  | none => exact .inr ⟨.notFound id, by simp [unregister, find, hf]⟩
  | some i =>
    cases hs : b.store with
    | none =>
      refine .inl ⟨i, none, rfl, ?_, fun _ h => by cases h⟩
      simp [unregister, find, hf, deleteRecord, hs, remove]
    | some store =>
      rcases store.delete_cases b.outside.refusal id with ⟨store', he, hc⟩ | ⟨reason, he⟩
      · refine .inl ⟨i, some store', rfl, ?_, fun _ h => by cases h; exact hc⟩
        simp [unregister, find, hf, deleteRecord, hs, he, remove]
      · exact .inr ⟨.storage reason, by simp [unregister, find, hf, deleteRecord, hs, he, Broker.withStore_self hs]⟩

theorem register_onlyRecords (i : SessionRef) (b : Broker) : OnlyRecords b ((register i).run b).2 := by
  rcases register_cases i b with ⟨_, he, _⟩ | ⟨_, he⟩
  · rw [he]; rfl
  · rw [he]; exact .refl b

theorem unregister_onlyRecords (id : String) (b : Broker) : OnlyRecords b ((unregister id).run b).2 := by
  rcases unregister_cases id b with ⟨_, _, _, he, _⟩ | ⟨_, he⟩
  · rw [he]; rfl
  · rw [he]; exact .refl b

end Operation

end TunnelBroker
