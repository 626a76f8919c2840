/-
  TunnelBroker.Proofs.Records — the records that a store holds.

  A store in memory holds the records of its map; one in a database holds those that its rows decode to. Records are
  saved, deleted and taken out again in the same way, whichever it is.

  - `Table.IsSorted`: the keys ascend, so a key has one place; `insertEntry_append` finds it.
  - `Table.IsPart`: a table keeps nothing that another does not have.
  - `Store.Holds`: the records that a store holds; `Holds.save`, `Holds.delete`, `Holds.load`: what its uses do.
  - `Store.stored?`: what is stored under one id.
-/

import Mathlib.Data.String.Basic
import TunnelBroker.Proofs.Rows
import TunnelBroker.Store.Basic

namespace TunnelBroker

open TunnelBroker.Time (Timestamp)

namespace Store

/-! ## Sorted tables -/

namespace Table

variable {α β : Type} {t u : Table α} {key k : String} {a b : α}

/-- The keys are in ascending order, and each is there once. -/
def IsSorted (t : Table α) : Prop := t.keys.Pairwise (· < ·)

/-- Every entry is one of the other table. -/
def IsPart (t u : Table α) : Prop := ∀ key a, t.find? key = some a → u.find? key = some a

theorem IsPart.refl (t : Table α) : t.IsPart t := fun _ _ h => h

theorem IsPart.trans {v : Table α} (h : t.IsPart u) (h' : u.IsPart v) : t.IsPart v := fun key a ha => h' key a (h key a ha)

theorem erase_isPart (t : Table α) (key : String) : (t.erase key).IsPart t := by
  intro k a h
  by_cases hk : k = key
  · subst hk
    rw [find?_erase_self] at h
    cases h
  · rwa [find?_erase_of_ne t hk] at h

theorem mem_of_find? (h : t.find? key = some a) : (key, a) ∈ t.entries := by
  obtain ⟨l⟩ := t
  unfold find? at h
  induction l with
  | nil => cases h
  | cons e rest ih =>
    obtain ⟨k, b⟩ := e
    rw [List.lookup_cons] at h
    split at h
    · rename_i heq
      rw [beq_iff_eq.mp heq, Option.some.inj h]
      exact List.mem_cons_self ..
    · exact List.mem_cons_of_mem _ (ih h)

theorem find?_of_mem (hsorted : t.IsSorted) (h : (key, a) ∈ t.entries) : t.find? key = some a := by
  obtain ⟨l⟩ := t
  unfold IsSorted keys at hsorted
  unfold find?
  induction l with
  | nil => cases h
  | cons e rest ih =>
    obtain ⟨hfirst, hrest⟩ := List.pairwise_cons.mp hsorted
    rcases List.mem_cons.mp h with rfl | h
    · exact List.lookup_cons_self
    · have hlt : e.1 < key := hfirst key (List.mem_map_of_mem (f := (·.1)) h)
      have hne : (key == e.1) = false := beq_eq_false_iff_ne.mpr hlt.ne'
      rw [List.lookup_cons, hne]
      exact ih hrest h

theorem contains_iff : t.contains key = true ↔ key ∈ t.keys := by
  unfold contains find? keys
  induction t.entries with
  | nil => simp
  | cons e rest ih =>
    rw [List.lookup_cons]
    split
    · rename_i heq
      simp [beq_iff_eq.mp heq]
    · rename_i heq
      rw [ih, List.map_cons, List.mem_cons]
      simp [beq_eq_false_iff_ne.mp heq]

/-- Inserting does the same to the keys, whatever the values are. -/
theorem keys_insertEntry {l : List (String × α)} {m : List (String × β)} (h : l.map (·.1) = m.map (·.1)) (key : String)
    (a : α) (b : β) : (insertEntry key a l).map (·.1) = (insertEntry key b m).map (·.1) := by
  induction l generalizing m with
  | nil =>
    obtain rfl : m = [] := List.map_eq_nil_iff.mp h.symm
    rfl
  | cons e l ih =>
    cases m with
    | nil => cases h
    | cons f m =>
      obtain ⟨k, c⟩ := e
      obtain ⟨k', d⟩ := f
      rw [List.map_cons, List.map_cons, List.cons.injEq] at h
      obtain ⟨hk, hrest⟩ := h
      obtain rfl : k = k' := hk
      unfold insertEntry
      split
      · simp [hrest]
      · split
        · simp [hrest]
        · simp [ih hrest]

theorem keys_insert {u : Table β} (h : t.keys = u.keys) (key : String) (a : α) (b : β) :
    (t.insert key a).keys = (u.insert key b).keys := keys_insertEntry h key a b

theorem keys_erase (t : Table α) (key : String) : (t.erase key).keys = t.keys.filter (· != key) := by
  unfold keys erase
  rw [List.filter_map]
  rfl

theorem mem_keys_insertEntry {l : List (String × α)} (h : k ∈ (insertEntry key a l).map (·.1)) :
    k = key ∨ k ∈ l.map (·.1) := by
  induction l with
  | nil =>
    rw [insertEntry, List.map_singleton, List.mem_singleton] at h
    exact .inl h
  | cons e l ih =>
    obtain ⟨k', c⟩ := e
    unfold insertEntry at h
    split at h
    · rcases List.mem_cons.mp h with h | h
      · exact .inl h
      · exact .inr (List.mem_cons_of_mem _ h)
    · split at h
      · rcases List.mem_cons.mp h with h | h
        · exact .inl h
        · exact .inr h
      · rcases List.mem_cons.mp h with h | h
        · exact .inr (List.mem_cons.mpr (.inl h))
        · rcases ih h with h | h
          · exact .inl h
          · exact .inr (List.mem_cons_of_mem _ h)

theorem IsSorted.insert (h : t.IsSorted) (key : String) (a : α) : (t.insert key a).IsSorted := by
  obtain ⟨l⟩ := t
  unfold IsSorted keys Table.insert at *
  dsimp only at h ⊢
  induction l with
  | nil => exact List.pairwise_singleton ..
  | cons e l ih =>
    obtain ⟨k, c⟩ := e
    obtain ⟨hfirst, hrest⟩ := List.pairwise_cons.mp h
    unfold insertEntry
    split
    · rename_i hk
      subst hk
      exact h
    · rename_i hne
      split
      · rename_i hlt
        refine List.pairwise_cons.mpr ⟨?_, h⟩
        intro k' hk'
        rcases List.mem_cons.mp hk' with rfl | hk'
        · exact hlt
        · exact hlt.trans (hfirst k' hk')
      · rename_i hnlt
        refine List.pairwise_cons.mpr ⟨?_, ih hrest⟩
        intro k' hk'
        rcases mem_keys_insertEntry hk' with rfl | hk'
        · exact lt_of_le_of_ne (not_lt.mp hnlt) (Ne.symm hne)
        · exact hfirst k' hk'

theorem IsSorted.erase (h : t.IsSorted) (key : String) : (t.erase key).IsSorted := by
  unfold IsSorted
  rw [keys_erase]
  exact List.Pairwise.filter _ h

/-- An entry comes after those with lesser keys. -/
theorem insertEntry_append {before after : List (String × α)} (h : ∀ e ∈ before, e.1 < key) :
    insertEntry key a (before ++ after) = before ++ insertEntry key a after := by
  induction before with
  | nil => rfl
  | cons e before ih =>
    obtain ⟨k, c⟩ := e
    obtain ⟨hk, hbefore⟩ := List.forall_mem_cons.mp h
    rw [List.cons_append, insertEntry, if_neg hk.ne', if_neg hk.asymm, ih hbefore]
    rfl

end Table

end Store

/-! ## What a store holds -/

namespace Store

variable {store : Store} {t : Table SessionRecord}

/-- The ids of the records that are kept. -/
def ids : Store → List String
  | .memory records => records.keys
  | .database none => []
  | .database (some rows) => rows.keys

/-- The row keeps the record, under the same key. -/
def Decodes (row : String × Row) (r : String × SessionRecord) : Prop := row.1 = r.1 ∧ row.2.record? = some r.2

/-- The store has these records under these keys, and no others. -/
def Holds (store : Store) (t : Table SessionRecord) : Prop :=
  match store with
  | .memory records => records = t
  | .database none => False
  | .database (some rows) => List.Forall₂ Decodes rows.entries t.entries

/-- A store without records. -/
def IsEmpty (store : Store) : Prop := store = .memory {} ∨ store = .database (some {})

theorem IsEmpty.holds (h : store.IsEmpty) : store.Holds {} := by
  rcases h with rfl | rfl
  · rfl
  · exact .nil

theorem keys_of_decodes {rows : List (String × Row)} {records : List (String × SessionRecord)}
    (h : List.Forall₂ Decodes rows records) : rows.map (·.1) = records.map (·.1) := by
  induction h with
  | nil => rfl
  | cons hfirst _ ih => rw [List.map_cons, List.map_cons, hfirst.1, ih]

theorem Holds.ids (h : store.Holds t) : store.ids = t.keys := by
  cases store with
  | memory records => exact congrArg Table.keys h
  | database table =>
    cases table with
    | none => cases h
    | some rows => exact keys_of_decodes h

theorem decodes_insertEntry {rows : List (String × Row)} {records : List (String × SessionRecord)} {key : String} {row : Row}
    {r : SessionRecord} (h : List.Forall₂ Decodes rows records) (hrow : row.record? = some r) :
    List.Forall₂ Decodes (Table.insertEntry key row rows) (Table.insertEntry key r records) := by
  induction h with
  | nil => exact .cons ⟨rfl, hrow⟩ .nil
  | @cons e f rows records hfirst hrest ih =>
    obtain ⟨k, old⟩ := e
    obtain ⟨k', older⟩ := f
    obtain rfl : k = k' := hfirst.1
    unfold Table.insertEntry
    split
    · exact .cons ⟨rfl, hrow⟩ hrest
    · split
      · exact .cons ⟨rfl, hrow⟩ (.cons hfirst hrest)
      · exact .cons hfirst ih

theorem decodes_filter {rows : List (String × Row)} {records : List (String × SessionRecord)} (p : String → Bool)
    (h : List.Forall₂ Decodes rows records) :
    List.Forall₂ Decodes (rows.filter fun e => p e.1) (records.filter fun e => p e.1) := by
  induction h with
  | nil => exact .nil
  | cons hfirst _ ih =>
    rw [List.filter_cons, List.filter_cons, hfirst.1]
    split
    · exact .cons hfirst ih
    · exact ih

theorem decodes_mapM {rows : List (String × Row)} {records : List (String × SessionRecord)}
    (h : List.Forall₂ Decodes rows records) : (rows.map (·.2)).mapM Row.record? = some (records.map (·.2)) := by
  induction h with
  | nil => rfl
  | cons hfirst _ ih =>
    rw [List.map_cons, List.mapM_cons, hfirst.2, ih]
    rfl

/-- A record is saved, or the store refuses that and stays as it is. -/
theorem Holds.save (h : store.Holds t) (refusal : Refusal) (now : Timestamp) (r : SessionRecord) :
    (∃ store', store.save refusal now r = (.ok (), store') ∧ store'.Holds (t.insert r.id r)) ∨
      ∃ reason, refusal (.save r.id) = some reason ∧ store.save refusal now r = (.error (.storage reason), store) := by
  unfold Store.save
  cases hrefusal : refusal (.save r.id) with
  | some reason => exact .inr ⟨reason, rfl, rfl⟩
  | none =>
    cases store with
    | memory records =>
      obtain rfl : records = t := h
      exact .inl ⟨_, rfl, rfl⟩
    | database table =>
      cases table with
      | none => cases h
      | some rows => exact .inl ⟨_, rfl, decodes_insertEntry h (Row.record?_ofRecord now r)⟩

/-- The record of an id is deleted, or the store refuses that and stays as it is. -/
theorem Holds.delete (h : store.Holds t) (refusal : Refusal) (id : String) :
    (∃ store', store.delete refusal id = (.ok (), store') ∧ store'.Holds (t.erase id)) ∨
      ∃ reason, refusal (.delete id) = some reason ∧ store.delete refusal id = (.error (.storage reason), store) := by
  unfold Store.delete
  cases hrefusal : refusal (.delete id) with
  | some reason => exact .inr ⟨reason, rfl, rfl⟩
  | none =>
    cases store with
    | memory records =>
      obtain rfl : records = t := h
      exact .inl ⟨_, rfl, rfl⟩
    | database table =>
      cases table with
      | none => cases h
      | some rows => exact .inl ⟨_, rfl, decodes_filter (· != id) h⟩

/-- All records are taken out, in the order of their ids. -/
theorem Holds.load (h : store.Holds t) {refusal : Refusal} (hrefusal : refusal .load = none) :
    store.load refusal = .ok t.values := by
  unfold Store.load
  rw [hrefusal]
  cases store with
  | memory records =>
    obtain rfl : records = t := h
    rfl
  | database table =>
    cases table with
    | none => cases h
    | some rows =>
      have hrecords : rows.values.mapM Row.record? = some t.values := decodes_mapM h
      dsimp only
      rw [hrecords]

/-! ## What is stored under one id -/

/-- What a store keeps under an id: a record, or a row of the table. -/
def stored? (store : Store) (id : String) : Option (SessionRecord ⊕ Row) :=
  match store with
  | .memory records => (records.find? id).map .inl
  | .database none => none
  | .database (some rows) => (rows.find? id).map .inr

variable {refusal : Refusal} {now : Timestamp} {r : SessionRecord} {key : String}

theorem stored?_save_of_ne (h : key ≠ r.id) : (store.save refusal now r).2.stored? key = store.stored? key := by
  unfold save
  cases refusal (.save r.id) with
  | some reason => rfl
  | none =>
    cases store with
    | memory records => simp only [stored?, Table.find?_insert_of_ne records r h]
    | database table =>
      cases table with
      | none => rfl
      | some rows => simp only [stored?, Table.find?_insert_of_ne rows _ h]

/-- A deletion leaves what is stored under an id, or nothing. -/
theorem stored?_delete (store : Store) (refusal : Refusal) (id key : String) :
    (store.delete refusal id).2.stored? key = store.stored? key ∨ (store.delete refusal id).2.stored? key = none := by
  unfold delete
  cases refusal (.delete id) with
  | some reason => exact .inl rfl
  | none =>
    cases store with
    | memory records =>
      by_cases h : key = id
      · subst h
        exact .inr (by simp [stored?])
      · exact .inl (by simp only [stored?, Table.find?_erase_of_ne records h])
    | database table =>
      cases table with
      | none => exact .inl rfl
      | some rows =>
        by_cases h : key = id
        · subst h
          exact .inr (by simp [stored?])
        · exact .inl (by simp only [stored?, Table.find?_erase_of_ne rows h])

end Store

end TunnelBroker
