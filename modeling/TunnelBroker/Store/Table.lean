/-
  TunnelBroker.Store.Table — finite maps from texts, listed in the order of their keys.

  - `find?_insert_self`, `find?_insert_of_ne`, `find?_erase_self`, `find?_erase_of_ne`: what a change does to
    what is found.
-/

namespace TunnelBroker.Store

structure Table (α : Type) where
  /-- The keys and their values; `insert` keeps the keys in ascending order. -/
  entries : List (String × α) := []
  deriving DecidableEq, Repr, Inhabited

namespace Table

variable {α : Type}

def empty : Table α := {}

def keys (t : Table α) : List String := t.entries.map (·.1)

def values (t : Table α) : List α := t.entries.map (·.2)

def size (t : Table α) : Nat := t.entries.length

def find? (t : Table α) (key : String) : Option α := t.entries.lookup key

def contains (t : Table α) (key : String) : Bool := (t.find? key).isSome

/-- The entries with a value for `key`, in place of the one it had if it had one. -/
def insertEntry (key : String) (a : α) : List (String × α) → List (String × α)
  | [] => [(key, a)]
  | (k, b) :: rest =>
    if key = k then (key, a) :: rest
    else if key < k then (key, a) :: (k, b) :: rest
    else (k, b) :: insertEntry key a rest

def insert (t : Table α) (key : String) (a : α) : Table α := ⟨insertEntry key a t.entries⟩

def erase (t : Table α) (key : String) : Table α := ⟨t.entries.filter fun e => e.1 != key⟩

@[simp] theorem find?_insert_self (t : Table α) (key : String) (a : α) : (t.insert key a).find? key = some a := by
  simp only [find?, insert]
  induction t.entries with
  | nil => simp [insertEntry]
  | cons e rest ih =>
    obtain ⟨k, b⟩ := e
    simp only [insertEntry]
    split
    · simp
    · rename_i h
      split
      · simp
      · have hb : (key == k) = false := by simp [h]
        simp only [List.lookup_cons, hb, ih]

theorem find?_insert_of_ne (t : Table α) {key k : String} (a : α) (h : k ≠ key) :
    (t.insert key a).find? k = t.find? k := by
  have hb : (k == key) = false := by simp [h]
  simp only [find?, insert]
  induction t.entries with
  | nil => simp [insertEntry, List.lookup_cons, hb]
  | cons e rest ih =>
    obtain ⟨k', b⟩ := e
    simp only [insertEntry]
    split
    · rename_i hk
      subst hk
      simp [List.lookup_cons, hb]
    · split
      · simp [List.lookup_cons, hb]
      · simp [List.lookup_cons, ih]

@[simp] theorem find?_erase_self (t : Table α) (key : String) : (t.erase key).find? key = none := by
  simp only [find?, erase]
  induction t.entries with
  | nil => rfl
  | cons e rest ih =>
    obtain ⟨k, b⟩ := e
    by_cases h : k = key
    · simp [h, ih]
    · have hb : (key == k) = false := by simp [Ne.symm h]
      simp only [bne_iff_ne, ne_eq, h, not_false_eq_true, List.filter_cons_of_pos]
      simp only [List.lookup_cons, hb, ih]

theorem find?_erase_of_ne (t : Table α) {key k : String} (h : k ≠ key) : (t.erase key).find? k = t.find? k := by
  simp only [find?, erase]
  induction t.entries with
  | nil => rfl
  | cons e rest ih =>
    obtain ⟨k', b⟩ := e
    by_cases h' : k' = key
    · have hb : (k == k') = false := by simp [h', h]
      simp only [h', bne_self_eq_false, Bool.false_eq_true, not_false_eq_true, List.filter_cons_of_neg]
      rw [ih, ← h']
      simp only [List.lookup_cons, hb]
    · simp only [bne_iff_ne, ne_eq, h', not_false_eq_true, List.filter_cons_of_pos]
      simp only [List.lookup_cons, ih]

end Table

end TunnelBroker.Store
