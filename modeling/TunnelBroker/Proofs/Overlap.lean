/-
  TunnelBroker.Proofs.Overlap — saves and deletes of one id that are under way at the same time.

  A save writes the session's record to the store and then enters the session in the registry. A delete looks whether the
  id is known, deletes its record and then makes it unknown. Nobody holds anything from the one step to the other, so two
  changes may come to the store in one order and to the registry in the other.

  - `Writer`: a change that is under way; `rest_saver`, `rest_deleter`, `rest_step`: it is one of the two operations.
  - `Overlap.step`, `Overlap.after`: any number of them, one step after the other.
  - `Broker.AgreesOn`: the registry and the store agree on an id.
  - `Writer.step_moved`: what the step of a change does, at most one of both places at a time.
-/

import TunnelBroker.Broker.Registry
import TunnelBroker.Proofs.Records

namespace TunnelBroker

open TunnelBroker.Store (Table)
open TunnelBroker.Time (Timestamp)

/-! ## Tasks step by step -/

namespace Task

variable {σ κ α β : Type}

theorem eq_done_of_result? {t : Task σ κ α} {a : α} (h : t.result? = some a) : t = .done a := by
  cases t with
  | done c => rw [Option.some.inj h]
  | _ => cases h

variable [DecidableEq κ]

/-- What is left of a task after its next step, the locks that it holds then, and the state then. A lock that is held
has to be waited for. -/
def step (isHeld : κ → Bool) (s : σ) (locks : List κ) : Task σ κ α → Task σ κ α × List κ × σ
  | .done a => (.done a, locks, s)
  | .act change next => (next s, locks, change s)
  | .await ready next => (if ready s then next else .await ready next, locks, s)
  | .acquire lock next => if isHeld lock then (.acquire lock next, locks, s) else (next, lock :: locks, s)
  | .release lock next => (next, locks.filter (· ≠ lock), s)

/-- The first of two tasks takes its steps as if it were alone. -/
theorem step_bind {t : Task σ κ α} (ht : t.result? = none) (f : α → Task σ κ β) (isHeld : κ → Bool) (s : σ)
    (locks : List κ) : (t >>= f).step isHeld s locks = ((t.step isHeld s locks).1 >>= f, (t.step isHeld s locks).2) := by
  show (t.bind f).step isHeld s locks = ((t.step isHeld s locks).1.bind f, (t.step isHeld s locks).2)
  cases t with
  | done a => cases ht
  | act change next => rfl
  | await ready next =>
    simp only [Task.bind, step]
    cases ready s with
    | false => rfl
    | true => rfl
  | acquire lock next =>
    simp only [Task.bind, step]
    cases isHeld lock with
    | false => rfl
    | true => rfl
  | release lock next => rfl

end Task

/-! ## Changes that are under way -/

/-- A change of what is known under an id. -/
inductive Write where
  | save (i : SessionRef)
  | delete
  deriving DecidableEq, Repr

namespace Write

/-- What is done up to the step that changes the store. -/
def atStore (id : String) : Write → Operation (Except RegistryError Unit)
  | save i => Operation.persist i
  | delete => do
    match ← Operation.find id with
    | .error e => return .error e
    | .ok _ => Operation.deleteRecord id

/-- What is done after that. -/
def atRegistry (id : String) : Write → Operation Unit
  | save i => Operation.enter i
  | delete => Operation.remove id

/-- The session that is known once the registry is changed. -/
def session? : Write → Option SessionRef
  | save i => some i
  | delete => none

/-- The record that is kept once the store is changed. -/
def record? (b : Broker) (w : Write) : Option SessionRecord := w.session?.map fun i => (b.session i).record

/-- What is saved is a session with the id. -/
def isFor (b : Broker) (id : String) : Write → Bool
  | save i => i < b.sessions.length && (b.session i).id = id
  | delete => true

end Write

structure Writer where
  write : Write
  /-- What is left to do up to the step that changes the store. -/
  storing : Operation (Except RegistryError Unit)
  /-- What is left to do after that. -/
  entering : Operation Unit
  locks : List Lock := []

namespace Writer

def ofWrite (id : String) (w : Write) : Writer := { write := w, storing := w.atStore id, entering := w.atRegistry id }

/-- What is left to do. -/
def rest (x : Writer) : Operation (Except RegistryError Unit) := do
  match ← x.storing with
  | .error e => return .error e
  | .ok () =>
    x.entering
    return .ok ()

def result? (x : Writer) : Option (Except RegistryError Unit) := x.rest.result?

def hasStored (x : Writer) : Bool :=
  match x.storing.result? with
  | some (.ok ()) => true
  | _ => false

def hasEntered (x : Writer) : Bool := x.hasStored && x.entering.result?.isSome

/-- The next step, if it can be taken where some locks are held. -/
def step (isHeld : Lock → Bool) (b : Broker) (x : Writer) : Writer × Broker :=
  match x.storing.result? with
  | none =>
    let p := x.storing.step isHeld b x.locks
    ({ x with storing := p.1, locks := p.2.1 }, p.2.2)
  | some (.error _) => (x, b)
  | some (.ok ()) =>
    let p := x.entering.step isHeld b x.locks
    ({ x with entering := p.1, locks := p.2.1 }, p.2.2)

theorem rest_saver (id : String) (i : SessionRef) : (ofWrite id (.save i)).rest = Operation.register i := rfl

theorem rest_deleter (id : String) : (ofWrite id .delete).rest = Operation.unregister id := by
  refine congrArg (Task.act _) (funext fun b => ?_)
  dsimp only
  cases b.registry.find? id with
  | none => rfl
  | some i => rfl

/-- It takes the steps of the operation that is left of it. -/
theorem rest_step (isHeld : Lock → Bool) (b : Broker) (x : Writer) :
    let p := x.rest.step isHeld b x.locks
    (x.step isHeld b).1.rest = p.1 ∧ (x.step isHeld b).1.locks = p.2.1 ∧ (x.step isHeld b).2 = p.2.2 := by
  intro p
  obtain ⟨write, storing, entering, locks⟩ := x
  unfold step
  dsimp only
  cases hstoring : storing.result? with
  | none =>
    have hp : p = _ := Task.step_bind hstoring _ isHeld b locks
    rw [hp]
    exact ⟨rfl, rfl, rfl⟩
  | some result =>
    obtain rfl := Task.eq_done_of_result? hstoring
    cases result with
    | error e => exact ⟨rfl, rfl, rfl⟩
    | ok _ =>
      cases hentering : entering.result? with
      | none =>
        have hp : p = _ := Task.step_bind hentering (fun _ => (pure (.ok ()) : Operation (Except RegistryError Unit)))
          isHeld b locks
        rw [hp]
        exact ⟨rfl, rfl, rfl⟩
      | some _ =>
        obtain rfl := Task.eq_done_of_result? hentering
        exact ⟨rfl, rfl, rfl⟩

end Writer

/-- A broker, and the changes of what is known under one id that were begun. -/
structure Overlap where
  id : String
  broker : Broker
  writers : List Writer := []
  /-- The changes that the store has seen, in their order. -/
  stored : List Write := []
  /-- The changes that the registry has seen, in their order. -/
  entered : List Write := []

namespace Overlap

inductive Turn where
  | later (now : Timestamp)
  | write (w : Write)
  /-- A change takes its next step, if it can. -/
  | go (k : Nat)

def ofBroker (id : String) (b : Broker) : Overlap := { id, broker := b }

def isHeld (h : Overlap) (lock : Lock) : Bool := h.writers.any (·.locks.contains lock)

def step (h : Overlap) : Turn → Overlap
  | .later now => { h with broker := { h.broker with outside := { h.broker.outside with now } } }
  | .write w => if w.isFor h.broker h.id then { h with writers := h.writers ++ [.ofWrite h.id w] } else h
  | .go k =>
    match h.writers[k]? with
    | none => h
    | some x =>
      let p := x.step h.isHeld h.broker
      { h with
        broker := p.2
        writers := h.writers.set k p.1
        stored := if p.1.hasStored && !x.hasStored then h.stored ++ [x.write] else h.stored
        entered := if p.1.hasEntered && !x.hasEntered then h.entered ++ [x.write] else h.entered }

def after (h : Overlap) (turns : List Turn) : Overlap := turns.foldl step h

/-- Every change was made, or the id was not known. -/
def IsIdle (h : Overlap) : Prop := ∀ x ∈ h.writers, x.result?.isSome

end Overlap

/-! ## What is kept under an id -/

theorem Store.Table.find?_values {t : Table SessionRecord} (hsorted : t.IsSorted)
    (hnames : ∀ key r, t.find? key = some r → r.id = key) (id : String) : t.values.find? (·.id = id) = t.find? id := by
  have hnames' : ∀ e ∈ t.entries, e.2.id = e.1 := fun e he => hnames e.1 e.2 (Table.find?_of_mem hsorted he)
  obtain ⟨l⟩ := t
  unfold Table.values Table.find?
  clear hsorted hnames
  induction l with
  | nil => rfl
  | cons e rest ih =>
    obtain ⟨hname, hrest⟩ := List.forall_mem_cons.mp hnames'
    rw [List.map_cons, List.find?_cons, List.lookup_cons, hname]
    by_cases hid : e.1 = id
    · rw [beq_iff_eq.mpr hid.symm, decide_eq_true hid]
    · rw [beq_eq_false_iff_ne.mpr (Ne.symm hid), decide_eq_false hid]
      exact ih hrest

namespace Broker

variable {b : Broker} {id : String} {r? : Option SessionRecord}

/-- The record that is kept under an id. -/
def recorded? (b : Broker) (id : String) : Option SessionRecord :=
  b.store.bind fun store => (store.load fun _ => none).toOption.bind fun records => records.find? (·.id = id)

/-- The registry and the store agree on an id: nothing is known and nothing is kept, or the record of the session that is
known. -/
def AgreesOn (b : Broker) (id : String) : Prop :=
  b.recorded? id = (b.registry.find? id).map fun i => (b.session i).record

/-- The store can be read, and keeps this record under the id, or none. -/
def Stores (b : Broker) (id : String) (r? : Option SessionRecord) : Prop :=
  ∃ store t, b.store = some store ∧ store.Holds t ∧ t.IsSorted ∧ (∀ key r, t.find? key = some r → r.id = key) ∧
    t.find? id = r?

namespace Stores

theorem recorded? (h : b.Stores id r?) : b.recorded? id = r? := by
  obtain ⟨store, t, hstore, hholds, hsorted, hnames, hfind⟩ := h
  have hload : store.load (fun _ => none) = .ok t.values := hholds.load rfl
  unfold Broker.recorded?
  rw [hstore, Option.bind_some, hload, ← hfind]
  exact Table.find?_values hsorted hnames id

theorem store_isSome (h : b.Stores id r?) : b.store.isSome := by
  obtain ⟨store, -, hstore, -⟩ := h
  rw [hstore]
  rfl

/-- A record is written under the id. -/
theorem save (h : b.Stores id r?) (hallowed : ∀ use, b.outside.refusal use = none) {r : SessionRecord} (hr : r.id = id)
    (isHeld : Lock → Bool) (locks : List Lock) : ∃ store', ({ b with store := some store' } : Broker).Stores id (some r) ∧
      (Operation.saveRecord r).step isHeld b locks = (.done (.ok ()), locks, { b with store := some store' }) := by
  obtain ⟨store, t, hstore, hholds, hsorted, hnames, -⟩ := h
  rcases hholds.save b.outside.refusal b.outside.now r with ⟨store', hsave, hholds'⟩ | ⟨reason, hrefused, -⟩
  · refine ⟨store', ⟨store', t.insert r.id r, rfl, hholds', hsorted.insert _ _, ?_, ?_⟩, ?_⟩
    · intro key s hs
      by_cases hkey : key = r.id
      · subst hkey
        rw [Table.find?_insert_self] at hs
        rw [← Option.some.inj hs]
      · rw [Table.find?_insert_of_ne _ _ hkey] at hs
        exact hnames key s hs
    · rw [← hr]
      exact Table.find?_insert_self ..
    · simp only [Operation.saveRecord, Task.atomic, Task.step, hstore, hsave]
  · rw [hallowed] at hrefused
    cases hrefused

/-- The record of the id is deleted. -/
theorem delete (h : b.Stores id r?) (hallowed : ∀ use, b.outside.refusal use = none) (isHeld : Lock → Bool)
    (locks : List Lock) : ∃ store', ({ b with store := some store' } : Broker).Stores id none ∧
      (Operation.deleteRecord id).step isHeld b locks = (.done (.ok ()), locks, { b with store := some store' }) := by
  obtain ⟨store, t, hstore, hholds, hsorted, hnames, -⟩ := h
  rcases hholds.delete b.outside.refusal id with ⟨store', hdelete, hholds'⟩ | ⟨reason, hrefused, -⟩
  · refine ⟨store', ⟨store', t.erase id, rfl, hholds', hsorted.erase id, ?_, Table.find?_erase_self ..⟩, ?_⟩
    · intro key s hs
      exact hnames key s (t.erase_isPart id key s hs)
    · simp only [Operation.deleteRecord, Task.atomic, Task.step, hstore, hdelete]
  · rw [hallowed] at hrefused
    cases hrefused

end Stores

end Broker

/-! ## The steps of one change -/

/-- What a change still does up to the step that changes the store: it looks at the broker, whose sessions stay those of
`start`, and may find that the id is not known. -/
inductive Storing (id : String) (start : Broker) : Write → Operation (Except RegistryError Unit) → Prop
  | look {w : Write} {next : Broker → Operation (Except RegistryError Unit)}
      (h : ∀ b : Broker, b.sessions = start.sessions → b.store.isSome → Storing id start w (next b)) :
      Storing id start w (.act (fun b => b) next)
  | acquire {w : Write} {lock : Lock} {next : Operation (Except RegistryError Unit)} (h : Storing id start w next) :
      Storing id start w (.acquire lock next)
  | release {w : Write} {lock : Lock} {next : Operation (Except RegistryError Unit)} (h : Storing id start w next) :
      Storing id start w (.release lock next)
  | save (i : SessionRef) : Storing id start (.save i) (Operation.saveRecord (start.session i).record)
  | delete : Storing id start .delete (Operation.deleteRecord id)
  | missing {w : Write} {e : RegistryError} : Storing id start w (.done (.error e))

theorem Broker.session_of_sessions {b b' : Broker} (h : b.sessions = b'.sessions) (i : SessionRef) :
    b.session i = b'.session i := by
  unfold Broker.session
  rw [h]

namespace Storing

variable {id : String} {start b : Broker} {w : Write} {t : Operation (Except RegistryError Unit)}
  {r? : Option SessionRecord}

theorem atStore (id : String) (start : Broker) (w : Write) : Storing id start w (w.atStore id) := by
  cases w with
  | save i =>
    refine .look fun b _ hstore => ?_
    show Storing id start (.save i)
      (if b.store.isSome then Operation.takeRecord i >>= Operation.saveRecord else pure (.ok ()))
    rw [if_pos hstore]
    refine .acquire <| .look fun b₁ h₁ _ => .release <| .look fun b₂ h₂ _ => ?_
    show Storing id start (.save i)
      (Operation.saveRecord ((b₂.session i).recordWith ((b₁.session i).tunnels.map Tunnel.record)))
    rw [Broker.session_of_sessions h₁, Broker.session_of_sessions h₂]
    exact .save i
  | delete =>
    refine .look fun b _ _ => ?_
    dsimp only
    cases b.registry.find? id with
    | none => exact .missing
    | some i => exact .delete

theorem not_stored (h : Storing id start w t) : t.result? ≠ some (.ok ()) := by
  cases h with
  | missing => exact fun h => by cases h
  | _ => exact fun h => by cases h

/-- A step changes nothing, or it is the one that changes the store. -/
theorem step (h : Storing id start w t) (hw : w.isFor start id = true) (hsessions : b.sessions = start.sessions)
    (hstores : b.Stores id r?) (hallowed : ∀ use, b.outside.refusal use = none) (isHeld : Lock → Bool)
    (locks : List Lock) :
    let p := t.step isHeld b locks
    p.2.2 = b ∧ Storing id start w p.1 ∨
      p.1 = .done (.ok ()) ∧
        ∃ store', p.2.2 = { b with store := some store' } ∧ p.2.2.Stores id (w.record? start) := by
  cases h with
  | look h => exact .inl ⟨rfl, h b hsessions hstores.store_isSome⟩
  | acquire h =>
    dsimp only [Task.step]
    split
    · exact .inl ⟨rfl, .acquire h⟩
    · exact .inl ⟨rfl, h⟩
  | release h => exact .inl ⟨rfl, h⟩
  | save i =>
    have hid : (start.session i).record.id = id := by
      unfold Write.isFor at hw
      rw [Bool.and_eq_true, decide_eq_true_eq, decide_eq_true_eq] at hw
      exact hw.2
    obtain ⟨store', hstores', hstep⟩ := hstores.save hallowed hid isHeld locks
    rw [hstep]
    exact .inr ⟨rfl, store', rfl, hstores'⟩
  | delete =>
    obtain ⟨store', hstores', hstep⟩ := hstores.delete hallowed isHeld locks
    rw [hstep]
    exact .inr ⟨rfl, store', rfl, hstores'⟩
  | missing => exact .inl ⟨rfl, .missing⟩

end Storing

/-- How far a change has come: it has still to change the store, or only the registry, or nothing. -/
inductive Writer.Stage (id : String) (start : Broker) (x : Writer) : Prop
  | storing (h : Storing id start x.write x.storing) (hentering : x.entering = x.write.atRegistry id)
  | between (h : x.storing = .done (.ok ())) (hentering : x.entering = x.write.atRegistry id)
  | entered (h : x.storing = .done (.ok ())) (hentering : x.entering = .done ())

namespace Writer

variable {id : String} {start b : Broker} {x : Writer} {r? : Option SessionRecord}

theorem stage_ofWrite (id : String) (start : Broker) (w : Write) : (ofWrite id w).Stage id start :=
  .storing (.atStore id start w) rfl

theorem hasStored_eq_false (h : x.storing.result? ≠ some (.ok ())) : x.hasStored = false := by
  unfold hasStored
  split
  · rename_i hstored
    exact absurd hstored h
  · rfl

theorem hasEntered_eq_false (h : x.hasStored = false) : x.hasEntered = false := by
  unfold hasEntered
  rw [h, Bool.false_and]

/-- The step of a change: nothing is changed, or the store is, or after that the registry. -/
inductive Moved (id : String) (start b : Broker) (x : Writer) : Writer × Broker → Prop
  | idle {x' : Writer} (hstored : x'.hasStored = x.hasStored) (hentered : x'.hasEntered = x.hasEntered) :
      Moved id start b x (x', b)
  | stored {x' : Writer} {store' : Store} (hstored : x.hasStored = false) (hstored' : x'.hasStored = true)
      (hentered : x.hasEntered = false) (hentered' : x'.hasEntered = false)
      (hstores : ({ b with store := some store' } : Broker).Stores id (x.write.record? start)) :
      Moved id start b x (x', { b with store := some store' })
  | entered {x' : Writer} {registry' : Table SessionRef} (hstored : x.hasStored = true) (hstored' : x'.hasStored = true)
      (hentered : x.hasEntered = false) (hentered' : x'.hasEntered = true)
      (hknows : registry'.find? id = x.write.session?) : Moved id start b x (x', { b with registry := registry' })

theorem step_moved (h : x.Stage id start) (hw : x.write.isFor start id = true) (hsessions : b.sessions = start.sessions)
    (hstores : b.Stores id r?) (hallowed : ∀ use, b.outside.refusal use = none) (isHeld : Lock → Bool) :
    Moved id start b x (x.step isHeld b) ∧ (x.step isHeld b).1.Stage id start ∧ (x.step isHeld b).1.write = x.write := by
  obtain ⟨write, storing, entering, locks⟩ := x
  cases h with
  | storing h hentering =>
    have hnot := h.not_stored
    have hstored : Writer.hasStored ⟨write, storing, entering, locks⟩ = false := hasStored_eq_false hnot
    unfold step
    dsimp only at hnot ⊢
    cases hresult : storing.result? with
    | some result =>
      cases result with
      | ok _ => exact absurd hresult hnot
      | error e => exact ⟨.idle rfl rfl, .storing h hentering, rfl⟩
    | none =>
      have hstep := h.step hw hsessions hstores hallowed isHeld locks
      dsimp only at hstep ⊢
      generalize storing.step isHeld b locks = p at hstep ⊢
      obtain ⟨storing', locks', b'⟩ := p
      rcases hstep with ⟨hsame, hstoring'⟩ | ⟨hdone, store', hb', hstores'⟩
      · obtain rfl : b' = b := hsame
        have hstored' : Writer.hasStored ⟨write, storing', entering, locks'⟩ = false :=
          hasStored_eq_false hstoring'.not_stored
        refine ⟨.idle (hstored'.trans hstored.symm) ?_, .storing hstoring' hentering, rfl⟩
        rw [hasEntered_eq_false hstored', hasEntered_eq_false hstored]
      · obtain rfl : storing' = .done (.ok ()) := hdone
        obtain rfl : b' = _ := hb'
        refine ⟨.stored hstored rfl (hasEntered_eq_false hstored) ?_ hstores', .between rfl hentering, rfl⟩
        obtain rfl : entering = write.atRegistry id := hentering
        cases write with
        | save i => rfl
        | delete => rfl
  | between h hentering =>
    obtain rfl : storing = .done (.ok ()) := h
    obtain rfl : entering = write.atRegistry id := hentering
    cases write with
    | save i =>
      have hid : (b.session i).id = id := by
        unfold Write.isFor at hw
        rw [Bool.and_eq_true, decide_eq_true_eq, decide_eq_true_eq] at hw
        rw [Broker.session_of_sessions hsessions]
        exact hw.2
      refine ⟨.entered rfl rfl rfl rfl ?_, .entered rfl rfl, rfl⟩
      rw [hid]
      exact Table.find?_insert_self ..
    | delete => exact ⟨.entered rfl rfl rfl rfl (Table.find?_erase_self ..), .entered rfl rfl, rfl⟩
  | entered h hentering =>
    obtain rfl : storing = .done (.ok ()) := h
    obtain rfl : entering = .done () := hentering
    exact ⟨.idle rfl rfl, .entered rfl rfl, rfl⟩

end Writer

end TunnelBroker
