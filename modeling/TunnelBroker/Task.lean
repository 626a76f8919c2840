/-
  TunnelBroker.Task — operations as sequences of atomic steps on a shared state.

  Between two steps of a task other tasks may take theirs. A step changes the state, waits until the state
  has a property, or takes or gives back a lock.

  - `Task.run`: the task alone, from start to end. Nobody else holds a lock then, and the state that is
    waited for is taken to be there.
  - `Task.advance`: the task alone, up to where it has to wait.
  - `run_pure`, `run_bind`, `run_atomic`: the laws by which `run` is computed.
-/

namespace TunnelBroker

/-- A task on states `σ` with locks `κ`, which ends with a value of `α`. -/
inductive Task (σ κ α : Type) where
  | done (a : α)
  /-- One atomic change; what follows depends on the state before it. -/
  | act (change : σ → σ) (next : σ → Task σ κ α)
  | await (ready : σ → Bool) (next : Task σ κ α)
  | acquire (lock : κ) (next : Task σ κ α)
  | release (lock : κ) (next : Task σ κ α)

namespace Task

variable {σ κ α β : Type}

protected def bind (t : Task σ κ α) (f : α → Task σ κ β) : Task σ κ β :=
  match t with
  | .done a => f a
  | .act change next => .act change fun s => (next s).bind f
  | .await ready next => .await ready (next.bind f)
  | .acquire lock next => .acquire lock (next.bind f)
  | .release lock next => .release lock (next.bind f)

instance : Monad (Task σ κ) where
  pure := .done
  bind := Task.bind

/-- One atomic step with a result. -/
def atomic (f : σ → α × σ) : Task σ κ α := .act (fun s => (f s).2) fun s => .done (f s).1

/-- One atomic look at the state. -/
def read (f : σ → α) : Task σ κ α := .act id fun s => .done (f s)

/-- One atomic change of the state. -/
def change (f : σ → σ) : Task σ κ Unit := .act f fun _ => .done ()

def waitFor (ready : σ → Bool) : Task σ κ Unit := .await ready (.done ())

/-- The task while it holds a lock. -/
def locked (lock : κ) (t : Task σ κ α) : Task σ κ α :=
  .acquire lock (t.bind fun a => .release lock (.done a))

/-- The result of the task, and the state after it. -/
def run : Task σ κ α → σ → α × σ
  | .done a, s => (a, s)
  | .act change next, s => (next s).run (change s)
  | .await _ next, s => next.run s
  | .acquire _ next, s => next.run s
  | .release _ next, s => next.run s

/-- What is left of the task where it has to wait, and the state there. -/
def advance : Task σ κ α → σ → Task σ κ α × σ
  | .done a, s => (.done a, s)
  | .act change next, s => (next s).advance (change s)
  | .await ready next, s => if ready s then next.advance s else (.await ready next, s)
  | .acquire _ next, s => next.advance s
  | .release _ next, s => next.advance s

/-- The result of a task that has ended. -/
def result? : Task σ κ α → Option α
  | .done a => some a
  | _ => none

@[simp] theorem run_pure (a : α) (s : σ) : (pure a : Task σ κ α).run s = (a, s) := rfl

@[simp] theorem run_bind (t : Task σ κ α) (f : α → Task σ κ β) (s : σ) :
    (t >>= f).run s = (f (t.run s).1).run (t.run s).2 := by
  show (t.bind f).run s = _
  induction t generalizing s with
  | done a => rfl
  | act change next ih => exact ih s (change s)
  | await ready next ih => exact ih s
  | acquire lock next ih => exact ih s
  | release lock next ih => exact ih s

@[simp] theorem run_atomic (f : σ → α × σ) (s : σ) : (atomic f : Task σ κ α).run s = f s := rfl

@[simp] theorem run_read (f : σ → α) (s : σ) : (read f : Task σ κ α).run s = (f s, s) := rfl

@[simp] theorem run_change (f : σ → σ) (s : σ) : (change f : Task σ κ Unit).run s = ((), f s) := rfl

@[simp] theorem run_locked (lock : κ) (t : Task σ κ α) (s : σ) : (locked lock t).run s = t.run s := by
  show (t >>= fun a => .release lock (.done a)).run s = _
  rw [run_bind]; rfl

end Task

end TunnelBroker
