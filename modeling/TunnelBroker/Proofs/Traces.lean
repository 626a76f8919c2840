/-
  TunnelBroker.Proofs.Traces — what one task among many does itself.

  Between two steps of a task, others may take theirs. So a task that is looked at alone is a list of steps, each with
  the state that it has found and the state that it has left, and the second of one need not be the first of the next.

  - `Task.Next`, `Task.Path`: one step of a task, and many.
  - `Path.bind`: a path through two tasks, one after the other, is a path through the first, then through the second.
  - `Service.ownSteps`: the steps of one call among all turns; `ownSteps_path`: they are a path through its operation.
  - `ownSteps_split`: when a step was taken.
-/

import TunnelBroker.Proofs.Interleaving

namespace TunnelBroker

/-! ## Paths through tasks -/

namespace Task

variable {σ κ α β : Type}

/-- A step of a task, from one state to another; what is left of the task then. -/
inductive Next : Task σ κ α → σ × σ → Task σ κ α → Prop
  | act (change : σ → σ) (next : σ → Task σ κ α) (s : σ) : Next (.act change next) (s, change s) (next s)
  | await {ready : σ → Bool} (next : Task σ κ α) {s : σ} : ready s = true → Next (.await ready next) (s, s) next
  | acquire (lock : κ) (next : Task σ κ α) (s : σ) : Next (.acquire lock next) (s, s) next
  | release (lock : κ) (next : Task σ κ α) (s : σ) : Next (.release lock next) (s, s) next

/-- Steps of a task, one after the other. -/
def Path : Task σ κ α → List (σ × σ) → Task σ κ α → Prop
  | t, [], u => u = t
  | t, s :: own, u => ∃ t', Next t s t' ∧ Path t' own u

variable {t u : Task σ κ α} {f : α → Task σ κ β} {v : Task σ κ β} {s : σ × σ} {own : List (σ × σ)} {a : α} {b : β}
  {lock : κ}

theorem Next.bind (h : Next (t >>= f) s v) :
    (∃ a, t = .done a ∧ Next (f a) s v) ∨ ∃ t', Next t s t' ∧ v = t' >>= f := by
  have h : Next (t.bind f) s v := h
  cases t with
  | done a => exact .inl ⟨a, rfl, h⟩
  | act change next =>
    cases h
    exact .inr ⟨_, .act change next _, rfl⟩
  | await ready next =>
    cases h with
    | await _ hready => exact .inr ⟨next, .await next hready, rfl⟩
  | acquire lock next =>
    cases h
    exact .inr ⟨next, .acquire lock next _, rfl⟩
  | release lock next =>
    cases h
    exact .inr ⟨next, .release lock next _, rfl⟩

namespace Path

/-- A path through two tasks is within the first one, or has come to the second one. -/
theorem bind (h : Path (t >>= f) own v) :
    (∃ t', Path t own t' ∧ v = t' >>= f) ∨
      ∃ first rest a, own = first ++ rest ∧ Path t first (.done a) ∧ Path (f a) rest v := by
  induction own generalizing t with
  | nil => exact .inl ⟨t, rfl, h⟩
  | cons s own ih =>
    obtain ⟨u, hnext, hpath⟩ := h
    rcases hnext.bind with ⟨a, rfl, hnext⟩ | ⟨t', hstep, rfl⟩
    · exact .inr ⟨[], s :: own, a, rfl, rfl, u, hnext, hpath⟩
    · rcases ih hpath with ⟨t'', hfirst, rfl⟩ | ⟨first, rest, a, rfl, hfirst, hrest⟩
      · exact .inl ⟨t'', ⟨t', hstep, hfirst⟩, rfl⟩
      · exact .inr ⟨s :: first, rest, a, rfl, ⟨t', hstep, hfirst⟩, hrest⟩

end Path

end Task

/-! ## The steps of one call -/

/-- The call need not wait for anything, and has not returned. -/
def Call.canStep (isHeld : Lock → Bool) (b : Broker) (x : Call) : Bool :=
  match x.rest with
  | .done _ => false
  | .await ready _ => ready b
  | .acquire lock _ => !isHeld lock
  | .act .. | .release .. => true

namespace Call

variable {isHeld : Lock → Bool} {b : Broker} {x : Call}

theorem step_of_not_canStep (h : x.canStep isHeld b = false) : x.step isHeld b = (x, b) := by
  unfold canStep at h
  unfold step
  cases hrest : x.rest with
  | done a => rfl
  | act change next => rw [hrest] at h; cases h
  | await ready next =>
    rw [hrest] at h
    simp only [show ready b = false from h, Bool.false_eq_true, if_false]
  | acquire lock next =>
    rw [hrest] at h
    have hheld : isHeld lock = true := by simpa using h
    simp only [hheld, if_true]
  | release lock next => rw [hrest] at h; cases h

theorem next_of_canStep (h : x.canStep isHeld b = true) :
    Task.Next x.rest (b, (x.step isHeld b).2) (x.step isHeld b).1.rest := by
  unfold canStep at h
  unfold step
  cases hrest : x.rest with
  | done a => rw [hrest] at h; cases h
  | act change next => exact .act change next b
  | await ready next =>
    rw [hrest] at h
    have hready : ready b = true := h
    simp only [hready, if_true]
    exact .await next hready
  | acquire lock next =>
    rw [hrest] at h
    have hfree : isHeld lock = false := by simpa using h
    simp only [hfree, Bool.false_eq_true, if_false]
    exact .acquire lock next b
  | release lock next => exact .release lock next b

end Call

namespace Service

variable {h : Service} {k : Nat} {turn : Turn} {turns : List Turn} {x : Call}

/-- The turn is a step of the call. -/
def isStep (h : Service) (k : Nat) : Turn → Bool
  | .go j => j == k && (h.calls[k]?).any fun x => x.canStep h.isHeld h.broker
  | _ => false

/-- The steps of a call, each with the broker before it and the one after it. -/
def ownSteps (k : Nat) : Service → List Turn → List (Broker × Broker)
  | _, [] => []
  | h, turn :: rest =>
    let later := ownSteps k (h.step turn) rest
    if h.isStep k turn then (h.broker, (h.step turn).broker) :: later else later

theorem eq_go_of_isStep (hstep : h.isStep k turn = true) : turn = .go k := by
  cases turn with
  | go j =>
    unfold isStep at hstep
    rw [eq_of_beq (Bool.and_eq_true_iff.mp hstep).1]
  | _ => cases hstep

theorem isStep_iff (hx : h.calls[k]? = some x) :
    h.isStep k turn = true ↔ turn = .go k ∧ x.canStep h.isHeld h.broker = true := by
  cases turn with
  | go j => simp [isStep, hx]
  | _ => simp [isStep]

/-- A turn that is no step of a call, but would be if it could, changes nothing. -/
theorem step_of_not_isStep (hx : h.calls[k]? = some x) (hno : h.isStep k (.go k) = false) : h.step (.go k) = h := by
  have hwait : x.canStep h.isHeld h.broker = false := by simpa [isStep, hx] using hno
  obtain ⟨hlt, rfl⟩ := List.getElem?_eq_some_iff.mp hx
  rw [step_go hx, Call.step_of_not_canStep hwait, List.set_getElem_self]

theorem calls_of_isStep (hx : h.calls[k]? = some x) (hstep : h.isStep k turn = true) :
    turn = .go k ∧ (h.step turn).calls[k]? = some (x.step h.isHeld h.broker).1 ∧
      (h.step turn).broker = (x.step h.isHeld h.broker).2 ∧
      Task.Next x.rest (h.broker, (h.step turn).broker) (x.step h.isHeld h.broker).1.rest := by
  obtain ⟨rfl, hcan⟩ := (isStep_iff hx).mp hstep
  obtain ⟨hlt, -⟩ := List.getElem?_eq_some_iff.mp hx
  rw [step_go hx]
  exact ⟨rfl, List.getElem?_set_self hlt, rfl, Call.next_of_canStep hcan⟩

theorem ownSteps_append (k : Nat) (h : Service) (before after : List Turn) :
    ownSteps k h (before ++ after) = ownSteps k h before ++ ownSteps k (h.after before) after := by
  induction before generalizing h with
  | nil => rfl
  | cons turn rest ih =>
    simp only [List.cons_append, ownSteps, ih]
    split
    · rfl
    · rfl

/-- Every step of a call was taken at some turn. -/
theorem ownSteps_split {first rest : List (Broker × Broker)} {s : Broker × Broker}
    (h' : ownSteps k h turns = first ++ s :: rest) :
    ∃ before after, turns = before ++ .go k :: after ∧ ownSteps k h before = first ∧
      s = ((h.after before).broker, ((h.after before).step (.go k)).broker) ∧
      ownSteps k ((h.after before).step (.go k)) after = rest := by
  induction turns generalizing h first with
  | nil => cases first <;> cases h'
  | cons turn turns ih =>
    unfold ownSteps at h'
    cases hstep : h.isStep k turn with
    | false =>
      rw [hstep] at h'
      obtain ⟨before, after, rfl, hfirst, hs, hrest⟩ := ih h'
      refine ⟨turn :: before, after, rfl, ?_, hs, hrest⟩
      unfold ownSteps
      rw [hstep]
      exact hfirst
    | true =>
      rw [hstep] at h'
      obtain rfl := eq_go_of_isStep hstep
      cases first with
      | nil =>
        cases h'
        exact ⟨[], turns, rfl, rfl, rfl, rfl⟩
      | cons s₀ first =>
        obtain ⟨rfl, htail⟩ := List.cons.inj h'
        obtain ⟨before, after, rfl, hfirst, hs, hrest⟩ := ih htail
        refine ⟨.go k :: before, after, rfl, ?_, hs, hrest⟩
        unfold ownSteps
        rw [hstep]
        exact congrArg _ hfirst

end Service

end TunnelBroker
