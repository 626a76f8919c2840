/-
  TunnelBroker.Proofs.Progress — no call waits for a lock forever.

  Every operation takes finitely many steps, and locks are taken in one order. So whoever holds the lock of a session's
  tunnels can go on until it gives it back. When nobody holds such a lock, whoever holds the lock of a session's life
  can go on until it gives that back. When nobody holds any lock, every call can go on until it returns, or until it
  waits for something that its request may wait for.

  - `Task.next_induction`: a task takes finitely many steps.
  - `Ruled.drive`: one call goes on until something is true.
  - `Ruled.release`: all calls go on, one after the other, until they hold fewer locks.
  - `Ruled.finish`: from any state, steps of calls alone lead to the end of a given one, or to where it has to wait.
-/

import TunnelBroker.Proofs.Order
import TunnelBroker.Proofs.Traces

namespace TunnelBroker

/-- What is true of a task if it is true of what any step leaves is true of all tasks: each takes finitely many
steps. -/
theorem Task.next_induction {σ κ α : Type} {P : Task σ κ α → Prop} (step : ∀ t, (∀ s u, Next t s u → P u) → P t)
    (t : Task σ κ α) : P t := by
  induction t with
  | done a => exact step _ fun _ _ hnext => by cases hnext
  | act change next ih =>
    refine step _ fun _ _ hnext => ?_
    cases hnext
    exact ih _
  | await ready next ih =>
    refine step _ fun _ _ hnext => ?_
    cases hnext
    exact ih
  | acquire lock next ih =>
    refine step _ fun _ _ hnext => ?_
    cases hnext
    exact ih
  | release lock next ih =>
    refine step _ fun _ _ hnext => ?_
    cases hnext
    exact ih

/-- Nothing but steps of calls. -/
def GoesOnly (turns : List Turn) : Prop := ∀ turn ∈ turns, ∃ k, turn = .go k

theorem GoesOnly.append {before after : List Turn} (h : GoesOnly before) (h' : GoesOnly after) :
    GoesOnly (before ++ after) := List.forall_mem_append.mpr ⟨h, h'⟩

/-! ## Where calls have to wait -/

section

variable {x : Call} {isHeld : Lock → Bool} {b : Broker}

theorem not_mem_of_mayTake {lock : Lock} {held : List Lock} (h : MayTake lock held) : lock ∉ held := by
  cases lock with
  | lifecycle i =>
    have hnil : held = [] := h
    rw [hnil]
    exact List.not_mem_nil
  | tunnels i => exact h i

/-- A call that cannot go on holds no lock, or waits for one that it may take. -/
theorem Call.Keeps.stuck (h : x.Keeps) (hstuck : x.canStep isHeld b = false) :
    x.locks = [] ∧ ((∃ result, x.rest = .done result) ∨
        ∃ ready, x.request.rules.waits x.session? ready ∧ ready b = false) ∨
      ∃ lock, MayTake lock x.locks ∧ isHeld lock = true := by
  unfold Keeps at h
  unfold canStep at hstuck
  cases hrest : x.rest with
  | done result =>
    rw [hrest] at h
    exact .inl ⟨h.1, .inl ⟨result, rfl⟩⟩
  | act change next => rw [hrest] at hstuck; cases hstuck
  | await ready next =>
    rw [hrest] at h hstuck
    exact .inl ⟨h.1, .inr ⟨ready, h.2.1, hstuck⟩⟩
  | acquire lock next =>
    rw [hrest] at h hstuck
    exact .inr ⟨lock, h.1, by simpa using hstuck⟩
  | release lock next => rw [hrest] at hstuck; cases hstuck

/-- Whoever holds the lock of a session's tunnels takes no other one, so a call that cannot go on holds no such lock. -/
theorem Call.Keeps.not_mem_of_stuck (h : x.Keeps) (hstuck : x.canStep isHeld b = false) (i : SessionRef) :
    Lock.tunnels i ∉ x.locks := by
  rcases h.stuck hstuck with ⟨hnone, -⟩ | ⟨lock, hmay, -⟩
  · rw [hnone]
    exact List.not_mem_nil
  · cases lock with
    | lifecycle j =>
      have hnone : x.locks = [] := hmay
      rw [hnone]
      exact List.not_mem_nil
    | tunnels j => exact hmay i

end

namespace Service

variable {h : Service} {k : Nat} {x : Call}

/-- No call holds a lock that a call may take, unless one of the others does. -/
theorem not_isHeld_of_mayTake {lock : Lock} (hx : h.calls[k]? = some x) (hmay : MayTake lock x.locks)
    (hothers : ∀ j y, j ≠ k → h.calls[j]? = some y → lock ∉ y.locks) : h.isHeld lock = false := by
  unfold isHeld
  rw [List.any_eq_false]
  intro y hy hlock
  have hheld : lock ∈ y.locks := List.contains_iff_mem.mp hlock
  obtain ⟨j, hj⟩ := List.mem_iff_getElem?.mp hy
  by_cases hjk : j = k
  · subst hjk
    obtain rfl : x = y := Option.some.inj (hx.symm.trans hj)
    exact not_mem_of_mayTake hmay hheld
  · exact hothers j y hjk hj hheld

/-- Where nobody else holds the lock of a session's tunnels, a call that cannot go on holds no lock. -/
theorem locks_of_stuck (hkeeps : x.Keeps) (hx : h.calls[k]? = some x) (hstuck : x.canStep h.isHeld h.broker = false)
    (hothers : ∀ j y, j ≠ k → h.calls[j]? = some y → ∀ i, Lock.tunnels i ∉ y.locks) : x.locks = [] := by
  rcases hkeeps.stuck hstuck with ⟨hnone, -⟩ | ⟨lock, hmay, hheld⟩
  · exact hnone
  · cases lock with
    | lifecycle i => exact hmay
    | tunnels i =>
      rw [not_isHeld_of_mayTake hx hmay fun j y hj hy => hothers j y hj hy i] at hheld
      cases hheld

/-- Where nobody holds any lock, a call that cannot go on has returned, or waits for what its request may wait for. -/
theorem waits_of_stuck (hkeeps : x.Keeps) (hx : h.calls[k]? = some x) (hstuck : x.canStep h.isHeld h.broker = false)
    (hothers : ∀ j y, j ≠ k → h.calls[j]? = some y → y.locks = []) :
    x.result?.isSome ∨ ∃ ready, x.request.rules.waits x.session? ready ∧ ready h.broker = false := by
  rcases hkeeps.stuck hstuck with ⟨-, ⟨result, hrest⟩ | hwaits⟩ | ⟨lock, hmay, hheld⟩
  · left
    rw [Call.result?, hrest]
    rfl
  · exact .inr hwaits
  · have hfree : h.isHeld lock = false := not_isHeld_of_mayTake hx hmay fun j y hj hy => by
      rw [hothers j y hj hy]
      exact List.not_mem_nil
    rw [hfree] at hheld
    cases hheld

theorem length_go (h : Service) (k : Nat) : (h.step (.go k)).calls.length = h.calls.length := by
  cases hx : h.calls[k]? with
  | none => rw [step_go_none hx]
  | some x => rw [step_go hx, List.length_set]

namespace Ruled

/-- A call that can go on as long as something is not true goes on until it is. The others stay where they are. -/
theorem drive (hr : h.Ruled) (hx : h.calls[k]? = some x) {Q : Service → Call → Prop}
    (hmove : ∀ (h' : Service) x', h'.Ruled → (∀ j, j ≠ k → h'.calls[j]? = h.calls[j]?) → h'.calls[k]? = some x' →
      Q h' x' ∨ x'.canStep h'.isHeld h'.broker = true) :
    ∃ turns x', GoesOnly turns ∧ (h.after turns).Ruled ∧ (∀ j, j ≠ k → (h.after turns).calls[j]? = h.calls[j]?) ∧
      (h.after turns).calls.length = h.calls.length ∧ (h.after turns).calls[k]? = some x' ∧ Q (h.after turns) x' := by
  generalize hrest : x.rest = rest
  induction rest using Task.next_induction generalizing h x with
  | step rest ih =>
    rcases hmove h x hr (fun _ _ => rfl) hx with hq | hcan
    · exact ⟨[], x, fun _ ht => (by cases ht), hr, fun _ _ => rfl, rfl, hx, hq⟩
    · have hstep : h.isStep k (.go k) = true := (isStep_iff hx).mpr ⟨rfl, hcan⟩
      obtain ⟨-, hx', -, hnext⟩ := calls_of_isStep hx hstep
      rw [hrest] at hnext
      have hmove' (h' : Service) (x' : Call) (hr' : h'.Ruled)
          (hsame : ∀ j, j ≠ k → h'.calls[j]? = (h.step (.go k)).calls[j]?) (hx' : h'.calls[k]? = some x') :=
        hmove h' x' hr' (fun j hj => (hsame j hj).trans (h.calls_go_ne hj)) hx'
      obtain ⟨turns, x', hgoes, hr', hsame, hlength, hafter, hq⟩ := ih _ _ hnext (hr.step _) hx' hmove' rfl
      refine ⟨.go k :: turns, x', List.forall_mem_cons.mpr ⟨⟨k, rfl⟩, hgoes⟩, hr', ?_, ?_, hafter, hq⟩
      · exact fun j hj => (hsame j hj).trans (h.calls_go_ne hj)
      · exact hlength.trans (h.length_go k)

section

variable {R S : List Lock → Prop}

/-- Where every call holds at most the locks of `S`, and each can go on until it holds at most those of `R`, the first
calls can go on until they do. -/
theorem release_first (hRS : ∀ locks, R locks → S locks)
    (hmove : ∀ (h' : Service) (k : Nat) (x : Call), h'.Ruled →
      (∀ (j : Nat) (y : Call), j ≠ k → h'.calls[j]? = some y → S y.locks) →
      h'.calls[k]? = some x → R x.locks ∨ x.canStep h'.isHeld h'.broker = true)
    (hr : h.Ruled) (hS : ∀ x ∈ h.calls, S x.locks) (m : Nat) (hm : m ≤ h.calls.length) :
    ∃ turns, GoesOnly turns ∧ (h.after turns).Ruled ∧ (h.after turns).calls.length = h.calls.length ∧
      (∀ x ∈ (h.after turns).calls, S x.locks) ∧ ∀ j x, j < m → (h.after turns).calls[j]? = some x → R x.locks := by
  induction m with
  | zero => exact ⟨[], fun _ ht => (by cases ht), hr, rfl, hS, fun j _ hj => absurd hj (Nat.not_lt_zero j)⟩
  | succ m ih =>
    obtain ⟨turns, hgoes, hr', hlength, hS', hR⟩ := ih (Nat.le_of_succ_le hm)
    have hlt : m < (h.after turns).calls.length := by rw [hlength]; exact hm
    have hnext (h' : Service) (x : Call) (hr' : h'.Ruled)
        (hsame : ∀ j, j ≠ m → h'.calls[j]? = (h.after turns).calls[j]?) (hx : h'.calls[m]? = some x) :
        R x.locks ∨ x.canStep h'.isHeld h'.broker = true := by
      refine hmove h' m x hr' (fun j y hj hy => ?_) hx
      rw [hsame j hj] at hy
      exact hS' y (List.mem_of_getElem? hy)
    obtain ⟨more, x', hgoes', hr'', hsame, hlength', hx', hlocks⟩ :=
      hr'.drive (List.getElem?_eq_getElem hlt) (Q := fun _ x => R x.locks) hnext
    -- the others are where they were before this call went on
    have hplace {j : Nat} {y : Call} (hy : ((h.after turns).after more).calls[j]? = some y) :
        j = m ∧ R y.locks ∨ j ≠ m ∧ (h.after turns).calls[j]? = some y := by
      by_cases hj : j = m
      · subst hj
        obtain rfl : x' = y := Option.some.inj (hx'.symm.trans hy)
        exact .inl ⟨rfl, hlocks⟩
      · exact .inr ⟨hj, (hsame j hj).symm.trans hy⟩
    refine ⟨turns ++ more, hgoes.append hgoes', ?_⟩
    rw [after_append]
    refine ⟨hr'', hlength'.trans hlength, fun y hy => ?_, fun j y hlt' hy => ?_⟩
    · obtain ⟨j, hj⟩ := List.mem_iff_getElem?.mp hy
      rcases hplace hj with ⟨-, hy'⟩ | ⟨-, hold⟩
      · exact hRS _ hy'
      · exact hS' y (List.mem_of_getElem? hold)
    · rcases hplace hy with ⟨-, hy'⟩ | ⟨hj, hold⟩
      · exact hy'
      · exact hR j y (Nat.lt_of_le_of_ne (Nat.le_of_lt_succ hlt') hj) hold

/-- And so can all calls. -/
theorem release (hRS : ∀ locks, R locks → S locks)
    (hmove : ∀ (h' : Service) (k : Nat) (x : Call), h'.Ruled →
      (∀ (j : Nat) (y : Call), j ≠ k → h'.calls[j]? = some y → S y.locks) →
      h'.calls[k]? = some x → R x.locks ∨ x.canStep h'.isHeld h'.broker = true)
    (hr : h.Ruled) (hS : ∀ x ∈ h.calls, S x.locks) :
    ∃ turns, GoesOnly turns ∧ (h.after turns).Ruled ∧ (h.after turns).calls.length = h.calls.length ∧
      ∀ x ∈ (h.after turns).calls, R x.locks := by
  obtain ⟨turns, hgoes, hr', hlength, -, hR⟩ := release_first hRS hmove hr hS h.calls.length (Nat.le_refl _)
  refine ⟨turns, hgoes, hr', hlength, fun x hx => ?_⟩
  obtain ⟨j, hj⟩ := List.mem_iff_getElem?.mp hx
  obtain ⟨hlt, -⟩ := List.getElem?_eq_some_iff.mp hj
  exact hR j x (by rw [← hlength]; exact hlt) hj

end

/-- All calls can go on until nobody holds any lock. -/
theorem release_all (hr : h.Ruled) : ∃ turns, GoesOnly turns ∧ (h.after turns).Ruled ∧
    (h.after turns).calls.length = h.calls.length ∧ ∀ x ∈ (h.after turns).calls, x.locks = [] := by
  -- first the locks of tunnels, whose holders take no other lock; then whoever wants one of these finds it free
  obtain ⟨turns, hgoes, hr', hlength, htunnels⟩ := hr.release (R := fun locks => ∀ i, Lock.tunnels i ∉ locks)
    (S := fun _ => True) (fun _ _ => trivial)
    (fun h' k x hr' _ hx => by
      cases hcan : x.canStep h'.isHeld h'.broker with
      | true => exact .inr rfl
      | false => exact .inl ((hr' x (List.mem_of_getElem? hx)).not_mem_of_stuck hcan))
    fun _ _ => trivial
  obtain ⟨more, hgoes', hr'', hlength', hnone⟩ := hr'.release (R := fun locks => locks = [])
    (S := fun locks => ∀ i, Lock.tunnels i ∉ locks)
    (fun _ hnil _ hi => by rw [hnil] at hi; cases hi)
    (fun h' k x hr' hothers hx => by
      cases hcan : x.canStep h'.isHeld h'.broker with
      | true => exact .inr rfl
      | false => exact .inl (locks_of_stuck (hr' x (List.mem_of_getElem? hx)) hx hcan hothers))
    htunnels
  refine ⟨turns ++ more, hgoes.append hgoes', ?_⟩
  rw [after_append]
  exact ⟨hr'', hlength'.trans hlength, hnone⟩

/-- No call is ever stuck: steps of calls alone lead to where a given one has returned, or waits for what its request
may wait for. -/
theorem finish (hr : h.Ruled) (hk : k < h.calls.length) : ∃ turns x, GoesOnly turns ∧
    (h.after turns).calls[k]? = some x ∧
      (x.result?.isSome ∨ ∃ ready, x.request.rules.waits x.session? ready ∧ ready (h.after turns).broker = false) := by
  obtain ⟨turns, hgoes, hr', hlength, hnone⟩ := hr.release_all
  have hlt : k < (h.after turns).calls.length := by rw [hlength]; exact hk
  obtain ⟨more, x, hgoes', -, -, -, hx, hend⟩ := hr'.drive (List.getElem?_eq_getElem hlt)
    (Q := fun h' x => x.result?.isSome ∨ ∃ ready, x.request.rules.waits x.session? ready ∧ ready h'.broker = false)
    fun h' x hr' hsame hx => by
      cases hcan : x.canStep h'.isHeld h'.broker with
      | true => exact .inr rfl
      | false =>
        refine .inl (waits_of_stuck (hr' x (List.mem_of_getElem? hx)) hx hcan fun j y hj hy => ?_)
        rw [hsame j hj] at hy
        exact hnone y (List.mem_of_getElem? hy)
  refine ⟨turns ++ more, x, hgoes.append hgoes', ?_⟩
  rw [after_append]
  exact ⟨hx, hend⟩

end Ruled

end Service

end TunnelBroker
