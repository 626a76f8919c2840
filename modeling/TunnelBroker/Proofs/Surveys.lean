/-
  TunnelBroker.Proofs.Surveys — refreshes that are under way at the same time.

  A refresh looks which ports to ask about, asks, and takes the answer. It has no part in what is done between these
  steps: others refresh, lease and release, and the host's ports are taken and given free. Whoever takes an answer puts
  it in the place of the one before, and no answer has a date. So the last answer taken is in force, whenever it was
  given.

  - `Survey`: a refresh that is under way; `rest_begun`, `rest_step`: it is `Operation.refresh`.
  - `Surveys.step`, `Surveys.after`: any number of them, one step after the other.
  - `Report.IsFrom`: an answer that was taken is the host's at one moment of its refresh.
  - `newest_in_force_iff`: the answer in force is the newest of those taken if and only if they were taken in the order
    of their questions.
-/

import TunnelBroker.Broker.Tunnels
import TunnelBroker.Proofs.Allocation
import TunnelBroker.Proofs.Overlap

namespace TunnelBroker

open TunnelBroker.Net (Port)
open TunnelBroker.Ports (Allocator Answer PortError)

/-! ## One refresh -/

/-- How far a refresh has come. A moment is the number of turns before it. -/
inductive Survey where
  | begun
  | listed (candidates : List Port)
  | answered (moment : Nat) (answer : Answer)
  | returned (result : Except PortError Unit)

namespace Survey

/-- What is left to do. -/
def rest : Survey → Operation (Except PortError Unit)
  | begun => do
    let candidates ← .read fun b => b.allocator.candidates
    let answer ← .read fun b => b.outside.occupancy.ask b.canListen candidates
    Operation.allocate fun _ a => a.adopt answer
  | listed candidates => do
    let answer ← .read fun b => b.outside.occupancy.ask b.canListen candidates
    Operation.allocate fun _ a => a.adopt answer
  | answered _ answer => Operation.allocate fun _ a => a.adopt answer
  | returned result => pure result

/-- The next step, at a moment. -/
def step (moment : Nat) (b : Broker) : Survey → Survey × Broker
  | begun => (listed b.allocator.candidates, b)
  | listed candidates => (answered moment (b.outside.occupancy.ask b.canListen candidates), b)
  | answered _ answer =>
    let p := b.allocator.adopt answer
    (returned p.1, { b with allocator := p.2 })
  | returned result => (returned result, b)

theorem rest_begun : begun.rest = Operation.refresh := rfl

/-- It takes the steps of the operation that is left of it. -/
theorem rest_step (moment : Nat) (isHeld : Lock → Bool) (locks : List Lock) (b : Broker) (x : Survey) :
    x.rest.step isHeld b locks = ((x.step moment b).1.rest, locks, (x.step moment b).2) := by
  cases x <;> rfl

end Survey

/-- An answer that was taken. -/
structure Report where
  /-- The number of its refresh. -/
  refresh : Nat
  /-- When the question was asked. -/
  moment : Nat
  /-- The ports that are busy. -/
  ports : List Port
  deriving DecidableEq, Repr

/-- What is taken if the next step of a refresh is taken. -/
def Survey.report? (k : Nat) : Survey → Option Report
  | answered moment (.busy ports) => some ⟨k, moment, ports⟩
  | _ => none

/-! ## Any number of them -/

/-- A broker, and the refreshes that were begun. -/
structure Surveys where
  broker : Broker
  surveys : List Survey := []
  /-- How many turns there were. -/
  clock : Nat := 0
  /-- The answers that were taken, in their order. -/
  taken : List Report := []

namespace Surveys

inductive Turn where
  /-- Anything else happens that leaves what is known to be busy alone. -/
  | elsewhere (b : Broker)
  /-- Somebody refreshes. -/
  | refresh
  /-- A refresh takes its next step. -/
  | go (k : Nat)

def ofBroker (b : Broker) : Surveys := { broker := b }

def step (h : Surveys) : Turn → Surveys
  | .elsewhere b =>
    { h with broker := if b.allocator.busy = h.broker.allocator.busy then b else h.broker, clock := h.clock + 1 }
  | .refresh => { h with surveys := h.surveys ++ [.begun], clock := h.clock + 1 }
  | .go k =>
    match h.surveys[k]? with
    | none => { h with clock := h.clock + 1 }
    | some x =>
      let p := x.step h.clock h.broker
      { broker := p.2
        surveys := h.surveys.set k p.1
        clock := h.clock + 1
        taken := h.taken ++ (x.report? k).toList }

def after (h : Surveys) (turns : List Turn) : Surveys := turns.foldl step h

/-- No question was asked later than the one to which the answer in force was given. -/
def HasNewest (h : Surveys) : Prop := ∀ last ∈ h.taken.getLast?, ∀ r ∈ h.taken, r.moment ≤ last.moment

/-- The answers were taken in the order of their questions. -/
def InOrder (h : Surveys) : Prop := h.taken.Pairwise (·.moment ≤ ·.moment)

/-! ### What one turn does -/

section

variable {h : Surveys} {b : Broker} {k : Nat} {x : Survey} {turn : Turn} {turns : List Turn}

theorem after_append (h : Surveys) (before after : List Turn) :
    h.after (before ++ after) = (h.after before).after after := List.foldl_append ..

theorem after_concat (h : Surveys) (turns : List Turn) (turn : Turn) :
    h.after (turns ++ [turn]) = (h.after turns).step turn := after_append h turns [turn]

theorem step_go (hx : h.surveys[k]? = some x) : h.step (.go k) =
    { broker := (x.step h.clock h.broker).2, surveys := h.surveys.set k (x.step h.clock h.broker).1,
      clock := h.clock + 1, taken := h.taken ++ (x.report? k).toList } := by
  simp only [step, hx]

theorem step_go_none (hx : h.surveys[k]? = none) : h.step (.go k) = { h with clock := h.clock + 1 } := by
  simp only [step, hx]

theorem clock_step (h : Surveys) (turn : Turn) : (h.step turn).clock = h.clock + 1 := by
  cases turn with
  | elsewhere b => rfl
  | refresh => rfl
  | go k =>
    cases hx : h.surveys[k]? with
    | none => rw [step_go_none hx]
    | some x => rw [step_go hx]

theorem clock_after (b : Broker) (turns : List Turn) : ((ofBroker b).after turns).clock = turns.length := by
  induction turns using List.reverseRecOn with
  | nil => rfl
  | append_singleton turns turn ih => rw [after_concat, clock_step, ih, List.length_append, List.length_singleton]

/-- At most one answer is taken at a turn: that of the refresh whose turn it is. -/
theorem taken_step (h : Surveys) (turn : Turn) :
    (h.step turn).taken = h.taken ∧ (h.step turn).broker.allocator.busy = h.broker.allocator.busy ∨
      ∃ k moment ports, turn = .go k ∧ h.surveys[k]? = some (.answered moment (.busy ports)) ∧
        (h.step turn).taken = h.taken ++ [⟨k, moment, ports⟩] ∧ (h.step turn).broker.allocator.busy = ports := by
  cases turn with
  | elsewhere b =>
    refine .inl ⟨rfl, ?_⟩
    unfold step
    dsimp only
    split
    · assumption
    · rfl
  | refresh => exact .inl ⟨rfl, rfl⟩
  | go k =>
    cases hx : h.surveys[k]? with
    | none => exact .inl (by rw [step_go_none hx]; exact ⟨rfl, rfl⟩)
    | some x =>
      rw [step_go hx]
      cases x with
      | begun => exact .inl ⟨List.append_nil _, rfl⟩
      | listed candidates => exact .inl ⟨List.append_nil _, rfl⟩
      | returned result => exact .inl ⟨List.append_nil _, rfl⟩
      | answered moment answer =>
        cases answer with
        | busy ports => exact .inr ⟨k, moment, ports, rfl, hx, rfl, rfl⟩
        | failed error => exact .inl ⟨List.append_nil _, rfl⟩
        | brokeDown task complaint => exact .inl ⟨List.append_nil _, rfl⟩
        | timedOut => exact .inl ⟨List.append_nil _, rfl⟩

/-- A refresh is as it was, or somebody has just begun it, or it has taken its step. -/
theorem step_surveys {x' : Survey} (hx' : (h.step turn).surveys[k]? = some x') :
    h.surveys[k]? = some x' ∨ turn = .refresh ∧ k = h.surveys.length ∧ x' = .begun ∨
      ∃ x, turn = .go k ∧ h.surveys[k]? = some x ∧ x' = (x.step h.clock h.broker).1 := by
  cases turn with
  | elsewhere b => exact .inl hx'
  | refresh =>
    obtain ⟨hlt, hget⟩ := List.getElem?_eq_some_iff.mp hx'
    rcases Nat.lt_or_ge k h.surveys.length with hold | hnew
    · exact .inl (by rw [← hx']; exact (List.getElem?_append_left hold).symm)
    · have hk : k = h.surveys.length := by
        have hlength : (h.step .refresh).surveys.length = h.surveys.length + 1 := List.length_append
        omega
      subst hk
      exact .inr (.inl ⟨rfl, rfl, by rw [← hget]; exact List.getElem_concat_length rfl _⟩)
  | go j =>
    cases hx : h.surveys[j]? with
    | none => rw [step_go_none hx] at hx'; exact .inl hx'
    | some x =>
      rw [step_go hx] at hx'
      by_cases hj : j = k
      · subst hj
        obtain ⟨hlt, -⟩ := List.getElem?_eq_some_iff.mp hx
        rw [List.getElem?_set_self hlt] at hx'
        exact .inr (.inr ⟨x, rfl, hx, (Option.some.inj hx').symm⟩)
      · rw [List.getElem?_set_ne hj] at hx'
        exact .inl hx'

end

/-! ### Where answers are from -/

/-- A refresh was begun as the `k`-th at the last of these turns. -/
def Began (b : Broker) (k : Nat) (turns : List Turn) : Prop :=
  ∃ before, turns = before ++ [.refresh] ∧ ((ofBroker b).after before).surveys.length = k

/-- At the last of these turns, after it was begun, it has looked which ports to ask about. -/
def Looked (b : Broker) (k : Nat) (candidates : List Port) (turns : List Turn) : Prop :=
  ∃ before between, turns = before ++ between ++ [.go k] ∧ Began b k before ∧
    candidates = ((ofBroker b).after (before ++ between)).broker.allocator.candidates

/-- At the last of these turns, after that, it has asked. -/
def Asked (b : Broker) (k moment : Nat) (answer : Answer) (turns : List Turn) : Prop :=
  ∃ before between candidates, turns = before ++ between ++ [.go k] ∧ Looked b k candidates before ∧
    moment = (before ++ between).length ∧
    let asked := ((ofBroker b).after (before ++ between)).broker
    answer = asked.outside.occupancy.ask asked.canListen candidates

end Surveys

open Surveys (ofBroker Began Looked Asked)

/-- The report is the answer that its refresh was given at its moment, and it was taken later than that. -/
def Report.IsFrom (b : Broker) (turns : List Surveys.Turn) (r : Report) : Prop :=
  ∃ before between since, turns = before ++ between ++ .go r.refresh :: since ∧
    Asked b r.refresh r.moment (.busy r.ports) before

namespace Surveys

/-- What a refresh has done so far. -/
def Tells (b : Broker) (k : Nat) (turns : List Turn) : Survey → Prop
  | .begun => ∃ before since, turns = before ++ since ∧ Began b k before
  | .listed candidates => ∃ before since, turns = before ++ since ∧ Looked b k candidates before
  | .answered moment answer => ∃ before since, turns = before ++ since ∧ Asked b k moment answer before
  | .returned _ => True

section

variable {b : Broker} {k : Nat} {x : Survey} {turn : Turn} {turns : List Turn}

theorem Tells.later (h : Tells b k turns x) (turn : Turn) : Tells b k (turns ++ [turn]) x := by
  cases x with
  | returned result => trivial
  | _ =>
    obtain ⟨before, since, rfl, h⟩ := h
    exact ⟨before, since ++ [turn], List.append_assoc .., h⟩

theorem Tells.step (h : Tells b k turns x) :
    Tells b k (turns ++ [.go k]) (x.step turns.length ((ofBroker b).after turns).broker).1 := by
  cases x with
  | begun =>
    obtain ⟨before, between, rfl, h⟩ := h
    exact ⟨_, [], (List.append_nil _).symm, before, between, rfl, h, rfl⟩
  | listed candidates =>
    obtain ⟨before, between, rfl, h⟩ := h
    exact ⟨_, [], (List.append_nil _).symm, before, between, candidates, rfl, h, rfl, rfl⟩
  | answered moment answer => trivial
  | returned result => trivial

/-- Every refresh is where its steps have brought it. -/
theorem tells (b : Broker) (turns : List Turn) (hx : ((ofBroker b).after turns).surveys[k]? = some x) :
    Tells b k turns x := by
  induction turns using List.reverseRecOn generalizing x with
  | nil => cases hx
  | append_singleton turns turn ih =>
    rw [after_concat] at hx
    rcases step_surveys hx with hsame | ⟨rfl, rfl, rfl⟩ | ⟨x₀, rfl, hx₀, rfl⟩
    · exact (ih hsame).later turn
    · exact ⟨turns ++ [.refresh], [], (List.append_nil _).symm, turns, rfl, rfl⟩
    · rw [clock_after]
      exact (ih hx₀).step

theorem isFrom_of_taken (b : Broker) (turns : List Turn) : ∀ r ∈ ((ofBroker b).after turns).taken, r.IsFrom b turns := by
  induction turns using List.reverseRecOn with
  | nil => exact fun r hr => by cases hr
  | append_singleton turns turn ih =>
    have hlater (r : Report) (hr : r.IsFrom b turns) : r.IsFrom b (turns ++ [turn]) := by
      obtain ⟨before, between, since, rfl, h⟩ := hr
      exact ⟨before, between, since ++ [turn], by simp, h⟩
    rw [after_concat]
    rcases taken_step ((ofBroker b).after turns) turn with ⟨he, -⟩ | ⟨k, moment, ports, rfl, hx, he, -⟩
    · rw [he]
      exact fun r hr => hlater r (ih r hr)
    · rw [he]
      refine List.forall_mem_append.mpr ⟨fun r hr => hlater r (ih r hr), List.forall_mem_singleton.mpr ?_⟩
      obtain ⟨before, between, rfl, h⟩ := tells b turns hx
      exact ⟨before, between, [], rfl, h⟩

/-! ### What is in force -/

/-- The last answer that was taken is in force. -/
theorem busy_after (b : Broker) (turns : List Turn) :
    let h := (ofBroker b).after turns
    h.broker.allocator.busy = (h.taken.getLast?.map Report.ports).getD b.allocator.busy := by
  intro h
  induction turns using List.reverseRecOn with
  | nil => rfl
  | append_singleton turns turn ih =>
    have hstep : h = ((ofBroker b).after turns).step turn := after_concat ..
    rw [hstep]
    rcases taken_step ((ofBroker b).after turns) turn with ⟨he, hbusy⟩ | ⟨k, moment, ports, -, -, he, hbusy⟩
    · rw [he, hbusy]
      exact ih
    · rw [he, hbusy, List.getLast?_concat]
      rfl

/-- The newest answer is in force all the time if and only if the answers are taken in order. -/
theorem hasNewest_iff (b : Broker) (turns : List Turn) :
    (∀ before, before <+: turns → ((ofBroker b).after before).HasNewest) ↔ ((ofBroker b).after turns).InOrder := by
  induction turns using List.reverseRecOn with
  | nil =>
    refine ⟨fun _ => .nil, fun _ before hbefore => ?_⟩
    rw [List.prefix_nil.mp hbefore]
    exact fun _ _ r hr => by cases hr
  | append_singleton turns turn ih =>
    have hall : (∀ before, before <+: turns ++ [turn] → ((ofBroker b).after before).HasNewest) ↔
        ((ofBroker b).after turns).InOrder ∧ ((ofBroker b).after (turns ++ [turn])).HasNewest := by
      rw [← ih]
      constructor
      · exact fun h => ⟨fun before hbefore => h before (hbefore.trans (List.prefix_append ..)), h _ List.prefix_rfl⟩
      · rintro ⟨hturns, hlast⟩ before hbefore
        rcases List.prefix_concat_iff.mp hbefore with rfl | hbefore
        · exact hlast
        · exact hturns before hbefore
    rw [hall, after_concat]
    rcases taken_step ((ofBroker b).after turns) turn with ⟨he, -⟩ | ⟨k, moment, ports, -, -, he, -⟩
    · unfold InOrder HasNewest
      rw [he]
      refine ⟨And.left, fun h => ⟨h, ?_⟩⟩
      have hnewest := ih.mpr h turns List.prefix_rfl
      exact hnewest
    · unfold InOrder HasNewest
      rw [he, List.pairwise_append, List.getLast?_concat]
      refine and_congr_right fun _ => ⟨fun h => ?_, fun h last hlast r hr => ?_⟩
      · refine ⟨List.pairwise_singleton _ _, fun r hr => List.forall_mem_singleton.mpr ?_⟩
        exact h _ rfl r (List.mem_append_left _ hr)
      · obtain rfl := Option.some.inj hlast
        rcases List.mem_append.mp hr with hr | hr
        · exact h.2 r hr _ (List.mem_singleton_self _)
        · rw [List.mem_singleton.mp hr]

end

/-- Each answer that is taken is the host's at one moment of its refresh, and the last one taken is in force. It is the
newest at all times if and only if the answers were taken in the order of their questions. A port that a refresh has
named is given out after that only if another refresh has taken its answer later and did not name it; if the newest
answer is in force, that answer is no older. -/
theorem newest_in_force_iff (b : Broker) (turns : List Turn) :
    let h := (ofBroker b).after turns
    (∀ r ∈ h.taken, r.IsFrom b turns) ∧
      h.broker.allocator.busy = (h.taken.getLast?.map Report.ports).getD b.allocator.busy ∧
      ((∀ before, before <+: turns → ((ofBroker b).after before).HasNewest) ↔ h.InOrder) ∧
      ∀ before r since, h.taken = before ++ r :: since → ∀ draw, ∀ port ∈ r.ports,
        (h.broker.allocator.lease draw).1 = .ok port →
          ∃ last ∈ since, h.taken.getLast? = some last ∧ port ∉ last.ports ∧ (h.HasNewest → r.moment ≤ last.moment) := by
  intro h
  have hbusy := busy_after b turns
  refine ⟨isFrom_of_taken b turns, hbusy, hasNewest_iff b turns, ?_⟩
  intro before r since htaken draw port hport hlease
  have hfree : port ∉ h.broker.allocator.busy := (Allocator.mem_free.mp (Allocator.mem_free_of_lease hlease)).2.1
  rcases List.eq_nil_or_concat' since with rfl | ⟨since, last, rfl⟩
  · -- the refresh's own answer is in force
    have hlast : h.taken.getLast? = some r := by rw [htaken, List.getLast?_concat]
    rw [show h.broker.allocator.busy = r.ports by rw [hbusy, hlast]; rfl] at hfree
    exact absurd hport hfree
  · have hlast : h.taken.getLast? = some last := by
      rw [htaken, ← List.cons_append, ← List.append_assoc, List.getLast?_concat]
    rw [show h.broker.allocator.busy = last.ports by rw [hbusy, hlast]; rfl] at hfree
    refine ⟨last, by simp, hlast, hfree, fun hnewest => hnewest last hlast r ?_⟩
    rw [htaken]
    simp

/-- A refresh has asked; the port is taken, and another refresh asks and takes its answer; then the first takes its own.
The port is given out, though the refresh that was begun last has seen that it is busy. -/
theorem older_answer_displaces_newer :
    let b : Broker := { allocator := { pool := ⟨#[20000]⟩ }, outside := { occupancy := .probe (.v4 0) } }
    let bound : Broker := { b with outside := { b.outside with held := [⟨.v4 0, 20000, 0⟩] } }
    let turns : List Turn := [.refresh, .go 0, .go 0, .elsewhere bound, .refresh, .go 1, .go 1, .go 1, .go 0]
    let h := (ofBroker b).after turns
    h.taken = [⟨1, 6, [20000]⟩, ⟨0, 2, []⟩] ∧ (h.broker.allocator.lease fun _ => 0).1 = .ok 20000 ∧
      ¬ ∀ before, before <+: turns → ((ofBroker b).after before).HasNewest := by
  intro b bound turns h
  have htaken : h.taken = [⟨1, 6, [20000]⟩, ⟨0, 2, []⟩] := by decide
  have horder : ¬h.InOrder := by
    unfold InOrder
    rw [htaken]
    decide
  exact ⟨htaken, by decide, fun hnewest => horder ((newest_in_force_iff b turns).2.2.1.mp hnewest)⟩

end Surveys

end TunnelBroker
