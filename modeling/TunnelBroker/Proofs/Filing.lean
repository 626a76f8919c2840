/-
  TunnelBroker.Proofs.Filing — who has written what is stored under an id.

  A call writes no record but that of its own session, under the id of that session. So what is stored under an id was
  found there when the broker was set up, or a call for a session with this id has written it.

  - `Service.Filing`: all calls write only such records; every turn keeps it.
  - `Service.exists_last_turn`: what holds at the end has held since some turn.
  - `Service.filed_by`: who has written what is stored, and that it has stayed since.
-/

import Mathlib.Data.List.Induction
import TunnelBroker.Proofs.Catalog
import TunnelBroker.Proofs.Serving

namespace TunnelBroker

open TunnelBroker.Store (Row)

namespace Service

variable {h : Service} {ids : SessionRef → String} {turn : Turn} {id : String} {entry : SessionRecord ⊕ Row}

/-- The sessions that are there have these ids, all calls are for such sessions, and they write no records but theirs. -/
structure Filing (ids : SessionRef → String) (h : Service) : Prop where
  ordered : h.Ordered
  named : ∀ i < h.broker.sessions.length, (h.broker.session i).id = ids i
  enters : ∀ x ∈ h.calls, Enters (some ids) (fun _ _ => True) x.rest x.session?

namespace Filing

theorem names (hf : h.Filing ids) {x : Call} (hx : x ∈ h.calls) : h.broker.Names (some ids) x.session? := by
  intro f hids i hi
  obtain rfl := Option.some.inj hids
  exact hf.named i (hf.ordered.present x hx i hi)

theorem step (hf : h.Filing ids) (turn : Turn)
    (hnamed : ∀ i < (h.step turn).broker.sessions.length, ((h.step turn).broker.session i).id = ids i) :
    (h.step turn).Filing ids := by
  refine ⟨hf.ordered.step turn, hnamed, fun x' hx' => ?_⟩
  obtain ⟨k, hget⟩ := List.mem_iff_getElem?.mp hx'
  rcases step_calls hget with hsame | ⟨r, -, rfl⟩ | ⟨x, hx, rfl⟩
  · exact hf.enters x' (List.mem_of_getElem? hsame)
  · exact r.enters (some ids)
  · have hmem := List.mem_of_getElem? hx
    exact (Call.step_enters (hf.enters x hmem) h.isHeld (hf.names hmem)).2.2.2.1

/-- What comes to be stored is written by the step of a call for a session with the id. -/
theorem saved_by (hf : h.Filing ids) (hbefore : h.broker.stored? id ≠ some entry)
    (hafter : (h.step turn).broker.stored? id = some entry) :
    ∃ n y j, turn = .go n ∧ (h.step turn).calls[n]? = some y ∧ y.session? = some j ∧ ids j = id := by
  cases turn with
  | outside o => exact absurd hafter hbefore
  | arrival c => exact absurd hafter hbefore
  | hangUp connection reason => exact absurd hafter hbefore
  | settling => exact absurd hafter hbefore
  | call r =>
    rw [step_call] at hafter
    split at hafter
    · exact absurd hafter hbefore
    · exact absurd hafter hbefore
  | go n =>
    cases hx : h.calls[n]? with
    | none =>
      rw [step_go_none hx] at hafter
      exact absurd hafter hbefore
    | some x =>
      obtain ⟨hlt, -⟩ := List.getElem?_eq_some_iff.mp hx
      have hmem := List.mem_of_getElem? hx
      obtain ⟨-, -, hfiled, -⟩ := Call.step_enters (hf.enters x hmem) h.isHeld (hf.names hmem)
      rw [step_go hx] at hafter ⊢
      obtain ⟨j, hj, hid⟩ := (hfiled ids rfl).saved_by hbefore hafter
      exact ⟨n, _, j, rfl, List.getElem?_set_self hlt, hj, hid⟩

end Filing

/-- All calls write only the records of their own sessions, at any of the turns. -/
theorem filing_after (setup : Setup) {turns first last : List Turn} (hsplit : turns = first ++ last) :
    ((boot setup).after first).Filing fun i => (((boot setup).after turns).broker.session i).id := by
  induction first using List.reverseRecOn generalizing last with
  | nil =>
    refine ⟨ordered_boot setup, fun i hi => ?_, fun x hx => (by cases hx)⟩
    exact ((kept_after setup []).id_after turns hi).symm
  | append_singleton first turn ih =>
    have hsplit' : turns = first ++ turn :: last := by rw [hsplit, List.append_assoc]; rfl
    rw [after_concat]
    refine (ih hsplit').step turn fun i hi => ?_
    rw [← after_concat] at hi ⊢
    rw [hsplit, after_append (boot setup) (first ++ [turn])]
    exact ((kept_after setup (first ++ [turn])).id_after last hi).symm

/-- What holds at the end has always held, or it has come to hold at some turn and has held since. -/
theorem exists_last_turn {P : Service → Prop} {turns : List Turn} (hend : P (h.after turns)) :
    (∀ first last, turns = first ++ last → P (h.after first)) ∨
      ∃ first turn last, turns = first ++ turn :: last ∧ ¬P (h.after first) ∧
        ∀ mid rest, last = mid ++ rest → P (h.after (first ++ turn :: mid)) := by
  induction turns generalizing h with
  | nil =>
    left
    intro first last hsplit
    obtain ⟨rfl, -⟩ := List.append_eq_nil_iff.mp hsplit.symm
    exact hend
  | cons turn turns ih =>
    rcases ih hend with halways | ⟨first, turn', last, rfl, hbefore, hsince⟩
    · by_cases hstart : P h
      · left
        intro first last hsplit
        rcases List.cons_eq_append_iff.mp hsplit with ⟨rfl, -⟩ | ⟨first, rfl, hrest⟩
        · exact hstart
        · exact halways first last hrest
      · exact .inr ⟨[], turn, turns, rfl, hstart, halways⟩
    · exact .inr ⟨turn :: first, turn', last, rfl, hbefore, hsince⟩

/-- With its step after the turns `first`, a call for the session `j` has written what is stored under the id of that
session, and it has stayed so during the turns `last`. -/
structure FiledBy (h : Service) (first last : List Turn) (n : Nat) (j : SessionRef) (id : String)
    (entry : SessionRecord ⊕ Row) : Prop where
  call : ∃ y, (h.after (first ++ [.go n])).calls[n]? = some y ∧ y.session? = some j
  named : ((h.after (first ++ [.go n])).broker.session j).id = id
  before : (h.after first).broker.stored? id ≠ some entry
  since : ∀ mid rest, last = mid ++ rest → (h.after (first ++ .go n :: mid)).broker.stored? id = some entry

/-- What is stored was found when the broker was set up, or it was written by a call for a session with the id. -/
theorem filed_by (setup : Setup) (turns : List Turn)
    (hentry : ((boot setup).after turns).broker.stored? id = some entry) :
    (∀ first last, turns = first ++ last → ((boot setup).after first).broker.stored? id = some entry) ∨
      ∃ first last n j, turns = first ++ .go n :: last ∧ (boot setup).FiledBy first last n j id entry := by
  refine (exists_last_turn (P := fun g => g.broker.stored? id = some entry) hentry).imp_right ?_
  rintro ⟨first, turn, last, hsplit, hbefore, hsince⟩
  have hafter := hsince [] last rfl
  have hsplit' : turns = (first ++ [turn]) ++ last := by rw [hsplit, List.append_assoc]; rfl
  rw [after_concat] at hafter
  obtain ⟨n, y, j, rfl, hy, hj, hid⟩ := (filing_after setup hsplit).saved_by hbefore hafter
  rw [← after_concat] at hy
  have hid' := ((filing_after setup hsplit').names (List.mem_of_getElem? hy) _ rfl j hj).trans hid
  exact ⟨first, last, n, j, hsplit, ⟨y, hy, hj⟩, hid', hbefore, hsince⟩

end Service

end TunnelBroker
