/-
  TunnelBroker.Proofs.Clock — the time at which a session is said to have ended.

  Whoever ends a session takes the lock of its life, reads the time and then waits for the lock of its tunnels, which a
  batch may hold for long. So the time that is kept as the end of the session is not that of the step that makes it
  lost, but the one that was read before.

  - `Service.ReadsTime`: at this moment a call reads the time, between the two locks.
  - `Service.HasRead`: it has done so, and it has kept the lock of the session's life since.
  - `Service.Timed`: the time that a grip knows was read by its call; every turn keeps it (`Timed.step`).
  - `Service.lost_at`: who makes a session lost has read the time of its end.
-/

import Mathlib.Data.List.Induction
import TunnelBroker.Proofs.Serving
import TunnelBroker.Proofs.Traces

namespace TunnelBroker

open TunnelBroker.Time (Timestamp)

/-! ## One step -/

/-- What a call has in its hands after a step: the time that it had read before, with the lock of its session's life,
or the time now. -/
theorem Stepped.moment {W : Option Watch} {b b' : Broker} {g g' : Grip} {moment : Timestamp}
    (hs : Stepped W b g b' g') (hm : moment ∈ g'.moment) :
    (moment ∈ g.moment ∧ ∀ i, g.Holds (.lifecycle i) → g'.Holds (.lifecycle i)) ∨
      b.outside.now = moment ∧ (∃ i, g.Holds (.lifecycle i) ∧ ¬g.Holds (.tunnels i)) ∧
        ∀ lock, g'.Holds lock ↔ g.Holds lock := by
  cases hs with
  | acted hact =>
    rcases hact.moment moment hm with hold | ⟨hnow, hlocks⟩
    · exact .inl ⟨hold, fun i hl => hact.holds.mpr hl⟩
    · exact .inr ⟨hnow.symm, hlocks, fun _ => hact.holds⟩
  | took lock =>
    cases lock with
    | lifecycle j => exact .inl ⟨hm, fun i hl => ⟨rfl, hl.2⟩⟩
    | tunnels j => exact .inl ⟨hm, fun i hl => hl⟩
  | dropped lock hholds hmay =>
    cases lock with
    | lifecycle j => cases hm
    | tunnels j => exact .inl ⟨hm, fun i hl => hl⟩
  | stayed => exact .inl ⟨hm, fun i hl => hl⟩

namespace Service

/-! ## Reading the time -/

/-- The call holds the lock. -/
def Holds (h : Service) (k : Nat) (lock : Lock) : Prop := ∃ x, h.calls[k]? = some x ∧ lock ∈ x.locks

/-- The call does not have to wait. It holds the lock of the session's life, and neither before its step nor after it
that of its tunnels. Of a call that is to end the session, and has not had the lock of its tunnels yet, there is one such
step: it reads the time. -/
structure ReadsTime (h : Service) (k : Nat) (i : SessionRef) (moment : Timestamp) : Prop where
  goesOn : h.isStep k (.go k)
  life : h.Holds k (.lifecycle i)
  before : ¬h.Holds k (.tunnels i)
  after : ¬(h.step (.go k)).Holds k (.tunnels i)
  now : h.broker.outside.now = moment

/-- At one of the turns the call has read the time, and from then on it has held the lock of the session's life. -/
def HasRead (h : Service) (turns : List Turn) (k : Nat) (i : SessionRef) (moment : Timestamp) : Prop :=
  ∃ earlier since, turns = earlier ++ .go k :: since ∧ (h.after earlier).ReadsTime k i moment ∧
    ∀ first rest, since = first ++ rest → (h.after (earlier ++ .go k :: first)).Holds k (.lifecycle i)

variable {h : Service} {turns : List Turn} {turn : Turn} {k : Nat} {i : SessionRef} {moment : Timestamp}

theorem HasRead.holds (hr : h.HasRead turns k i moment) : (h.after turns).Holds k (.lifecycle i) := by
  obtain ⟨earlier, since, rfl, -, hheld⟩ := hr
  exact hheld since [] (List.append_nil since).symm

theorem HasRead.concat (hr : h.HasRead turns k i moment) (hholds : (h.after (turns ++ [turn])).Holds k (.lifecycle i)) :
    h.HasRead (turns ++ [turn]) k i moment := by
  obtain ⟨earlier, since, rfl, hreads, hheld⟩ := hr
  refine ⟨earlier, since ++ [turn], by simp, hreads, fun first rest hsplit => ?_⟩
  rcases List.eq_nil_or_concat rest with rfl | ⟨rest, last, rfl⟩
  · obtain rfl : since ++ [turn] = first := by simpa using hsplit
    simpa using hholds
  · rw [List.concat_eq_append, ← List.append_assoc] at hsplit
    exact hheld first rest (List.append_inj_left' hsplit rfl)

theorem ReadsTime.hasRead (hreads : (h.after turns).ReadsTime k i moment)
    (hholds : (h.after (turns ++ [.go k])).Holds k (.lifecycle i)) : h.HasRead (turns ++ [.go k]) k i moment := by
  refine ⟨turns, [], rfl, hreads, fun first rest hsplit => ?_⟩
  obtain ⟨rfl, -⟩ := List.append_eq_nil_iff.mp hsplit.symm
  exact hholds

/-! ## Calls and what they have read -/

section

variable {W : Option Watch} {xs xs' : List (Call × Grip)} {x x' : Call} {g g' : Grip} {lock : Lock}

theorem Gripped.holds_iff (hg : h.Gripped W xs) (hp : xs[k]? = some (x, g)) : h.Holds k lock ↔ g.Holds lock := by
  have hx := hg.call_of hp
  rw [← (hg.matched _ (List.mem_of_getElem? hp)).locks lock]
  refine ⟨fun ⟨y, hy, hlock⟩ => ?_, fun hlock => ⟨x, hx, hlock⟩⟩
  obtain rfl : x = y := Option.some.inj (hx.symm.trans hy)
  exact hlock

/-- All calls have their grips, and the time that a grip knows was read by its call at one of the turns. -/
structure Timed (h : Service) (turns : List Turn) (xs : List (Call × Grip)) : Prop where
  gripped : (h.after turns).Gripped none xs
  read : ∀ k x g, xs[k]? = some (x, g) → ∀ moment ∈ g.moment, ∃ i, g.session = some i ∧ h.HasRead turns k i moment

namespace Timed

/-- What a call has read stays so as long as it keeps the lock. -/
theorem carry (ht : h.Timed turns xs) (hg' : (h.after (turns ++ [turn])).Gripped none xs') (hp : xs[k]? = some (x, g))
    (hp' : xs'[k]? = some (x', g')) (hm : moment ∈ g.moment)
    (hkeeps : ∀ i, g.Holds (.lifecycle i) → g'.Holds (.lifecycle i)) :
    ∃ i, g'.session = some i ∧ h.HasRead (turns ++ [turn]) k i moment := by
  obtain ⟨i, -, hread⟩ := ht.read k x g hp moment hm
  have hlife := hkeeps i ((ht.gripped.holds_iff hp).mp hread.holds)
  exact ⟨i, hlife.2, hread.concat ((hg'.holds_iff hp').mpr hlife)⟩

/-- A turn at which nothing becomes of calls and grips. -/
theorem same (ht : h.Timed turns xs) (hg' : (h.after (turns ++ [turn])).Gripped none xs) :
    h.Timed (turns ++ [turn]) xs where
  gripped := hg'
  read _ _ _ hp _ hm := ht.carry hg' hp hp hm fun _ hl => hl

/-- A call that goes on has read the time at this turn or before. -/
theorem go (ht : h.Timed turns xs) (hp : xs[k]? = some (x, g)) (hstep : (h.after turns).isStep k (.go k))
    (hg' : (h.after (turns ++ [.go k])).Gripped none (xs.set k (x', g')))
    (hstepped : Stepped none (h.after turns).broker g (h.after (turns ++ [.go k])).broker g') :
    h.Timed (turns ++ [.go k]) (xs.set k (x', g')) := by
  obtain ⟨hlt, -⟩ := List.getElem?_eq_some_iff.mp hp
  have hself : (xs.set k (x', g'))[k]? = some (x', g') := List.getElem?_set_self hlt
  refine ⟨hg', fun j y f hj moment hm => ?_⟩
  by_cases hjk : j = k
  · subst hjk
    obtain ⟨rfl, rfl⟩ := Prod.mk.inj (Option.some.inj (hself.symm.trans hj))
    rcases hstepped.moment hm with ⟨hold, hkeeps⟩ | ⟨hnow, ⟨i, hlife, hno⟩, hsame⟩
    · exact ht.carry hg' hp hself hold hkeeps
    · have hlocks (lock : Lock) : (h.after (turns ++ [.go j])).Holds j lock ↔ g.Holds lock :=
        (hg'.holds_iff hself).trans (hsame lock)
      have hreads : (h.after turns).ReadsTime j i moment :=
        { goesOn := hstep
          life := (ht.gripped.holds_iff hp).mpr hlife
          before := fun hheld => hno ((ht.gripped.holds_iff hp).mp hheld)
          after := fun hheld => hno ((hlocks _).mp (by rw [after_concat]; exact hheld))
          now := hnow }
      exact ⟨i, ((hsame _).mpr hlife).2, hreads.hasRead ((hlocks _).mpr hlife)⟩
  · rw [List.getElem?_set_ne (Ne.symm hjk)] at hj
    exact ht.carry hg' hj (by rw [List.getElem?_set_ne (Ne.symm hjk)]; exact hj) hm fun _ hl => hl

theorem step (ht : h.Timed turns xs) (turn : Turn) : ∃ xs', h.Timed (turns ++ [turn]) xs' := by
  rcases ht.gripped.step_cases turn.fair_none with hg' | ⟨r, hg'⟩ | ⟨k, x, g, g', rfl, hp, hg', hstepped⟩
  · exact ⟨xs, ht.same (by rw [after_concat]; exact hg')⟩
  · rw [← after_concat] at hg'
    refine ⟨_, hg', fun k x g hp moment hm => ?_⟩
    by_cases hlt : k < xs.length
    · exact ht.carry hg' (by rw [List.getElem?_append_left hlt] at hp; exact hp) hp hm fun _ hl => hl
    · -- A call that has just been made has read nothing.
      rw [List.getElem?_append_right (Nat.le_of_not_lt hlt)] at hp
      obtain ⟨-, rfl⟩ := Prod.mk.inj (List.mem_singleton.mp (List.mem_of_getElem? hp))
      cases hm
  · cases hstep : (h.after turns).isStep k (.go k) with
    | true =>
      rw [← after_concat] at hg' hstepped
      exact ⟨_, ht.go hp hstep hg' hstepped⟩
    | false =>
      refine ⟨xs, ht.same ?_⟩
      rw [after_concat, step_of_not_isStep (ht.gripped.call_of hp) hstep]
      exact ht.gripped

end Timed

end

theorem timed_after (setup : Setup) (turns : List Turn) : ∃ xs, (boot setup).Timed turns xs := by
  induction turns using List.reverseRecOn with
  | nil => exact ⟨[], ⟨rfl, fun _ hp => (by cases hp), .boot setup⟩, fun _ _ _ hp => (by cases hp)⟩
  | append_singleton turns turn ih =>
    obtain ⟨xs, ht⟩ := ih
    exact ht.step turn

/-! ## The end of a session -/

/-- A session is lost by a step of a call that is to end it, as of the time that this call has read. -/
theorem lost_at (setup : Setup) (turns : List Turn) (turn : Turn)
    (hnone : (((boot setup).after turns).broker.session i).disconnectedAt = none) :
    ((((boot setup).after turns).step turn).broker.session i).disconnectedAt = none ∨
      ∃ k x moment, turn = .go k ∧ ((boot setup).after turns).calls[k]? = some x ∧ x.request.isEnding ∧
        x.session? = some i ∧ (boot setup).HasRead turns k i moment ∧
        ((((boot setup).after turns).step turn).broker.session i).disconnectedAt = some moment := by
  obtain ⟨xs, ht⟩ := timed_after setup turns
  have hi : i < ((boot setup).after turns).broker.sessions.length := by
    by_contra hle
    rw [Broker.session_of_le (Nat.le_of_not_lt hle)] at hnone
    cases hnone
  obtain ⟨g, hevolves, hends⟩ := ht.gripped.evolves turn hi
  refine (hevolves.ends hnone).imp_right ?_
  rintro ⟨hending, moment, hm, hlost⟩
  obtain ⟨k, x, hturn, hp, hisEnding, hsession⟩ := hends hending
  obtain ⟨j, hj, hread⟩ := ht.read k x g hp moment hm
  obtain rfl : i = j := Option.some.inj (hsession.symm.trans hj)
  have hx := ht.gripped.call_of hp
  exact ⟨k, x, moment, hturn, hx, hisEnding,
    (ht.gripped.matched _ (List.mem_of_getElem? hp)).session.trans hsession, hread, hlost⟩

end Service

end TunnelBroker
