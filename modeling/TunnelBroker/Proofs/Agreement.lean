/-
  TunnelBroker.Proofs.Agreement — whether the registry and the store agree after changes that overlapped.

  The store and the registry see the same changes, each in an order of its own, and each keeps what the last one has left.

  - `Overlap.Kept`: what holds at any time; `Kept.go`: the step of one change keeps it.
  - `copies_agree_iff`: when all have returned, the two agree only if the last change of each leaves the same.
  - `serial_copies_agree`: where no two changes overlap, the two agree.
-/

import Mathlib.Data.List.Perm.Basic
import TunnelBroker.Proofs.Overlap
import TunnelBroker.Proofs.Restart

namespace TunnelBroker

open TunnelBroker.Store (Table)

/-! ## All changes -/

/-- The record or session that the last of some changes leaves; before them there was `a`. -/
def lastLeft {α : Type} (f : Write → α) (a : α) (writes : List Write) : α := (writes.getLast?.map f).getD a

@[simp] theorem lastLeft_concat {α : Type} (f : Write → α) (a : α) (writes : List Write) (w : Write) :
    lastLeft f a (writes ++ [w]) = f w := by
  unfold lastLeft
  rw [List.getLast?_concat, Option.map_some, Option.getD_some]

namespace Overlap

variable {h : Overlap} {start : Broker} {x x' : Writer} {k : Nat}

/-- The changes that have come so far, in the order in which they were begun. -/
def made (h : Overlap) (p : Writer → Bool) : List Write := (h.writers.filter p).map (·.write)

/-- One more change comes so far if its step takes it there. -/
theorem made_set (hx : h.writers[k]? = some x) (hwrite : x'.write = x.write) (p : Writer → Bool)
    (hp : p x = true → p x' = true) : (({ h with writers := h.writers.set k x' } : Overlap).made p).Perm
      (if p x' && !p x then h.made p ++ [x.write] else h.made p) := by
  obtain ⟨hlt, rfl⟩ := List.getElem?_eq_some_iff.mp hx
  have hbefore := ((List.getElem_cons_eraseIdx_perm hlt).filter p).map (·.write)
  have hafter := ((List.set_perm_cons_eraseIdx hlt x').filter p).map (·.write)
  unfold made
  rw [List.filter_cons] at hbefore hafter
  cases hpx : p h.writers[k] with
  | true =>
    rw [hpx] at hbefore hp
    rw [hp rfl] at hafter ⊢
    refine hafter.trans ?_
    simpa [hwrite] using hbefore
  | false =>
    rw [hpx] at hbefore
    cases hpx' : p x' with
    | false =>
      rw [hpx'] at hafter
      exact hafter.trans hbefore
    | true =>
      rw [hpx'] at hafter
      refine hafter.trans (.trans ?_ (List.perm_append_singleton ..).symm)
      simpa [hwrite] using hbefore

theorem isFor_of_sessions {b : Broker} (hsessions : b.sessions = start.sessions) {id : String} (w : Write) :
    w.isFor b id = w.isFor start id := by
  unfold Write.isFor
  cases w with
  | save i =>
    dsimp only
    rw [Broker.session_of_sessions hsessions, hsessions]
  | delete => rfl

/-- The store keeps what the last change there has left, and the registry knows what the last change there has left. Both
have seen each change that has come so far, once. -/
structure Kept (start : Broker) (h : Overlap) : Prop where
  sessions : h.broker.sessions = start.sessions
  allowed : ∀ use, h.broker.outside.refusal use = none
  stores : h.broker.Stores h.id (lastLeft (·.record? start) (start.recorded? h.id) h.stored)
  knows : h.broker.registry.find? h.id = lastLeft Write.session? (start.registry.find? h.id) h.entered
  writers : ∀ x ∈ h.writers, x.write.isFor start h.id = true ∧ x.Stage h.id start
  stored : h.stored.Perm (h.made Writer.hasStored)
  entered : h.entered.Perm (h.made Writer.hasEntered)

namespace Kept

theorem ofBroker {id : String} {r? : Option SessionRecord} (hallowed : ∀ use, start.outside.refusal use = none)
    (hstores : start.Stores id r?) : Kept start (ofBroker id start) where
  sessions := rfl
  allowed := hallowed
  stores := by
    have hrecorded := hstores.recorded?
    show start.Stores id (start.recorded? id)
    rw [hrecorded]
    exact hstores
  knows := rfl
  writers _ hx := by cases hx
  stored := .refl _
  entered := .refl _

theorem write (hk : h.Kept start) {w : Write} (hw : w.isFor h.broker h.id = true) :
    Kept start { h with writers := h.writers ++ [.ofWrite h.id w] } := by
  have hstage := Writer.stage_ofWrite h.id start w
  have hstored : (Writer.ofWrite h.id w).hasStored = false :=
    Writer.hasStored_eq_false (Storing.atStore h.id start w).not_stored
  have hmade (p : Writer → Bool) (hp : p (.ofWrite h.id w) = false) :
      ({ h with writers := h.writers ++ [.ofWrite h.id w] } : Overlap).made p = h.made p := by
    unfold made
    rw [List.filter_append, List.filter_singleton, hp]
    simp
  refine ⟨hk.sessions, hk.allowed, hk.stores, hk.knows, ?_, ?_, ?_⟩
  · intro x hx
    rcases List.mem_append.mp hx with hx | hx
    · exact hk.writers x hx
    · obtain rfl := List.mem_singleton.mp hx
      exact ⟨(isFor_of_sessions hk.sessions w).symm.trans hw, hstage⟩
  · rw [hmade _ hstored]
    exact hk.stored
  · rw [hmade _ (Writer.hasEntered_eq_false hstored)]
    exact hk.entered

theorem go (hk : h.Kept start) (k : Nat) : (h.step (.go k)).Kept start := by
  cases hx : h.writers[k]? with
  | none => simpa only [step, hx] using hk
  | some x =>
    obtain ⟨hw, hstage⟩ := hk.writers x (List.mem_of_getElem? hx)
    obtain ⟨hmoved, hstage', hwrite⟩ := Writer.step_moved hstage hw hk.sessions hk.stores hk.allowed h.isHeld
    simp only [step, hx]
    generalize x.step h.isHeld h.broker = p at hmoved hstage' hwrite ⊢
    have hwriters : ∀ y ∈ h.writers.set k p.1, y.write.isFor start h.id = true ∧ y.Stage h.id start := by
      intro y hy
      rcases List.mem_or_eq_of_mem_set hy with hy | rfl
      · exact hk.writers y hy
      · exact ⟨by rw [hwrite]; exact hw, hstage'⟩
    have hmade := made_set hx hwrite
    cases hmoved with
    | @idle x' hstored hentered =>
      have hstored' := hmade Writer.hasStored (fun h => by rw [hstored, h])
      have hentered' := hmade Writer.hasEntered (fun h => by rw [hentered, h])
      simp only [hstored, hentered, Bool.and_not_self, Bool.false_eq_true, if_false] at hstored' hentered' ⊢
      exact ⟨hk.sessions, hk.allowed, hk.stores, hk.knows, hwriters, hk.stored.trans hstored'.symm,
        hk.entered.trans hentered'.symm⟩
    | @stored x' store' hstored hstored₁ hentered hentered₁ hstores =>
      have hstored' := hmade Writer.hasStored (fun _ => hstored₁)
      have hentered' := hmade Writer.hasEntered (fun h => by rw [hentered] at h; cases h)
      simp only [hstored, hstored₁, hentered, hentered₁, Bool.not_false, Bool.and_self, Bool.and_true,
        Bool.false_eq_true, if_false, if_true] at hstored' hentered' ⊢
      refine ⟨hk.sessions, hk.allowed, ?_, hk.knows, hwriters, (hk.stored.append_right _).trans hstored'.symm,
        hk.entered.trans hentered'.symm⟩
      rw [lastLeft_concat]
      exact hstores
    | @entered x' registry' hstored hstored₁ hentered hentered₁ hknows =>
      have hstored' := hmade Writer.hasStored (fun _ => hstored₁)
      have hentered' := hmade Writer.hasEntered (fun _ => hentered₁)
      simp only [hstored, hstored₁, hentered, hentered₁, Bool.not_true, Bool.and_false, Bool.not_false, Bool.and_self,
        Bool.false_eq_true, if_false, if_true] at hstored' hentered' ⊢
      refine ⟨hk.sessions, hk.allowed, hk.stores, ?_, hwriters, hk.stored.trans hstored'.symm,
        (hk.entered.append_right _).trans hentered'.symm⟩
      rw [lastLeft_concat]
      exact hknows

theorem step (hk : h.Kept start) (turn : Turn) : (h.step turn).Kept start := by
  cases turn with
  | later now => exact ⟨hk.sessions, hk.allowed, hk.stores, hk.knows, hk.writers, hk.stored, hk.entered⟩
  | write w =>
    unfold Overlap.step
    dsimp only
    split
    · rename_i hw
      exact hk.write hw
    · exact hk
  | go k => exact hk.go k

theorem after (hk : h.Kept start) (turns : List Turn) : (h.after turns).Kept start := by
  induction turns generalizing h with
  | nil => exact hk
  | cons turn rest ih => exact ih (hk.step turn)

end Kept

end Overlap

/-! ## When all have returned -/

namespace Writer

variable {x : Writer}

theorem hasEntered_iff : x.hasEntered = true ↔ x.result? = some (.ok ()) := by
  obtain ⟨write, storing, entering, locks⟩ := x
  cases storing with
  | done result =>
    cases result with
    | error e => exact iff_of_false nofun nofun
    | ok _ =>
      cases entering with
      | done _ => exact iff_of_true rfl rfl
      | _ => exact iff_of_false nofun nofun
  | _ => exact iff_of_false nofun nofun

/-- A change that has returned was made in both places or in none. -/
theorem hasStored_eq_hasEntered (h : x.result?.isSome) : x.hasStored = x.hasEntered := by
  obtain ⟨write, storing, entering, locks⟩ := x
  cases storing with
  | done result =>
    cases result with
    | error e => rfl
    | ok _ =>
      cases entering with
      | done _ => rfl
      | _ => cases h
  | _ => cases h

end Writer

theorem InStep.stores {b : Broker} {t : Table SessionRecord} (h : InStep b t) (id : String) : b.Stores id (t.find? id) := by
  obtain ⟨store, hstore, hholds⟩ := h.holds
  exact ⟨store, t, hstore, hholds, h.sorted, h.named, rfl⟩

/-- The registry and the store agree on an id where the last change of each leaves the same. -/
theorem Overlap.Kept.agrees_iff {h : Overlap} {start : Broker} (hk : h.Kept start) {w v : Write}
    (hw : h.stored.getLast? = some w) (hv : h.entered.getLast? = some v) :
    h.broker.AgreesOn h.id ↔ w.record? start = v.record? start := by
  have hrecorded : h.broker.recorded? h.id = w.record? start := by
    rw [hk.stores.recorded?, lastLeft, hw]
    rfl
  have hknown : h.broker.registry.find? h.id = v.session? := by
    rw [hk.knows, lastLeft, hv]
    rfl
  have hrecord : (fun i => (h.broker.session i).record) = fun i => (start.session i).record := by
    funext i
    rw [Broker.session_of_sessions hk.sessions]
  unfold Broker.AgreesOn
  rw [hrecorded, hknown, hrecord]
  rfl

theorem Overlap.id_after (h : Overlap) (turns : List Turn) : (h.after turns).id = h.id := by
  induction turns generalizing h with
  | nil => rfl
  | cons turn rest ih =>
    refine (ih (h.step turn)).trans ?_
    cases turn with
    | later now => rfl
    | write w =>
      unfold Overlap.step
      dsimp only
      split
      · rfl
      · rfl
    | go k =>
      unfold Overlap.step
      dsimp only
      split
      · rfl
      · rfl

/-- From an empty store on, after any events, any number of saves and deletes of one id are under way at once, and the
store refuses nothing. When all have returned, the store and the registry have both seen just those that were made, each
in an order of its own: the store keeps what the last one there has left, and the registry knows what the last one there
has left. Where any were made, the two agree on the id if these two leave the same, and only then. -/
theorem copies_agree_iff {setup : Setup} {kept : Store} (hstore : setup.store = some kept) (hempty : kept.IsEmpty)
    (events : List Event) (hallowed : ∀ use, (setup.boot.after events).outside.refusal use = none) (id : String)
    (turns : List Overlap.Turn) :
    let start := setup.boot.after events
    let h := (Overlap.ofBroker id start).after turns
    h.IsIdle →
      h.stored.Perm (h.made fun x => x.result? = some (.ok ())) ∧
      h.entered.Perm (h.made fun x => x.result? = some (.ok ())) ∧
      h.broker.recorded? id = lastLeft (·.record? start) (start.recorded? id) h.stored ∧
      h.broker.registry.find? id = lastLeft Write.session? (start.registry.find? id) h.entered ∧
      ∀ w v, h.stored.getLast? = some w → h.entered.getLast? = some v →
        (h.broker.AgreesOn id ↔ w.record? start = v.record? start) := by
  intro start h hidle
  obtain ⟨t, hstep, -⟩ := (Setup.inStep_boot hstore hempty).after events
  have hk : h.Kept start := (Overlap.Kept.ofBroker hallowed (hstep.stores id)).after turns
  have hid : h.id = id := Overlap.id_after _ turns
  have hentered : h.made Writer.hasEntered = h.made fun x => x.result? = some (.ok ()) := by
    refine congrArg (List.map _) (List.filter_congr fun x _ => ?_)
    rw [Bool.eq_iff_iff, decide_eq_true_eq]
    exact Writer.hasEntered_iff
  have hstored : h.made Writer.hasStored = h.made Writer.hasEntered :=
    congrArg (List.map _) (List.filter_congr fun x hx => Writer.hasStored_eq_hasEntered (hidle x hx))
  refine ⟨?_, ?_, ?_, ?_, ?_⟩
  · rw [← hentered, ← hstored]
    exact hk.stored
  · rw [← hentered]
    exact hk.entered
  · rw [← hid]
    exact hk.stores.recorded?
  · rw [← hid]
    exact hk.knows
  · intro w v hw hv
    rw [← hid]
    exact hk.agrees_iff hw hv

/-- A session is saved, and between the two steps of that its id is deleted: in the end the session is known and has no
record. -/
theorem save_outlives_its_record :
    let setup : Setup := { pool := ⟨#[20000]⟩, store := some (.database (some {})) }
    let events : List Event := [.arrival default, .command (.start "a" 0 {} none false)]
    let turns : List Overlap.Turn :=
      [.write (.save 0), .write .delete] ++ .replicate 6 (.go 0) ++ .replicate 3 (.go 1) ++ [.go 0]
    let h := (Overlap.ofBroker "a" (setup.boot.after events)).after turns
    h.writers.map Writer.result? = [some (.ok ()), some (.ok ())] ∧ h.stored = [.save 0, .delete] ∧
      h.entered = [.delete, .save 0] ∧ h.broker.registry.find? "a" = some 0 ∧ (h.broker.session 0).isActive = true ∧
      h.broker.recorded? "a" = none ∧ ¬ h.broker.AgreesOn "a" := by
  intro setup events turns h
  have hidle : h.IsIdle := by
    unfold Overlap.IsIdle
    decide +kernel
  have hstored : h.stored = [.save 0, .delete] := by decide +kernel
  have hentered : h.entered = [.delete, .save 0] := by decide +kernel
  obtain ⟨-, -, hrecorded, hknown, hagrees⟩ :=
    @copies_agree_iff setup (.database (some {})) rfl (.inr rfl) events (fun _ => rfl) "a" turns hidle
  refine ⟨by decide +kernel, hstored, hentered, ?_, by decide +kernel, ?_, ?_⟩
  · rw [hknown, hentered]
    rfl
  · rw [hrecorded, hstored]
    rfl
  · rw [hagrees .delete (.save 0) (by rw [hstored]; rfl) (by rw [hentered]; rfl)]
    exact fun hsame => by cases hsame

/-! ## One change after the other -/

/-- It has changed the store and not yet the registry. -/
def Writer.isBetween (x : Writer) : Bool := x.hasStored && !x.hasEntered

/-- Whoever has returned takes no more steps. -/
theorem Writer.step_of_returned {x : Writer} (h : x.result?.isSome) (isHeld : Lock → Bool) (b : Broker) :
    x.step isHeld b = (x, b) := by
  obtain ⟨write, storing, entering, locks⟩ := x
  cases storing with
  | done result =>
    cases result with
    | error e => rfl
    | ok _ =>
      cases entering with
      | done _ => rfl
      | _ => cases h
  | _ => cases h

namespace Overlap

variable {h : Overlap} {start : Broker} {x : Writer} {k : Nat}

/-- Whenever a change is begun, all others have returned. -/
def IsSerial (h : Overlap) : List Turn → Prop
  | [] => True
  | turn :: rest => ((∃ w, turn = .write w) → h.IsIdle) ∧ (h.step turn).IsSerial rest

/-- Only the change that was begun last may be under way. The registry has seen what the store has seen, in the same
order, but for the step that this change has still to take. -/
structure InTurn (h : Overlap) : Prop where
  returned : ∀ x ∈ h.writers.dropLast, x.result?.isSome
  seen : h.stored = h.entered ++ ((h.writers.getLast?.filter Writer.isBetween).map (·.write)).toList

theorem step_of_returned (hx : h.writers[k]? = some x) (hreturned : x.result?.isSome) : h.step (.go k) = h := by
  have hsame : h.writers.set k x = h.writers := by
    obtain ⟨hlt, rfl⟩ := List.getElem?_eq_some_iff.mp hx
    exact List.set_getElem_self hlt
  simp only [step, hx, Writer.step_of_returned hreturned, Bool.and_not_self, Bool.false_eq_true, if_false, hsame]

theorem InTurn.same (ht : h.InTurn) (hidle : h.IsIdle) : h.stored = h.entered := by
  have hnone : h.writers.getLast?.filter Writer.isBetween = none := by
    refine Option.filter_eq_none_iff.mpr fun x hx => ?_
    unfold Writer.isBetween
    rw [Writer.hasStored_eq_hasEntered (hidle x (List.mem_of_getLast? hx)), Bool.and_not_self]
    exact Bool.false_ne_true
  rw [ht.seen, hnone]
  exact List.append_nil _

/-- The change that was begun last takes its step. -/
theorem InTurn.go_last (ht : h.InTurn) (hk : h.Kept start) {before : List Writer} (hwriters : h.writers = before ++ [x]) :
    (h.step (.go before.length)).InTurn := by
  have hx : h.writers[before.length]? = some x := by
    rw [hwriters]
    exact List.getElem?_concat_length
  have hset (x' : Writer) : h.writers.set before.length x' = before ++ [x'] := by
    rw [hwriters, List.set_append_right _ _ (Nat.le_refl _), Nat.sub_self]
    rfl
  have hbefore : ∀ y ∈ before, y.result?.isSome := by
    have hreturned := ht.returned
    rwa [hwriters, List.dropLast_concat] at hreturned
  have hseen := ht.seen
  rw [hwriters, List.getLast?_concat] at hseen
  obtain ⟨hw, hstage⟩ := hk.writers x (List.mem_of_getElem? hx)
  obtain ⟨hmoved, -, hwrite⟩ := Writer.step_moved hstage hw hk.sessions hk.stores hk.allowed h.isHeld
  simp only [step, hx, hset]
  generalize x.step h.isHeld h.broker = p at hmoved hwrite ⊢
  refine ⟨by rwa [List.dropLast_concat], ?_⟩
  dsimp only
  rw [List.getLast?_concat]
  unfold Writer.isBetween at hseen ⊢
  cases hmoved with
  | idle hstored hentered =>
    simp only [hstored, hentered, Bool.and_not_self, Bool.false_eq_true, if_false, hseen, Option.filter_some]
    split
    · rw [Option.map_some, Option.map_some, hwrite]
    · rfl
  | stored hstored hstored' hentered hentered' hstores =>
    simp only [hstored, hentered, hstored', hentered', Option.filter_some, Bool.not_false, Bool.and_true, Bool.and_self,
      Bool.false_eq_true, if_false, if_true, Option.map_none, Option.map_some, Option.toList_none, Option.toList_some,
      List.append_nil] at hseen ⊢
    rw [hseen, ← hwrite]
  | entered hstored hstored' hentered hentered' hknows =>
    simp only [hstored, hentered, hstored', hentered', Option.filter_some, Bool.not_false, Bool.not_true, Bool.and_false,
      Bool.and_self, Bool.false_eq_true, if_false, if_true, Option.map_none, Option.map_some,
      Option.toList_none, Option.toList_some, List.append_nil] at hseen ⊢
    exact hseen

theorem InTurn.step (ht : h.InTurn) (hk : h.Kept start) {turn : Turn} (hserial : (∃ w, turn = .write w) → h.IsIdle) :
    (h.step turn).InTurn := by
  cases turn with
  | later now => exact ⟨ht.returned, ht.seen⟩
  | write w =>
    have hidle := hserial ⟨w, rfl⟩
    have hbetween : (Writer.ofWrite h.id w).isBetween = false := by
      unfold Writer.isBetween
      rw [Writer.hasStored_eq_false (Storing.atStore h.id start w).not_stored, Bool.false_and]
    unfold Overlap.step
    dsimp only
    split
    · refine ⟨?_, ?_⟩
      · rw [List.dropLast_concat]
        exact hidle
      · dsimp only
        rw [List.getLast?_concat, Option.filter_some, hbetween, ht.same hidle]
        exact (List.append_nil _).symm
    · exact ht
  | go k =>
    rcases List.eq_nil_or_concat' h.writers with hnil | ⟨before, x, hwriters⟩
    · have hnone : h.step (.go k) = h := by simp only [Overlap.step, hnil, List.getElem?_nil]
      rw [hnone]
      exact ht
    · rcases Nat.lt_trichotomy k before.length with hlt | rfl | hgt
      · have hk' : h.writers[k]? = some before[k] := by
          rw [hwriters, List.getElem?_append_left hlt, List.getElem?_eq_getElem hlt]
        have hreturned := ht.returned
        rw [hwriters, List.dropLast_concat] at hreturned
        rw [step_of_returned hk' (hreturned _ (List.getElem_mem hlt))]
        exact ht
      · exact ht.go_last hk hwriters
      · have hnone : h.writers[k]? = none := by
          rw [hwriters, List.getElem?_eq_none_iff, List.length_append, List.length_singleton]
          exact hgt
        have hsame : h.step (.go k) = h := by simp only [Overlap.step, hnone]
        rw [hsame]
        exact ht

theorem InTurn.after (ht : h.InTurn) (hk : h.Kept start) {turns : List Turn} (hserial : h.IsSerial turns) :
    (h.after turns).InTurn := by
  induction turns generalizing h with
  | nil => exact ht
  | cons turn rest ih => exact ih (ht.step hk hserial.1) (hk.step turn) hserial.2

end Overlap

/-- Changes that are made one after the other leave the registry and the store in agreement. -/
theorem serial_copies_agree {setup : Setup} {kept : Store} (hstore : setup.store = some kept) (hempty : kept.IsEmpty)
    (events : List Event) (hallowed : ∀ use, (setup.boot.after events).outside.refusal use = none) (id : String)
    (turns : List Overlap.Turn) :
    let h := (Overlap.ofBroker id (setup.boot.after events)).after turns
    (Overlap.ofBroker id (setup.boot.after events)).IsSerial turns → h.IsIdle →
      h.stored = h.entered ∧ (h.stored ≠ [] → h.broker.AgreesOn id) := by
  intro h hserial hidle
  obtain ⟨t, hstep, -⟩ := (Setup.inStep_boot hstore hempty).after events
  have hfirst := Overlap.Kept.ofBroker hallowed (hstep.stores id)
  have hnone : (Overlap.ofBroker id (setup.boot.after events)).InTurn := ⟨nofun, rfl⟩
  have hsame : h.stored = h.entered := (hnone.after hfirst hserial).same hidle
  refine ⟨hsame, ?_⟩
  intro hany
  obtain ⟨w, hw⟩ := Option.ne_none_iff_exists'.mp (List.getLast?_eq_none_iff.not.mpr hany)
  have hid : h.id = id := Overlap.id_after _ turns
  rw [← hid, (hfirst.after turns).agrees_iff hw (hsame ▸ hw)]

end TunnelBroker
