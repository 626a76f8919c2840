/-
  TunnelBroker.Proofs.Allocation — what an allocator gives out, whoever asks it and in whatever order.

  Batches share one allocator. Each of their steps at it is atomic, but between the question of a refresh and
  the answer to it others lease and release. A `Desk` is an allocator with the questions that are open and a
  log of all that was done at it; the answer to a question may be anything.

  - `Desk.Sound`: the leases of the allocator are those that the log has given out and not taken back.
  - `Desk.Sound.step`: every step keeps that.
  - `allocator_safe_and_complete`: what follows for every desk that steps lead to.
-/

import Mathlib.Data.List.Nodup
import TunnelBroker.Ports.Allocator

namespace TunnelBroker.Ports

open TunnelBroker.Net (Port)
open TunnelBroker.Time (Duration)

/-! ## Desks -/

/-- What was done at a desk. -/
inductive Entry where
  | asked (batch : Nat) (candidates : List Port)
  | answered (batch : Nat) (candidates : List Port) (answer : Answer)
  | leased (port : Port)
  | refused (error : PortError)
  /-- A port was given back; whether it was leased. -/
  | released (port : Port) (held : Bool)
  deriving DecidableEq, Repr

/-- An allocator that batches use. -/
structure Desk where
  allocator : Allocator
  /-- What the refreshes that have not ended ask about, each with its batch. -/
  questions : List (Nat × List Port) := []
  /-- All that was done, the last at the end. -/
  log : List Entry := []

namespace Entry

/-- A port was given out. -/
def isLease : Entry → Bool
  | leased _ => true
  | _ => false

/-- A leased port was given back. -/
def isReturn : Entry → Bool
  | released _ held => held
  | _ => false

/-- What is known to be busy after an entry, if `busy` was before it. -/
def known (busy : List Port) : Entry → List Port
  | answered _ _ (.busy ports) => ports
  | _ => busy

end Entry

namespace Desk

/-- What a batch does at a desk. -/
inductive Step where
  | beginRefresh (batch : Nat)
  /-- The source that the batch has asked answers, or fails to. -/
  | endRefresh (batch : Nat) (source : List Port → Answer)
  | lease (draw : List Port → Nat)
  | release (port : Port)

/-- A desk at which nothing was done yet. -/
def new (pool : Pool) (timeout : Duration) : Desk := { allocator := { pool, timeout } }

def step (d : Desk) : Step → Desk
  | .beginRefresh batch =>
    { d with questions := (batch, d.allocator.candidates) :: d.questions,
             log := d.log ++ [.asked batch d.allocator.candidates] }
  | .endRefresh batch source =>
    match d.questions.lookup batch with
    | none => d
    | some candidates =>
      { allocator := (d.allocator.adopt (source candidates)).2,
        questions := d.questions.filter fun q => q.1 != batch,
        log := d.log ++ [.answered batch candidates (source candidates)] }
  | .lease draw =>
    match d.allocator.lease draw with
    | (.ok port, allocator) => { d with allocator, log := d.log ++ [.leased port] }
    | (.error e, allocator) => { d with allocator, log := d.log ++ [.refused e] }
  | .release port =>
    { d with allocator := (d.allocator.release port).2,
             log := d.log ++ [.released port (d.allocator.release port).1] }

def after (d : Desk) (steps : List Step) : Desk := steps.foldl step d

/-- The ports that the last good answer named. -/
def snapshot (log : List Entry) : List Port := log.foldl Entry.known []

/-- A port was given out, and nobody has given it back since. -/
def IsOut (port : Port) (log : List Entry) : Prop :=
  ∃ before since, log = before ++ .leased port :: since ∧ .released port true ∉ since

end Desk

/-! ## What an allocator gives out -/

namespace Allocator

variable {a : Allocator} {port : Port}

theorem mem_candidates : port ∈ a.candidates ↔ port ∈ a.pool.toList ∧ port ∉ a.leased := by
  simp [candidates, List.mem_filter]

theorem mem_free : port ∈ a.free ↔ port ∈ a.pool.toList ∧ port ∉ a.busy ∧ port ∉ a.leased := by
  simp [free, List.mem_filter]

/-- A lease is of a free port, unless there is none. -/
theorem lease_cases (a : Allocator) (draw : List Port → Nat) :
    (a.free = [] ∧ a.lease draw = (.error (.exhausted a.pool.size), a)) ∨
      ∃ port ∈ a.free, a.lease draw = (.ok port, { a with leased := port :: a.leased }) := by
  cases hf : a.free with
  | nil => exact .inl ⟨rfl, by simp [lease, hf]⟩
  | cons p ps =>
    have hlt : draw (p :: ps) % (p :: ps).length < (p :: ps).length := Nat.mod_lt _ (by simp)
    refine .inr ⟨_, List.getElem_mem hlt, ?_⟩
    simp only [lease, hf, List.getElem?_eq_getElem hlt]

/-- Any free port may be the one that is drawn. -/
theorem exists_draw_of_mem_free (h : port ∈ a.free) : ∃ draw, (a.lease draw).1 = .ok port := by
  obtain ⟨k, hk, rfl⟩ := List.getElem_of_mem h
  refine ⟨fun _ => k, ?_⟩
  simp only [lease, Nat.mod_eq_of_lt hk, List.getElem?_eq_getElem hk]

theorem mem_free_of_lease {draw : List Port → Nat} (h : (a.lease draw).1 = .ok port) : port ∈ a.free := by
  rcases a.lease_cases draw with ⟨-, he⟩ | ⟨p, hp, he⟩
  · rw [he] at h
    cases h
  · rw [he] at h
    obtain rfl := Except.ok.inj h
    exact hp

/-- No port is given out exactly if none is free. -/
theorem lease_error_iff (draw : List Port → Nat) {e : PortError} :
    (a.lease draw).1 = .error e ↔ e = .exhausted a.pool.size ∧ a.free = [] := by
  rcases a.lease_cases draw with ⟨hnone, he⟩ | ⟨port, hport, he⟩
  · rw [he]
    exact ⟨fun h => ⟨(Except.error.inj h).symm, hnone⟩, fun h => congrArg Except.error h.1.symm⟩
  · rw [he]
    refine ⟨nofun, fun h => ?_⟩
    rw [h.2] at hport; cases hport

/-- An answer is taken as the snapshot if it is one, and changes nothing else. -/
theorem adopt_eq (a : Allocator) (batch : Nat) (candidates : List Port) (answer : Answer) :
    (a.adopt answer).2 = { a with busy := (Entry.answered batch candidates answer).known a.busy } := by
  cases answer <;> rfl

end Allocator

/-! ## The leases and the log -/

namespace Desk

variable {d : Desk} {pool : Pool} {log : List Entry} {port : Port} {e : Entry}

theorem snapshot_concat (log : List Entry) (e : Entry) : snapshot (log ++ [e]) = e.known (snapshot log) := by
  simp [snapshot]

/-- A port that is given out is out. -/
theorem isOut_leased (log : List Entry) (port : Port) : IsOut port (log ++ [.leased port]) :=
  ⟨log, [], rfl, List.not_mem_nil⟩

/-- Nothing but its own lease or return changes whether a port is out. -/
theorem isOut_concat (hlease : e ≠ .leased port) :
    IsOut port (log ++ [e]) ↔ IsOut port log ∧ e ≠ .released port true := by
  constructor
  · rintro ⟨before, since, hlog, hsince⟩
    -- The entry is the last one since the lease, as it is not the lease itself.
    rcases List.eq_nil_or_concat since with rfl | ⟨rest, last, rfl⟩
    · obtain ⟨-, hlast⟩ := List.append_inj' hlog rfl
      exact absurd (List.singleton_inj.mp hlast) hlease
    · have hlog' : log ++ [e] = (before ++ .leased port :: rest) ++ [last] := by simpa using hlog
      obtain ⟨rfl, hlast⟩ := List.append_inj' hlog' rfl
      obtain rfl : e = last := List.singleton_inj.mp hlast
      simp only [List.concat_eq_append, List.mem_append, List.mem_singleton, not_or] at hsince
      exact ⟨⟨before, rest, rfl, hsince.1⟩, fun h => hsince.2 h.symm⟩
  · rintro ⟨⟨before, since, rfl, hsince⟩, hreturn⟩
    refine ⟨before, since ++ [e], by simp, ?_⟩
    simp only [List.mem_append, List.mem_singleton, not_or]
    exact ⟨hsince, fun h => hreturn h.symm⟩

theorem isOut_of_isOut_leased {p : Port} (h : p ≠ port) :
    IsOut port (log ++ [.leased p]) ↔ IsOut port log := by
  rw [isOut_concat (by simpa using h)]
  simp

/-- The allocator agrees with the log. -/
structure Sound (pool : Pool) (d : Desk) : Prop where
  samePool : d.allocator.pool = pool
  snapshot : d.allocator.busy = Desk.snapshot d.log
  nodup : d.allocator.leased.Nodup
  inPool : ∀ port ∈ d.allocator.leased, port ∈ pool.toList
  /-- The leased ports are those that are out. -/
  leased : ∀ port, port ∈ d.allocator.leased ↔ IsOut port d.log
  count : d.allocator.leased.length + d.log.countP Entry.isReturn = d.log.countP Entry.isLease
  /-- A port that was given out was not out before. -/
  fresh : ∀ before port, before ++ [.leased port] <+: d.log → ¬ IsOut port before
  questions : ∀ batch candidates, (batch, candidates) ∈ d.questions → .asked batch candidates ∈ d.log
  answers : ∀ before batch candidates answer, before ++ [.answered batch candidates answer] <+: d.log →
    .asked batch candidates ∈ before

namespace Sound

theorem new (pool : Pool) (timeout : Duration) : Sound pool (Desk.new pool timeout) where
  samePool := rfl
  snapshot := rfl
  nodup := .nil
  inPool port hp := by cases hp
  leased port := by
    refine ⟨nofun, fun ⟨before, since, hlog, _⟩ => ?_⟩
    have hnil : ([] : List Entry) = before ++ .leased port :: since := hlog
    simp at hnil
  count := rfl
  fresh before port hp := by simp [Desk.new] at hp
  questions batch candidates hq := by cases hq
  answers before batch candidates answer hp := by simp [Desk.new] at hp

/-- An entry that gives no port out and takes none back leaves the leases alone. -/
theorem note (h : Sound pool d) (a : Allocator) (questions : List (Nat × List Port))
    (hpool : a.pool = d.allocator.pool) (hbusy : a.busy = e.known d.allocator.busy)
    (hleased : a.leased = d.allocator.leased) (hlease : e.isLease = false) (hreturn : e.isReturn = false)
    (hquestions : ∀ batch candidates, (batch, candidates) ∈ questions →
      (batch, candidates) ∈ d.questions ∨ e = .asked batch candidates)
    (hanswers : ∀ batch candidates answer, e = .answered batch candidates answer → .asked batch candidates ∈ d.log) :
    Sound pool ⟨a, questions, d.log ++ [e]⟩ where
  samePool := hpool.trans h.samePool
  snapshot := by rw [snapshot_concat, ← h.snapshot]; exact hbusy
  nodup := by rw [hleased]; exact h.nodup
  inPool := by rw [hleased]; exact h.inPool
  leased port := by
    have hne : e ≠ .leased port := fun he => by rw [he] at hlease; cases hlease
    have hne' : e ≠ .released port true := fun he => by rw [he] at hreturn; cases hreturn
    rw [isOut_concat hne, hleased, h.leased]
    exact ⟨fun ho => ⟨ho, hne'⟩, And.left⟩
  count := by
    simp only [List.countP_append, List.countP_singleton, hlease, hreturn, hleased]
    exact h.count
  fresh before port hp := by
    rcases List.prefix_concat_iff.mp hp with heq | hp
    · obtain ⟨-, hlast⟩ := List.append_inj' heq rfl
      rw [← List.singleton_inj.mp hlast] at hlease; cases hlease
    · exact h.fresh before port hp
  questions batch candidates hq := by
    rcases hquestions batch candidates hq with hq | rfl
    · exact List.mem_append_left _ (h.questions batch candidates hq)
    · exact List.mem_append_right _ (List.mem_singleton_self _)
  answers before batch candidates answer hp := by
    rcases List.prefix_concat_iff.mp hp with heq | hp
    · obtain ⟨rfl, hlast⟩ := List.append_inj' heq rfl
      exact hanswers batch candidates answer (List.singleton_inj.mp hlast).symm
    · exact h.answers before batch candidates answer hp

theorem leaseStep (h : Sound pool d) (hfree : port ∈ d.allocator.free) :
    Sound pool { d with allocator := { d.allocator with leased := port :: d.allocator.leased },
                        log := d.log ++ [.leased port] } := by
  obtain ⟨hpool, -, hleased⟩ := Allocator.mem_free.mp hfree
  exact
    { samePool := h.samePool
      snapshot := by rw [snapshot_concat]; exact h.snapshot
      nodup := List.nodup_cons.mpr ⟨hleased, h.nodup⟩
      inPool := fun p hp => by
        rcases List.mem_cons.mp hp with rfl | hp
        · rw [← h.samePool]; exact hpool
        · exact h.inPool p hp
      leased := fun p => by
        by_cases hp : port = p
        · subst hp
          exact ⟨fun _ => isOut_leased _ _, fun _ => List.mem_cons_self ..⟩
        · rw [isOut_of_isOut_leased hp, ← h.leased p]
          simp [List.mem_cons, Ne.symm hp]
      count := by
        have := h.count
        simp only [List.countP_append, List.countP_singleton, List.length_cons, Entry.isLease, Entry.isReturn]
        simp only [Bool.false_eq_true, if_true, if_false]
        omega
      fresh := fun before p hp => by
        rcases List.prefix_concat_iff.mp hp with heq | hp
        · obtain ⟨rfl, hlast⟩ := List.append_inj' heq rfl
          cases hlast
          exact fun hout => hleased ((h.leased _).mpr hout)
        · exact h.fresh before p hp
      questions := fun batch candidates hq => List.mem_append_left _ (h.questions batch candidates hq)
      answers := fun before batch candidates answer hp => by
        rcases List.prefix_concat_iff.mp hp with heq | hp
        · obtain ⟨-, hlast⟩ := List.append_inj' heq rfl
          cases hlast
        · exact h.answers before batch candidates answer hp }

theorem releaseStep (h : Sound pool d) (hleased : port ∈ d.allocator.leased) :
    Sound pool { d with allocator := { d.allocator with leased := d.allocator.leased.erase port },
                        log := d.log ++ [.released port true] } where
  samePool := h.samePool
  snapshot := by rw [snapshot_concat]; exact h.snapshot
  nodup := h.nodup.erase port
  inPool p hp := h.inPool p (List.mem_of_mem_erase hp)
  leased p := by
    show p ∈ d.allocator.leased.erase port ↔ IsOut p (d.log ++ [.released port true])
    rw [isOut_concat (by simp), ← h.leased, h.nodup.mem_erase_iff]
    constructor
    · rintro ⟨hne, hp⟩
      exact ⟨hp, fun he => hne (Entry.released.inj he).1.symm⟩
    · rintro ⟨hp, hne⟩
      exact ⟨fun he => hne (by rw [he]), hp⟩
  count := by
    have hlen := List.length_erase_of_mem hleased
    have hpos := List.length_pos_of_mem hleased
    have := h.count
    simp only [List.countP_append, List.countP_singleton, Entry.isLease, Entry.isReturn, hlen]
    simp only [Bool.false_eq_true, if_true, if_false]
    omega
  fresh before p hp := by
    rcases List.prefix_concat_iff.mp hp with heq | hp
    · obtain ⟨-, hlast⟩ := List.append_inj' heq rfl
      cases hlast
    · exact h.fresh before p hp
  questions batch candidates hq := List.mem_append_left _ (h.questions batch candidates hq)
  answers before batch candidates answer hp := by
    rcases List.prefix_concat_iff.mp hp with heq | hp
    · obtain ⟨-, hlast⟩ := List.append_inj' heq rfl
      cases hlast
    · exact h.answers before batch candidates answer hp

theorem mem_of_lookup {batch : Nat} {candidates : List Port} {questions : List (Nat × List Port)}
    (h : questions.lookup batch = some candidates) : (batch, candidates) ∈ questions := by
  induction questions with
  | nil => cases h
  | cons q rest ih =>
    rw [List.lookup_cons] at h
    split at h
    · rename_i hq
      cases h
      rw [beq_iff_eq.mp hq]
      exact List.mem_cons_self ..
    · exact List.mem_cons_of_mem _ (ih h)

/-- Every step at a desk keeps the allocator in agreement with the log. -/
theorem step (h : Sound pool d) (s : Step) : Sound pool (d.step s) := by
  cases s with
  | beginRefresh batch =>
    refine h.note (e := .asked batch d.allocator.candidates) d.allocator _ rfl rfl rfl rfl rfl ?_ nofun
    intro b cs hq
    rcases List.mem_cons.mp hq with hq | hq
    · cases hq; exact .inr rfl
    · exact .inl hq
  | endRefresh batch source =>
    simp only [Desk.step]
    cases hq : d.questions.lookup batch with
    | none => exact h
    | some candidates =>
      have hadopt := d.allocator.adopt_eq batch candidates (source candidates)
      refine h.note (e := .answered batch candidates (source candidates)) _ _ ?_ ?_ ?_ rfl rfl
        (fun b cs hq => .inl (List.mem_filter.mp hq).1) ?_
      · rw [hadopt]
      · rw [hadopt]
      · rw [hadopt]
      · intro b cs answer he
        cases he
        exact h.questions batch candidates (mem_of_lookup hq)
  | lease draw =>
    simp only [Desk.step]
    rcases d.allocator.lease_cases draw with ⟨_, he⟩ | ⟨port, hfree, he⟩
    · rw [he]; exact h.note d.allocator d.questions rfl rfl rfl rfl rfl (fun _ _ hq => .inl hq) nofun
    · rw [he]; exact h.leaseStep hfree
  | release port =>
    simp only [Desk.step, Allocator.release]
    cases hc : d.allocator.leased.contains port with
    | true => exact h.releaseStep (by simpa using hc)
    | false =>
      have hnot : port ∉ d.allocator.leased := by simpa using hc
      rw [List.erase_of_not_mem hnot]
      exact h.note d.allocator d.questions rfl rfl rfl rfl rfl (fun _ _ hq => .inl hq) nofun

theorem after (h : Sound pool d) (steps : List Step) : Sound pool (d.after steps) := by
  induction steps generalizing d with
  | nil => exact h
  | cons s rest ih => exact ih (h.step s)

/-- A port is given out for a second time only after it was given back. -/
theorem released_between (h : Sound pool d) {before between since : List Entry}
    (hlog : d.log = before ++ .leased port :: (between ++ .leased port :: since)) : .released port true ∈ between := by
  have hfresh : ¬ IsOut port (before ++ .leased port :: between) :=
    h.fresh _ port ⟨since, by rw [hlog]; simp⟩
  by_contra hnot
  exact hfresh ⟨before, between, rfl, hnot⟩

end Sound

end Desk

/-- Whatever batches do at an allocator, in whatever order, and whatever the source of its refreshes answers:
what is leased is part of the pool; a port that is given out is one of the pool that was neither leased nor
named by the last good answer, any such port may be the one, and there is an error only if there is none; no
port is given out again before it was given back; the leases are those given out less those given back; a
refresh asks about all ports but the leased ones; and it changes nothing unless it is answered well. -/
theorem allocator_safe_and_complete (pool : Pool) (timeout : Duration) (steps : List Desk.Step) :
    let d := (Desk.new pool timeout).after steps
    let a := d.allocator
    ((∀ port ∈ a.leased, port ∈ pool.toList) ∧ a.leased.Nodup) ∧
    (∀ draw port, (a.lease draw).1 = .ok port →
      port ∈ pool.toList ∧ port ∉ a.leased ∧ port ∉ Desk.snapshot d.log) ∧
    (∀ draw e, (a.lease draw).1 = .error e ↔
      e = .exhausted pool.size ∧ ∀ port ∈ pool.toList, port ∈ a.leased ∨ port ∈ Desk.snapshot d.log) ∧
    (∀ port ∈ pool.toList, port ∉ a.leased → port ∉ Desk.snapshot d.log → ∃ draw, (a.lease draw).1 = .ok port) ∧
    (∀ before between since port, d.log = before ++ .leased port :: (between ++ .leased port :: since) →
      .released port true ∈ between) ∧
    a.leasedCount + d.log.countP Entry.isReturn = d.log.countP Entry.isLease ∧
    (∀ batch, ∃ candidates, (d.step (.beginRefresh batch)).log = d.log ++ [.asked batch candidates] ∧
      ∀ port, port ∈ candidates ↔ port ∈ pool.toList ∧ port ∉ a.leased) ∧
    (∀ before batch candidates answer, before ++ [.answered batch candidates answer] <+: d.log →
      .asked batch candidates ∈ before) ∧
    (∀ batch source, (∀ candidates ports, d.questions.lookup batch = some candidates →
      source candidates ≠ .busy ports) → (d.step (.endRefresh batch source)).allocator = a) := by
  intro d a
  have h : Desk.Sound pool d := (Desk.Sound.new pool timeout).after steps
  have hfree (port : Port) : port ∈ a.free ↔ port ∈ pool.toList ∧ port ∉ Desk.snapshot d.log ∧ port ∉ a.leased := by
    rw [Allocator.mem_free, h.samePool, h.snapshot]
  refine ⟨⟨h.inPool, h.nodup⟩, ?_, ?_, ?_, fun _ _ _ _ hlog => h.released_between hlog, h.count, ?_, h.answers, ?_⟩
  · intro draw port hport
    rcases a.lease_cases draw with ⟨_, he⟩ | ⟨p, hp, he⟩
    · rw [he] at hport; cases hport
    · rw [he] at hport
      cases hport
      obtain ⟨hpool, hbusy, hleased⟩ := (hfree port).mp hp
      exact ⟨hpool, hleased, hbusy⟩
  · intro draw e
    rw [Allocator.lease_error_iff, h.samePool]
    refine and_congr_right fun _ => ?_
    constructor
    · intro hnone port hport
      have hnot : port ∉ a.free := by rw [hnone]; exact List.not_mem_nil
      rw [hfree] at hnot
      tauto
    · intro hall
      refine List.eq_nil_iff_forall_not_mem.mpr fun port hp => ?_
      obtain ⟨hpool, hbusy, hleased⟩ := (hfree port).mp hp
      rcases hall port hpool with hl | hb
      · exact hleased hl
      · exact hbusy hb
  · intro port hpool hleased hbusy
    exact Allocator.exists_draw_of_mem_free ((hfree port).mpr ⟨hpool, hbusy, hleased⟩)
  · intro batch
    refine ⟨a.candidates, rfl, fun port => ?_⟩
    rw [Allocator.mem_candidates, h.samePool]
  · intro batch source hbad
    simp only [Desk.step]
    cases hq : d.questions.lookup batch with
    | none => rfl
    | some candidates =>
      dsimp only
      cases hs : source candidates with
      | busy ports => exact absurd hs (hbad candidates ports hq)
      | _ => rfl

/-- Another batch leases a port while a refresh is under way, and the refresh does not make it forgotten. -/
example :
    let steps : List Desk.Step := [.beginRefresh 1, .lease fun _ => 0, .endRefresh 1 fun _ => .busy [],
      .lease fun _ => 0, .release 20000, .lease fun _ => 0]
    (((Desk.new ⟨#[20000, 20001]⟩ (.ofSeconds 5)).after steps).log.drop 3) =
      [.leased 20001, .released 20000 true, .leased 20000] := by
  decide

end TunnelBroker.Ports
