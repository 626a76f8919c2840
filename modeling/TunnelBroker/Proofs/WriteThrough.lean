/-
  TunnelBroker.Proofs.WriteThrough — the registry and the store, one command after the other.

  Every change is written to the store first and made in the registry if that went well. So after every command, also
  one that the store has refused in part, both have the same ids, and the store has the records that were saved last.

  - `InStep`: the store holds some records, and the registry knows their ids.
  - `Command.saved?`, `Broker.lastSaved`: what commands have saved, by their results.
  - `Command.written`: a command keeps both in step; `InStep.after`: so do all events.
-/

import TunnelBroker.Proofs.Records
import TunnelBroker.Proofs.Succession

namespace TunnelBroker

open TunnelBroker.Store (Table)

variable {b b' : Broker} {t : Table SessionRecord} {i : SessionRef}

/-- The store holds these records, each under its id, and the registry knows the same ids. -/
structure InStep (b : Broker) (t : Table SessionRecord) : Prop where
  holds : ∃ store, b.store = some store ∧ store.Holds t
  keys : b.registry.keys = t.keys
  sorted : t.IsSorted
  named : ∀ id r, t.find? id = some r → r.id = id

namespace InStep

theorem congr (h : InStep b t) (hregistry : b'.registry = b.registry) (hstore : b'.store = b.store) : InStep b' t where
  holds := by rw [hstore]; exact h.holds
  keys := by rw [hregistry]; exact h.keys
  sorted := h.sorted
  named := h.named

/-! ## The two changes -/

/-- A session is registered and its record saved, or the store refuses that and nothing changes. -/
theorem register (h : InStep b t) (i : SessionRef) :
    (∃ b', (Operation.register i).run b = (.ok (), b') ∧ OnlyRecords b b' ∧
      InStep b' (t.insert (b.session i).id (b.session i).record)) ∨
      ∃ reason, (Operation.register i).run b = (.error (.storage reason), b) := by
  obtain ⟨store, hstore, hholds⟩ := h.holds
  have hpersist : (Operation.persist i).run b = (Operation.saveRecord (b.session i).record).run b := by
    simp [Operation.persist, Operation.hasStore, hstore, Operation.takeRecord_run]
  rcases hholds.save b.outside.refusal b.outside.now (b.session i).record with ⟨store', hsave, hholds'⟩ | ⟨reason, -, hsave⟩
  · refine .inl ⟨{ b with registry := b.registry.insert (b.session i).id i, store := some store' }, ?_, rfl, ?_⟩
    · simp [Operation.register, hpersist, Operation.saveRecord, hstore, hsave, Operation.enter]
      rfl
    · refine ⟨⟨store', rfl, hholds'⟩, Table.keys_insert h.keys _ _ _, h.sorted.insert _ _, ?_⟩
      intro id r hr
      by_cases hid : id = (b.session i).id
      · subst hid
        rw [Table.find?_insert_self] at hr
        rw [← Option.some.inj hr]
        rfl
      · rw [Table.find?_insert_of_ne _ _ hid] at hr
        exact h.named id r hr
  · refine .inr ⟨reason, ?_⟩
    simp [Operation.register, hpersist, Operation.saveRecord, hstore, hsave, Broker.withStore_self hstore]

/-- An id and its record are forgotten, or nothing changes: the id was not known, or the store refuses. -/
theorem unregister (h : InStep b t) (id : String) :
    (∃ b', (Operation.unregister id).run b = (.ok (), b') ∧ InStep b' (t.erase id)) ∨
      ∃ e, (Operation.unregister id).run b = (.error e, b) := by
  obtain ⟨store, hstore, hholds⟩ := h.holds
  cases hfind : b.registry.find? id with
  | none => exact .inr ⟨.notFound id, by simp [Operation.unregister, Operation.find, hfind]⟩
  | some i =>
    rcases hholds.delete b.outside.refusal id with ⟨store', hdelete, hholds'⟩ | ⟨reason, -, hdelete⟩
    · refine .inl ⟨{ b with registry := b.registry.erase id, store := some store' }, ?_, ?_⟩
      · simp [Operation.unregister, Operation.find, hfind, Operation.deleteRecord, hstore, hdelete, Operation.remove]
      · refine ⟨⟨store', rfl, hholds'⟩, ?_, h.sorted.erase id, ?_⟩
        · rw [Table.keys_erase, Table.keys_erase, h.keys]
        · intro k r hr
          exact h.named k r (t.erase_isPart id k r hr)
    · refine .inr ⟨.storage reason, ?_⟩
      simp [Operation.unregister, Operation.find, hfind, Operation.deleteRecord, hstore, hdelete,
        Broker.withStore_self hstore]

/-- Whatever comes of it, making ids unknown adds no record. -/
theorem unregisterAll (h : InStep b t) (ids : List String) :
    ∃ t', InStep ((Operation.unregisterAll ids).run b).2 t' ∧ t'.IsPart t := by
  induction ids generalizing b t with
  | nil => exact ⟨t, h, .refl t⟩
  | cons id rest ih =>
    simp only [Operation.unregisterAll, Task.run_bind]
    rcases h.unregister id with ⟨b', hrun, hstep⟩ | ⟨e, hrun⟩
    · obtain ⟨t', hall, hpart⟩ := ih hstep
      simp only [hrun, Task.run_bind, Task.run_pure]
      exact ⟨t', hall, hpart.trans (t.erase_isPart id)⟩
    · rw [hrun]
      cases e with
      | notFound k => exact ih h
      | storage reason => exact ⟨t, h, .refl t⟩

end InStep

/-! ## What commands save -/

/-- The session whose record the command saves, if it goes well. -/
def Command.writer? (b : Broker) : Command → Option SessionRef
  | .start .. => some b.sessions.length
  | .openTunnels i .. | .closeTunnel i _ => some i
  | .terminate i => if b.keepLost.isSome then some i else none
  | .startTunnels .. | .cancel _ | .forget _ | .deleteObsolete => none

/-- The record that the command has saved, if it went well: the one of its session when it returns. -/
def Command.saved? (b : Broker) (c : Command) : Option SessionRecord :=
  (c.operation.run b).1.toOption.bind fun _ => (c.writer? b).map fun i => ((c.operation.run b).2.session i).record

def Event.saved? (b : Broker) : Event → Option SessionRecord
  | .command c => if c.isPossible b then c.saved? b else none
  | _ => none

/-- The record that was saved last under an id. -/
def Broker.lastSaved (b : Broker) : List Event → String → Option SessionRecord
  | [], _ => none
  | e :: rest, id => ((b.step e).lastSaved rest id).or ((e.saved? b).filter (·.id = id))

/-- What a command comes to for the records: it has saved one, or it may have removed some. -/
inductive Written (t : Table SessionRecord) : Option SessionRecord → Broker → Prop
  | saved {r : SessionRecord} {b' : Broker} : InStep b' (t.insert r.id r) → Written t (some r) b'
  | removed {t' : Table SessionRecord} {b' : Broker} : InStep b' t' → t'.IsPart t → Written t none b'

namespace InStep

theorem written_none (h : InStep b t) : Written t none b := .removed h (.refl t)

/-- What touches neither the registry nor the store saves nothing. -/
theorem written_congr (h : InStep b t) (hregistry : b'.registry = b.registry) (hstore : b'.store = b.store) :
    Written t none b' := (h.congr hregistry hstore).written_none

/-- What ends with a registration saves a record, or is refused. -/
theorem written_register (h : InStep b t) (i : SessionRef) :
    Written t (((Operation.register i).run b).1.toOption.map fun _ => (((Operation.register i).run b).2.session i).record)
      ((Operation.register i).run b).2 := by
  rcases h.register i with ⟨b', hrun, honly, hstep⟩ | ⟨reason, hrun⟩
  · rw [hrun]
    rw [← honly.session i] at hstep
    exact .saved hstep
  · rw [hrun]
    exact h.written_none

theorem written_unregister (h : InStep b t) (id : String) : Written t none ((Operation.unregister id).run b).2 := by
  rcases h.unregister id with ⟨b', hrun, hstep⟩ | ⟨e, hrun⟩
  · rw [hrun]
    exact .removed hstep (t.erase_isPart id)
  · rw [hrun]
    exact h.written_none

end InStep

namespace Command

theorem start_written (h : InStep b t) (id : String) (connection : ConnectionRef) (request : ConnectionRequest)
    (user : Option User) (cancelled : Bool) :
    let c : Command := .start id connection request user cancelled
    Written t (c.saved? b) (c.operation.run b).2 := by
  intro c
  have hbatch := Operation.startTunnels_run b.sessions.length request.forwards {}
    (b.addSession (.connect id connection (b.connection connection).address.text request.profile user cancelled)).2
  simp only [saved?, writer?, c, operation, Task.run_bind, Task.run_pure, Operation.startSession_run]
  generalize (Operation.startTunnels b.sessions.length request.forwards {}).run _ = p at hbatch ⊢
  obtain ⟨-, hregistry, hstore⟩ := hbatch.records
  obtain ⟨result, b₁⟩ := p
  have h₁ : InStep b₁ t := h.congr hregistry hstore
  cases result with
  | error e => exact h₁.written_none
  | ok ts =>
    dsimp only
    rcases h₁.register b.sessions.length with ⟨b₂, hrun, honly, hstep⟩ | ⟨reason, hrun⟩
    · rw [← honly.session b.sessions.length] at hstep
      simp only [hrun]
      exact .saved hstep
    · simp only [hrun]
      exact h₁.written_congr rfl rfl

theorem openTunnels_written (h : InStep b t) (i : SessionRef) (forwards : List Forward) (acl : Acl) :
    Written t ((Command.openTunnels i forwards acl).saved? b) ((Command.openTunnels i forwards acl).operation.run b).2 := by
  have hbatch := Operation.startTunnels_run i forwards acl b
  simp only [saved?, writer?, operation, Task.run_bind, Task.run_pure, Operation.openTunnels_run]
  generalize (Operation.startTunnels i forwards acl).run b = p at hbatch ⊢
  obtain ⟨-, hregistry, hstore⟩ := hbatch.records
  obtain ⟨result, b₁⟩ := p
  have h₁ : InStep b₁ t := h.congr hregistry hstore
  cases result with
  | error e => exact h₁.written_none
  | ok ts =>
    have hregister := h₁.written_register i
    dsimp only
    generalize (Operation.register i).run b₁ = q at hregister ⊢
    obtain ⟨result', b₂⟩ := q
    cases result' with
    | error e => exact hregister
    | ok _ => exact hregister

theorem closeTunnel_written (h : InStep b t) (i : SessionRef) (tunnel : String) :
    Written t ((Command.closeTunnel i tunnel).saved? b) ((Command.closeTunnel i tunnel).operation.run b).2 := by
  simp only [saved?, writer?, operation, Operation.closeTunnel_run]
  split
  · cases (b.session i).removeTunnel? tunnel with
    | none => exact h.written_none
    | some p =>
      have hwithout : InStep (b.without i p.1 p.2) t := h.congr rfl rfl
      have hregister := hwithout.written_register i
      dsimp only
      generalize (Operation.register i).run (b.without i p.1 p.2) = q at hregister ⊢
      obtain ⟨result', b₂⟩ := q
      cases result' with
      | error e => exact hregister
      | ok _ => exact hregister
  · exact h.written_none

theorem terminate_written (h : InStep b t) (i : SessionRef) :
    Written t ((Command.terminate i).saved? b) ((Command.terminate i).operation.run b).2 := by
  have hend : InStep (b.terminated i) t := h.congr rfl rfl
  simp only [saved?, writer?, operation, Operation.terminate_run]
  cases b.keepLost with
  | none =>
    have hforgotten := hend.written_unregister ((b.terminated i).session i).id
    simpa using hforgotten
  | some keep =>
    have hregister := hend.written_register i
    simp only [Option.isNone_some, Bool.false_eq_true, if_false, Option.isSome_some, if_true]
    generalize (Operation.register i).run (b.terminated i) = q at hregister ⊢
    obtain ⟨result', b₂⟩ := q
    cases result' with
    | error e => exact hregister
    | ok _ => exact hregister

theorem forget_written (h : InStep b t) (id : String) :
    Written t ((Command.forget id).saved? b) ((Command.forget id).operation.run b).2 := by
  have hnone : (Command.forget id).saved? b = none := by simp [saved?, writer?]
  rw [hnone]
  cases hfind : b.registry.find? id with
  | none => simpa [operation, Operation.forget, Operation.find, hfind] using h.written_none
  | some i =>
    cases hactive : (b.session i).isActive with
    | true =>
      simpa [operation, Operation.forget, Operation.find, Operation.look, hfind, hactive] using h.written_none
    | false =>
      simpa [operation, Operation.forget, Operation.find, Operation.look, hfind, hactive] using h.written_unregister id

theorem deleteObsolete_written (h : InStep b t) :
    Written t (Command.deleteObsolete.saved? b) (Command.deleteObsolete.operation.run b).2 := by
  have hnone : Command.deleteObsolete.saved? b = none := by simp [saved?, writer?]
  rw [hnone]
  simp only [operation, Operation.deleteObsolete, Task.run_bind, Task.run_read, Task.run_pure]
  cases b.keepLost with
  | none => exact h.written_none
  | some keep =>
    simp only [Operation.deleteLostFor, Operation.now, Task.run_bind, Task.run_read, Task.run_pure]
    cases b.outside.now.minus? keep with
    | none => exact h.written_none
    | some cutoff =>
      obtain ⟨t', hstep, hpart⟩ := h.unregisterAll (Operation.lostBefore cutoff b)
      exact .removed hstep hpart

/-- A command keeps the registry and the store in step, whatever the store refuses. -/
theorem written (h : InStep b t) (c : Command) : Written t (c.saved? b) (c.operation.run b).2 := by
  cases c with
  | start id connection request user cancelled => exact start_written h id connection request user cancelled
  | startTunnels i forwards acl =>
    have hnone : (Command.startTunnels i forwards acl).saved? b = none := by simp [saved?, writer?]
    obtain ⟨-, hregistry, hstore⟩ := (Operation.startTunnels_run i forwards acl b).records
    rw [hnone]
    simp only [operation, Task.run_bind, Task.run_pure]
    exact h.written_congr hregistry hstore
  | openTunnels i forwards acl => exact openTunnels_written h i forwards acl
  | closeTunnel i tunnel => exact closeTunnel_written h i tunnel
  | terminate i => exact terminate_written h i
  | cancel i =>
    have hnone : (Command.cancel i).saved? b = none := by simp [saved?, writer?]
    rw [hnone]
    exact h.written_congr rfl rfl
  | forget id => exact forget_written h id
  | deleteObsolete => exact deleteObsolete_written h

end Command

/-! ## All events -/

/-- An event keeps the registry and the store in step. -/
theorem Event.written (h : InStep b t) (e : Event) : Written t (e.saved? b) (b.step e) := by
  cases e with
  | outside o => exact h.written_congr rfl rfl
  | arrival c => exact h.written_congr rfl rfl
  | settling => exact h.written_congr rfl rfl
  | command c =>
    rw [Broker.step_command, Event.saved?]
    split
    · exact c.written h
    · exact h.written_none

/-- Under every id that is known, the store has the record that was saved last: during the events, or else before
them, which `saved` says. -/
theorem InStep.after_from (h : InStep b t) (saved : String → Option SessionRecord)
    (hsaved : ∀ id r, t.find? id = some r → saved id = some r) (events : List Event) :
    ∃ t', InStep (b.after events) t' ∧ ∀ id r, t'.find? id = some r → (b.lastSaved events id).or (saved id) = some r := by
  induction events generalizing b t saved with
  | nil => exact ⟨t, h, hsaved⟩
  | cons e rest ih =>
    have hwritten := e.written h
    generalize he : e.saved? b = r? at hwritten
    obtain ⟨t₁, hstep, hsaved₁⟩ : ∃ t₁, InStep (b.step e) t₁ ∧
        ∀ id r, t₁.find? id = some r → ((r?.filter (·.id = id)).or (saved id)) = some r := by
      cases hwritten with
      | @saved new _ hstep =>
        refine ⟨_, hstep, ?_⟩
        intro id r hr
        by_cases hid : id = new.id
        · subst hid
          rw [Table.find?_insert_self] at hr
          rw [← Option.some.inj hr, Option.filter_some, if_pos (decide_eq_true rfl), Option.some_or]
        · rw [Table.find?_insert_of_ne _ _ hid] at hr
          rw [Option.filter_some_neg (by simpa using Ne.symm hid), Option.none_or]
          exact hsaved id r hr
      | removed hstep hpart => exact ⟨_, hstep, fun id r hr => hsaved id r (hpart id r hr)⟩
    obtain ⟨t', hafter, hlast⟩ := ih hstep _ hsaved₁
    refine ⟨t', hafter, ?_⟩
    intro id r hr
    rw [Broker.lastSaved, he, Option.or_assoc]
    exact hlast id r hr

/-- Under every id that is known, the store has the record that was saved last. -/
theorem InStep.after (h : InStep b {}) (events : List Event) :
    ∃ t, InStep (b.after events) t ∧ ∀ id r, t.find? id = some r → b.lastSaved events id = some r := by
  obtain ⟨t, hafter, hlast⟩ := h.after_from (fun _ => none) (fun id r hr => by cases hr) events
  refine ⟨t, hafter, ?_⟩
  intro id r hr
  have hsaved := hlast id r hr
  rwa [Option.or_none] at hsaved

end TunnelBroker
