/-
  TunnelBroker.Proofs.Succession — several sessions of one id.

  A client that connects again while its old session has not ended yet gets a second session of the same id,
  and that is the one that is known from then on. Commands for the old session go by the id and do not look
  at who is known under it: the last one to write the records wins.

  - `Command.recorded_cases`: a command for a session records it, or forgets its id, or fails and leaves all
    records as they were.
  - `successor_known_iff_error`: a session stays known exactly if the commands for an older one of its id fail.
-/

import TunnelBroker.Proofs.Atomicity

namespace TunnelBroker

/-! ## Commands and records -/

/-- The session whose record the command changes. -/
def Command.recorded? : Command → Option SessionRef
  | .openTunnels i .. | .closeTunnel i _ | .terminate i => some i
  | _ => none

/-- The command forgets its session, as nothing of lost sessions is kept. -/
def Command.isForgetting (b : Broker) : Command → Bool
  | .terminate _ => b.keepLost.isNone
  | _ => false

/-- The store, if there is one, has the session's record. -/
def Broker.HasRecord (b : Broker) (i : SessionRef) : Prop :=
  ∀ store, b.store = some store → store.Keeps b.outside.now (b.session i).record

/-- What a command for a session comes to for the records: its result, and the broker that it leaves. -/
inductive RecordOutcome (b : Broker) (i : SessionRef) (forgetting : Bool) : Except SessionError Unit → Broker → Prop
  | failed {e : SessionError} {b' : Broker} : b'.registry = b.registry → b'.store = b.store →
      RecordOutcome b i forgetting (.error e) b'
  | registered {b' : Broker} : forgetting = false → b'.registry = b.registry.insert (b.session i).id i →
      b'.HasRecord i → RecordOutcome b i forgetting (.ok ()) b'
  | forgotten {b' : Broker} : forgetting = true → b'.registry = b.registry.erase (b.session i).id →
      Operation.Erased (b.session i).id b'.store → RecordOutcome b i forgetting (.ok ()) b'

variable {b b₁ b' : Broker} {i : SessionRef}

namespace Operation

theorem register_outcome (hid : (b₁.session i).id = (b.session i).id) (hregistry : b₁.registry = b.registry)
    (hstore : b₁.store = b.store) :
    RecordOutcome b i false (((register i).run b₁).1.mapError .registry) ((register i).run b₁).2 := by
  rcases register_cases i b₁ with ⟨store', he, hs⟩ | ⟨reason, he⟩
  · rw [he]
    refine .registered rfl (by rw [hregistry, hid]) fun store hsome => ?_
    rcases hs with ⟨-, hnone⟩ | ⟨store'', hsome', hkeeps⟩
    · rw [show store' = some store from hsome] at hnone; cases hnone
    · obtain rfl : store = store'' := Option.some.inj ((show store' = some store from hsome).symm.trans hsome')
      exact hkeeps
  · rw [he]; exact .failed hregistry hstore

theorem unregister_outcome (hid : (b₁.session i).id = (b.session i).id) (hregistry : b₁.registry = b.registry)
    (hstore : b₁.store = b.store) :
    RecordOutcome b i true (((unregister (b₁.session i).id).run b₁).1.mapError .registry)
      ((unregister (b₁.session i).id).run b₁).2 := by
  rcases unregister_cases (b₁.session i).id b₁ with ⟨_, store', _, he, herased⟩ | ⟨e, he⟩
  · rw [he]
    exact .forgotten rfl (by rw [hregistry, hid]) (by rw [← hid]; exact herased)
  · rw [he]; exact .failed hregistry hstore

end Operation

theorem Broker.id_terminated (hi : i < b.sessions.length) : ((b.terminated i).session i).id = (b.session i).id := by
  rw [session_terminated hi]
  show ((b.session i).markDisconnected b.outside.now).2.id = _
  unfold Session.markDisconnected; split <;> rfl

/-- A command that changes the record of its session ends with its registration, or forgets its id, whoever
is known under it; or it fails and changes no record. -/
theorem Command.recorded_cases {c : Command} (hc : c.recorded? = some i) (hi : i < b.sessions.length) :
    RecordOutcome b i (c.isForgetting b) (c.operation.run b).1 (c.operation.run b).2 := by
  cases c with
  | openTunnels k forwards acl =>
    obtain rfl : k = i := Option.some.inj hc
    have hend := Operation.startTunnels_run k forwards acl b
    simp only [operation, Task.run_bind, Task.run_pure, Operation.openTunnels_run, isForgetting]
    generalize (Operation.startTunnels k forwards acl).run b = p at hend ⊢
    obtain ⟨hid, hregistry, hstore⟩ := hend.records
    rcases p with ⟨e | ts, b₁⟩
    · exact .failed hregistry hstore
    · have hout := Operation.register_outcome hid hregistry hstore
      dsimp only at hout ⊢
      generalize (Operation.register k).run b₁ = q at hout ⊢
      rcases q with ⟨_ | _, b₂⟩ <;> exact hout
  | closeTunnel k tunnel =>
    obtain rfl : k = i := Option.some.inj hc
    simp only [operation, Operation.closeTunnel_run, isForgetting]
    split
    · cases hr : (b.session k).removeTunnel? tunnel with
      | none => exact .failed rfl rfl
      | some p =>
        obtain ⟨t, s⟩ := p
        refine Operation.register_outcome ?_ rfl rfl
        obtain ⟨_, _, hs⟩ := Session.removeTunnel?_some hr
        rw [Broker.session_without hi, hs]
    · exact .failed rfl rfl
  | terminate k =>
    obtain rfl : k = i := Option.some.inj hc
    have hid := Broker.id_terminated hi
    simp only [operation, Operation.terminate_run, isForgetting]
    cases b.keepLost with
    | none => exact Operation.unregister_outcome hid rfl rfl
    | some _ => exact Operation.register_outcome hid rfl rfl
  | _ => cases hc

/-! ## The successor -/

theorem Operation.findActive_ok {id : String} :
    ((findActive id).run b).1 = .ok i ↔ b.registry.find? id = some i ∧ (b.session i).isActive := by
  simp only [findActive, Task.run_read]
  cases b.registry.find? id with
  | none => simp
  | some k =>
    by_cases ha : (b.session k).isActive = true
    · simp only [ha, if_true, Except.ok.injEq, Option.some.injEq]
      exact ⟨fun h => ⟨h, h ▸ ha⟩, And.left⟩
    · simp only [ha, Option.some.injEq]
      refine ⟨nofun, fun h => absurd h.2 (h.1 ▸ ha)⟩

/-- A command for an old session leaves a later one of the same id known, and its record in the store, if and
only if it fails. Else the old session is known in its place, or nobody. -/
theorem successor_known_iff_error (b : Broker) (c : Command) (id : String) (old new : SessionRef)
    (hc : c.recorded? = some old) (hne : old ≠ new) (hold : old < b.sessions.length) (hid : (b.session old).id = id)
    (hnew : ((Operation.findActive id).run b).1 = .ok new) :
    let r := c.operation.run b
    (((Operation.findActive id).run r.2).1 = .ok new ↔ ∃ e, r.1 = .error e) ∧
      (∀ e, r.1 = .error e → r.2.store = b.store) ∧
      (r.1 = .ok () → if c.isForgetting b then r.2.registry.find? id = none ∧ Operation.Erased id r.2.store
        else r.2.registry.find? id = some old ∧ r.2.HasRecord old) := by
  intro r
  obtain ⟨hfind, hactive⟩ := Operation.findActive_ok.mp hnew
  have hsubject : c.subject? b ≠ some new := by
    cases c <;> first | cases hc; exact fun h => hne (Option.some.inj h) | cases hc
  have hsession : r.2.session new = b.session new := c.session_ne hsubject
  have hout : RecordOutcome b old (c.isForgetting b) r.1 r.2 := c.recorded_cases hc hold
  rw [Operation.findActive_ok, hsession]
  generalize r = p at hout ⊢
  obtain ⟨result, b'⟩ := p
  cases hout with
  | failed hregistry hstore =>
    exact ⟨⟨fun _ => ⟨_, rfl⟩, fun _ => ⟨by rw [hregistry]; exact hfind, hactive⟩⟩, fun _ _ => hstore, nofun⟩
  | registered hf hregistry hrecord =>
    have hknown : b'.registry.find? id = some old := by rw [hregistry, hid]; exact Store.Table.find?_insert_self ..
    refine ⟨⟨fun h => ?_, nofun⟩, nofun, fun _ => ?_⟩
    · exact absurd (Option.some.inj (hknown.symm.trans h.1)) hne
    · rw [hf]; exact ⟨hknown, hrecord⟩
  | forgotten hf hregistry herased =>
    have hunknown : b'.registry.find? id = none := by rw [hregistry, hid]; exact Store.Table.find?_erase_self ..
    refine ⟨⟨fun h => ?_, nofun⟩, nofun, fun _ => ?_⟩
    · have := hunknown.symm.trans h.1; cases this
    · rw [hf, ← hid]; exact ⟨by rw [hid]; exact hunknown, herased⟩

/-- A client connects twice; when the end of its first connection is noticed, it is not known any more. -/
theorem successor_unknown_after_old_ended :
    let b := ({ pool := ⟨#[20000]⟩, store := some (.memory {}) } : Setup).boot.after
      [.arrival default, .command (.start "a" 0 {} none false), .arrival default, .command (.start "a" 1 {} none false)]
    let r := (Command.terminate 0).operation.run b
    ((Operation.findActive "a").run b).1 = .ok 1 ∧ r.1 = .ok () ∧ ((Operation.findActive "a").run r.2).1 ≠ .ok 1 := by
  intro b r
  have hnew : ((Operation.findActive "a").run b).1 = .ok 1 := by decide
  have hdone : r.1 = .ok () := by decide
  have hiff := (successor_known_iff_error b (.terminate 0) "a" 0 1 rfl (by decide) (by decide) (by decide) hnew).1
  refine ⟨hnew, hdone, fun h => ?_⟩
  obtain ⟨e, he⟩ := hiff.mp h
  rw [show (Command.terminate 0).operation.run b = r from rfl, hdone] at he
  cases he

end TunnelBroker
