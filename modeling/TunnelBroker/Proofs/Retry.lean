/-
  TunnelBroker.Proofs.Retry — terminations that are tried again.

  A termination first ends the session and gives its ports back, which cannot fail; then it changes the records, which
  the store may refuse. Whoever tries again finds a session that has ended already, and ports that may be leased to
  others by now.

  - `Session.terminated`: what a termination makes of a session; `Broker.terminated_of_terminated`: to do it again changes
    nothing, whatever time it is.
  - `Operation.terminate_ok_iff`: a termination goes well unless the store refuses its last step.
  - `Event.IsElsewhere`: events that are not about the id; `Retried`: attempts that failed, with such events after each.
  - `Halfway`: what is true before each attempt, and kept by one that fails and by events elsewhere.
  - `retried_termination_ends_once`: an attempt after any number of failed ones comes to what the first would have.
-/

import TunnelBroker.Proofs.Order
import TunnelBroker.Proofs.Race
import TunnelBroker.Proofs.Succession
import TunnelBroker.Proofs.Sweep

namespace TunnelBroker

open TunnelBroker.Store (Refusal Table Use)
open TunnelBroker.Time (Timestamp)

/-! ## Ending a session twice -/

theorem Tunnel.retire_retire (t : Tunnel) : t.retire.retire = t.retire := rfl

namespace Session

variable {s : Session}

/-- The session as a termination leaves it: lost, since now unless it was before, and its tunnels retired. -/
def terminated (s : Session) (now : Timestamp) : Session :=
  { s with disconnectedAt := some (s.disconnectedAt.getD now), connection := none, cancelled := true,
           tunnels := s.tunnels.map Tunnel.retire }

/-- It keeps the moment of the first termination. -/
theorem terminated_terminated (s : Session) (first second : Timestamp) :
    (s.terminated first).terminated second = s.terminated first := by
  unfold terminated
  simp [Tunnel.retire_retire, Function.comp_def]

theorem leasedPorts_terminated (s : Session) (now : Timestamp) : (s.terminated now).leasedPorts = [] :=
  s.leasedPorts_haltTunnels

theorem record_terminated (s : Session) (now : Timestamp) :
    (s.terminated now).record = { s.record with disconnectedAt := some (s.disconnectedAt.getD now) } := by
  unfold terminated record recordWith
  rw [List.map_map]
  rfl

end Session

namespace Broker

variable {b : Broker} {i : SessionRef}

theorem session_terminated_eq (hi : i < b.sessions.length)
    (hlost : (b.session i).disconnectedAt.isSome → (b.session i).connection = none) :
    (b.terminated i).session i = (b.session i).terminated b.outside.now := by
  rw [session_terminated hi, (b.session i).disconnect_eq hlost]
  rfl

/-- To terminate a session again changes nothing and gives no port back. -/
theorem terminated_of_terminated {s : Session} {first : Timestamp} (h : b.session i = s.terminated first) :
    b.terminated i = b := by
  have hsame : ((b.session i).disconnect b.outside.now).2 = b.session i := by
    rw [h, Session.disconnect_eq _ fun _ => rfl]
    exact s.terminated_terminated first b.outside.now
  have hports : ((b.session i).disconnect b.outside.now).1 = [] := by
    rw [Session.disconnect_ports, h, s.leasedPorts_terminated]
  have hcancelled : (b.session i).cancel = b.session i := by
    rw [h]
    rfl
  have hdisconnected : b.disconnected i b.outside.now = b := by
    unfold disconnected
    rw [hsame, hports, setSession_of_eq rfl]
    rfl
  unfold terminated cancelled
  rw [hdisconnected, hcancelled, setSession_of_eq rfl]

/-- The first time, the ports of the session are given back, and no others. -/
theorem leased_terminated (hleased : b.allocator.leased.Perm b.heldPorts) (hi : i < b.sessions.length) :
    b.allocator.leased.Perm ((b.session i).leasedPorts ++ (b.terminated i).allocator.leased) := by
  have hall : b.allocator.leased.Perm ((b.session i).leasedPorts ++ b.otherPorts i) :=
    hleased.trans (heldPorts_perm hi)
  have hleft : (b.terminated i).allocator.leased = b.allocator.leased.diff (b.session i).leasedPorts := by
    rw [← Session.disconnect_ports (b.session i) b.outside.now]
    rfl
  rw [hleft]
  exact hall.trans ((diff_perm_of_perm_append hall).symm.append_left _)

end Broker

/-- A tunnel that nobody has halted has its lease if its port was assigned to it. -/
theorem Session.HasHistory.holds {s : Session} (h : s.HasHistory) :
    ∀ t ∈ s.tunnels, t.halted = false → t.holdsLease = t.autoAssigned := by
  obtain ⟨origin, changes, horigin, rfl⟩ := h
  have hpast : origin.Each fun t => t.halted = false → t.holdsLease = t.autoAssigned := by
    refine ⟨?_, ?_, ?_⟩
    · intro t ht hopen
      rw [← (horigin.retired t ht).1] at hopen
      cases hopen
    · cases horigin <;> exact fun t ht => by cases ht
    · cases horigin <;> exact fun t ht => by cases ht
  exact (hpast.after_of_started (fun t _ hopen => by cases hopen) (fun t _ hopen => by cases hopen)
    (fun _ _ _ _ _ _ _ => rfl) changes).tunnels

/-! ## The step that can fail -/

theorem Store.save_ok_iff (store : Store) (refusal : Refusal) (now : Timestamp) (r : SessionRecord) :
    (store.save refusal now r).1 = .ok () ↔ store.Serves refusal (.save r.id) := by
  unfold save Serves
  cases refusal (.save r.id) with
  | some reason => simp
  | none =>
    cases store with
    | memory records => simp
    | database table => cases table <;> simp [databaseFault]

namespace Operation

variable {b : Broker} {i : SessionRef} {id : String}

theorem register_ok_iff : ((register i).run b).1 = .ok () ↔ b.StoreServes (.save (b.session i).id) := by
  unfold Broker.StoreServes
  cases hstore : b.store with
  | none => simp [register, persist, hasStore, hstore, enter]
  | some store =>
    have hsaved := store.save_ok_iff b.outside.refusal b.outside.now (b.session i).record
    have hrun : ((register i).run b).1 = (store.save b.outside.refusal b.outside.now (b.session i).record).1 := by
      simp only [register, persist, hasStore, Task.run_bind, Task.run_read, hstore, Option.isSome_some, if_true,
        takeRecord_run, saveRecord, Task.run_atomic]
      cases (store.save b.outside.refusal b.outside.now (b.session i).record).1 <;> rfl
    rw [hrun, hsaved]
    constructor
    · intro h store' hstore'
      obtain rfl := Option.some.inj hstore'
      exact h
    · intro h
      exact h store rfl

theorem unregister_ok_iff (hknown : b.registry.find? id = some i) :
    ((unregister id).run b).1 = .ok () ↔ b.StoreServes (.delete id) := by
  have hcontains : b.registry.contains id = true := Option.isSome_iff_exists.mpr ⟨i, hknown⟩
  rcases unregister_forgets hcontains with ⟨hserves, hrun⟩ | ⟨hrefuses, reason, hrun⟩
  · simp [hrun, hserves]
  · simp [hrun, hrefuses]

end Operation

/-- The use of the store with which a termination ends: the record is deleted, or written with the session lost. -/
def Broker.lastUse (b : Broker) (i : SessionRef) : Use :=
  if b.keepLost.isNone then .delete (b.session i).id else .save (b.session i).id

/-- A termination goes well unless the store refuses its last step. -/
theorem Operation.terminate_ok_iff {b : Broker} {i : SessionRef} (hi : i < b.sessions.length)
    (hknown : b.keepLost = none → b.registry.find? (b.session i).id = some i) :
    ((terminate i).run b).1 = .ok () ↔ b.StoreServes (b.lastUse i) := by
  have hid := Broker.id_terminated hi
  have hmapped (r : Except RegistryError Unit) : r.mapError SessionError.registry = .ok () ↔ r = .ok () := by
    cases r <;> simp [Except.mapError]
  rw [terminate_run, Broker.lastUse]
  cases hkeep : b.keepLost with
  | none =>
    have hfind : (b.terminated i).registry.find? ((b.terminated i).session i).id = some i := by
      rw [hid]
      exact hknown hkeep
    simp only [Option.isNone_none, if_true]
    rw [hmapped, unregister_ok_iff hfind, hid]
    rfl
  | some keep =>
    simp only [Option.isNone_some, Bool.false_eq_true, if_false]
    rw [hmapped, register_ok_iff, hid]
    rfl

/-! ## Events elsewhere -/

/-- The command is for a session of another id, for another id, or for whatever session is obsolete. -/
def Command.IsElsewhere (b : Broker) (id : String) : Command → Prop
  | .start other .. | .forget other => other ≠ id
  | .startTunnels j .. | .openTunnels j .. | .closeTunnel j _ | .terminate j | .cancel j => (b.session j).id ≠ id
  | .deleteObsolete => True

def Event.IsElsewhere (b : Broker) (id : String) : Event → Prop
  | .command c => c.IsElsewhere b id
  | .outside _ | .arrival _ | .settling => True

section

variable {b b' : Broker} {i : SessionRef} {id : String}

/-- What is done for a session changes the registry under its own id only. -/
theorem RecordOutcome.find?_ne {forgetting : Bool} {r : Except SessionError Unit} (h : RecordOutcome b i forgetting r b')
    (hne : (b.session i).id ≠ id) : b'.registry.find? id = b.registry.find? id := by
  cases h with
  | failed hregistry _ => rw [hregistry]
  | registered _ hregistry _ => rw [hregistry, Table.find?_insert_of_ne _ _ (Ne.symm hne)]
  | forgotten _ hregistry _ => rw [hregistry, Table.find?_erase_of_ne _ (Ne.symm hne)]

theorem RecordOutcome.unknown (h : RecordOutcome b i true (.ok ()) b') :
    b'.registry.find? (b.session i).id = none ∧ Operation.Erased (b.session i).id b'.store := by
  cases h with
  | registered hforgets _ _ => cases hforgets
  | forgotten _ hregistry herased =>
    rw [hregistry]
    exact ⟨Table.find?_erase_self .., herased⟩

theorem RecordOutcome.known (h : RecordOutcome b i false (.ok ()) b') :
    b'.registry.find? (b.session i).id = some i ∧ b'.HasRecord i := by
  cases h with
  | registered _ hregistry hrecord =>
    rw [hregistry]
    exact ⟨Table.find?_insert_self .., hrecord⟩
  | forgotten hforgets _ _ => cases hforgets

theorem Operation.startSession_find?_ne {other : String} (hne : other ≠ id) (connection : ConnectionRef)
    (request : ConnectionRequest) (user : Option User) (cancelled : Bool) :
    ((startSession other connection request user cancelled).run b).2.registry.find? id = b.registry.find? id := by
  have hbatch := startTunnels_run b.sessions.length request.forwards {}
    (b.addSession (.connect other connection (b.connection connection).address.text request.profile user cancelled)).2
  rw [startSession_run]
  dsimp only
  generalize (startTunnels b.sessions.length request.forwards {}).run _ = p at hbatch ⊢
  obtain ⟨hid, hregistry, -⟩ := hbatch.records
  rw [Broker.session_addSession] at hid
  obtain ⟨result, b₁⟩ := p
  cases result with
  | error e => exact congrArg (·.find? id) hregistry
  | ok ts =>
    dsimp only
    rcases register_cases b.sessions.length b₁ with ⟨store', hrun, -⟩ | ⟨reason, hrun⟩
    · have hnew : (b₁.session b.sessions.length).id = other := hid
      rw [hrun]
      dsimp only
      rw [hnew, Table.find?_insert_of_ne _ _ (Ne.symm hne)]
      exact congrArg (·.find? id) hregistry
    · rw [hrun]
      exact congrArg (·.find? id) hregistry

/-- Where lost sessions are not kept, commands elsewhere leave the id to whom it was known for. -/
theorem Command.find?_elsewhere {c : Command} (hc : c.IsElsewhere b id) (hpossible : c.isPossible b = true)
    (hkeep : b.keepLost = none) : (c.operation.run b).2.registry.find? id = b.registry.find? id := by
  cases c with
  | start other connection request user cancelled =>
    have hstart := Operation.startSession_find?_ne (b := b) hc connection request user cancelled
    simpa [operation] using hstart
  | startTunnels j forwards acl =>
    obtain ⟨-, hregistry, -⟩ := (Operation.startTunnels_run j forwards acl b).records
    simp only [operation, Task.run_bind, Task.run_pure]
    rw [hregistry]
  | openTunnels j forwards acl =>
    exact (recorded_cases (c := .openTunnels j forwards acl) rfl (of_decide_eq_true hpossible)).find?_ne hc
  | closeTunnel j tunnel => exact (recorded_cases (c := .closeTunnel j tunnel) rfl (of_decide_eq_true hpossible)).find?_ne hc
  | terminate j => exact (recorded_cases (c := .terminate j) rfl (of_decide_eq_true hpossible)).find?_ne hc
  | cancel j => rfl
  | forget other =>
    have hother : ((Operation.unregister other).run b).2.registry.find? id = b.registry.find? id := by
      rcases Operation.unregister_cases other b with ⟨_, _, _, hrun, -⟩ | ⟨_, hrun⟩
      · rw [hrun]
        exact Table.find?_erase_of_ne _ (Ne.symm hc)
      · rw [hrun]
    cases hfind : b.registry.find? other with
    | none => simp [operation, Operation.forget, Operation.find, hfind]
    | some j =>
      cases hactive : (b.session j).isActive with
      | true => simp [operation, Operation.forget, Operation.find, Operation.look, hfind, hactive]
      | false => simpa [operation, Operation.forget, Operation.find, Operation.look, hfind, hactive] using hother
  | deleteObsolete => simp [operation, Operation.deleteObsolete, hkeep]

theorem Event.find?_elsewhere {e : Event} (he : e.IsElsewhere b id) (hkeep : b.keepLost = none) :
    (b.step e).registry.find? id = b.registry.find? id := by
  cases e with
  | command c =>
    rw [Broker.step_command]
    split
    · rename_i hpossible
      exact c.find?_elsewhere he hpossible hkeep
    · rfl
  | _ => rfl

/-- Events elsewhere leave the session as it is. -/
theorem Event.session_elsewhere {e : Event} (hi : i < b.sessions.length) (he : e.IsElsewhere b (b.session i).id) :
    (b.step e).session i = b.session i := by
  refine Broker.session_step e hi ?_
  intro c hc hsession
  subst hc
  cases c with
  | start | forget | deleteObsolete => cases hsession
  | _ =>
    obtain rfl := Option.some.inj hsession
    exact he rfl

end

/-- How long lost sessions are kept never changes. -/
theorem Stable.keepLost (keep : Option Time.Duration) : Stable fun b => b.keepLost = keep where
  move hm h := by
    cases hm with
    | records hr => rw [hr]; exact h
    | batch he => cases he <;> exact h
    | _ => exact h
  outside _ h := h
  connections _ h := h
  listeners _ h := h

/-! ## Attempts, one after the other -/

/-- `n` attempts to terminate the session have failed since the first, which was made at `b`, and events elsewhere after
each of them have led to `b'`. -/
inductive Retried (i : SessionRef) (b : Broker) : Nat → Broker → Prop
  | first : Retried i b 0 b
  | failed {n : Nat} {b' : Broker} (e : SessionError) : Retried i b n b' → ((Operation.terminate i).run b').1 = .error e →
      Retried i b (n + 1) ((Operation.terminate i).run b').2
  | elsewhere {n : Nat} {b' : Broker} (e : Event) : Retried i b (n + 1) b' → e.IsElsewhere b' (b.session i).id →
      Retried i b (n + 1) (b'.step e)

/-- What is true before each attempt: the session has been terminated unless this is the first, and is still known. -/
structure Halfway (i : SessionRef) (b : Broker) (n : Nat) (b' : Broker) : Prop where
  present : i < b'.sessions.length
  keepLost : b'.keepLost = b.keepLost
  first : n = 0 → b' = b
  again : n ≠ 0 → b'.session i = (b.session i).terminated b.outside.now
  known : b.keepLost = none → b'.registry.find? (b.session i).id = some i

namespace Halfway

variable {i : SessionRef} {b b' : Broker} {n : Nat}

theorem id (h : Halfway i b n b') : (b'.session i).id = (b.session i).id := by
  by_cases hn : n = 0
  · rw [h.first hn]
  · rw [h.again hn]
    rfl

/-- Whichever attempt it is, the session is lost since the first. -/
theorem terminated (h : Halfway i b n b')
    (hlost : (b.session i).disconnectedAt.isSome → (b.session i).connection = none) :
    ((Operation.terminate i).run b').2.session i = (b.session i).terminated b.outside.now := by
  rw [(Operation.terminate_onlyRecords i b').session]
  by_cases hn : n = 0
  · obtain rfl := h.first hn
    exact Broker.session_terminated_eq h.present hlost
  · rw [Broker.terminated_of_terminated (h.again hn)]
    exact h.again hn

theorem failed (h : Halfway i b n b')
    (hlost : (b.session i).disconnectedAt.isSome → (b.session i).connection = none) {e : SessionError}
    (he : ((Operation.terminate i).run b').1 = .error e) : Halfway i b (n + 1) ((Operation.terminate i).run b').2 := by
  have hmoves := Operation.terminate_moves i b'
  refine ⟨Nat.lt_of_lt_of_le h.present hmoves.length_le, (Stable.keepLost _).moves hmoves h.keepLost, nofun,
    fun _ => h.terminated hlost, ?_⟩
  intro hkeep
  have hrecorded := Command.recorded_cases (c := .terminate i) rfl h.present
  simp only [Command.operation, he] at hrecorded
  generalize ((Operation.terminate i).run b').2 = b'' at hrecorded
  cases hrecorded with
  | failed hregistry _ =>
    rw [hregistry]
    exact h.known hkeep

theorem elsewhere (h : Halfway i b (n + 1) b') {e : Event} (he : e.IsElsewhere b' (b.session i).id) :
    Halfway i b (n + 1) (b'.step e) := by
  have hsession : (b'.step e).session i = b'.session i := by
    refine e.session_elsewhere h.present ?_
    rw [h.id]
    exact he
  refine ⟨(Stable.length_le (i + 1)).step e h.present, (Stable.keepLost _).step e h.keepLost, nofun, ?_, ?_⟩
  · intro hn
    rw [hsession]
    exact h.again hn
  · intro hkeep
    rw [e.find?_elsewhere he (h.keepLost.trans hkeep)]
    exact h.known hkeep

end Halfway

theorem Retried.halfway {i : SessionRef} {b b' : Broker} {n : Nat} (h : Retried i b n b') (hi : i < b.sessions.length)
    (hlost : (b.session i).disconnectedAt.isSome → (b.session i).connection = none)
    (hknown : b.registry.find? (b.session i).id = some i) : Halfway i b n b' := by
  induction h with
  | first => exact ⟨hi, rfl, fun _ => rfl, fun hn => absurd rfl hn, fun _ => hknown⟩
  | failed e _ he ih => exact ih.failed hlost he
  | elsewhere e _ he ih => exact ih.elsewhere he

/-- Where no call is under way, whoever is known is one of the broker's sessions, and these have histories. -/
theorem Broker.IsRested.present {b : Broker} {id : String} {i : SessionRef} (h : b.IsRested)
    (hknown : b.registry.find? id = some i) : i < b.sessions.length ∧ (b.session i).HasHistory := by
  obtain ⟨setup, turns, -, rfl⟩ := h
  have hi := ((Service.ordered_boot setup).after turns).catalogued.present id i hknown
  exact ⟨hi, Service.sessions_have_histories setup turns _ (Broker.session_mem hi)⟩

/-- What an attempt is to come to after `n` others have failed: `b` is the broker at the first, `b'` the one at this, and
`r` is its result with the broker that it leaves. -/
structure IsAttempt (i : SessionRef) (b : Broker) (n : Nat) (b' : Broker) (r : Except SessionError Unit × Broker) :
    Prop where
  /-- The session is lost, since the first attempt unless it was before, and all its tunnels are halted and kept. -/
  session : r.2.session i = (b.session i).terminated b.outside.now
  record : (r.2.session i).record =
    { (b.session i).record with disconnectedAt := some ((b.session i).disconnectedAt.getD b.outside.now) }
  halted : ∀ t ∈ (r.2.session i).tunnels, t.halted ∧ t.holdsLease = false
  /-- The first attempt gives back all ports that are leased to the session, and no others. -/
  released : n = 0 → b.allocator.leased.Perm ((b.session i).leasedPorts ++ r.2.allocator.leased)
  /-- Among them is the port of every open tunnel that got it from the server, and nobody has it after that. -/
  freed : ∀ t ∈ (b.session i).tunnels, t.autoAssigned → t.halted = false →
    t.localPort ∈ (b.session i).leasedPorts ∧ (n = 0 → t.localPort ∉ r.2.allocator.leased)
  /-- All others give nothing back, whoever has the ports by then. -/
  again : n ≠ 0 → r.2.allocator = b'.allocator ∧ ∀ j ≠ i, r.2.session j = b'.session j
  /-- It goes well unless the store refuses. -/
  ok_iff : r.1 = .ok () ↔ b'.StoreServes (b.lastUse i)
  /-- Then the id is unknown and has no record, or it is known for the lost session, which has its record. -/
  forgotten : r.1 = .ok () → b.keepLost = none →
    r.2.registry.find? (b.session i).id = none ∧ Operation.Erased (b.session i).id r.2.store
  kept : r.1 = .ok () → b.keepLost.isSome → r.2.registry.find? (b.session i).id = some i ∧ r.2.HasRecord i

/-- However often the store refuses the end of a session, and whatever happens elsewhere between, each attempt to
terminate the session comes to what the first comes to, but for the ports: they are given back by the first alone. -/
theorem retried_termination_ends_once {b b' : Broker} {i : SessionRef} {n : Nat} (hb : b.IsRested)
    (hknown : b.registry.find? (b.session i).id = some i) (hretried : Retried i b n b') :
    IsAttempt i b n b' ((Operation.terminate i).run b') := by
  have hcoherent := hb.coherent
  have hleased : b.allocator.leased.Perm b.heldPorts := by
    have hall := hcoherent.leased
    rwa [List.flatMap_nil, List.append_nil] at hall
  have hlost := (hcoherent.sound i).unlinked
  obtain ⟨hi, hhistory⟩ := hb.present hknown
  have h := hretried.halfway hi hlost hknown
  have honly := Operation.terminate_onlyRecords i b'
  have hsession := h.terminated hlost
  have hid := h.id
  have hreleased (hn : n = 0) :
      b.allocator.leased.Perm ((b.session i).leasedPorts ++ ((Operation.terminate i).run b').2.allocator.leased) := by
    rw [honly.allocator, h.first hn]
    exact Broker.leased_terminated hleased hi
  have hrecorded := Command.recorded_cases (c := .terminate i) rfl h.present
  simp only [Command.operation, Command.isForgetting, h.keepLost] at hrecorded
  refine ⟨hsession, ?_, ?_, hreleased, ?_, ?_, ?_, ?_, ?_⟩
  · rw [hsession, Session.record_terminated]
  · rw [hsession]
    exact (b.session i).retired_of_retire
  · intro t ht hauto hopen
    have hlease : t.holdsLease = true := (hhistory.holds t ht hopen).trans hauto
    have hport : t.localPort ∈ (b.session i).leasedPorts := Session.mem_leasedPorts.mpr ⟨t, ht, hlease, rfl⟩
    refine ⟨hport, ?_⟩
    intro hn hstill
    have hnodup := (hreleased hn).nodup hcoherent.nodup
    exact (List.nodup_append.mp hnodup).2.2 _ hport _ hstill rfl
  · intro hn
    rw [Broker.terminated_of_terminated (h.again hn)] at honly
    exact ⟨honly.allocator, fun j _ => honly.session j⟩
  · have hserved := Operation.terminate_ok_iff h.present fun hkeep => by
      rw [hid]
      exact h.known (h.keepLost.symm.trans hkeep)
    rw [hserved, Broker.lastUse, Broker.lastUse, h.keepLost, hid]
  · intro hok hkeep
    rw [hok, hkeep] at hrecorded
    rw [← hid]
    exact hrecorded.unknown
  · intro hok hkeep
    rw [hok, Option.isNone_eq_false_iff.mpr hkeep] at hrecorded
    rw [← hid]
    exact hrecorded.known

/-- The only port of a session is leased to another by the time its termination goes well. -/
theorem freed_port_stays_leased :
    let request : ConnectionRequest := { forwards := [⟨none, none, "web", 80⟩] }
    let turns : List Turn := .arrival default :: .call (.command (.start "a" 0 request none false)) ::
      .replicate 30 (.go 0) ++ [.arrival default,
        .outside { refusal := fun use => if use = .delete "a" then some "disk full" else none }]
    let b := ((Service.boot { pool := ⟨#[20000]⟩, store := some (.memory {}) }).after turns).broker
    let start : Event := .command (.start "b" 1 request none false)
    let b' := (((Operation.terminate 0).run b).2.step .settling).step start
    let later := b'.step (.outside { now := ⟨50, 0, by decide, by decide⟩ })
    let r := (Operation.terminate 0).run later
    b.IsRested ∧ b.registry.find? (b.session 0).id = some 0 ∧ Retried 0 b 1 later ∧ b.allocator.leased = [20000] ∧
      (b'.session 1).leasedPorts = [20000] ∧ r.1 = .ok () ∧ r.2.allocator.leased = [20000] ∧
      r.2.registry.find? "a" = none ∧ (r.2.session 0).disconnectedAt = some .epoch := by
  intro request turns b start b' later r
  have hb : b.IsRested := by
    refine ⟨_, turns, ?_, rfl⟩
    unfold Service.IsIdle
    decide +kernel
  have hid : (b.session 0).id = "a" := by decide +kernel
  have hknown : b.registry.find? (b.session 0).id = some 0 := by decide +kernel
  have hrefused : ((Operation.terminate 0).run b).1 = .error (.registry (.storage "disk full")) := by decide +kernel
  have helsewhere : start.IsElsewhere (((Operation.terminate 0).run b).2.step .settling) (b.session 0).id := by
    rw [hid]
    show "b" ≠ "a"
    decide
  have hretried : Retried 0 b 1 later :=
    .elsewhere _ (.elsewhere _ (.elsewhere .settling (.failed _ .first hrefused) trivial) helsewhere) trivial
  have hattempt : IsAttempt 0 b 1 later r := retried_termination_ends_once hb hknown hretried
  have hkeep : b.keepLost = none := by decide +kernel
  have hlost : ((b.session 0).terminated b.outside.now).disconnectedAt = some .epoch := by decide +kernel
  have hbefore : b.allocator.leased = [20000] := by decide +kernel
  have hother : (b'.session 1).leasedPorts = [20000] := by decide +kernel
  have hstill : later.allocator.leased = [20000] := by decide +kernel
  have hdone : r.1 = .ok () := by decide +kernel
  -- the kernel has run the broker: nothing below looks into it again
  clear_value r later b' b
  obtain ⟨hforgotten, -⟩ := hattempt.forgotten hdone hkeep
  obtain ⟨hallocator, -⟩ := hattempt.again (by decide)
  rw [hid] at hforgotten
  refine ⟨hb, hknown, hretried, hbefore, hother, hdone, ?_, hforgotten, ?_⟩
  · rw [hallocator]
    exact hstill
  · rw [hattempt.session]
    exact hlost

end TunnelBroker
