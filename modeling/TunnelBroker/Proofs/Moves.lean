/-
  TunnelBroker.Proofs.Moves — operations as sequences of moves of one session.

  A `Move` is one change of a broker that shows from outside: a session comes to be, a batch of its tunnels
  ends, a tunnel is taken out, the session is halted, lost or cancelled, or the records change. Each
  operation is a sequence of moves of one session, so what every move keeps, every operation keeps.

  - `openTunnels_run`, `closeTunnel_run`, `terminate_run`: what the operations come to.
  - `Moves.session_ne`: a move of one session leaves all others as they are.
-/

import Mathlib.Logic.Relation
import TunnelBroker.Proofs.Batch

namespace TunnelBroker

open TunnelBroker.Net (Port)
open TunnelBroker.Time (Timestamp)

/-! ## What the operations come to -/

namespace Broker

/-- The broker after the tunnels of a session were halted and their leases given back. -/
def halted (b : Broker) (i : SessionRef) : Broker :=
  (b.setSession i (b.session i).haltTunnels.2).withLeased (b.allocator.leased.diff (b.session i).haltTunnels.1)

/-- The broker after a session was lost and its leases given back. -/
def disconnected (b : Broker) (i : SessionRef) (moment : Timestamp) : Broker :=
  (b.setSession i ((b.session i).disconnect moment).2).withLeased
    (b.allocator.leased.diff ((b.session i).disconnect moment).1)

def cancelled (b : Broker) (i : SessionRef) : Broker := b.setSession i (b.session i).cancel

/-- The broker after the part of a termination that cannot fail. -/
def terminated (b : Broker) (i : SessionRef) : Broker := (b.disconnected i b.outside.now).cancelled i

/-- The broker after a tunnel was taken out of a session and its lease given back. -/
def without (b : Broker) (i : SessionRef) (t : Tunnel) (s : Session) : Broker :=
  (b.setSession i s).withLeased (b.allocator.leased.diff t.leasedPort?.toList)

variable {b : Broker} {i : SessionRef}

theorem session_halted (h : i < b.sessions.length) : (b.halted i).session i = (b.session i).haltTunnels.2 :=
  session_setSession_self h

theorem session_disconnected (h : i < b.sessions.length) (moment : Timestamp) :
    (b.disconnected i moment).session i = ((b.session i).disconnect moment).2 := session_setSession_self h

theorem session_terminated (h : i < b.sessions.length) :
    (b.terminated i).session i = ((b.session i).disconnect b.outside.now).2.cancel := by
  have hlen : (b.disconnected i b.outside.now).sessions.length = b.sessions.length := length_setSession ..
  rw [← session_disconnected h]
  exact session_setSession_self (by rw [hlen]; exact h)

theorem session_without (h : i < b.sessions.length) (t : Tunnel) (s : Session) : (b.without i t s).session i = s :=
  session_setSession_self h

end Broker

namespace Operation

theorem haltTunnels_run (i : SessionRef) (b : Broker) : (haltTunnels i).run b = ((), b.halted i) := by
  simp [haltTunnels, update, releasePorts_run]; rfl

/-- A termination first does away with the session itself and then with its record. -/
theorem terminate_run (i : SessionRef) (b : Broker) :
    (terminate i).run b =
      if b.keepLost.isNone then
        let r := (unregister ((b.terminated i).session i).id).run (b.terminated i)
        (r.1.mapError .registry, r.2)
      else
        let r := (register i).run (b.terminated i)
        (r.1.mapError .registry, r.2) := by
  have hk : (b.terminated i).keepLost = b.keepLost := rfl
  simp only [terminate, Task.run_locked, Task.run_bind, update, Task.run_atomic, releasePorts_run, Task.run_read]
  -- The broker at the point where the policy is looked at.
  generalize hend : Broker.setSession _ i _ = b'
  obtain rfl : b' = b.terminated i := hend.symm
  cases hb : b.keepLost <;> simp [hk, hb, look]

/-- What a termination can fail in is the change of the records, which comes last. -/
theorem terminate_onlyRecords (i : SessionRef) (b : Broker) : OnlyRecords (b.terminated i) ((terminate i).run b).2 := by
  rw [terminate_run]
  split
  · exact unregister_onlyRecords _ _
  · exact register_onlyRecords _ _

theorem openTunnels_run (i : SessionRef) (forwards : List Forward) (acl : Acl) (b : Broker) :
    (openTunnels i forwards acl).run b =
      match (startTunnels i forwards acl).run b with
      | (.error e, b') => (.error e, b')
      | (.ok ts, b') => ((((register i).run b').1.mapError .registry).map fun _ => ts, ((register i).run b').2) := by
  simp only [openTunnels, Task.run_locked, Task.run_bind]
  rcases (startTunnels i forwards acl).run b with ⟨e | ts, b'⟩
  · rfl
  · simp only [Task.run_bind]
    rcases (register i).run b' with ⟨e | _, b''⟩ <;> rfl

/-- A tunnel is taken out of an active session that has it; then the session is registered. -/
theorem closeTunnel_run (i : SessionRef) (tunnel : String) (b : Broker) :
    (closeTunnel i tunnel).run b =
      if (b.session i).isActive then
        match (b.session i).removeTunnel? tunnel with
        | none => (.error (.tunnelNotFound (b.session i).id tunnel), b)
        | some (t, s) =>
          let r := (register i).run (b.without i t s)
          (r.1.mapError .registry, r.2)
      else (.error (.notConnected (b.session i).id), b) := by
  cases ha : (b.session i).isActive with
  | false => simp [closeTunnel, look, ha]
  | true =>
    cases hr : (b.session i).removeTunnel? tunnel with
    | none => simp [closeTunnel, look, ha, update, hr]
    | some p =>
      obtain ⟨t, s⟩ := p
      simp only [closeTunnel, look, ha, update, hr, Task.run_locked, Task.run_bind, Task.run_read, Task.run_atomic,
        releasePorts_run]
      rfl

/-- A session is started by a batch of its own and then registered; if that is refused, it is halted. -/
theorem startSession_run (id : String) (connection : ConnectionRef) (request : ConnectionRequest)
    (user : Option User) (cancelled : Bool) (b : Broker) :
    (startSession id connection request user cancelled).run b =
      let i := b.sessions.length
      let s := Session.connect id connection (b.connection connection).address.text request.profile user cancelled
      match (startTunnels i request.forwards {}).run (b.addSession s).2 with
      | (.error e, b') => (.error e, b')
      | (.ok _, b') =>
        match (register i).run b' with
        | (.ok (), b'') => (.ok i, b'')
        | (.error e, b'') => (.error (.registry e), b''.halted i) := by
  simp only [startSession, Task.run_bind, Task.run_atomic, Broker.fst_addSession]
  generalize (startTunnels b.sessions.length request.forwards {}).run _ = p
  rcases p with ⟨e | ts, b'⟩
  · rfl
  · simp only [Task.run_bind]
    rcases (register b.sessions.length).run b' with ⟨e | _, b''⟩
    · simp only [Task.run_bind, haltTunnels_run]; rfl
    · rfl

end Operation

/-! ## Moves -/

/-- One change of a broker that concerns no session but `i`. -/
inductive Move (i : SessionRef) (b : Broker) : Broker → Prop
  | records {b' : Broker} : OnlyRecords b b' → Move i b b'
  | connected (id : String) (c : ConnectionRef) (address : String) (profile : Profile) (user : Option User)
      (cancelled : Bool) : i = b.sessions.length →
      Move i b (b.addSession (.connect id c address profile user cancelled)).2
  | restored (now : Timestamp) (r : SessionRecord) : i = b.sessions.length → Move i b (b.addSession (.ofRecord now r)).2
  | batch {acl : Acl} {forwards : List Forward} {r : Except SessionError (List Tunnel)} {b' : Broker} :
      Ended b i acl forwards r b' → Move i b b'
  | removed {tunnel : String} {t : Tunnel} {s : Session} : (b.session i).removeTunnel? tunnel = some (t, s) →
      Move i b (b.without i t s)
  | halted : Move i b (b.halted i)
  | disconnected (moment : Timestamp) : Move i b (b.disconnected i moment)
  | cancelled : Move i b (b.cancelled i)

/-- Moves of one session, one after the other. -/
abbrev Moves (i : SessionRef) : Broker → Broker → Prop := Relation.ReflTransGen (Move i)

variable {b b' : Broker} {i j : SessionRef}

theorem OnlyRecords.moves (h : OnlyRecords b b') : Moves i b b' := .single (.records h)

/-- What each move keeps, moves keep. -/
theorem Moves.keep {P : Broker → Prop} (h : Moves i b b') (hmove : ∀ {b b'}, Move i b b' → P b → P b') (hb : P b) :
    P b' := by
  induction h with
  | refl => exact hb
  | tail _ hm ih => exact hmove hm ih

/-- No session but the one whose move it is changes. -/
theorem Move.session_ne (h : Move i b b') (hj : j ≠ i) : b'.session j = b.session j := by
  have hset (s : Session) : (b.setSession i s).session j = b.session j := Broker.session_setSession_ne hj
  cases h with
  | records h => exact h.session j
  | connected id c address profile user cancelled hi => exact Broker.session_addSession_ne _ (hi ▸ hj)
  | restored now r hi => exact Broker.session_addSession_ne _ (hi ▸ hj)
  | batch h =>
    cases h with
    | notConnected _ => rfl
    | unrefreshed _ _ => rfl
    | failed _ _ _ _ => exact hset _
    | opened _ _ _ =>
      refine (Broker.session_setSession_ne hj).trans ?_
      exact Broker.session_setSession_ne hj
  | removed _ => exact hset _
  | halted => exact hset _
  | disconnected moment => exact hset _
  | cancelled => exact hset _

theorem Moves.session_ne (h : Moves i b b') (hj : j ≠ i) : b'.session j = b.session j :=
  h.keep (P := fun c => c.session j = b.session j) (fun hm hc => (hm.session_ne hj).trans hc) rfl

/-- No session is ever removed. -/
theorem Move.length_le (h : Move i b b') : b.sessions.length ≤ b'.sessions.length := by
  cases h with
  | records h => exact Nat.le_of_eq (by rw [h.sessions])
  | connected _ _ _ _ _ _ _ => simp
  | restored _ _ _ => simp
  | batch h =>
    cases h with
    | notConnected _ => exact Nat.le_refl _
    | unrefreshed _ _ => exact Nat.le_refl _
    | failed _ _ _ _ => exact Nat.le_of_eq (Broker.length_setSession ..).symm
    | opened _ _ _ =>
      exact Nat.le_of_eq ((Broker.length_setSession ..).trans (Broker.length_setSession ..)).symm
  | removed _ => exact Nat.le_of_eq (Broker.length_setSession ..).symm
  | halted => exact Nat.le_of_eq (Broker.length_setSession ..).symm
  | disconnected _ => exact Nat.le_of_eq (Broker.length_setSession ..).symm
  | cancelled => exact Nat.le_of_eq (Broker.length_setSession ..).symm

theorem Moves.length_le (h : Moves i b b') : b.sessions.length ≤ b'.sessions.length :=
  h.keep (P := fun c => b.sessions.length ≤ c.sessions.length) (fun hm hc => Nat.le_trans hc hm.length_le)
    (Nat.le_refl _)

/-! ## Operations are moves -/

namespace Operation

theorem startTunnels_moves (i : SessionRef) (forwards : List Forward) (acl : Acl) (b : Broker) :
    Moves i b ((startTunnels i forwards acl).run b).2 := .single (.batch (startTunnels_run i forwards acl b))

theorem openTunnels_moves (i : SessionRef) (forwards : List Forward) (acl : Acl) (b : Broker) :
    Moves i b ((openTunnels i forwards acl).run b).2 := by
  have hstart := startTunnels_moves i forwards acl b
  rw [openTunnels_run]
  generalize (startTunnels i forwards acl).run b = p at hstart ⊢
  rcases p with ⟨e | ts, b'⟩
  · exact hstart
  · exact hstart.trans (register_onlyRecords i b').moves

theorem closeTunnel_moves (i : SessionRef) (tunnel : String) (b : Broker) :
    Moves i b ((closeTunnel i tunnel).run b).2 := by
  rw [closeTunnel_run]
  split
  · cases hr : (b.session i).removeTunnel? tunnel with
    | none => exact .refl
    | some p => exact (Relation.ReflTransGen.single (.removed hr)).trans (register_onlyRecords i _).moves
  · exact .refl

theorem terminate_moves (i : SessionRef) (b : Broker) : Moves i b ((terminate i).run b).2 := by
  have hlive : Moves i b (b.terminated i) := .tail (.single (.disconnected b.outside.now)) .cancelled
  exact hlive.trans (terminate_onlyRecords i b).moves

/-- A session is started under the number of the sessions before it. -/
theorem startSession_moves_added (id : String) (connection : ConnectionRef) (request : ConnectionRequest)
    (user : Option User) (cancelled : Bool) (b : Broker) :
    Moves b.sessions.length
      (b.addSession (.connect id connection (b.connection connection).address.text request.profile user cancelled)).2
      ((startSession id connection request user cancelled).run b).2 := by
  rw [startSession_run]
  dsimp only
  generalize (b.addSession (.connect id connection _ request.profile user cancelled)).2 = b₁
  have hstart := startTunnels_moves b.sessions.length request.forwards {} b₁
  generalize (startTunnels b.sessions.length request.forwards {}).run b₁ = p at hstart ⊢
  rcases p with ⟨e | ts, b'⟩
  · exact hstart
  · have hreg := register_onlyRecords b.sessions.length b'
    dsimp only
    generalize (register b.sessions.length).run b' = q at hreg ⊢
    rcases q with ⟨e | _, b''⟩
    · exact (hstart.trans hreg.moves).tail .halted
    · exact hstart.trans hreg.moves

theorem startSession_moves (id : String) (connection : ConnectionRef) (request : ConnectionRequest)
    (user : Option User) (cancelled : Bool) (b : Broker) :
    Moves b.sessions.length b ((startSession id connection request user cancelled).run b).2 :=
  .head (.connected _ _ _ _ _ _ rfl) (startSession_moves_added id connection request user cancelled b)

theorem unregisterAll_onlyRecords (ids : List String) (b : Broker) : OnlyRecords b ((unregisterAll ids).run b).2 := by
  induction ids generalizing b with
  | nil => exact .refl b
  | cons id rest ih =>
    have hstep := unregister_onlyRecords id b
    simp only [unregisterAll, Task.run_bind]
    generalize (unregister id).run b = p at hstep ⊢
    rcases p with ⟨(_ | _) | _, b'⟩
    · exact hstep.trans (ih b')
    · exact hstep
    · simp only [Task.run_bind]
      exact hstep.trans (ih b')

theorem deleteObsolete_onlyRecords (b : Broker) : OnlyRecords b (deleteObsolete.run b).2 := by
  simp only [deleteObsolete, Task.run_bind, Task.run_read]
  cases b.keepLost with
  | none => exact .refl b
  | some keep =>
    simp only [deleteLostFor, now, Task.run_bind, Task.run_read]
    cases b.outside.now.minus? keep with
    | none => exact .refl b
    | some cutoff => exact unregisterAll_onlyRecords _ b

theorem forget_onlyRecords (id : String) (b : Broker) : OnlyRecords b ((forget id).run b).2 := by
  cases hf : b.registry.find? id with
  | none => simpa [forget, find, hf] using OnlyRecords.refl b
  | some i =>
    cases ha : (b.session i).isActive with
    | true => simpa [forget, find, look, hf, ha] using OnlyRecords.refl b
    | false => simpa [forget, find, look, hf, ha] using unregister_onlyRecords id b

end Operation

end TunnelBroker
