/-
  TunnelBroker.Proofs.Opening — what it means that tunnels were opened.

  A session has three signs of life: its connection, the moment at which it was lost, and its context. Whoever
  opens tunnels looks at the connection alone. A session that was asked to end keeps its connection until
  somebody ends it; tunnels that are opened on it in between are stopped from the start.

  - `Delivered`: what a batch that went well leaves in its session.
  - `Delivered.open_iff`: its tunnels are open unless the session was asked to end.
  - `respond_created`: a response with status 201 is always about tunnels that a batch has opened.
  - `opened_tunnels_open_iff`: all of this, whatever has happened to the broker before.
-/

import TunnelBroker.Api.Respond
import TunnelBroker.Proofs.Atomicity
import TunnelBroker.Proofs.Race
import TunnelBroker.Proofs.Succession

namespace TunnelBroker

/-! ## Batches that went well -/

/-- The batch `ts` for some forwards has become part of the session. -/
structure Delivered (b : Broker) (i : SessionRef) (forwards : List Forward) (ts : List Tunnel) (b' : Broker) : Prop where
  count : ts.length = forwards.length
  tunnels : (b'.session i).tunnels = (b.session i).tunnels ++ ts
  cancelled : (b'.session i).cancelled = (b.session i).cancelled
  running : ∀ t ∈ ts, t.halted = false

section

variable {b b' b'' : Broker} {i : SessionRef} {acl : Acl} {forwards : List Forward} {ts : List Tunnel}

theorem Ended.delivered (h : Ended b i acl forwards (.ok ts) b') (hp : (b.session i).pending = []) :
    Delivered b i forwards ts b' := by
  obtain ⟨htunnels, hcount, hcancelled, -⟩ := h.added hp
  refine ⟨hcount, htunnels, hcancelled, ?_⟩
  intro t ht
  cases h with
  | @opened busy g _ _ hfilled =>
    rw [hp, List.nil_append] at ht
    exact (hfilled.tunnels.2.1 t ht).1

/-- What is changed in the records alone does not touch the tunnels. -/
theorem Delivered.records (h : Delivered b i forwards ts b') (hr : OnlyRecords b' b'') :
    Delivered b i forwards ts b'' := by
  have hsession : b''.session i = b'.session i := hr.session i
  refine ⟨h.count, ?_, ?_, h.running⟩
  · rw [hsession]; exact h.tunnels
  · rw [hsession]; exact h.cancelled

/-- The tunnels of a batch are open, or there are none, if the session was not asked to end; else they are not. -/
theorem Delivered.open_iff (h : Delivered b i forwards ts b') :
    (∀ t ∈ ts, (b'.session i).isOpen t) ↔ forwards = [] ∨ (b.session i).cancelled = false := by
  have hopen : ∀ t ∈ ts, (b'.session i).isOpen t = !(b.session i).cancelled := by
    intro t ht
    simp [Session.isOpen, h.running t ht, h.cancelled]
  constructor
  · intro hall
    cases ts with
    | nil =>
      left
      have hcount := h.count
      rw [List.length_nil] at hcount
      exact List.length_eq_zero_iff.mp hcount.symm
    | cons t rest =>
      right
      have hfirst := hopen t (List.mem_cons_self ..)
      rw [hall t (List.mem_cons_self ..)] at hfirst
      simpa using hfirst.symm
  · intro hwhy t ht
    rcases hwhy with hnil | hlive
    · have hcount := h.count
      rw [hnil, List.length_nil] at hcount
      rw [List.length_eq_zero_iff.mp hcount] at ht
      cases ht
    · rw [hopen t ht, hlive]; rfl

namespace Operation

theorem startTunnels_delivered (hp : (b.session i).pending = [])
    (h : (startTunnels i forwards acl).run b = (.ok ts, b')) : Delivered b i forwards ts b' := by
  have hend := startTunnels_run i forwards acl b
  rw [h] at hend
  exact hend.delivered hp

theorem openTunnels_delivered (hp : (b.session i).pending = [])
    (h : (openTunnels i forwards acl).run b = (.ok ts, b')) : Delivered b i forwards ts b' := by
  rw [openTunnels_run] at h
  rcases hstart : (startTunnels i forwards acl).run b with ⟨e | ts₁, b₁⟩
  · rw [hstart] at h
    cases h
  · rw [hstart] at h
    have hrecords := register_onlyRecords i b₁
    dsimp only at h
    rcases hregister : (register i).run b₁ with ⟨e | _, b₂⟩
    · rw [hregister] at h
      cases h
    · rw [hregister] at h hrecords
      cases h
      exact (startTunnels_delivered hp hstart).records hrecords

end Operation

end

/-! ## Responses -/

namespace Api

@[simp] theorem Response.status_error (status : Nat) (code message : String) :
    (error status code message).status = status := rfl

theorem Response.ofError_not_created (e : SessionError) : (ofError e).status ≠ 201 := by
  unfold ofError
  split <;> simp

theorem readBody_not_created {r : Request} {response : Response} (h : readBody r = .error response) :
    response.status ≠ 201 := by
  unfold readBody at h
  split at h
  · cases h
    decide
  · split at h
    · cases h
      unfold Response.badJson
      split <;> decide
    · rename_i request _
      unfold readRequest at h
      cases hforwards : request.remotes.mapM Forward.read with
      | error e =>
        rw [hforwards] at h
        cases h
        simp
      | ok forwards =>
        rw [hforwards] at h
        cases hacl : Acl.read request.acl with
        | error e =>
          rw [hacl] at h
          cases h
          simp
        | ok acl =>
          rw [hacl] at h
          cases h

/-- Status 201 comes from tunnels that were opened on an active session. -/
theorem openTunnels_created {id : String} {r : Request} {b b' : Broker} {response : Response}
    (h : (openTunnels id r).run b = (response, b')) (hstatus : response.status = 201) :
    ∃ i forwards acl ts, readBody r = .ok (forwards, acl) ∧ b.registry.find? id = some i ∧ (b.session i).isActive ∧
      (Operation.openTunnels i forwards acl).run b = (.ok ts, b') ∧
      response = .json 201 OpenTunnelsResponse.json ⟨ts.map .ofTunnel⟩ := by
  unfold openTunnels at h
  cases hbody : readBody r with
  | error refusal =>
    rw [hbody] at h
    cases h
    exact absurd hstatus (readBody_not_created hbody)
  | ok request =>
    obtain ⟨forwards, acl⟩ := request
    rw [hbody] at h
    simp only [Task.run_bind] at h
    have hlook : ((Operation.findActive id).run b).2 = b := rfl
    cases hfound : ((Operation.findActive id).run b).1 with
    | error e =>
      rw [hfound] at h
      cases h
      exact absurd hstatus (Response.ofError_not_created _)
    | ok i =>
      obtain ⟨hfind, hactive⟩ := Operation.findActive_ok.mp hfound
      rw [hfound, hlook] at h
      simp only [Task.run_bind] at h
      rcases hopen : (Operation.openTunnels i forwards acl).run b with ⟨e | ts, b₁⟩
      · rw [hopen] at h
        cases h
        exact absurd hstatus (Response.ofError_not_created e)
      · rw [hopen] at h
        cases h
        exact ⟨i, forwards, acl, ts, rfl, hfind, hactive, hopen, rfl⟩

theorem getSession_not_created (id : String) (b : Broker) : ((getSession id).run b).1.status ≠ 201 := by
  simp only [getSession, Task.run_bind]
  cases ((Operation.find id).run b).1 with
  | error e => exact Response.ofError_not_created _
  | ok i => simp [Response.json]

theorem endSession_not_created (id : String) (b : Broker) : ((endSession id).run b).1.status ≠ 201 := by
  simp only [endSession, Task.run_bind]
  cases ((Operation.find id).run b).1 with
  | error e => exact Response.ofError_not_created _
  | ok i =>
    simp only [Task.run_bind]
    split
    · simp
    · simp only [Task.run_bind]
      generalize (Operation.forget id).run _ = p
      rcases p with ⟨e | _, b'⟩
      · exact Response.ofError_not_created e
      · simp

theorem closeTunnel_not_created (id tunnel : String) (b : Broker) :
    ((closeTunnel id tunnel).run b).1.status ≠ 201 := by
  simp only [closeTunnel, Task.run_bind]
  cases ((Operation.findActive id).run b).1 with
  | error e => exact Response.ofError_not_created _
  | ok i =>
    simp only [Task.run_bind]
    generalize (Operation.closeTunnel i tunnel).run _ = p
    rcases p with ⟨e | _, b'⟩
    · exact Response.ofError_not_created e
    · simp

theorem withParam_not_created {raw : List Char} {f : String → Operation Response} {b : Broker}
    (h : ∀ text, ((f text).run b).1.status ≠ 201) : ((withParam raw f).run b).1.status ≠ 201 := by
  unfold withParam
  cases Text.percentDecode? raw with
  | none => simp [Response.invalidUrl]
  | some text => exact h text

/-- Nothing but opening tunnels is answered with status 201. -/
theorem onRoute_created {r : Request} {route : Route} {b : Broker} (h : ((onRoute r route).run b).1.status = 201) :
    ∃ raw id, route = .tunnels raw ∧ Text.percentDecode? raw = some id ∧ onRoute r route = openTunnels id r := by
  cases route with
  | health => simp [onRoute, health, Response.json] at h
  | sessions => simp [onRoute, listSessions, Response.json] at h
  | description => simp [onRoute] at h
  | session raw =>
    refine absurd h (withParam_not_created fun id => ?_)
    by_cases hmethod : r.method == "DELETE"
    · simp only [hmethod, if_true]
      exact endSession_not_created id b
    · simp only [hmethod]
      exact getSession_not_created id b
  | tunnel raw name =>
    exact absurd h (withParam_not_created fun id => withParam_not_created fun tunnel => closeTunnel_not_created id tunnel b)
  | tunnels raw =>
    simp only [onRoute, withParam] at h ⊢
    cases hid : Text.percentDecode? raw with
    | none =>
      rw [hid] at h
      simp [Response.invalidUrl] at h
    | some id => exact ⟨raw, id, rfl, hid, rfl⟩

/-- A request that is answered with status 201 has opened tunnels on the active session that its path names. -/
theorem respond_created {r : Request} {b b' : Broker} {response : Response}
    (h : (respond r).run b = (response, b')) (hstatus : response.status = 201) :
    ∃ raw id i forwards acl ts, Route.ofPath? r.path = some (.tunnels raw) ∧ Text.percentDecode? raw = some id ∧
      readBody r = .ok (forwards, acl) ∧ b.registry.find? id = some i ∧ (b.session i).isActive ∧
      (Operation.openTunnels i forwards acl).run b = (.ok ts, b') ∧
      response = .json 201 OpenTunnelsResponse.json ⟨ts.map .ofTunnel⟩ := by
  unfold respond at h
  cases hroute : Route.ofPath? r.path with
  | none =>
    rw [hroute] at h
    cases h
    cases hstatus
  | some route =>
    rw [hroute] at h
    dsimp only at h
    by_cases hmethod : route.methods.contains r.method
    · rw [if_pos hmethod] at h
      simp only [Task.run_bind, Task.run_pure, Prod.mk.injEq] at h
      obtain ⟨hresponse, hbroker⟩ := h
      have hcreated : ((onRoute r route).run b).1.status = 201 := by
        rw [← hstatus, ← hresponse]
        split <;> rfl
      obtain ⟨raw, id, rfl, hid, hopen⟩ := onRoute_created hcreated
      have hput : r.method = "PUT" := by simpa [Route.methods] using hmethod
      rw [hput] at hresponse
      have hrun : (openTunnels id r).run b = (response, b') := by
        rw [← hopen]
        exact Prod.ext hresponse hbroker
      obtain ⟨i, forwards, acl, ts, hbody, hfind, hactive, hts, hshape⟩ := openTunnels_created hrun hstatus
      exact ⟨raw, id, i, forwards, acl, ts, rfl, hid, hbody, hfind, hactive, hts, hshape⟩
    · rw [if_neg hmethod] at h
      cases h
      cases hstatus

end Api

/-! ## Reachable brokers -/

/-- Where no call is under way, a batch that went well has opened one tunnel for each forward. They are all open if
and only if the session was not asked to end, or there is none. The same goes for what an operator opens, and for
every response with status 201. -/
theorem opened_tunnels_open_iff {b : Broker} (hb : b.IsRested) (i : SessionRef) (forwards : List Forward) (acl : Acl) :
    (∀ ts b', (Operation.startTunnels i forwards acl).run b = (.ok ts, b') → ts.length = forwards.length ∧
      ((∀ t ∈ ts, (b'.session i).isOpen t) ↔ forwards = [] ∨ (b.session i).cancelled = false)) ∧
    (∀ ts b', (Operation.openTunnels i forwards acl).run b = (.ok ts, b') → ts.length = forwards.length ∧
      ((∀ t ∈ ts, (b'.session i).isOpen t) ↔ forwards = [] ∨ (b.session i).cancelled = false)) ∧
    (∀ r response b', (Api.respond r).run b = (response, b') → response.status = 201 →
      ∃ (k : SessionRef) (wanted : List Forward) (acl : Acl) (ts : List Tunnel),
        Api.readBody r = .ok (wanted, acl) ∧ (b.session k).isActive ∧
        response = .json 201 Api.OpenTunnelsResponse.json ⟨ts.map .ofTunnel⟩ ∧ ts.length = wanted.length ∧
        ((∀ t ∈ ts, (b'.session k).isOpen t) ↔ wanted = [] ∨ (b.session k).cancelled = false)) := by
  have hpending : ∀ k, (b.session k).pending = [] := by
    intro k
    exact hb.coherent.idle k fun _ hg => by cases hg
  refine ⟨?_, ?_, ?_⟩
  · intro ts b' hrun
    have hdelivered := Operation.startTunnels_delivered (hpending i) hrun
    exact ⟨hdelivered.count, hdelivered.open_iff⟩
  · intro ts b' hrun
    have hdelivered := Operation.openTunnels_delivered (hpending i) hrun
    exact ⟨hdelivered.count, hdelivered.open_iff⟩
  · intro r response b' hrun hstatus
    obtain ⟨-, -, k, wanted, acl, ts, -, -, hbody, -, hactive, hopen, hshape⟩ := Api.respond_created hrun hstatus
    have hdelivered := Operation.openTunnels_delivered (hpending k) hopen
    exact ⟨k, wanted, acl, ts, hbody, hactive, hshape, hdelivered.count, hdelivered.open_iff⟩

/-- An operator asks a session to end, and then opens a tunnel on it before anybody has ended it. The tunnel gets a
port and is recorded, and nobody can ever use it. -/
theorem tunnel_of_cancelled_session_is_shut :
    let turns : List Turn := .arrival default :: .call (.command (.start "a" 0 {} none false)) ::
      .replicate 20 (.go 0) ++ .call (.command (.cancel 0)) :: .replicate 4 (.go 1)
    let b := ((Service.boot { pool := ⟨#[20000]⟩ }).after turns).broker
    let run := (Operation.openTunnels 0 [⟨none, none, "web", 80⟩] {}).run b
    run.1.toOption.map List.length = some 1 ∧ run.2.allocator.leased = [20000] ∧
      ∀ ts, run.1 = .ok ts → ¬ ∀ t ∈ ts, (run.2.session 0).isOpen t := by
  intro turns b run
  have hb : b.IsRested := by
    refine ⟨_, turns, ?_, rfl⟩
    unfold Service.IsIdle
    decide +kernel
  have hcancelled : (b.session 0).cancelled = true := by decide +kernel
  have hcount : run.1.toOption.map List.length = some 1 := by decide +kernel
  have hleased : run.2.allocator.leased = [20000] := by decide +kernel
  refine ⟨hcount, hleased, ?_⟩
  -- the kernel has run the broker: nothing below looks into it again
  clear_value b
  intro ts hts hopen
  have hrun : (Operation.openTunnels 0 [⟨none, none, "web", 80⟩] {}).run b = (.ok ts, run.2) := Prod.ext hts rfl
  have hiff := ((opened_tunnels_open_iff hb 0 [⟨none, none, "web", 80⟩] {}).2.1 ts run.2 hrun).2
  rcases hiff.mp hopen with hnone | hlive
  · cases hnone
  · rw [hcancelled] at hlive
    cases hlive

end TunnelBroker
