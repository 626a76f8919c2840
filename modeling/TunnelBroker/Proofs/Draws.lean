/-
  TunnelBroker.Proofs.Draws — batches that succeed whatever ports are drawn.

  Who knows that a port is in use? The allocator knows the leases and what the last refresh saw, a session
  knows the local sides of its tunnels, and the host knows who listens. The allocator draws a port without a
  look at the other forwards of the batch, so it may draw one that the client asked for in the same batch.

  - `Satisfiable`: nothing is wrong with any forward of a batch, and there are enough ports for it.
  - `Ready`: the same while the batch is filled, if no free port is one of those that are asked for.
  - `Filled.ok_of_ready`, `fill_blocked`: with no such port every draw is good, and with one some draw is bad.
  - `opens_for_every_draw_iff`: both together, over the ports that a refresh leaves free. It may leave out more than
    those on which one cannot listen.
-/

import TunnelBroker.Proofs.History
import TunnelBroker.Proofs.Pools

namespace TunnelBroker

open TunnelBroker.Net (Endpoint IpAddr Port)
open TunnelBroker.Ports (Allocator Pool)

/-! ## Local sides -/

namespace Forward

variable {f g : Forward} {port : Port} {e : Endpoint}

/-- The local side that a forward gets when it is left to the server. -/
def onAll (port : Port) : Endpoint := ⟨.v4 0, port, 0⟩

/-- One cannot listen on all interfaces at the port beside the forward. -/
def occupies (f : Forward) (port : Port) : Bool :=
  f.collides (({ remoteHost := "", remotePort := 0 } : Forward).withLocal allInterfaces port)

/-- Neither the session nor the host objects to `g` after `f`. -/
structure Compatible (f g : Forward) : Prop where
  session : f.collides g = false
  host : ∀ e e', f.localEndpoint = .ok e → g.localEndpoint = .ok e' → e'.collides e = false

@[simp] theorem localIp_withLocal (f : Forward) (port : Port) :
    (f.withLocal allInterfaces port).localIp = .ok (.v4 0) := by rfl

@[simp] theorem localPort_withLocal (f : Forward) (host : String) (port : Port) :
    (f.withLocal host port).localPort = some port := rfl

theorem localEndpoint_withLocal (f : Forward) (port : Port) :
    (f.withLocal allInterfaces port).localEndpoint = .ok (onAll port) := by
  simp [localEndpoint, onAll, Except.map]

theorem port_of_localEndpoint (h : f.localEndpoint = .ok e) : f.localPort = some e.port := by
  unfold localEndpoint at h
  cases hp : f.localPort with
  | none => rw [hp] at h; cases h
  | some port =>
    rw [hp] at h
    cases hip : f.localIp with
    | error _ => rw [hip] at h; cases h
    | ok ip => rw [hip] at h; cases h; rfl

theorem collides_withLocal (f g : Forward) (port : Port) :
    f.collides (g.withLocal allInterfaces port) = f.occupies port := rfl

/-- Where the ports differ, the local sides do not collide. -/
theorem collides_of_ne (h : f.localPort ≠ g.localPort) : f.collides g = false := by
  simp [collides, h]

theorem collides_comm (f g : Forward) : f.collides g = g.collides f := by
  by_cases hports : f.localPort = g.localPort
  · unfold collides
    rw [hports]
    cases f.localIp with
    | error _ => cases g.localIp <;> simp [BEq.comm (a := f.localHostText)]
    | ok a =>
      cases g.localIp with
      | error _ => simp [BEq.comm (a := f.localHostText)]
      | ok b => simp [BEq.comm (a := a), Bool.or_assoc, Bool.or_comm a.isUnspecified]
  · rw [collides_of_ne hports, collides_of_ne (Ne.symm hports)]

/-- A complete forward occupies its port, and no other. -/
theorem occupies_iff (h : f.validate = .ok ()) : f.occupies port = true ↔ f.localPort = some port := by
  obtain ⟨e, he⟩ := f.localEndpoint_of_validate h
  have hport := port_of_localEndpoint he
  have hip : ∃ ip, f.localIp = .ok ip := by
    cases hip : f.localIp with
    | error _ => simp only [localEndpoint, hport, hip] at he; cases he
    | ok ip => exact ⟨ip, rfl⟩
  obtain ⟨ip, hip⟩ := hip
  simp [occupies, collides, hport, hip, IpAddr.isUnspecified]

/-- Where the ports differ, nobody objects. -/
theorem compatible_of_ne (h : f.localPort ≠ g.localPort) : f.Compatible g where
  session := collides_of_ne h
  host e e' he he' := by
    have hports : e'.port ≠ e.port := fun hp => h (by rw [port_of_localEndpoint he, port_of_localEndpoint he', hp])
    simp [Endpoint.collides, hports]

end Forward

/-! ## What a batch adds is in the way of what follows -/

namespace Broker

variable {b : Broker} {i : SessionRef} {g : Growth} {f : Forward} {e : Endpoint}

theorem collision?_none {s : Session} :
    s.collision? f = none ↔ ∀ t ∈ s.tunnels ++ s.pending, s.isOpen t → t.forward.collides f = false := by
  simp only [Session.collision?, List.find?_eq_none, Bool.and_eq_true, not_and, Bool.not_eq_true]

theorem collision?_grown (hi : i < b.sessions.length) :
    ((b.grown i g).session i).collision? f = none ↔
      (b.session i).collision? f = none ∧ ∀ t ∈ g.tunnels, (b.session i).isOpen t → t.forward.collides f = false := by
  rw [session_grown_self hi, collision?_none, collision?_none, ← List.append_assoc]
  simp only [List.mem_append (s := (b.session i).tunnels ++ (b.session i).pending)]
  exact ⟨fun h => ⟨fun t ht => h t (.inl ht), fun t ht => h t (.inr ht)⟩,
    fun h t ht ho => ht.elim (fun ht => h.1 t ht ho) fun ht => h.2 t ht ho⟩

theorem canListen_ok :
    b.canListen e = .ok () ↔ b.outside.listenRule e = none ∧ ∀ e' ∈ b.occupied, e.collides e' = false := by
  unfold canListen Net.listen
  cases hr : b.outside.listenRule e with
  | some error => simp
  | none => simp

theorem canListen_grown :
    (b.grown i g).canListen e = .ok () ↔
      b.canListen e = .ok () ∧ ∀ l ∈ g.listeners, e.collides l.endpoint = false := by
  have hall (p : Endpoint → Prop) : (∀ e' ∈ (b.grown i g).occupied, p e') ↔
      (∀ e' ∈ b.occupied, p e') ∧ ∀ l ∈ g.listeners, p l.endpoint := by
    have hocc : (b.grown i g).occupied = b.occupied ++ g.listeners.map (·.endpoint) := by
      simp [occupied, grown, withLeased, setSession]
    rw [hocc, List.forall_mem_append, List.forall_mem_map]
  rw [canListen_ok, canListen_ok, hall, ← and_assoc]
  rfl

theorem free_grown : (b.grown i g).allocator.free = b.allocator.free.filter fun port => !g.leased.contains port := by
  simp only [Allocator.free, List.filter_filter, grown, withLeased, setSession]
  refine List.filter_congr fun port _ => ?_
  simp [Bool.and_left_comm]

end Broker

/-! ## Every draw is good -/

/-- The forward is complete, and neither the session nor the host objects to it. -/
structure Opens (b : Broker) (i : SessionRef) (f : Forward) : Prop where
  valid : f.validate = .ok ()
  free : (b.session i).collision? f = none
  bindable : ∀ e, f.localEndpoint = .ok e → b.canListen e = .ok ()

/-- How many forwards leave their local side to the server. -/
def assignedCount (forwards : List Forward) : Nat := forwards.countP fun f => !f.isLocalGiven

/-- Every forward can be opened, whichever free ports the others get. -/
structure Ready (b : Broker) (i : SessionRef) (forwards : List Forward) : Prop where
  given : ∀ f ∈ forwards, f.isLocalGiven → Opens b i f
  apart : (forwards.filter (·.isLocalGiven)).Pairwise Forward.Compatible
  assigned : ∀ f ∈ forwards, f.isLocalGiven = false → ∀ port ∈ b.allocator.free,
    Opens b i (f.withLocal Forward.allInterfaces port) ∧ ∀ g ∈ forwards, g.isLocalGiven → g.localPort ≠ some port
  nodup : b.allocator.free.Nodup
  enough : assignedCount forwards ≤ b.allocator.free.length

section

variable {b : Broker} {i : SessionRef} {acl : Acl} {f f' : Forward} {rest : List Forward} {g : Growth}
  {r : Except SessionError Unit}

/-- A forward can still be opened after one that it is compatible with. -/
theorem Opens.grown (h : Opens b i f) (hi : i < b.sessions.length) (hcompatible : f'.Compatible f) {e : Endpoint}
    (he : f'.localEndpoint = .ok e) {t : Tunnel} (ht : t.forward = f') (ports : List Port) {l : Listener}
    (hl : l.endpoint = e) : Opens (b.grown i ⟨[t], ports, [l]⟩) i f where
  valid := h.valid
  free := by
    refine (Broker.collision?_grown hi).mpr ⟨h.free, fun t' ht' _ => ?_⟩
    rw [List.mem_singleton.mp ht', ht]
    exact hcompatible.session
  bindable e' he' := by
    refine Broker.canListen_grown.mpr ⟨h.bindable e' he', fun l' hl' => ?_⟩
    rw [List.mem_singleton.mp hl', hl]
    exact hcompatible.host e e' he he'

/-- What a forward is resolved to can be opened. -/
theorem Ready.opens (h : Ready b i (f :: rest)) {port : Option Port} (hres : Resolved b f f' port) : Opens b i f' := by
  cases hres with
  | given hl => exact h.given f (List.mem_cons_self ..) hl
  | leased hl hfree => exact (h.assigned f (List.mem_cons_self ..) hl _ hfree).1

theorem Ready.attempted (h : Ready b i (f :: rest)) (ha : Attempted b i acl f r g) : r = .ok () := by
  cases ha with
  | exhausted hl hfree =>
    have := h.enough
    simp [assignedCount, hl, hfree] at this
  | placed hres hp =>
    have hopens := h.opens hres
    cases hp with
    | invalid hv => rw [hopens.valid] at hv; cases hv
    | duplicate _ hc => rw [hopens.free] at hc; cases hc
    | unbound _ _ he hl => rw [hopens.bindable _ he] at hl; cases hl
    | opened _ _ _ _ _ => rfl

/-- What a forward is resolved to is compatible with all that follows. -/
theorem Ready.compatible (h : Ready b i (f :: rest)) {port : Option Port} (hres : Resolved b f f' port) :
    (∀ f₁ ∈ rest, f₁.isLocalGiven → f'.Compatible f₁) ∧
      ∀ f₁ ∈ rest, f₁.isLocalGiven = false → ∀ p ∈ b.allocator.free, some p ≠ port →
        f'.Compatible (f₁.withLocal Forward.allInterfaces p) := by
  have hmem {f₁ : Forward} (hf : f₁ ∈ rest) : f₁ ∈ f :: rest := List.mem_cons_of_mem _ hf
  cases hres with
  | given hl =>
    have hapart := h.apart
    rw [List.filter_cons_of_pos hl, List.pairwise_cons] at hapart
    refine ⟨fun f₁ hf hl₁ => hapart.1 f₁ (List.mem_filter.mpr ⟨hf, hl₁⟩), fun f₁ hf hl₁ p hp _ => ?_⟩
    exact Forward.compatible_of_ne ((h.assigned f₁ (hmem hf) hl₁ p hp).2 f (List.mem_cons_self ..) hl)
  | @leased port hl hfree =>
    refine ⟨fun f₁ hf hl₁ => ?_, fun f₁ hf hl₁ p hp hne => ?_⟩
    · exact Forward.compatible_of_ne ((h.assigned f (List.mem_cons_self ..) hl port hfree).2 f₁ (hmem hf) hl₁).symm
    · exact Forward.compatible_of_ne hne.symm

/-- A port that is leased for a forward is one less, and one less is needed. -/
theorem Ready.enough_grown (h : Ready b i (f :: rest)) {port : Option Port} (hres : Resolved b f f' port)
    (ts : List Tunnel) (ls : List Listener) :
    assignedCount rest ≤ (b.grown i ⟨ts, port.toList, ls⟩).allocator.free.length := by
  have henough := h.enough
  rw [Broker.free_grown]
  cases hres with
  | given hl =>
    simpa [assignedCount, hl] using henough
  | @leased port hl hfree =>
    have herase : (b.allocator.free.filter fun p => !([port].contains p)) = b.allocator.free.erase port := by
      rw [h.nodup.erase_eq_filter]
      exact List.filter_congr fun p _ => by simp [bne, beq_eq_decide]
    have hlen := List.length_erase_of_mem hfree
    simp only [assignedCount, List.countP_cons, hl] at henough ⊢
    simp only [Option.toList_some, herase, hlen]
    simp at henough
    omega

/-- What one forward adds is in the way of none that follows. -/
theorem Ready.grown (h : Ready b i (f :: rest)) (hi : i < b.sessions.length) (ha : Attempted b i acl f (.ok ()) g) :
    Ready (b.grown i g) i rest := by
  obtain ⟨f', port, e, t, hres, -, -, he, -, ht, rfl⟩ := ha.opened
  have htf : t.forward = f' := by rw [ht]; rfl
  have hmem {f₁ : Forward} (hf : f₁ ∈ rest) : f₁ ∈ f :: rest := List.mem_cons_of_mem _ hf
  obtain ⟨hgiven, hassigned⟩ := h.compatible hres
  exact
    { given f₁ hf hl := (h.given f₁ (hmem hf) hl).grown hi (hgiven f₁ hf hl) he htf _ rfl
      apart := by
        have hapart := h.apart
        rw [List.filter_cons] at hapart
        split at hapart
        · exact (List.pairwise_cons.mp hapart).2
        · exact hapart
      assigned f₁ hf hl p hp := by
        obtain ⟨hfree, hnew⟩ := Broker.mem_free_grown.mp hp
        obtain ⟨hopens, hothers⟩ := h.assigned f₁ (hmem hf) hl p hfree
        have hne : some p ≠ port := fun hp => hnew (by simp [← hp])
        exact ⟨hopens.grown hi (hassigned f₁ hf hl p hfree hne) he htf _ rfl, fun g hg => hothers g (hmem hg)⟩
      nodup := by rw [Broker.free_grown]; exact h.nodup.filter _
      enough := h.enough_grown hres _ _ }

/-- A batch that is ready goes well. -/
theorem Filled.ok_of_ready (hf : Filled i acl b rest r g) (h : Ready b i rest) (hi : i < b.sessions.length) :
    r = .ok () := by
  induction hf with
  | nil => rfl
  | failed ha => exact h.attempted ha
  | step ha _ ih => exact ih (h.grown hi ha) (by simpa using hi)

end

/-! ## Some draw is bad -/

/-- An open tunnel of the session occupies the port, or a forward that asks for it. -/
def InUse (s : Session) (forwards : List Forward) (port : Port) : Prop :=
  (∃ t ∈ s.tunnels ++ s.pending, s.isOpen t ∧ t.forward.occupies port) ∨
    ∃ f ∈ forwards, f.isLocalGiven ∧ f.occupies port

section

variable {b : Broker} {i : SessionRef} {acl : Acl} {f : Forward} {forwards rest : List Forward} {g : Growth}
  {port : Port}

/-- The session had nothing against the forwards of a batch that went well. -/
theorem Filled.collision?_none {r : Except SessionError Unit} (h : Filled i acl b forwards r g) (hr : r = .ok ())
    (hi : i < b.sessions.length) : ∀ f ∈ forwards, f.isLocalGiven → (b.session i).collision? f = none := by
  induction h with
  | nil => intro f hf; cases hf
  | failed _ => cases hr
  | step ha _ ih =>
    intro f hf hl
    rcases List.mem_cons.mp hf with rfl | hf
    · obtain ⟨f', _, _, _, hres, -, hc, -⟩ := ha.opened
      cases hres with
      | given _ => exact hc
      | leased hl' _ => rw [hl] at hl'; cases hl'
    · exact ((Broker.collision?_grown hi).mp (ih hr (by simpa using hi) f hf hl)).1

/-- A port that a forward asks for is still in use when the forward has its tunnel. -/
theorem InUse.grown (h : InUse (b.session i) (f :: rest) port) (hi : i < b.sessions.length) {t : Tunnel}
    (hopen : (b.session i).isOpen t) (ht : t.forward = f) (ports : List Port) (ls : List Listener) :
    InUse ((b.grown i ⟨[t], ports, ls⟩).session i) rest port := by
  rw [Broker.session_grown_self hi]
  have hmem {t' : Tunnel} : t' ∈ (b.session i).tunnels ++ ((b.session i).pending ++ [t]) ↔
      t' ∈ (b.session i).tunnels ++ (b.session i).pending ∨ t' = t := by
    rw [← List.append_assoc, List.mem_append, List.mem_singleton]
  rcases h with ⟨t', ht', ho, hu⟩ | ⟨f₁, hf, hl₁, hu⟩
  · exact .inl ⟨t', hmem.mpr (.inl ht'), ho, hu⟩
  · rcases List.mem_cons.mp hf with rfl | hf
    · exact .inl ⟨t, hmem.mpr (.inr rfl), hopen, by rw [ht]; exact hu⟩
    · exact .inr ⟨f₁, hf, hl₁, hu⟩

/-- Who gets a port on all interfaces that is in use leaves it to a later forward to find it taken. -/
theorem InUse.later (h : InUse (b.session i) (f :: rest) port) (hl : f.isLocalGiven = false)
    (hc : (b.session i).collision? (f.withLocal Forward.allInterfaces port) = none) :
    ∃ f₁ ∈ rest, f₁.isLocalGiven ∧ f₁.occupies port := by
  rcases h with ⟨t', ht', ho, hu⟩ | ⟨f₁, hf, hl₁, hu⟩
  · have := Broker.collision?_none.mp hc t' ht' ho
    rw [Forward.collides_withLocal, hu] at this
    cases this
  · rcases List.mem_cons.mp hf with rfl | hf
    · rw [hl] at hl₁; cases hl₁
    · exact ⟨f₁, hf, hl₁, hu⟩

namespace Operation

/-- A forward that leaves its local side to the server gets the port that is drawn. -/
theorem attempt_leased (hl : f.isLocalGiven = false) (hdraw : (b.allocator.lease b.outside.draw).1 = .ok port)
    (taken : Taken) : ((attempt i acl f taken).run b).1.2.leased = taken.leased ++ [port] := by
  have hresolve : ((resolve f).run b).1 = .ok (f.withLocal Forward.allInterfaces port, some port) := by
    simp [resolve, hl, allocate, hdraw]
  simp only [attempt, Task.run_bind, hresolve]
  generalize (place i _ acl _).run _ = p
  rcases p with ⟨_ | _, b'⟩ <;> rfl

theorem fill_ok (hi : i < b.sessions.length) {taken : Taken}
    (h : ((fill i acl forwards taken).run b).1.1 = .ok ()) : ∃ g, Filled i acl b forwards (.ok ()) g := by
  obtain ⟨r, g, hfilled, hrun⟩ := fill_run acl forwards hi taken
  rw [hrun] at h
  obtain rfl : r = .ok () := h
  exact ⟨g, hfilled⟩

/-- A batch fails if the port that is drawn first is in use. -/
theorem fill_blocked (hi : i < b.sessions.length) (hlive : (b.session i).cancelled = false)
    (hdraw : (b.allocator.lease b.outside.draw).1 = .ok port) (hleft : ∃ f ∈ forwards, f.isLocalGiven = false)
    (hused : InUse (b.session i) forwards port) (taken : Taken) :
    ((fill i acl forwards taken).run b).1.1 ≠ .ok () := by
  induction forwards generalizing b taken with
  | nil => obtain ⟨_, hf, _⟩ := hleft; cases hf
  | cons f rest ih =>
    obtain ⟨r, g, ha, hrun⟩ := attempt_run hi acl f taken
    cases r with
    | error e => simp [fill, hrun]
    | ok _ =>
      intro hok
      simp only [fill, Task.run_bind, hrun] at hok
      obtain ⟨f', port', e, t, hres, -, hc, -, -, ht, rfl⟩ := ha.opened
      have hi' : i < (b.grown i ⟨[t], port'.toList, [⟨e, i, t.id, false⟩]⟩).sessions.length := by simpa using hi
      have hopen : (b.session i).isOpen t = true := by rw [ht]; simp [Session.isOpen, Session.nextTunnel, hlive]
      have htf : t.forward = f' := by rw [ht]; rfl
      cases hres with
      | given hl =>
        -- No port was drawn yet, and the port is still in use.
        refine ih hi' (by rw [Broker.session_grown_self hi]; exact hlive) hdraw ?_ (hused.grown hi hopen htf _ _) _ hok
        obtain ⟨f₁, hf, hl₁⟩ := hleft
        rcases List.mem_cons.mp hf with rfl | hf
        · rw [hl] at hl₁; cases hl₁
        · exact ⟨f₁, hf, hl₁⟩
      | @leased p hl _ =>
        have hp : p = port := by
          have hleased : ((attempt i acl f taken).run b).1.2.leased = taken.leased ++ [port] :=
            attempt_leased hl hdraw taken
          rw [hrun] at hleased
          simpa using hleased
        subst hp
        obtain ⟨f₁, hf, hl₁, hu⟩ := hused.later hl hc
        obtain ⟨g', hfilled⟩ := fill_ok hi' hok
        have hnone := hfilled.collision?_none rfl hi' f₁ hf hl₁
        have := ((Broker.collision?_grown hi).mp hnone).2 t (List.mem_singleton.mpr rfl) hopen
        rw [htf, Forward.collides_comm, Forward.collides_withLocal, hu] at this
        cases this

end Operation

end

/-! ## Whole batches -/

/-- The pool is a set of ports, without port 0. -/
structure Ports.Pool.Proper (pool : Pool) : Prop where
  nodup : pool.toList.Nodup
  nonzero : 0 ∉ pool.toList

/-- Every pool that is read is proper. -/
theorem Ports.Pool.IsReadFrom.proper {pool : Pool} {used excluded : List String} (h : pool.IsReadFrom used excluded) :
    pool.Proper :=
  ⟨h.nodup, h.zero_not_mem⟩

namespace Broker

/-- The broker where free ports are drawn in some way. -/
def drawing (b : Broker) (draw : List Port → Nat) : Broker := { b with outside := { b.outside with draw } }

/-- The ports that may be drawn, once a refresh has found the busy ones. -/
def drawable (b : Broker) : List Port := (Operation.refresh.run b).2.allocator.free

end Broker

open Operation (startTunnels fill refresh)

/-- Nothing is wrong with any forward of a batch for a live session, and there are enough ports for those that
leave theirs to the server: ports that may be drawn, and that neither the session nor the batch uses. A refresh
reports every port on which one cannot listen on all interfaces. -/
structure Satisfiable (b : Broker) (i : SessionRef) (forwards : List Forward) : Prop where
  live : (b.session i).isActive
  uncancelled : (b.session i).cancelled = false
  pool : b.allocator.pool.Proper
  given : ∀ f ∈ forwards, f.isLocalGiven → Opens b i f
  apart : (forwards.filter (·.isLocalGiven)).Pairwise Forward.Compatible
  remote : ∀ f ∈ forwards, f.isLocalGiven = false → (Text.trim f.remoteHost.toList).isEmpty = false ∧ f.remotePort ≠ 0
  refreshed : (refresh.run b).1 = .ok ()
  reported : ∀ port ∈ b.allocator.candidates,
    b.canListen (Forward.onAll port) ≠ .ok () → port ∈ (refresh.run b).2.allocator.busy
  enough : ∃ ports : List Port, ports.Nodup ∧ assignedCount forwards ≤ ports.length ∧
    ∀ port ∈ ports, port ∈ b.drawable ∧ ¬InUse (b.session i) forwards port

section

variable {b : Broker} {i : SessionRef} {forwards : List Forward} {busy : List Port} {port : Port}

/-- Once the busy ports are known, a batch goes well if and only if all its forwards can be opened. -/
theorem Operation.startTunnels_ok_iff (hc : (b.session i).connection.isSome)
    (hr : refresh.run b = (.ok (), b.withBusy busy)) (acl : Acl) :
    (∃ ts, ((startTunnels i forwards acl).run b).1 = .ok ts) ↔
      ((fill i acl forwards {}).run (b.withBusy busy)).1.1 = .ok () := by
  obtain ⟨c, hc⟩ := Option.isSome_iff_exists.mp hc
  rcases hf : (fill i acl forwards {}).run (b.withBusy busy) with ⟨⟨e | _, taken⟩, b'⟩
  · simp [startTunnels, openBatch, look, hc, hr, hf]
  · simp [startTunnels, openBatch, look, hc, hr, hf]

/-- How ports are drawn and which are busy does not matter to a forward whose local side is decided. -/
theorem Opens.drawing {f : Forward} (h : Opens b i f) (draw : List Port → Nat) (busy : List Port) :
    Opens ((b.drawing draw).withBusy busy) i f :=
  ⟨h.valid, h.free, h.bindable⟩

namespace Satisfiable

theorem connected (h : Satisfiable b i forwards) : (b.session i).connection.isSome :=
  (Bool.and_eq_true _ _ ▸ h.live : _ ∧ _).1

/-- What a refresh finds are the busy ports. -/
theorem refresh_run (h : Satisfiable b i forwards) : ∃ busy, refresh.run b = (.ok (), b.withBusy busy) := by
  rcases Operation.refresh_cases b with hr | ⟨e, hr⟩
  · exact hr
  · have := h.refreshed
    rw [hr] at this
    cases this

/-- A refresh goes well however ports are drawn, and leaves the same ports free. -/
theorem refresh_drawing (h : Satisfiable b i forwards) :
    ∃ busy, (∀ draw, refresh.run (b.drawing draw) = (.ok (), (b.drawing draw).withBusy busy)) ∧
      (b.withBusy busy).allocator.free = b.drawable := by
  obtain ⟨busy, hr⟩ := h.refresh_run
  refine ⟨busy, fun draw => ?_, by rw [Broker.drawable, hr]⟩
  rw [Operation.refresh_run] at hr ⊢
  have hadopt := congrArg (·.2.allocator) hr
  exact Prod.ext (congrArg (·.1) hr) (congrArg (fun a => { b.drawing draw with allocator := a }) hadopt)

/-- A port that may be drawn is one of the pool on which one can listen. -/
theorem listens (h : Satisfiable b i forwards) (hp : port ∈ b.drawable) :
    port ∈ b.allocator.pool.toList ∧ b.canListen (Forward.onAll port) = .ok () := by
  obtain ⟨busy, hr⟩ := h.refresh_run
  have hreported := h.reported port
  rw [hr] at hreported
  rw [Broker.drawable, hr] at hp
  obtain ⟨hpool, hbusy, hleased⟩ := Allocator.mem_free.mp hp
  refine ⟨hpool, ?_⟩
  by_contra hlisten
  exact hbusy (hreported (Allocator.mem_candidates.mpr ⟨hpool, hleased⟩) hlisten)

/-- On a port that may be drawn and is not in use, a forward can be opened that leaves its local side to the server. -/
theorem opens (h : Satisfiable b i forwards) {f : Forward} (hf : f ∈ forwards) (hl : f.isLocalGiven = false)
    (hp : port ∈ b.drawable) (hunused : ¬InUse (b.session i) forwards port) :
    Opens b i (f.withLocal Forward.allInterfaces port) := by
  obtain ⟨hpool, hlisten⟩ := h.listens hp
  obtain ⟨hhost, hremote⟩ := h.remote f hf hl
  refine ⟨?_, Broker.collision?_none.mpr fun t ht ho => ?_, fun e he => ?_⟩
  · have hport : port ≠ 0 := fun hzero => h.pool.nonzero (hzero ▸ hpool)
    have hlocal : (f.withLocal Forward.allInterfaces port).localIp = .ok (.v4 0) := rfl
    simp only [Forward.validate, hlocal]
    simp [Forward.withLocal, hhost, hremote, hport, Except.map]
  · rw [Forward.collides_withLocal, ← Bool.not_eq_true]
    exact fun hu => hunused (.inl ⟨t, ht, ho, hu⟩)
  · rw [Forward.localEndpoint_withLocal] at he
    rw [← Except.ok.inj he]; exact hlisten

/-- Where no port that may be drawn is in use, the batch is ready. -/
theorem ready (h : Satisfiable b i forwards) (draw : List Port → Nat)
    (hfree : (b.withBusy busy).allocator.free = b.drawable)
    (hunused : (∀ f ∈ forwards, f.isLocalGiven) ∨ ∀ port ∈ b.drawable, ¬InUse (b.session i) forwards port) :
    Ready ((b.drawing draw).withBusy busy) i forwards := by
  exact
    { given f hf hl := (h.given f hf hl).drawing draw busy
      apart := h.apart
      assigned f hf hl port hp := by
        have hdrawable : port ∈ b.drawable := hfree ▸ hp
        have hunused : ¬InUse (b.session i) forwards port := by
          rcases hunused with hall | hunused
          · rw [hall f hf] at hl; cases hl
          · exact hunused port hdrawable
        refine ⟨(h.opens hf hl hdrawable hunused).drawing draw busy, fun g hg hgl hport => ?_⟩
        exact hunused (.inr ⟨g, hg, hgl, (Forward.occupies_iff (h.given g hg hgl).valid).mpr hport⟩)
      nodup := h.pool.nodup.filter _
      enough := by
        obtain ⟨ports, hports, henough, hgood⟩ := h.enough
        refine Nat.le_trans henough (List.Subperm.length_le (List.subperm_of_subset hports fun port hp => ?_))
        exact hfree ▸ (hgood port hp).1 }

end Satisfiable

/-- A satisfiable batch succeeds whatever ports are drawn if and only if no port is drawn at all, or none that
may be drawn is in use by an open tunnel of the session or by a forward of the batch that asks for it. -/
theorem opens_for_every_draw_iff (h : Satisfiable b i forwards) (acl : Acl) :
    (∀ draw, ∃ ts, ((startTunnels i forwards acl).run (b.drawing draw)).1 = .ok ts) ↔
      (∀ f ∈ forwards, f.isLocalGiven) ∨ ∀ port ∈ b.drawable, ¬InUse (b.session i) forwards port := by
  obtain ⟨busy, hrefresh, hfree⟩ := h.refresh_drawing
  have hi : i < b.sessions.length := Broker.lt_of_connection h.connected
  have hiff (draw : List Port → Nat) : (∃ ts, ((startTunnels i forwards acl).run (b.drawing draw)).1 = .ok ts) ↔
      ((fill i acl forwards {}).run ((b.drawing draw).withBusy busy)).1.1 = .ok () :=
    Operation.startTunnels_ok_iff (b := b.drawing draw) h.connected (hrefresh draw) acl
  simp only [hiff]
  constructor
  · intro hall
    by_contra hcon
    simp only [not_or, not_forall, not_not, exists_prop] at hcon
    obtain ⟨⟨f, hf, hl⟩, port, hdrawable, hused⟩ := hcon
    obtain ⟨draw, hdraw⟩ := Allocator.exists_draw_of_mem_free (hfree ▸ hdrawable)
    have hleft : ∃ f ∈ forwards, f.isLocalGiven = false := ⟨f, hf, by simpa using hl⟩
    exact Operation.fill_blocked (b := (b.drawing draw).withBusy busy) hi h.uncancelled hdraw hleft hused {} (hall draw)
  · intro hunused draw
    obtain ⟨r, g, hfilled, hrun⟩ := Operation.fill_run (b := (b.drawing draw).withBusy busy) acl forwards hi {}
    rw [hrun]
    exact hfilled.ok_of_ready (h.ready draw hfree hunused) hi

end

/-- A client asks for one of the two ports of the pool, and for any other; the port that it asked for may be drawn
as the other one. -/
theorem named_port_drawn :
    let b := ({ pool := ⟨#[20000, 20001]⟩ } : Setup).boot.after
      [.arrival default, .command (.start "a" 0 {} none false)]
    let forwards : List Forward := [⟨none, some 20000, "web", 80⟩, ⟨none, none, "web", 22⟩]
    Satisfiable b 0 forwards ∧
      ¬∀ draw, ∃ ts, ((startTunnels 0 forwards {}).run (b.drawing draw)).1 = .ok ts := by
  intro b forwards
  have h : Satisfiable b 0 forwards := by
    have hgiven : ∀ f ∈ forwards, f.isLocalGiven → f = ⟨none, some 20000, "web", 80⟩ := by decide
    exact
      { live := by decide
        uncancelled := by decide
        pool := ⟨by decide, by decide⟩
        given f hf hl := by
          rw [hgiven f hf hl]
          refine ⟨by decide, by decide, fun e he => ?_⟩
          obtain rfl : Forward.onAll 20000 = e := Except.ok.inj he
          decide
        apart := List.pairwise_singleton ..
        remote := by decide
        refreshed := by decide
        reported := by
          have hcandidates : b.allocator.candidates = [20000, 20001] := by decide
          rw [hcandidates, List.forall_mem_cons, List.forall_mem_singleton]
          decide
        enough := by
          refine ⟨[20001], by decide, by decide, fun port hp => ?_⟩
          rw [List.mem_singleton.mp hp]
          refine ⟨by decide, ?_⟩
          unfold InUse
          decide }
  refine ⟨h, fun hall => ?_⟩
  rcases (opens_for_every_draw_iff h {}).mp hall with hgiven | hunused
  · exact absurd (hgiven ⟨none, none, "web", 22⟩ (by decide)) (by decide)
  · exact hunused 20000 (by decide) (.inr ⟨⟨none, some 20000, "web", 80⟩, by decide, by decide, by decide⟩)

end TunnelBroker
