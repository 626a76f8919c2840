/-
  TunnelBroker.Proofs.Batch — what a batch of tunnels does, forward by forward.

  While a batch is filled it only adds: pending tunnels of its session, leases, listeners (`Growth`). An
  attempt at one forward ends in one of five ways (`Attempted`), each with the reason for it; a batch goes
  through its forwards up to the first that fails (`Filled`).

  - `attempt_run`, `fill_run`: every run of the model is one of these.
  - `Filled.free`: the ports that a batch leases were free and are leased once.
  - `startTunnels_run`: the four ways in which a whole batch ends (`Ended`), with the broker that it leaves.
-/

import TunnelBroker.Proofs.Allocation
import TunnelBroker.Proofs.Steps

namespace TunnelBroker

open TunnelBroker.Net (Port Endpoint ListenError)
open TunnelBroker.Ports (Allocator PortError)

/-! ## Growth -/

/-- What a batch adds to a broker while it is filled. -/
structure Growth where
  tunnels : List Tunnel := []
  leased : List Port := []
  listeners : List Listener := []

instance : Append Growth := ⟨fun g h => ⟨g.tunnels ++ h.tunnels, g.leased ++ h.leased, g.listeners ++ h.listeners⟩⟩

@[simp] theorem Growth.tunnels_append (g h : Growth) : (g ++ h).tunnels = g.tunnels ++ h.tunnels := rfl
@[simp] theorem Growth.leased_append (g h : Growth) : (g ++ h).leased = g.leased ++ h.leased := rfl
@[simp] theorem Growth.listeners_append (g h : Growth) : (g ++ h).listeners = g.listeners ++ h.listeners := rfl

theorem Growth.leased_then (ports : List Port) (ts : List Tunnel) (ls : List Listener) :
    ({ leased := ports } ++ ⟨ts, [], ls⟩ : Growth) = ⟨ts, ports, ls⟩ :=
  congrArg (Growth.mk ts · ls) (List.append_nil ports)

namespace Broker

def grown (b : Broker) (i : SessionRef) (g : Growth) : Broker :=
  let b' := (b.withLeased (g.leased.reverse ++ b.allocator.leased)).setSession i
    { b.session i with pending := (b.session i).pending ++ g.tunnels }
  { b' with listeners := b.listeners ++ g.listeners }

variable {b : Broker} {i : SessionRef}

theorem session_grown_self (h : i < b.sessions.length) (g : Growth) :
    (b.grown i g).session i = { b.session i with pending := (b.session i).pending ++ g.tunnels } :=
  session_setSession_self h

@[simp] theorem length_grown (b : Broker) (i : SessionRef) (g : Growth) :
    (b.grown i g).sessions.length = b.sessions.length := length_setSession b i _

/-- Where no tunnel and no listener is added, there are only more leases. -/
theorem grown_leased (b : Broker) (i : SessionRef) (ports : List Port) :
    b.grown i { leased := ports } = b.withLeased (ports.reverse ++ b.allocator.leased) := by
  have hset := setSession_of_eq (b := b.withLeased (ports.reverse ++ b.allocator.leased)) (i := i) rfl
  simp only [grown, List.append_nil]
  exact hset

theorem grown_port (b : Broker) (i : SessionRef) (port : Option Port) :
    b.grown i { leased := port.toList } = b.withLeased (port.toList ++ b.allocator.leased) := by
  cases port <;> exact grown_leased b i _

theorem grown_nil (b : Broker) (i : SessionRef) : b.grown i {} = b := grown_leased b i []

/-- A tunnel that is only started takes no endpoint away. -/
theorem canListen_started (b : Broker) (i : SessionRef) (ts : List Tunnel) (e : Endpoint) :
    (b.grown i ⟨ts, [], []⟩).canListen e = b.canListen e := by
  simp [grown, canListen, occupied, withLeased, setSession]

theorem grown_listening (b : Broker) (i : SessionRef) (ts : List Tunnel) (l : Listener) :
    { b.grown i ⟨ts, [], []⟩ with listeners := (b.grown i ⟨ts, [], []⟩).listeners ++ [l] } =
      b.grown i ⟨ts, [], [l]⟩ := by
  have hl : (b.grown i ⟨ts, [], []⟩).listeners ++ [l] = b.listeners ++ [l] := by simp [grown]
  rw [hl]; rfl

theorem grown_grown (h : i < b.sessions.length) (g g' : Growth) : (b.grown i g).grown i g' = b.grown i (g ++ g') := by
  have hs := session_grown_self h g
  have houter : (b.grown i g).grown i g' =
      { b with
        allocator := { b.allocator with leased := g'.leased.reverse ++ (g.leased.reverse ++ b.allocator.leased) }
        sessions := (b.grown i g).sessions.set i
          { (b.grown i g).session i with pending := ((b.grown i g).session i).pending ++ g'.tunnels }
        listeners := b.listeners ++ g.listeners ++ g'.listeners } := rfl
  rw [houter, hs]
  simp [grown, setSession, withLeased, List.append_assoc]

end Broker

/-! ## One forward -/

/-- A forward keeps its local side, or gets one on all interfaces with a port that is free. -/
inductive Resolved (b : Broker) (f : Forward) : Forward → Option Port → Prop
  | given : f.isLocalGiven = true → Resolved b f f none
  | leased {port : Port} : f.isLocalGiven = false → port ∈ b.allocator.free →
      Resolved b f (f.withLocal Forward.allInterfaces port) (some port)

/-- The four ways in which the placing of a forward whose local side is decided ends, and the tunnels that
are pending in addition. -/
inductive Placed (b : Broker) (i : SessionRef) (g : Forward) (acl : Acl) (autoAssigned : Bool) :
    Except SessionError Listener → List Tunnel → Prop
  | invalid {e : ForwardError} : g.validate = .error e → Placed b i g acl autoAssigned (.error (.ofForward g e)) []
  | duplicate {t : Tunnel} : g.validate = .ok () → (b.session i).collision? g = some t →
      Placed b i g acl autoAssigned (.error (.duplicateBinding g.localText t.id)) []
  | unbound {e : Endpoint} {error : ListenError} : g.validate = .ok () → (b.session i).collision? g = none →
      g.localEndpoint = .ok e → b.canListen e = .error error →
      Placed b i g acl autoAssigned (.error (.bind e.text error.message))
        [(b.session i).nextTunnel g acl autoAssigned b.outside.now]
  | opened {e : Endpoint} {t : Tunnel} : g.validate = .ok () → (b.session i).collision? g = none →
      g.localEndpoint = .ok e → b.canListen e = .ok () →
      t = (b.session i).nextTunnel g acl autoAssigned b.outside.now →
      Placed b i g acl autoAssigned (.ok ⟨e, i, t.id, false⟩) [t]

/-- A lease alone changes nothing about how a forward is placed. -/
theorem Placed.of_leased {b : Broker} {i : SessionRef} {g : Forward} {acl : Acl} {autoAssigned : Bool}
    {ports : List Port} {r : Except SessionError Listener} {ts : List Tunnel}
    (h : Placed (b.withLeased ports) i g acl autoAssigned r ts) : Placed b i g acl autoAssigned r ts := by
  cases h with
  | invalid hv => exact .invalid hv
  | duplicate hv hc => exact .duplicate hv hc
  | unbound hv hc he hl => exact .unbound hv hc he hl
  | opened hv hc he hl ht => exact .opened hv hc he hl ht

/-- An attempt at one forward: no port is left for it, or it is placed; and what the attempt has added. -/
inductive Attempted (b : Broker) (i : SessionRef) (acl : Acl) (f : Forward) : Except SessionError Unit → Growth → Prop
  | exhausted : f.isLocalGiven = false → b.allocator.free = [] →
      Attempted b i acl f (.error (.exhausted b.allocator.pool.size)) {}
  | placed {g : Forward} {port : Option Port} {r : Except SessionError Listener} {ts : List Tunnel} :
      Resolved b f g port → Placed b i g acl port.isSome r ts →
      Attempted b i acl f (r.map fun _ => ()) ⟨ts, port.toList, r.toOption.toList⟩

/-- A forward that is complete has an endpoint to listen on. -/
theorem Forward.localEndpoint_of_validate {f : Forward} (h : f.validate = .ok ()) : ∃ e, f.localEndpoint = .ok e := by
  unfold validate at h
  split at h
  · cases h
  split at h
  · cases h
  cases hp : f.localPort with
  | none => simp [hp] at h
  | some port =>
    simp only [hp] at h
    split at h
    · cases h
    cases hi : f.localIp with
    | error e => rw [hi] at h; cases h
    | ok ip => exact ⟨_, by simp only [localEndpoint, hp, hi]; rfl⟩

namespace Operation

variable {b : Broker} {i : SessionRef}

theorem resolve_cases (f : Forward) (b : Broker) :
    (f.isLocalGiven = false ∧ b.allocator.free = [] ∧
      (resolve f).run b = (.error (.exhausted b.allocator.pool.size), b)) ∨
      ∃ g port, Resolved b f g port ∧
        (resolve f).run b = (.ok (g, port), b.withLeased (port.toList ++ b.allocator.leased)) := by
  cases hl : f.isLocalGiven with
  | true => exact .inr ⟨f, none, .given hl, by simp [resolve, hl, Broker.withLeased]⟩
  | false =>
    rcases b.allocator.lease_cases b.outside.draw with ⟨hf, he⟩ | ⟨port, hp, he⟩
    · exact .inl ⟨rfl, hf, by simp [resolve, hl, allocate, he, SessionError.ofPort]⟩
    · exact .inr ⟨_, some port, .leased hl hp, by simp [resolve, hl, allocate, he, Broker.withLeased]⟩

/-- Placing a forward is one of the four, and adds what that says. -/
theorem place_run (i : SessionRef) (g : Forward) (acl : Acl) (autoAssigned : Bool) (b : Broker) :
    ∃ r ts, Placed b i g acl autoAssigned r ts ∧
      (place i g acl autoAssigned).run b = (r, b.grown i ⟨ts, [], r.toOption.toList⟩) := by
  have hnil : b.grown i ⟨[], [], []⟩ = b := Broker.grown_nil b i
  cases hv : g.validate with
  | error e => exact ⟨_, _, .invalid hv, by simp [place, update, Session.start, hv, Except.toOption, hnil]⟩
  | ok _ =>
    cases hc : (b.session i).collision? g with
    | some t => exact ⟨_, _, .duplicate hv hc, by simp [place, update, Session.start, hv, hc, Except.toOption, hnil]⟩
    | none =>
      obtain ⟨e, he⟩ := g.localEndpoint_of_validate hv
      let t := (b.session i).nextTunnel g acl autoAssigned b.outside.now
      have hrun : (place i g acl autoAssigned).run b = (listen i t).run (b.grown i ⟨[t], [], []⟩) := by
        simp [place, update, Session.start, hv, hc, Broker.grown, Broker.withLeased]
        rfl
      have het : t.forward.localEndpoint = .ok e := he
      cases hl : b.canListen e with
      | error error =>
        exact ⟨_, _, .unbound hv hc he hl, by
          simp [hrun, listen, het, Broker.canListen_started, hl, t, Except.toOption]⟩
      | ok _ =>
        refine ⟨_, _, .opened hv hc he hl rfl, ?_⟩
        simp only [hrun, listen, Task.run_atomic, het, Broker.canListen_started, hl, Broker.grown_listening]
        rfl

/-- An attempt at one forward is one of those, and adds what that says. -/
theorem attempt_run (h : i < b.sessions.length) (acl : Acl) (f : Forward) (taken : Taken) :
    ∃ r g, Attempted b i acl f r g ∧ (attempt i acl f taken).run b =
      ((r, ⟨taken.leased ++ g.leased, taken.listeners ++ g.listeners⟩), b.grown i g) := by
  rcases resolve_cases f b with ⟨hl, hf, he⟩ | ⟨g, port, hr, he⟩
  · exact ⟨_, _, .exhausted hl hf, by simp [attempt, he, Broker.grown_nil]⟩
  obtain ⟨r, ts, hp, hrun⟩ := place_run i g acl port.isSome (b.withLeased (port.toList ++ b.allocator.leased))
  refine ⟨_, _, .placed hr hp.of_leased, ?_⟩
  -- The lease and the placing are two growths of the same session, and together one.
  rw [← Broker.grown_port b i, Broker.grown_grown h, Growth.leased_then] at hrun
  rw [← Broker.grown_port b i] at he
  cases r with
  | error e => simp [attempt, he, hrun, Except.map, Except.toOption]
  | ok l => simp [attempt, he, hrun, Except.map, Except.toOption]

end Operation

/-! ## All forwards -/

/-- A batch goes through its forwards up to the first that fails. -/
inductive Filled (i : SessionRef) (acl : Acl) : Broker → List Forward → Except SessionError Unit → Growth → Prop
  | nil {b : Broker} : Filled i acl b [] (.ok ()) {}
  | failed {b : Broker} {f : Forward} {rest : List Forward} {e : SessionError} {g : Growth} :
      Attempted b i acl f (.error e) g → Filled i acl b (f :: rest) (.error e) g
  | step {b : Broker} {f : Forward} {rest : List Forward} {r : Except SessionError Unit} {g g' : Growth} :
      Attempted b i acl f (.ok ()) g → Filled i acl (b.grown i g) rest r g' → Filled i acl b (f :: rest) r (g ++ g')

theorem Operation.fill_run {i : SessionRef} (acl : Acl) (forwards : List Forward) {b : Broker}
    (h : i < b.sessions.length) (taken : Taken) :
    ∃ r g, Filled i acl b forwards r g ∧ (fill i acl forwards taken).run b =
      ((r, ⟨taken.leased ++ g.leased, taken.listeners ++ g.listeners⟩), b.grown i g) := by
  induction forwards generalizing b taken with
  | nil => exact ⟨_, _, .nil, by simp [fill, Broker.grown_nil]⟩
  | cons f rest ih =>
    obtain ⟨r, g, ha, hrun⟩ := attempt_run h acl f taken
    cases r with
    | error e => exact ⟨_, _, .failed ha, by simp [fill, hrun]⟩
    | ok _ =>
      obtain ⟨r', g', hf, hrun'⟩ := ih (b := b.grown i g) (by simpa using h)
        ⟨taken.leased ++ g.leased, taken.listeners ++ g.listeners⟩
      exact ⟨_, _, .step ha hf, by simp [fill, hrun, hrun', Broker.grown_grown h, List.append_assoc]⟩

variable {b : Broker} {i : SessionRef} {acl : Acl} {f : Forward} {forwards : List Forward} {g : Growth}
  {r : Except SessionError Unit} {e : SessionError}

/-- A batch that fails stops at one forward: those before it were opened, and its error is that forward's. -/
theorem Operation.fill_first_failure {e : SessionError} {taken taken' : Taken} {b b' : Broker}
    (h : (fill i acl forwards taken).run b = ((.error e, taken'), b')) :
    ∃ done f rest taken₁ b₁, forwards = done ++ f :: rest ∧ (fill i acl done taken).run b = ((.ok (), taken₁), b₁) ∧
      (attempt i acl f taken₁).run b₁ = ((.error e, taken'), b') := by
  induction forwards generalizing taken b with
  | nil => cases h
  | cons f rest ih =>
    simp only [fill, Task.run_bind] at h
    rcases ha : (attempt i acl f taken).run b with ⟨⟨e' | _, taken₁⟩, b₁⟩
    · rw [ha] at h
      cases h
      exact ⟨[], f, rest, taken, b, rfl, rfl, ha⟩
    · rw [ha] at h
      obtain ⟨done, f', rest', taken₂, b₂, rfl, hdone, hfail⟩ := ih h
      refine ⟨f :: done, f', rest', taken₂, b₂, rfl, ?_, hfail⟩
      simp only [fill, Task.run_bind, ha]
      exact hdone

/-! ### The ports -/

theorem Resolved.free {g : Forward} {port : Option Port} (h : Resolved b f g port) :
    ∀ p ∈ port, p ∈ b.allocator.free := by
  cases h with
  | given _ => intro p hp; cases hp
  | leased _ hf => intro p hp; cases hp; exact hf

theorem Attempted.free (h : Attempted b i acl f r g) : g.leased.Nodup ∧ ∀ p ∈ g.leased, p ∈ b.allocator.free := by
  cases h with
  | exhausted => exact ⟨.nil, fun p hp => by cases hp⟩
  | @placed _ port _ _ hr _ =>
    have hfree := hr.free
    cases port with
    | none => exact ⟨.nil, fun p hp => by cases hp⟩
    | some p => exact ⟨by simp, fun q hq => by simp at hq; subst hq; exact hfree q rfl⟩

theorem Broker.mem_free_grown {p : Port} :
    p ∈ (b.grown i g).allocator.free ↔ p ∈ b.allocator.free ∧ p ∉ g.leased := by
  simp only [Ports.Allocator.mem_free]
  simp [grown, withLeased, setSession]
  tauto

/-- The ports that a batch leases were free before, and it leases none twice. -/
theorem Filled.free (h : Filled i acl b forwards r g) : g.leased.Nodup ∧ ∀ p ∈ g.leased, p ∈ b.allocator.free := by
  induction h with
  | nil => exact ⟨.nil, fun p hp => by cases hp⟩
  | failed ha => exact ha.free
  | @step b f rest r g g' ha _ ih =>
    obtain ⟨hn, hf⟩ := ha.free
    obtain ⟨hn', hf'⟩ := ih
    refine ⟨List.nodup_append.mpr ⟨hn, hn', fun p hp q hq hpq => ?_⟩, fun p hp => ?_⟩
    · subst hpq; exact (Broker.mem_free_grown.mp (hf' p hq)).2 hp
    · rcases List.mem_append.mp hp with hp | hp
      · exact hf p hp
      · exact (Broker.mem_free_grown.mp (hf' p hp)).1

/-! ### The tunnels -/

/-- A tunnel that was just started: nobody has halted it, and it has a lease if its port is a leased one. -/
def Tunnel.Fresh (t : Tunnel) : Prop := t.halted = false ∧ t.holdsLease = t.autoAssigned

/-- What an attempt that went well has found and added. -/
theorem Attempted.opened (h : Attempted b i acl f (.ok ()) g) :
    ∃ f' port e t, Resolved b f f' port ∧ f'.validate = .ok () ∧ (b.session i).collision? f' = none ∧
      f'.localEndpoint = .ok e ∧ b.canListen e = .ok () ∧
      t = (b.session i).nextTunnel f' acl port.isSome b.outside.now ∧
      g = ⟨[t], port.toList, [⟨e, i, t.id, false⟩]⟩ := by
  generalize hr : Except.ok () = r at h
  cases h with
  | exhausted => cases hr
  | placed hres hp =>
    cases hp with
    | opened hv hc he hl ht => exact ⟨_, _, _, _, hres, hv, hc, he, hl, ht, rfl⟩
    | _ => cases hr

/-- A tunnel holds the lease that its forward was resolved with. -/
theorem Resolved.leasedPort {f' : Forward} {port : Option Port} (h : Resolved b f f' port) (s : Session) (acl : Acl)
    (now : Time.Timestamp) : (s.nextTunnel f' acl port.isSome now).leasedPort? = port := by
  cases h with
  | given _ => rfl
  | leased _ _ => rfl

/-- The leases of a batch that went well are those that its tunnels hold. -/
theorem Filled.tunnels (h : Filled i acl b forwards (.ok ()) g) :
    g.tunnels.filterMap Tunnel.leasedPort? = g.leased ∧ (∀ t ∈ g.tunnels, t.Fresh) ∧
      g.tunnels.length = forwards.length := by
  generalize hr : Except.ok () = r at h
  induction h with
  | nil => exact ⟨rfl, fun t ht => (by cases ht), rfl⟩
  | failed _ => cases hr
  | @step b f rest r g g' ha _ ih =>
    obtain ⟨ihl, ihf, ihn⟩ := ih hr
    obtain ⟨f', port, e, t, hres, -, -, -, -, rfl, rfl⟩ := ha.opened
    refine ⟨?_, fun t ht => ?_, by simp [ihn]⟩
    · simp only [Growth.tunnels_append, Growth.leased_append, List.filterMap_append, ihl, List.filterMap_cons,
        hres.leasedPort (b.session i) acl b.outside.now]
      cases port <;> rfl
    · rcases List.mem_append.mp ht with ht | ht
      · rw [List.mem_singleton.mp ht]; exact ⟨rfl, rfl⟩
      · exact ihf t ht

/-! ### The listeners -/

/-- One cannot listen twice on the endpoint that a forward asks for: its port is not zero. -/
theorem Forward.collides_self {f : Forward} {e : Endpoint} (hv : f.validate = .ok ()) (he : f.localEndpoint = .ok e) :
    e.collides e = true := by
  unfold validate at hv
  split at hv
  · cases hv
  split at hv
  · cases hv
  cases hp : f.localPort with
  | none => simp [hp] at hv
  | some port =>
    simp only [hp] at hv
    split at hv
    · cases hv
    rename_i hzero
    have hport : e.port = port := by
      simp only [localEndpoint, hp] at he
      cases hip : f.localIp with
      | error _ => rw [hip] at he; cases he
      | ok ip => rw [hip] at he; cases he; rfl
    simp [Endpoint.collides, hport, hzero]

/-- Where one can listen, nobody listens. -/
theorem Broker.not_mem_of_canListen {l : Listener} (hs : l.endpoint.collides l.endpoint = true)
    (hl : b.canListen l.endpoint = .ok ()) : l ∉ b.listeners := by
  intro hm
  unfold canListen Net.listen at hl
  split at hl
  · cases hl
  · split at hl
    · cases hl
    · rename_i hno
      refine hno (List.any_eq_true.mpr ⟨l.endpoint, ?_, hs⟩)
      exact List.mem_append_right _ (List.mem_map_of_mem hm)

theorem Attempted.listeners (h : Attempted b i acl f r g) : ∀ l ∈ g.listeners, l ∉ b.listeners := by
  cases h with
  | exhausted => intro l hl; cases hl
  | placed _ hp =>
    cases hp with
    | opened hv _ he hl _ =>
      intro l hm
      rw [List.mem_singleton.mp hm]
      exact Broker.not_mem_of_canListen (Forward.collides_self hv he) hl
    | _ => intro l hl; cases hl

/-- The listeners of a batch are none of those that there were before. -/
theorem Filled.listeners (h : Filled i acl b forwards r g) : ∀ l ∈ g.listeners, l ∉ b.listeners := by
  induction h with
  | nil => intro l hl; cases hl
  | failed ha => exact ha.listeners
  | step ha _ ih =>
    intro l hl
    rcases List.mem_append.mp hl with hl | hl
    · exact ha.listeners l hl
    · exact fun hb => ih l hl (List.mem_append_left _ hb)

/-! ## The whole batch -/

/-- The session after its batch went well. -/
def Session.joined (s : Session) (ts : List Tunnel) : Session :=
  { s with tunnels := s.tunnels ++ ts, pending := [], lastId := s.lastId + UInt64.ofNat ts.length }

/-- The session after its batch failed. -/
def Session.dropped (s : Session) (ts : List Tunnel) : Session :=
  { s with pending := [], retired := s.retired ++ ts.map Tunnel.retire }

namespace Broker

/-- The broker when a good answer about busy ports was taken. -/
def withBusy (b : Broker) (ports : List Port) : Broker := { b with allocator := { b.allocator with busy := ports } }

/-- The broker after a batch that failed: its tunnels are retired, and all else is as it was. -/
def rolledBack (b : Broker) (i : SessionRef) (g : Growth) : Broker :=
  b.setSession i ((b.session i).dropped ((b.session i).pending ++ g.tunnels))

/-- The broker after a batch that went well. -/
def committed (b : Broker) (i : SessionRef) (g : Growth) : Broker :=
  let ts := (b.session i).pending ++ g.tunnels
  ((Operation.serve i ts).run ((b.grown i g).setSession i ((b.session i).joined ts))).2

variable {b : Broker} {i : SessionRef}

theorem session_rolledBack (h : i < b.sessions.length) (g : Growth) :
    (b.rolledBack i g).session i = (b.session i).dropped ((b.session i).pending ++ g.tunnels) :=
  session_setSession_self h

theorem session_committed (h : i < b.sessions.length) (g : Growth) :
    (b.committed i g).session i = (b.session i).joined ((b.session i).pending ++ g.tunnels) :=
  session_setSession_self (by simpa using h)

end Broker

/-- The four ways in which a batch ends: its result, and the broker that it leaves. -/
inductive Ended (b : Broker) (i : SessionRef) (acl : Acl) (forwards : List Forward) :
    Except SessionError (List Tunnel) → Broker → Prop
  | notConnected : (b.session i).connection = none →
      Ended b i acl forwards (.error (.notConnected (b.session i).id)) b
  | unrefreshed {e : PortError} : (b.session i).connection.isSome → Operation.refresh.run b = (.error e, b) →
      Ended b i acl forwards (.error (.ofPort e)) b
  | failed {busy : List Port} {e : SessionError} {g : Growth} {taken : Operation.Taken} :
      (b.session i).connection.isSome → Operation.refresh.run b = (.ok (), b.withBusy busy) →
      Filled i acl (b.withBusy busy) forwards (.error e) g →
      (Operation.fill i acl forwards {}).run (b.withBusy busy) = ((.error e, taken), (b.withBusy busy).grown i g) →
      Ended b i acl forwards (.error e) ((b.withBusy busy).rolledBack i g)
  | opened {busy : List Port} {g : Growth} : (b.session i).connection.isSome →
      Operation.refresh.run b = (.ok (), b.withBusy busy) → Filled i acl (b.withBusy busy) forwards (.ok ()) g →
      Ended b i acl forwards (.ok ((b.session i).pending ++ g.tunnels)) ((b.withBusy busy).committed i g)

/-- Giving back what was taken last leaves what there was before. -/
theorem diff_append_of_perm {l l' : List Port} (h : l'.Perm l) (m : List Port) : (l' ++ m).diff l = m := by
  induction l generalizing l' with
  | nil => rw [h.eq_nil]; rfl
  | cons p l ih =>
    have hp : p ∈ l' := h.symm.subset (List.mem_cons_self ..)
    rw [List.diff_cons, List.erase_append_left _ hp]
    refine ih ?_
    have := h.erase p
    rwa [List.erase_cons_head] at this

/-- What is left of ports among which there are others, without these. -/
theorem diff_perm_of_perm_append {l ports rest : List Port} (h : l.Perm (ports ++ rest)) : (l.diff ports).Perm rest := by
  have hdiff := h.diff_right ports
  rwa [diff_append_of_perm (.refl ports)] at hdiff

namespace Operation

theorem refresh_cases (b : Broker) :
    (∃ busy, refresh.run b = (.ok (), b.withBusy busy)) ∨ ∃ e, refresh.run b = (.error e, b) := by
  rw [refresh_run]
  rcases b.allocator.adopt_cases (b.outside.occupancy.ask b.canListen b.allocator.candidates) with
    ⟨ports, he⟩ | ⟨e, he⟩
  · exact .inl ⟨ports, by simp only [he]; rfl⟩
  · exact .inr ⟨e, by simp only [he]⟩

theorem closeListeners_run (i : SessionRef) (h : ∀ l ∈ g.listeners, l ∉ b.listeners) :
    (closeListeners g.listeners).run (b.grown i g) = ((), b.grown i ⟨g.tunnels, g.leased, []⟩) := by
  have hold : b.listeners.filter (fun l => !g.listeners.contains l) = b.listeners :=
    List.filter_eq_self.mpr fun l hl => by
      have : l ∉ g.listeners := fun hg => h l hg hl
      simpa using this
  have hnew : g.listeners.filter (fun l => !g.listeners.contains l) = [] :=
    List.filter_eq_nil_iff.mpr fun l hl => by simpa using hl
  simp only [closeListeners, Task.run_change, Broker.grown, List.filter_append, hold, hnew]

/-- What is left of a batch when its listeners are closed, its tunnels retired and its leases given back. -/
theorem undo_run (hi : i < b.sessions.length) (g : Growth) :
    let b' := b.grown i ⟨g.tunnels, g.leased, []⟩
    (releasePorts g.leased).run (b'.setSession i (b'.session i).discard) = ((), b.rolledBack i g) := by
  intro b'
  have hs : (b'.session i).discard = (b.session i).dropped ((b.session i).pending ++ g.tunnels) := by
    rw [Broker.session_grown_self hi]; rfl
  have hb : b'.setSession i ((b.session i).dropped ((b.session i).pending ++ g.tunnels)) =
      (b.rolledBack i g).withLeased (g.leased.reverse ++ b.allocator.leased) := by
    simp [b', Broker.rolledBack, Broker.grown, Broker.setSession, Broker.withLeased]
  rw [hs, hb, releasePorts_run]
  show ((), (b.rolledBack i g).withLeased ((g.leased.reverse ++ b.allocator.leased).diff g.leased)) = _
  rw [diff_append_of_perm (List.reverse_perm _)]; rfl

/-- A session without a connection opens nothing. -/
theorem startTunnels_unconnected (forwards : List Forward) (acl : Acl) (hc : (b.session i).connection = none) :
    (startTunnels i forwards acl).run b = (.error (.notConnected (b.session i).id), b) := by
  simp [startTunnels, openBatch, look, hc, releasePorts]

/-- A batch ends in one of the four ways, and leaves the broker that this says. -/
theorem startTunnels_run (i : SessionRef) (forwards : List Forward) (acl : Acl) (b : Broker) :
    Ended b i acl forwards ((startTunnels i forwards acl).run b).1 ((startTunnels i forwards acl).run b).2 := by
  cases hc : (b.session i).connection with
  | none => rw [startTunnels_unconnected forwards acl hc]; exact .notConnected hc
  | some c =>
    have hsome : (b.session i).connection.isSome := by rw [hc]; rfl
    rcases refresh_cases b with ⟨busy, hr⟩ | ⟨e, hr⟩
    · have hi : i < (b.withBusy busy).sessions.length := Broker.lt_of_connection hsome
      obtain ⟨r, g, hf, hfill⟩ := fill_run acl forwards hi {}
      cases r with
      | error e =>
        have hrun : (startTunnels i forwards acl).run b = (.error e, (b.withBusy busy).rolledBack i g) := by
          have hundo := undo_run hi g
          simp [startTunnels, openBatch, look, hc, hr, hfill, update, closeListeners_run i hf.listeners, hundo]
        rw [hrun]; exact .failed hsome hr hf hfill
      | ok _ =>
        have hrun : (startTunnels i forwards acl).run b =
            (.ok ((b.session i).pending ++ g.tunnels), (b.withBusy busy).committed i g) := by
          simp [startTunnels, openBatch, look, hc, hr, hfill, update]
          rw [Broker.session_grown_self hi]
          exact ⟨rfl, rfl⟩
        rw [hrun]; exact .opened hsome hr hf
    · have hrun : (startTunnels i forwards acl).run b = (.error (.ofPort e), b) := by
        simp [startTunnels, openBatch, look, hc, hr, releasePorts]
      rw [hrun]; exact .unrefreshed hsome hr

end Operation

/-! ### Batches that fail -/

/-- The tunnels of a session, the leases and the records are the same; so is which tunnels are open. -/
structure Untouched (i : SessionRef) (b b' : Broker) : Prop where
  tunnels : (b'.session i).tunnels = (b.session i).tunnels
  cancelled : (b'.session i).cancelled = (b.session i).cancelled
  leased : b'.allocator.leased = b.allocator.leased
  registry : b'.registry = b.registry
  store : b'.store = b.store

theorem Untouched.refl (i : SessionRef) (b : Broker) : Untouched i b b := ⟨rfl, rfl, rfl, rfl, rfl⟩

theorem Ended.untouched {b' : Broker} (h : Ended b i acl forwards (.error e) b') : Untouched i b b' := by
  cases h with
  | notConnected _ => exact .refl i b
  | unrefreshed _ _ => exact .refl i b
  | @failed busy _ g _ hc _ _ _ =>
    have hsession := Broker.session_rolledBack (b := b.withBusy busy) (Broker.lt_of_connection hc) g
    exact ⟨by rw [hsession]; rfl, by rw [hsession]; rfl, rfl, rfl, rfl⟩

/-- Whatever becomes of a batch, it is no change of the records. -/
theorem Ended.records {r : Except SessionError (List Tunnel)} {b' : Broker} (h : Ended b i acl forwards r b') :
    (b'.session i).id = (b.session i).id ∧ b'.registry = b.registry ∧ b'.store = b.store := by
  cases h with
  | notConnected _ => exact ⟨rfl, rfl, rfl⟩
  | unrefreshed _ _ => exact ⟨rfl, rfl, rfl⟩
  | @failed busy _ g _ hc _ _ _ =>
    have hsession := Broker.session_rolledBack (b := b.withBusy busy) (Broker.lt_of_connection hc) g
    exact ⟨by rw [hsession]; rfl, rfl, rfl⟩
  | @opened busy g hc _ _ =>
    have hsession := Broker.session_committed (b := b.withBusy busy) (Broker.lt_of_connection hc) g
    exact ⟨by rw [hsession]; rfl, rfl, rfl⟩

end TunnelBroker
