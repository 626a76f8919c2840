/-
  TunnelBroker.Proofs.Atomicity — what an operation that fails leaves behind.

  A batch that fails leaves nothing but halted tunnels that belong to no list of the session any more. What
  operators ask for is a batch, or the removal of a tunnel, and then a registration. If the store refuses
  that, the tunnels stay as the first part has left them.

  - `failed_batch_untouched`: a batch opens all its forwards or leaves no trace, and stops at the first
    forward that fails.
  - `untouched_iff_not_refused`: opening or closing tunnels leaves no trace of a failure unless the store
    was the one to refuse.
-/

import TunnelBroker.Proofs.Leases

namespace TunnelBroker

open TunnelBroker.Ports (PortError)

/-! ## Batches -/

/-- The ways in which a batch fails, its error, and what becomes of the tunnels that it has started. -/
inductive BatchFailure (b : Broker) (i : SessionRef) (acl : Acl) (forwards : List Forward) :
    SessionError → Broker → Prop
  | notConnected : (b.session i).connection = none →
      BatchFailure b i acl forwards (.notConnected (b.session i).id) b
  | unrefreshed {e : PortError} : Operation.refresh.run b = (.error e, b) →
      BatchFailure b i acl forwards (.ofPort e) b
  /-- From the refreshed broker `b₀`, the forwards before `f` are opened and lead to `b₁`; `f` is the first
  that fails, and leads to `b₂`. The tunnels that are pending there are retired. -/
  | stopped {done rest : List Forward} {f : Forward} {e : SessionError} {taken taken' : Operation.Taken}
      {b₀ b₁ b₂ b' : Broker} {g : Growth} :
      Operation.refresh.run b = (.ok (), b₀) → forwards = done ++ f :: rest →
      (Operation.fill i acl done {}).run b₀ = ((.ok (), taken), b₁) →
      (Operation.attempt i acl f taken).run b₁ = ((.error e, taken'), b₂) → Attempted b₁ i acl f (.error e) g →
      (b'.session i).retired = (b.session i).retired ++ (b₂.session i).pending.map Tunnel.retire →
      (b'.session i).pending = [] → BatchFailure b i acl forwards e b'

variable {b b' : Broker} {i : SessionRef} {acl : Acl} {forwards : List Forward} {e : SessionError}

/-- The part of a failed fill that its first failing forward explains. -/
theorem Operation.fill_error {taken' : Taken} (hi : i < b.sessions.length)
    (h : (fill i acl forwards {}).run b = ((.error e, taken'), b')) :
    ∃ done f rest taken b₁ g, forwards = done ++ f :: rest ∧ (fill i acl done {}).run b = ((.ok (), taken), b₁) ∧
      (attempt i acl f taken).run b₁ = ((.error e, taken'), b') ∧ Attempted b₁ i acl f (.error e) g := by
  obtain ⟨done, f, rest, taken, b₁, hsplit, hdone, hfail⟩ := fill_first_failure h
  obtain ⟨r, g, -, hrun⟩ := fill_run acl done hi {}
  have hb₁ : b.grown i g = b₁ := by
    have := hrun.symm.trans hdone
    exact (Prod.mk.inj this).2
  have hi₁ : i < b₁.sessions.length := by rw [← hb₁]; simpa using hi
  obtain ⟨r', g', ha, hrun'⟩ := attempt_run hi₁ acl f taken
  have hr' : r' = .error e := (Prod.mk.inj (Prod.mk.inj (hrun'.symm.trans hfail)).1).1
  exact ⟨done, f, rest, taken, b₁, g', hsplit, hdone, hfail, hr' ▸ ha⟩

/-- What else a batch that fails leaves as it was; whatever tunnels it has started are halted. -/
theorem Ended.leftovers (h : Ended b i acl forwards (.error e) b') :
    (b'.session i).lastId = (b.session i).lastId ∧ b'.listeners = b.listeners ∧
      ∀ t ∈ (b'.session i).retired, t ∈ (b.session i).retired ∨ t.halted = true := by
  cases h with
  | notConnected _ => exact ⟨rfl, rfl, fun t ht => .inl ht⟩
  | unrefreshed _ _ => exact ⟨rfl, rfl, fun t ht => .inl ht⟩
  | @failed busy _ g _ hc _ _ _ =>
    have hsession := Broker.session_rolledBack (b := b.withBusy busy) (Broker.lt_of_connection hc) g
    rw [hsession]
    refine ⟨rfl, rfl, fun t ht => ?_⟩
    rcases List.mem_append.mp ht with ht | ht
    · exact .inl ht
    · obtain ⟨_, _, rfl⟩ := List.mem_map.mp ht
      exact .inr rfl

theorem Ended.failure (h : Ended b i acl forwards (.error e) b') : BatchFailure b i acl forwards e b' := by
  cases h with
  | notConnected hc => exact .notConnected hc
  | unrefreshed _ hr => exact .unrefreshed hr
  | @failed busy _ g _ hc hr _ hfill =>
    have hi : i < (b.withBusy busy).sessions.length := Broker.lt_of_connection hc
    have hsession := Broker.session_rolledBack hi g
    obtain ⟨done, f, rest, taken, b₁, g', hsplit, hdone, hfail, ha⟩ := Operation.fill_error hi hfill
    refine .stopped hr hsplit hdone hfail ha ?_ ?_
    · rw [hsession, Broker.session_grown_self hi]; rfl
    · rw [hsession]; rfl

/-- A batch that fails leaves its session, the leases, the records and the listeners as they were. Its tunnels
are all halted. Its error says that the session is lost, or that nobody knows which ports are busy, or why
the first of its forwards that fails does so. -/
theorem failed_batch_untouched (b : Broker) (i : SessionRef) (forwards : List Forward) (acl : Acl) (e : SessionError)
    (h : ((Operation.startTunnels i forwards acl).run b).1 = .error e) :
    let b' := ((Operation.startTunnels i forwards acl).run b).2
    Untouched i b b' ∧ (b'.session i).lastId = (b.session i).lastId ∧ b'.listeners = b.listeners ∧
      (∀ t ∈ (b'.session i).retired, t ∈ (b.session i).retired ∨ t.halted = true) ∧
      BatchFailure b i acl forwards e b' := by
  intro b'
  have hend : Ended b i acl forwards (.error e) b' := h ▸ Operation.startTunnels_run i forwards acl b
  obtain ⟨hid, hlisteners, hretired⟩ := hend.leftovers
  exact ⟨hend.untouched, hid, hlisteners, hretired, hend.failure⟩

/-- A pool of one port does not do for two forwards. -/
theorem exhausted_batch_untouched :
    let b := ({ pool := ⟨#[20000]⟩ } : Setup).boot.after
      [.command (.start "a" 0 { forwards := [⟨none, some 8080, "web", 80⟩] } none false)]
    let forwards : List Forward := [⟨none, none, "web", 81⟩, ⟨none, none, "web", 82⟩]
    let run := (Operation.startTunnels 0 forwards {}).run b
    run.1 = .error (.exhausted 1) ∧ (b.session 0).tunnels.length = 1 ∧ (run.2.session 0).retired.length = 1 ∧
      Untouched 0 b run.2 := by
  intro b forwards run
  have herror : run.1 = .error (.exhausted 1) := by decide
  exact ⟨herror, by decide, by decide, (failed_batch_untouched b 0 forwards {} _ herror).1⟩

/-! ## What operators ask for -/

/-- No forward fails because of the registry. -/
theorem Attempted.error_ne_registry {f : Forward} {g : Growth} (h : Attempted b i acl f (.error e) g)
    (r : RegistryError) : e ≠ .registry r := by
  generalize hr : Except.error e = result at h
  cases h with
  | exhausted _ _ => cases hr; nofun
  | placed _ hp =>
    cases hp with
    | invalid _ => cases hr; nofun
    | duplicate _ _ => cases hr; nofun
    | unbound _ _ _ _ => cases hr; nofun
    | opened _ _ _ _ _ => cases hr

theorem BatchFailure.error_ne_registry (h : BatchFailure b i acl forwards e b') (r : RegistryError) :
    e ≠ .registry r := by
  cases h with
  | notConnected _ => nofun
  | @unrefreshed pe _ => cases pe <;> nofun
  | stopped _ _ _ _ ha _ _ => exact ha.error_ne_registry r

/-- What a batch adds to a session that has nothing pending. -/
theorem Ended.added {ts : List Tunnel} (h : Ended b i acl forwards (.ok ts) b') (hp : (b.session i).pending = []) :
    (b'.session i).tunnels = (b.session i).tunnels ++ ts ∧ ts.length = forwards.length ∧
      (b'.session i).cancelled = (b.session i).cancelled ∧ b'.registry = b.registry ∧ b'.store = b.store ∧
      (forwards = [] → b'.allocator.leased = b.allocator.leased) := by
  cases h with
  | @opened busy g hc _ hf =>
    have hsession := Broker.session_committed (b := b.withBusy busy) (Broker.lt_of_connection hc) g
    refine ⟨by rw [hsession]; rfl, ?_, by rw [hsession]; rfl, rfl, rfl, fun hnil => ?_⟩
    · rw [hp]; exact hf.tunnels.2.2
    · subst hnil
      cases hf with
      | nil => rfl

/-- An operator's batch fails as the batch does, or in the store. It leaves what the batch has left. -/
theorem Operation.openTunnels_error (h : ((openTunnels i forwards acl).run b).1 = .error e) :
    Ended b i acl forwards (.error e) ((openTunnels i forwards acl).run b).2 ∨
      ∃ ts reason, e = .registry (.storage reason) ∧
        (startTunnels i forwards acl).run b = (.ok ts, ((openTunnels i forwards acl).run b).2) ∧
        Ended b i acl forwards (.ok ts) ((openTunnels i forwards acl).run b).2 := by
  have hend := startTunnels_run i forwards acl b
  rw [openTunnels_run] at h ⊢
  generalize (startTunnels i forwards acl).run b = p at h hend ⊢
  rcases p with ⟨e' | ts, b'⟩
  · cases h
    exact .inl hend
  · rcases register_cases i b' with ⟨store', he, _⟩ | ⟨reason, he⟩
    · simp only [he] at h; cases h
    · simp only [he] at h ⊢
      cases h
      exact .inr ⟨ts, reason, rfl, rfl, hend⟩

theorem Operation.openTunnels_untouched_iff (hp : (b.session i).pending = [])
    (h : ((openTunnels i forwards acl).run b).1 = .error e) :
    Untouched i b ((openTunnels i forwards acl).run b).2 ↔
      forwards = [] ∨ ∀ reason, e ≠ .registry (.storage reason) := by
  rcases openTunnels_error h with hend | ⟨ts, reason, rfl, _, hend⟩
  · exact ⟨fun _ => .inr fun _ => hend.failure.error_ne_registry _, fun _ => hend.untouched⟩
  obtain ⟨htunnels, hlen, hcancelled, hregistry, hstore, hleased⟩ := hend.added hp
  constructor
  · intro hu
    have hnil : ts = [] := by simpa [htunnels] using hu.tunnels
    rw [hnil] at hlen
    exact .inl (List.length_eq_zero_iff.mp hlen.symm)
  · rintro (hnil | hne)
    · have hts : ts = [] := List.length_eq_zero_iff.mp (by rw [hlen, hnil]; rfl)
      exact ⟨by rw [htunnels, hts, List.append_nil], hcancelled, hleased hnil, hregistry, hstore⟩
    · exact absurd rfl (hne reason)

/-- Where the store refuses a batch, the batch has gone well before. -/
theorem Operation.openTunnels_refused {r : RegistryError} (hp : (b.session i).pending = [])
    (h : ((openTunnels i forwards acl).run b).1 = .error (.registry r)) :
    let b' := ((openTunnels i forwards acl).run b).2
    ∃ ts, (startTunnels i forwards acl).run b = (.ok ts, b') ∧ ts.length = forwards.length ∧
      (b'.session i).tunnels = (b.session i).tunnels ++ ts ∧ b'.registry = b.registry ∧ b'.store = b.store := by
  intro b'
  rcases openTunnels_error h with hend | ⟨ts, reason, _, hrun, hend⟩
  · exact absurd rfl (hend.failure.error_ne_registry r)
  · obtain ⟨htunnels, hlen, _, hregistry, hstore, _⟩ := hend.added hp
    exact ⟨ts, hrun, hlen, htunnels, hregistry, hstore⟩

/-- The closing of a tunnel fails before the tunnel is taken out, or in the store. -/
theorem Operation.closeTunnel_error {tunnel : String} (h : ((closeTunnel i tunnel).run b).1 = .error e) :
    (((closeTunnel i tunnel).run b).2 = b ∧ ∀ r, e ≠ .registry r) ∨
      ∃ t s reason, (b.session i).removeTunnel? tunnel = some (t, s) ∧ e = .registry (.storage reason) ∧
        ((closeTunnel i tunnel).run b).2 = b.without i t s := by
  rw [closeTunnel_run] at h ⊢
  split at h
  · rename_i hactive
    rw [if_pos hactive]
    cases hr : (b.session i).removeTunnel? tunnel with
    | none =>
      rw [hr] at h
      cases h
      exact .inl ⟨rfl, nofun⟩
    | some p =>
      obtain ⟨t, s⟩ := p
      rw [hr] at h
      rcases register_cases i (b.without i t s) with ⟨store', he, _⟩ | ⟨reason, he⟩
      · simp only [he] at h; cases h
      · simp only [he] at h ⊢
        cases h
        exact .inr ⟨t, s, reason, rfl, rfl, rfl⟩
  · rename_i hactive
    rw [if_neg hactive]
    cases h
    exact .inl ⟨rfl, nofun⟩

/-- A session that a tunnel was taken out of is not as it was. -/
theorem Broker.not_untouched_without {tunnel : String} {t : Tunnel} {s : Session}
    (h : (b.session i).removeTunnel? tunnel = some (t, s)) : ¬ Untouched i b (b.without i t s) := by
  intro hu
  obtain ⟨k, hk, hs⟩ := Session.removeTunnel?_some h
  obtain ⟨hlt, -⟩ := List.getElem?_eq_some_iff.mp hk
  have hi : i < b.sessions.length := by
    by_cases hi : i < b.sessions.length
    · exact hi
    · rw [session_of_le (Nat.le_of_not_lt hi)] at hlt; cases hlt
  have hlen := congrArg List.length hu.tunnels
  rw [session_without hi, hs] at hlen
  simp only [List.length_eraseIdx, hlt, if_true] at hlen
  omega

theorem Operation.closeTunnel_untouched_iff {tunnel : String} (h : ((closeTunnel i tunnel).run b).1 = .error e) :
    Untouched i b ((closeTunnel i tunnel).run b).2 ↔ ∀ reason, e ≠ .registry (.storage reason) := by
  rcases closeTunnel_error h with ⟨hsame, hne⟩ | ⟨t, s, reason, hr, rfl, hsame⟩
  · rw [hsame]
    exact ⟨fun _ reason => hne _, fun _ => .refl i b⟩
  · rw [hsame]
    exact ⟨fun hu => absurd hu (Broker.not_untouched_without hr), fun hne => absurd rfl (hne reason)⟩

/-- Opening or closing tunnels leaves no trace of a failure, unless tunnels were opened or closed and the store
has then refused the record. In that case they stay open or closed while the records stay as they were. -/
theorem untouched_iff_not_refused (setup : Setup) (events : List Event) (i : SessionRef) (forwards : List Forward)
    (acl : Acl) (tunnel : String) :
    let b := setup.boot.after events
    let opened := (Operation.openTunnels i forwards acl).run b
    let closed := (Operation.closeTunnel i tunnel).run b
    (∀ e, opened.1 = .error e →
      (Untouched i b opened.2 ↔ forwards = [] ∨ ∀ reason, e ≠ .registry (.storage reason))) ∧
    (∀ e, closed.1 = .error e → (Untouched i b closed.2 ↔ ∀ reason, e ≠ .registry (.storage reason))) ∧
    (∀ r, opened.1 = .error (.registry r) → ∃ ts, (Operation.startTunnels i forwards acl).run b = (.ok ts, opened.2) ∧
      ts.length = forwards.length ∧ (opened.2.session i).tunnels = (b.session i).tunnels ++ ts ∧
      opened.2.registry = b.registry ∧ opened.2.store = b.store) ∧
    (∀ r, closed.1 = .error (.registry r) → ∃ t s, (b.session i).removeTunnel? tunnel = some (t, s) ∧
      closed.2 = b.without i t s) := by
  intro b opened closed
  -- Between two events nothing is pending, so all that a batch commits is its own.
  have hpending : (b.session i).pending = [] := ((Conserved.boot_after setup events).session i).pending
  refine ⟨fun e he => Operation.openTunnels_untouched_iff hpending he,
    fun e he => Operation.closeTunnel_untouched_iff he, fun r he => Operation.openTunnels_refused hpending he,
    fun r he => ?_⟩
  rcases Operation.closeTunnel_error he with ⟨_, hne⟩ | ⟨t, s, _, hr, _, hsame⟩
  · exact absurd rfl (hne r)
  · exact ⟨t, s, hr, hsame⟩

/-- A tunnel that could not be recorded is open all the same, and its port is leased. -/
theorem refused_tunnel_stays_open :
    let setup : Setup := { pool := ⟨#[20000]⟩, store := some (.memory {}) }
    let events : List Event := [.arrival default, .command (.start "a" 0 {} none false),
      .outside { refusal := fun use => if use = .save "a" then some "disk full" else none }]
    let b := setup.boot.after events
    let run := (Operation.openTunnels 0 [⟨none, none, "web", 80⟩] {}).run b
    run.1 = .error (.registry (.storage "disk full")) ∧ b.allocator.leased = [] ∧ run.2.allocator.leased = [20000] ∧
      ¬ Untouched 0 b run.2 := by
  intro setup events b run
  have herror : run.1 = .error (.registry (.storage "disk full")) := by decide
  have hiff := (untouched_iff_not_refused setup events 0 [⟨none, none, "web", 80⟩] {} "1").1 _ herror
  refine ⟨herror, by decide, by decide, fun hu => ?_⟩
  rcases hiff.mp hu with hnil | hne
  · cases hnil
  · exact hne "disk full" rfl

end TunnelBroker
