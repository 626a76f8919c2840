/-
  TunnelBroker.Proofs.Starting — starts that fail.

  A start adds a session, opens its tunnels in one batch and registers it last. It fails in the batch, which takes
  back what it has done itself, or in the registration, after all tunnels are open; then the start takes them back.
  Either way nothing is left but a session that nobody knows.

  - `StartFailure`: the two ways in which a start fails.
  - `Unstarted`: what both of them leave.
  - `failed_start_unstarted`: every start that fails, of any broker that calls have led to.
-/

import TunnelBroker.Proofs.Atomicity
import TunnelBroker.Proofs.Catalog

namespace TunnelBroker

/-! ## Listeners -/

section

variable {b b' : Broker} {i : SessionRef} {acl : Acl} {forwards : List Forward}

theorem Broker.mem_closeStale {l : Listener} :
    l ∈ b.closeStale.listeners ↔ l ∈ b.listeners ∧ (l.serving = true → b.isServed l = true) := by
  unfold closeStale
  rw [List.mem_filter]
  cases l.serving <;> simp

/-- Whether a listener is served depends on its own session alone. -/
theorem Broker.isServed_congr {l : Listener} (h : b'.session l.session = b.session l.session) :
    b'.isServed l = b.isServed l := by
  unfold isServed
  rw [h]

/-- A session whose tunnels are all halted serves nobody. -/
theorem Broker.isServed_of_halted {l : Listener} (h : ∀ t ∈ (b.session l.session).tunnels, t.halted = true) :
    b.isServed l = false := by
  unfold isServed
  refine List.any_eq_false.mpr fun t ht => ?_
  simp [Session.isOpen, h t ht]

/-- The listeners of other sessions are the same, and those that the session `i` has in addition are serving. -/
structure ListensMore (i : SessionRef) (b b' : Broker) : Prop where
  more : ∀ l ∈ b'.listeners, l ∈ b.listeners ∨ l.session = i ∧ l.serving = true
  others : ∀ l ∈ b.listeners, l.session ≠ i → l ∈ b'.listeners

theorem ListensMore.of_eq (h : b'.listeners = b.listeners) : ListensMore i b b' :=
  ⟨fun _ hl => .inl (h ▸ hl), fun _ hl _ => h ▸ hl⟩

/-- Every listener of a batch that went well is for one of its tunnels. -/
theorem Filled.listened {g : Growth} (h : Filled i acl b forwards (.ok ()) g) :
    ∀ l ∈ g.listeners, l.session = i ∧ l.tunnel ∈ g.tunnels.map (·.id) := by
  generalize hr : Except.ok () = r at h
  induction h with
  | nil => intro l hl; cases hl
  | failed _ => cases hr
  | step ha _ ih =>
    obtain ⟨f', port, e, t, -, -, -, -, -, -, rfl⟩ := ha.opened
    intro l hl
    rcases List.mem_append.mp hl with hl | hl
    · obtain rfl := List.mem_singleton.mp hl
      exact ⟨rfl, List.mem_cons_self ..⟩
    · obtain ⟨hsession, hid⟩ := ih hr l hl
      exact ⟨hsession, List.mem_cons_of_mem _ hid⟩

theorem Ended.listensMore {ts : List Tunnel} (h : Ended b i acl forwards (.ok ts) b') : ListensMore i b b' := by
  cases h with
  | @opened busy g hc _ hf =>
    let ids := ((b.session i).pending ++ g.tunnels).map (·.id)
    let serve (l : Listener) : Listener :=
      if l.session == i && ids.contains l.tunnel then { l with serving := true } else l
    have hlisteners : ((b.withBusy busy).committed i g).listeners = (b.listeners ++ g.listeners).map serve := rfl
    constructor
    · rw [hlisteners]
      intro l hl
      obtain ⟨l₀, hl₀, rfl⟩ := List.mem_map.mp hl
      by_cases hown : l₀.session == i && ids.contains l₀.tunnel
      · have hserve : serve l₀ = { l₀ with serving := true } := if_pos hown
        rw [Bool.and_eq_true, beq_iff_eq] at hown
        rw [hserve]
        exact .inr ⟨hown.1, rfl⟩
      · have hserve : serve l₀ = l₀ := if_neg hown
        rw [hserve]
        rcases List.mem_append.mp hl₀ with hold | hnew
        · exact .inl hold
        · obtain ⟨hsession, hid⟩ := hf.listened l₀ hnew
          refine absurd ?_ hown
          rw [Bool.and_eq_true, beq_iff_eq, List.contains_iff_mem]
          obtain ⟨t, ht, hid⟩ := List.mem_map.mp hid
          exact ⟨hsession, List.mem_map.mpr ⟨t, List.mem_append_right _ ht, hid⟩⟩
    · rw [hlisteners]
      intro l hl hne
      have hserve : serve l = l := if_neg (by simp [hne])
      exact List.mem_map.mpr ⟨l, List.mem_append_left _ hl, hserve⟩

/-- When listeners that nobody serves have closed, a session that serves nobody has added none. -/
theorem ListensMore.closeStale (h : ListensMore i b b') (hothers : ∀ j, j ≠ i → b'.session j = b.session j)
    (hhalted : ∀ t ∈ (b'.session i).tunnels, t.halted = true) :
    (∀ l ∈ b'.closeStale.listeners, l ∈ b.closeStale.listeners) ∧
      ∀ l ∈ b.closeStale.listeners, l.session ≠ i → l ∈ b'.closeStale.listeners := by
  constructor
  · intro l hl
    obtain ⟨hl, hserved⟩ := Broker.mem_closeStale.mp hl
    by_cases hsession : l.session = i
    · have hno : b'.isServed l = false := Broker.isServed_of_halted (by rw [hsession]; exact hhalted)
      have hidle : l.serving ≠ true := fun hs => by
        have := hserved hs
        rw [hno] at this
        cases this
      rcases h.more l hl with hold | ⟨-, hs⟩
      · exact Broker.mem_closeStale.mpr ⟨hold, fun hs => absurd hs hidle⟩
      · exact absurd hs hidle
    · rcases h.more l hl with hold | ⟨hs, -⟩
      · rw [Broker.isServed_congr (hothers _ hsession)] at hserved
        exact Broker.mem_closeStale.mpr ⟨hold, hserved⟩
      · exact absurd hs hsession
  · intro l hl hne
    obtain ⟨hl, hserved⟩ := Broker.mem_closeStale.mp hl
    rw [← Broker.isServed_congr (hothers _ hne)] at hserved
    exact Broker.mem_closeStale.mpr ⟨h.others l hl hne, hserved⟩

end

/-! ## Starts that fail -/

/-- The tunnel is halted and has no lease. -/
def Tunnel.IsOut (t : Tunnel) : Prop := t.halted = true ∧ t.holdsLease = false

/-- All tunnels that the session ever had are out. -/
def Session.IsOver (s : Session) : Prop := s.pending = [] ∧ ∀ t ∈ s.tunnels ++ s.retired, t.IsOut

/-- The two ways in which a start fails after its session `i` was added to `b`, and what they lead to. -/
inductive StartFailure (b : Broker) (i : SessionRef) (forwards : List Forward) : SessionError → Broker → Prop
  | batch {e : SessionError} {b' : Broker} : (Operation.startTunnels i forwards {}).run b = (.error e, b') →
      BatchFailure b i {} forwards e b' → StartFailure b i forwards e b'
  /-- All tunnels were open when the store refused the session's record. -/
  | refused {ts : List Tunnel} {reason : String} {b₁ : Broker} :
      (Operation.startTunnels i forwards {}).run b = (.ok ts, b₁) → ts.length = forwards.length →
      (Operation.register i).run b₁ = (.error (.storage reason), b₁) →
      StartFailure b i forwards (.registry (.storage reason)) (b₁.halted i)

/-- What a start that has failed leaves: the records, the leases, the other sessions and their listeners as they were
before it, and a session that is over. Once its listeners had time to close, nobody else listens. -/
structure Unstarted (b b' : Broker) : Prop where
  registry : b'.registry = b.registry
  store : b'.store = b.store
  leased : b'.allocator.leased = b.allocator.leased
  others : ∀ j, j ≠ b.sessions.length → b'.session j = b.session j
  isOver : (b'.session b.sessions.length).IsOver
  closed : ∀ l ∈ b'.closeStale.listeners, l ∈ b.closeStale.listeners
  listening : ∀ l ∈ b.closeStale.listeners, l.session ≠ b.sessions.length → l ∈ b'.closeStale.listeners

section

variable {b b' : Broker} {i : SessionRef} {forwards : List Forward} {e : SessionError}

/-- A new session is over when its batch has failed. -/
theorem BatchFailure.isOver (h : BatchFailure b i {} forwards e b') (htunnels : (b'.session i).tunnels = [])
    (hpending : (b.session i).pending = []) (hretired : (b.session i).retired = []) : (b'.session i).IsOver := by
  cases h with
  | notConnected _ => exact ⟨hpending, by simp [htunnels, hretired]⟩
  | unrefreshed _ => exact ⟨hpending, by simp [htunnels, hretired]⟩
  | stopped _ _ _ _ _ hdropped hnone =>
    refine ⟨hnone, ?_⟩
    rw [htunnels, hdropped, hretired]
    intro t ht
    obtain ⟨t₀, -, rfl⟩ := List.mem_map.mp ht
    exact ⟨rfl, rfl⟩

/-- What a batch that went well adds to a session that had no tunnels, halting them takes back. -/
theorem Ended.halted {ts : List Tunnel} (h : Ended b i {} forwards (.ok ts) b') (htunnels : (b.session i).tunnels = [])
    (hpending : (b.session i).pending = []) (hretired : (b.session i).retired = []) :
    (b'.halted i).allocator.leased = b.allocator.leased ∧ ((b'.halted i).session i).IsOver := by
  have hle := (Move.batch h).length_le
  cases h with
  | @opened busy g hc _ hf =>
    have hi : i < b.sessions.length := Broker.lt_of_connection hc
    have hsession : ((b.withBusy busy).committed i g).session i =
        (b.session i).joined ((b.session i).pending ++ g.tunnels) := Broker.session_committed hi g
    have hlength : i < ((b.withBusy busy).committed i g).sessions.length := Nat.lt_of_lt_of_le hi hle
    have hjoined : ((b.session i).joined ((b.session i).pending ++ g.tunnels)).tunnels = g.tunnels := by
      simp [Session.joined, htunnels, hpending]
    constructor
    · have hports : (((b.withBusy busy).committed i g).session i).haltTunnels.1 = g.leased := by
        rw [hsession]
        show List.filterMap Tunnel.leasedPort? _ = _
        rw [hjoined]
        exact hf.tunnels.1
      show (g.leased.reverse ++ b.allocator.leased).diff _ = _
      rw [hports]
      exact diff_append_of_perm (List.reverse_perm _) _
    · rw [Broker.session_halted hlength, hsession]
      refine ⟨rfl, ?_⟩
      show ∀ t ∈ List.map Tunnel.retire _ ++ (b.session i).retired, _
      rw [hjoined, hretired, List.append_nil]
      intro t ht
      obtain ⟨t₀, -, rfl⟩ := List.mem_map.mp ht
      exact ⟨rfl, rfl⟩

namespace Operation

variable {id : String} {connection : ConnectionRef} {request : ConnectionRequest} {user : Option User}
  {cancelled : Bool}

/-- A start that fails ends in one of two ways, and leaves nothing. -/
theorem startSession_error (h : (startSession id connection request user cancelled).run b = (.error e, b')) :
    StartFailure (b.addSession (.connect id connection (b.connection connection).address.text request.profile user
      cancelled)).2 b.sessions.length request.forwards e b' ∧ Unstarted b b' := by
  have hothers : ∀ j, j ≠ b.sessions.length → b'.session j = b.session j := fun j hj => by
    have hne := (startSession_moves id connection request user cancelled b).session_ne hj
    rwa [h] at hne
  rw [startSession_run] at h
  generalize hs : Session.connect id connection (b.connection connection).address.text request.profile user
    cancelled = s at h ⊢
  have hnew : (b.addSession s).2.session b.sessions.length = s := Broker.session_addSession b s
  have htunnels : ((b.addSession s).2.session b.sessions.length).tunnels = [] := by rw [hnew, ← hs]; rfl
  have hpending : ((b.addSession s).2.session b.sessions.length).pending = [] := by rw [hnew, ← hs]; rfl
  have hretired : ((b.addSession s).2.session b.sessions.length).retired = [] := by rw [hnew, ← hs]; rfl
  have hend := startTunnels_run b.sessions.length request.forwards {} (b.addSession s).2
  dsimp only at h
  rcases hstart : (startTunnels b.sessions.length request.forwards {}).run (b.addSession s).2 with ⟨e' | ts, b₁⟩
  · rw [hstart] at h hend
    cases h
    have hu := hend.untouched
    have hnone : (b'.session b.sessions.length).tunnels = [] := hu.tunnels.trans htunnels
    have hended := hend.failure.isOver hnone hpending hretired
    have hlisteners : ListensMore b.sessions.length b b' := .of_eq hend.leftovers.2.1
    obtain ⟨hclosed, hlistening⟩ := hlisteners.closeStale hothers fun t ht => by rw [hnone] at ht; cases ht
    exact ⟨.batch hstart hend.failure, hu.registry, hu.store, hu.leased, hothers, hended, hclosed, hlistening⟩
  · rw [hstart] at h hend
    dsimp only at h hend
    rcases register_cases b.sessions.length b₁ with ⟨store', he, -⟩ | ⟨reason, he⟩
    · rw [he] at h
      cases h
    · rw [he] at h
      cases h
      obtain ⟨-, hcount, -, hregistry, hstore, -⟩ := hend.added hpending
      obtain ⟨hleased, hended⟩ := hend.halted htunnels hpending hretired
      have hlisteners : ListensMore b.sessions.length b (b₁.halted b.sessions.length) :=
        ⟨hend.listensMore.more, hend.listensMore.others⟩
      obtain ⟨hclosed, hlistening⟩ := hlisteners.closeStale hothers fun t ht =>
        (hended.2 t (List.mem_append_left _ ht)).1
      exact ⟨.refused hstart hcount he, hregistry, hstore, hleased, hothers, hended, hclosed, hlistening⟩

end Operation

end

/-- The broker after some turns since its setup; any number of calls may be under way. -/
def Broker.IsReached (b : Broker) : Prop := ∃ setup turns, ((Service.boot setup).after turns).broker = b

/-- Whatever calls have led to, a start that fails leaves the records and the leases as they were, and nothing of its
own but halted tunnels. So whoever was known under the id before, live or lost, still is and is the same. -/
theorem failed_start_unstarted {b b' : Broker} (hb : b.IsReached) (id : String) (connection : ConnectionRef)
    (request : ConnectionRequest) (user : Option User) (cancelled : Bool) (e : SessionError)
    (h : (Operation.startSession id connection request user cancelled).run b = (.error e, b')) :
    StartFailure (b.addSession (.connect id connection (b.connection connection).address.text request.profile user
        cancelled)).2 b.sessions.length request.forwards e b' ∧ Unstarted b b' ∧
      ∀ key j, b.registry.find? key = some j → b'.registry.find? key = some j ∧ b'.session j = b.session j := by
  obtain ⟨hfailure, hunstarted⟩ := Operation.startSession_error h
  refine ⟨hfailure, hunstarted, fun key j hj => ⟨by rw [hunstarted.registry]; exact hj, ?_⟩⟩
  -- The registry knows only sessions that are there, so the new one is none of them.
  obtain ⟨setup, turns, rfl⟩ := hb
  have hpresent := ((Service.ordered_boot setup).after turns).catalogued.present key j hj
  exact hunstarted.others j (Nat.ne_of_lt hpresent)

/-- A client connects again under an id that is in use, and the store refuses the record of its session, whose tunnel
is open by then. The first session stays, and stays known. -/
theorem refused_start_keeps_earlier_session :
    let request : ConnectionRequest := { forwards := [⟨none, none, "web", 80⟩] }
    let turns : List Turn := .arrival default :: .call (.command (.start "a" 0 request none false)) ::
      .replicate 30 (.go 0) ++ [.arrival default,
        .outside { refusal := fun use => if use = .save "a" then some "disk full" else none }]
    let b := ((Service.boot { pool := ⟨#[20000, 20001]⟩, store := some (.memory {}) }).after turns).broker
    let run := (Operation.startSession "a" 1 request none false).run b
    run.1 = .error (.registry (.storage "disk full")) ∧ (run.2.session 1).tunnels.length = 1 ∧
      run.2.allocator.leased = [20000] ∧ (b.session 0).isActive ∧ run.2.registry.find? "a" = some 0 ∧
      run.2.session 0 = b.session 0 := by
  intro request turns b run
  have hb : b.IsReached := ⟨_, turns, rfl⟩
  have herror : run.1 = .error (.registry (.storage "disk full")) := by decide +kernel
  have hcount : (run.2.session 1).tunnels.length = 1 := by decide +kernel
  have hleased : b.allocator.leased = [20000] := by decide +kernel
  have hactive : (b.session 0).isActive := by decide +kernel
  have hknown : b.registry.find? "a" = some 0 := by decide +kernel
  -- the kernel has run the broker: nothing below looks into it again
  clear_value b
  have hrun : (Operation.startSession "a" 1 request none false).run b =
      (.error (.registry (.storage "disk full")), run.2) := Prod.ext herror rfl
  obtain ⟨-, hunstarted, hkept⟩ := failed_start_unstarted hb "a" 1 request none false _ hrun
  obtain ⟨hstill, hsame⟩ := hkept "a" 0 hknown
  exact ⟨herror, hcount, hunstarted.leased.trans hleased, hactive, hstill, hsame⟩

end TunnelBroker
