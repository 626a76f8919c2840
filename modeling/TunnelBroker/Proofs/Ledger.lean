/-
  TunnelBroker.Proofs.Ledger — the leases of a call whose session nobody else knows.

  Others find a session in the registry. As long as it is not there, all that they can do is to tell it to end. So
  what becomes of it is the doing of the call that has started it, and what this call has leased and not given back is
  in its hands or held by the session's tunnels.

  - `Balance`: what the steps of a call have leased and not given back.
  - `Service.isDiscreet`: whoever asks something for a session has found it in the registry.
  - `Service.Secluded`: nobody but one call does anything for a session; one turn keeps it, as long as that call does
    not register the session.
  - `Service.Alone`, `Alone.after`: what such a call has done, whatever turns there are.
-/

import TunnelBroker.Proofs.Order
import TunnelBroker.Proofs.Serving
import TunnelBroker.Proofs.Traces

namespace TunnelBroker

open TunnelBroker.Net (Port)

/-! ## What steps lease -/

/-- The step leases the port. -/
def Leases (port : Port) (s : Broker × Broker) : Bool :=
  !s.1.allocator.leased.contains port && s.2.allocator.leased.contains port

/-- The step gives the lease of the port back. -/
def GivesBack (port : Port) (s : Broker × Broker) : Bool := Leases port s.swap

/-- The steps have leased the ports in addition to those that they have given back. -/
def Balance (own : List (Broker × Broker)) (ports : List Port) : Prop :=
  ∀ port, own.countP (Leases port) = own.countP (GivesBack port) + ports.count port

/-- What a step does to the leases, of which `rest` are not concerned. -/
theorem Balance.step {own : List (Broker × Broker)} {ports ports' rest : List Port} {b b' : Broker}
    (h : Balance own ports) (hb : b.allocator.leased.Perm (ports ++ rest))
    (hb' : b'.allocator.leased.Perm (ports' ++ rest)) (hnodup : b.allocator.leased.Nodup)
    (hnodup' : b'.allocator.leased.Nodup) : Balance (own ++ [(b, b')]) ports' := by
  intro port
  have hbefore := hb.count_eq port
  have hafter := hb'.count_eq port
  rw [List.count_append, hnodup.count] at hbefore
  rw [List.count_append, hnodup'.count] at hafter
  have hold := h port
  simp only [List.countP_append, List.countP_singleton, GivesBack, Leases, Prod.swap_prod_mk, List.contains_eq_mem]
  by_cases hm : port ∈ b.allocator.leased <;> by_cases hm' : port ∈ b'.allocator.leased <;>
    simp only [hm, hm', if_true, if_false] at hbefore hafter <;> simp [hm, hm'] <;> omega

namespace Broker

variable {b b' : Broker} {i : SessionRef}

/-- The leases of other sessions are the same where these are. -/
theorem otherPorts_congr (hlength : b'.sessions.length = b.sessions.length)
    (h : ∀ j < b.sessions.length, j ≠ i → b'.session j = b.session j) : b'.otherPorts i = b.otherPorts i := by
  have hget (j : Nat) (hj : j ≠ i) : b'.sessions[j]? = b.sessions[j]? := by
    by_cases hlt : j < b.sessions.length
    · have hlt' : j < b'.sessions.length := by rw [hlength]; exact hlt
      rw [List.getElem?_eq_getElem hlt, List.getElem?_eq_getElem hlt', ← session_eq hlt, ← session_eq hlt', h j hlt hj]
    · have hle : b'.sessions.length ≤ j := by rw [hlength]; exact Nat.le_of_not_lt hlt
      rw [List.getElem?_eq_none (Nat.le_of_not_lt hlt), List.getElem?_eq_none hle]
  unfold otherPorts
  congr 1
  refine List.ext_getElem? fun j => ?_
  rw [List.getElem?_eraseIdx, List.getElem?_eraseIdx]
  split
  · exact hget j (by omega)
  · exact hget (j + 1) (by omega)

end Broker

/-! ## A call and its session -/

section

variable {b b' : Broker} {g g' : Grip} {i : SessionRef}

/-- A call that is for a session stays so. -/
theorem Stepped.session (h : Stepped none b g b' g') (hi : g.session = some i) : g'.session = some i := by
  cases h with
  | acted hact =>
    rcases hact.session with ⟨hsame, -⟩ | ⟨-, -, hnone, -⟩
    · rw [hsame, hi]
    · rw [hi] at hnone
      cases hnone
  | took lock => cases lock <;> exact hi
  | dropped lock => cases lock <;> exact hi
  | stayed => exact hi

/-- The leases of other sessions are none of its business. -/
theorem Stepped.otherPorts (h : Stepped none b g b' g') (hi : g.session = some i) :
    b'.sessions.length = b.sessions.length ∧ b'.otherPorts i = b.otherPorts i := by
  cases h with
  | acted hact =>
    rcases hact.session with ⟨-, hlength⟩ | ⟨-, -, hnone, -⟩
    · refine ⟨hlength, Broker.otherPorts_congr hlength fun j hj hne => hact.allowed.others j hj ?_⟩
      rw [hi]
      exact fun hij => hne (Option.some.inj hij).symm
    · rw [hi] at hnone
      cases hnone
  | _ => exact ⟨rfl, rfl⟩

/-- Without the lock of the tunnels there is no batch. -/
theorem Stepped.pending (h : Stepped none b g b' g') (hfits : Fits none b g) (hi : g.session = some i)
    (hpending : g.tunnels = false → (b.session i).pending = []) (ht : g'.tunnels = false) :
    (b'.session i).pending = [] := by
  cases h with
  | acted hact =>
    have ht' : g.tunnels = false := hact.locks.2.symm.trans ht
    rw [(hact.allowed.own i hi).pending (by rw [ht']; exact Bool.false_ne_true)]
    exact hpending ht'
  | took lock =>
    cases lock with
    | lifecycle j => exact hpending ht
    | tunnels j => cases ht
  | dropped lock hholds hmay =>
    cases lock with
    | lifecycle j => exact hpending ht
    | tunnels j => rw [hfits.pending i hi hholds.1]; exact hmay
  | stayed => exact hpending ht

end

/-! ## What steps leave of tunnels -/

/-- A step has left no tunnel of the session that is open or has a lease, and no later one has added any. -/
def ShutBy (i : SessionRef) (own : List (Broker × Broker)) : Prop :=
  ∃ first s last, own = first ++ s :: last ∧ (∀ t ∈ (s.2.session i).tunnels, t.IsOut) ∧
    ∀ s' ∈ last, (s'.2.session i).tunnels = (s'.1.session i).tunnels

theorem ShutBy.concat {i : SessionRef} {own : List (Broker × Broker)} {s : Broker × Broker} (h : ShutBy i own)
    (hs : (s.2.session i).tunnels = (s.1.session i).tunnels) : ShutBy i (own ++ [s]) := by
  obtain ⟨first, s', last, rfl, hout, hlast⟩ := h
  refine ⟨first, s', last ++ [s], List.append_assoc .., hout, ?_⟩
  exact List.forall_mem_append.mpr ⟨hlast, List.forall_mem_singleton.mpr hs⟩

theorem ShutBy.append {i : SessionRef} {own : List (Broker × Broker)} {s : Broker × Broker}
    (h : ShutBy i (own ++ [s])) :
    (∀ t ∈ (s.2.session i).tunnels, t.IsOut) ∨ ShutBy i own ∧ (s.2.session i).tunnels = (s.1.session i).tunnels := by
  obtain ⟨first, s', last, hown, hout, hlast⟩ := h
  rcases last.eq_nil_or_concat with rfl | ⟨last', s'', rfl⟩
  · obtain ⟨-, hs⟩ := List.append_inj' hown rfl
    obtain rfl := List.singleton_inj.mp hs
    exact .inl hout
  · rw [List.concat_eq_append, ← List.cons_append, ← List.append_assoc] at hown
    obtain ⟨hown', hs⟩ := List.append_inj' hown rfl
    obtain rfl := List.singleton_inj.mp hs
    rw [List.concat_eq_append] at hlast
    exact .inr ⟨⟨first, s', last', hown', hout, fun s hs => hlast s (List.mem_append_left _ hs)⟩,
      hlast s (List.mem_append_right _ (List.mem_singleton.mpr rfl))⟩

/-! ## Who may ask for a session -/

/-- The session that a turn asks something for, other than that it ends. -/
def Turn.about? : Turn → Option SessionRef
  | .call (.command (.cancel _)) => none
  | .call r => r.session?
  | _ => none

/-- Whoever asks something for a session, other than that it ends, has found it in the registry at some time; some are
known already. -/
def Service.isDiscreet : List SessionRef → Service → List Turn → Bool
  | _, _, [] => true
  | known, h, turn :: rest =>
    let known := h.broker.registry.values ++ known
    turn.about?.all known.contains && isDiscreet known (h.step turn) rest

theorem Turn.about?_eq_none {r : Request} {i : SessionRef} (h : (Turn.call r).about? ≠ some i)
    (hi : r.session? = some i) : r = .command (.cancel i) := by
  cases r with
  | command c =>
    cases c with
    | cancel j =>
      obtain rfl : j = i := Option.some.inj hi
      rfl
    | _ => exact absurd hi h
  | handle => cases hi

namespace Service

variable {h : Service} {turn : Turn} {turns earlier later : List Turn} {known : List SessionRef} {k : Nat} {x : Call}
  {g : Grip} {i : SessionRef} {xs : List (Call × Grip)} {own : List (Broker × Broker)}

/-- Who is found in the registry is there. -/
theorem Ordered.present_of_mem (ho : h.Ordered) (hi : i ∈ h.broker.registry.values) :
    ∃ key, h.broker.registry.find? key = some i := by
  obtain ⟨e, he, rfl⟩ := List.mem_map.mp hi
  exact ⟨e.1, Store.Table.find?_of_mem ho.catalogued.sorted he⟩

/-- A call is for a session that is there after a step only if it was before. -/
theorem Ordered.session_of_step (ho : h.Ordered) (hx : x ∈ h.calls) (hi : i < h.broker.sessions.length)
    (hsession : (x.step h.isHeld h.broker).1.session? = some i) : x.session? = some i := by
  obtain ⟨-, -, -, -, hown⟩ := Call.step_enters (ho.enters x hx) h.isHeld (h.broker.names_none _)
  rw [hsession] at hown
  unfold ownAfter at hown
  split at hown
  · exact absurd (Option.some.inj hown) (Nat.ne_of_lt hi)
  · exact hown.symm

/-- A call that takes no step keeps its grip. -/
theorem Gripped.aside (hg : h.Gripped none xs) (hp : xs[k]? = some (x, g)) (hno : h.isStep k turn = false) :
    ∃ xs', (h.step turn).Gripped none xs' ∧ xs'[k]? = some (x, g) := by
  by_cases hgo : turn = .go k
  · subst hgo
    rw [step_of_not_isStep (hg.call_of hp) hno]
    exact ⟨xs, hg, hp⟩
  · obtain ⟨xs', hg', hkeep⟩ := hg.step turn.fair_none
    exact ⟨xs', hg', hkeep k _ hgo hp⟩

/-- Nor does it change its grip while it takes no step. -/
theorem Gripped.asides (hg : h.Gripped none xs) (hp : xs[k]? = some (x, g)) (hno : ownSteps k h turns = []) :
    ∃ xs', (h.after turns).Gripped none xs' ∧ xs'[k]? = some (x, g) := by
  induction turns generalizing h xs with
  | nil => exact ⟨xs, hg, hp⟩
  | cons turn rest ih =>
    unfold ownSteps at hno
    cases hstep : h.isStep k turn with
    | true => rw [hstep] at hno; cases hno
    | false =>
      rw [hstep] at hno
      obtain ⟨xs', hg', hp'⟩ := hg.aside hp hstep
      exact ih hg' hp' hno

/-! ## A session that is not known -/

/-- The session is there and not known, and of the calls other than one, those that are for it only tell it to end. -/
structure Secluded (k : Nat) (i : SessionRef) (h : Service) : Prop where
  present : i < h.broker.sessions.length
  unknown : ∀ key, h.broker.registry.find? key ≠ some i
  others : ∀ j y, j ≠ k → h.calls[j]? = some y → y.session? = some i → y.request = .command (.cancel i)

namespace Secluded

/-- A session that a call has just added is the call's alone. -/
theorem start (ho : h.Ordered) {s : Session} (hadded : (h.step (.go k)).broker = (h.broker.addSession s).2) :
    (h.step (.go k)).Secluded k h.broker.sessions.length where
  present := by
    rw [hadded, Broker.length_addSession]
    exact Nat.lt_succ_self _
  unknown key hkey := by
    rw [hadded] at hkey
    exact Nat.lt_irrefl _ (ho.catalogued.present key _ hkey)
  others j y hj hy hi := by
    rw [calls_go_ne h hj] at hy
    exact absurd (ho.present y (List.mem_of_getElem? hy) _ hi) (Nat.lt_irrefl _)

/-- What another call does to the session is at most to cancel it; it changes no record then. -/
theorem go (hs : h.Secluded k i) (hr : h.Ruled) {j : Nat} {y : Call} (hj : j ≠ k) (hy : h.calls[j]? = some y)
    (hi : y.session? = some i) :
    (h.step (.go j)).broker = h.broker ∨ (h.step (.go j)).broker = h.broker.cancelled i := by
  have hrules : y.request.rules = .cancelling i := by rw [hs.others j y hj hy hi]; rfl
  have hstep := ((hr y (List.mem_of_getElem? hy)).step h.isHeld h.broker).2
  rw [hrules] at hstep
  rw [step_go hy]
  exact hstep

/-- Nor does a turn that is no step of the call itself. -/
theorem session (hs : h.Secluded k i) (hr : h.Ruled) (hk : h.Kept none) (hx : h.calls[k]? = some x)
    (hno : h.isStep k turn = false) :
    (h.step turn).broker.session i = h.broker.session i ∨
      (h.step turn).broker.session i = (h.broker.session i).cancel := by
  rcases hk.allowed turn with hsame | ⟨j, y, g, rfl, hy, hmatches, hallowed⟩
  · exact .inl (Broker.session_congr hsame i)
  · by_cases hj : j = k
    · subst hj
      rw [step_of_not_isStep hx hno]
      exact .inl rfl
    · by_cases hi : g.session = some i
      · rcases hs.go hr hj hy (hmatches.session.trans hi) with he | he
        · rw [he]
          exact .inl rfl
        · rw [he]
          exact .inr (Broker.session_setSession_self hs.present)
      · exact .inl (hallowed.others i hs.present hi)

/-- A turn leaves it secluded, unless the call registers it. -/
theorem step (hs : h.Secluded k i) (ho : h.Ordered) (hr : h.Ruled) (hk : h.Kept none) (hx : h.calls[k]? = some x)
    (habout : turn.about? ≠ some i) (hown : h.isStep k turn → (h.step turn).broker.registry = h.broker.registry) :
    (h.step turn).Secluded k i where
  present := Nat.lt_of_lt_of_le hs.present (hk.length_le_step turn)
  unknown key hkey := by
    obtain ⟨-, j, y', rfl, hy', hi⟩ := ho.entered_by (hs.unknown key) hkey
    -- a step that changes no record enters nothing
    have hno (hsame : (h.step (.go j)).broker.registry = h.broker.registry) : False := by
      rw [hsame] at hkey
      exact hs.unknown key hkey
    by_cases hj : j = k
    · subst hj
      cases hstep : h.isStep j (.go j) with
      | true => exact hno (hown hstep)
      | false => exact hno (by rw [step_of_not_isStep hx hstep])
    · obtain ⟨y, hy, hsession⟩ : ∃ y, h.calls[j]? = some y ∧ y.session? = some i := by
        rcases step_calls hy' with hsame | ⟨r, hcall, -⟩ | ⟨y, hy, rfl⟩
        · exact ⟨y', hsame, hi⟩
        · cases hcall
        · exact ⟨y, hy, ho.session_of_step (List.mem_of_getElem? hy) hs.present hi⟩
      rcases hs.go hr hj hy hsession with he | he
      · exact hno (by rw [he])
      · exact hno (by rw [he]; rfl)
  others j y' hj hy' hi := by
    rcases step_calls hy' with hsame | ⟨r, rfl, rfl⟩ | ⟨y, hy, rfl⟩
    · exact hs.others j y' hj hsame hi
    · exact Turn.about?_eq_none habout hi
    · rw [Call.request_step]
      exact hs.others j y hj hy (ho.session_of_step (List.mem_of_getElem? hy) hs.present hi)

end Secluded

/-! ## What the call has done -/

/-- A call with its grip. What its steps have leased and not given back is in its hands, or tunnels of its session hold
it. -/
structure Booked (k : Nat) (i : SessionRef) (own : List (Broker × Broker)) (xs : List (Call × Grip)) (x : Call)
    (g : Grip) (h : Service) : Prop where
  gripped : h.Gripped none xs
  here : xs[k]? = some (x, g)
  session : x.session? = some i
  pending : g.tunnels = false → (h.broker.session i).pending = []
  balance : Balance own (g.ports ++ (h.broker.session i).leasedPorts)

/-- A call that alone does something for its session, and what its steps have done. -/
structure Alone (k : Nat) (i : SessionRef) (own : List (Broker × Broker)) (h : Service) : Prop where
  secluded : h.Secluded k i
  booked : ∃ xs x g, h.Booked k i own xs x g
  shut : ShutBy i own → ∀ t ∈ (h.broker.session i).tunnels, t.IsOut

section

variable {b b' : Broker} {g' : Grip} {hs : List Grip} {rest : List Port}

/-- What the grips of the others and the leases `rest` of other sessions have no part in. -/
theorem balance_step (h : Balance own (g.ports ++ (b.session i).leasedPorts)) (hc : Coherent none b (g :: hs))
    (hc' : Coherent none b' (g' :: hs)) (hheld : b.heldPorts.Perm ((b.session i).leasedPorts ++ rest))
    (hheld' : b'.heldPorts.Perm ((b'.session i).leasedPorts ++ rest)) :
    Balance (own ++ [(b, b')]) (g'.ports ++ (b'.session i).leasedPorts) := by
  have hshape (ps qs : List Port) {all held : List Port} (hall : all.Perm (held ++ (ps ++ hs.flatMap Grip.ports)))
      (hheld : held.Perm (qs ++ rest)) : all.Perm (ps ++ qs ++ (rest ++ hs.flatMap Grip.ports)) := by
    refine List.perm_iff_count.mpr fun port => ?_
    have hcount := hall.count_eq port
    have hcount' := hheld.count_eq port
    simp only [List.count_append] at hcount hcount' ⊢
    omega
  exact h.step (hshape _ _ hc.leased hheld) (hshape _ _ hc'.leased hheld') hc.nodup hc'.nodup

/-- A session that is added has no part in the leases that there are. -/
theorem balance_addSession {s : Session} (hc : Coherent none b (g :: hs))
    (hc' : Coherent none (b.addSession s).2 (g' :: hs)) (hports : g.ports = []) :
    Balance [(b, (b.addSession s).2)]
      (g'.ports ++ ((b.addSession s).2.session b.sessions.length).leasedPorts) := by
  have hnone : (b.session b.sessions.length).leasedPorts = [] := by
    rw [Broker.session_of_le (Nat.le_refl _)]
    rfl
  have hnothing : Balance [] (g.ports ++ (b.session b.sessions.length).leasedPorts) := by
    rw [hports, hnone]
    exact fun _ => rfl
  have hheld : b.heldPorts.Perm ((b.session b.sessions.length).leasedPorts ++ b.heldPorts) := by
    rw [hnone]
    exact .refl _
  refine balance_step hnothing hc hc' hheld ?_
  rw [Broker.session_addSession]
  show ((b.sessions ++ [s]).flatMap Session.leasedPorts).Perm _
  rw [List.flatMap_append, List.flatMap_singleton]
  exact List.perm_append_comm

end

/-- A call that is for a session stays so, whatever turns there are. -/
theorem Kept.session_after (hk : h.Kept none) (hx : h.calls[k]? = some x) (hi : x.session? = some i)
    (turns : List Turn) : ∃ x', (h.after turns).calls[k]? = some x' ∧ x'.session? = some i := by
  induction turns generalizing h x with
  | nil => exact ⟨x, hx, hi⟩
  | cons turn rest ih =>
    obtain ⟨xs, hg⟩ := kept_iff.mp hk
    obtain ⟨g, hp⟩ := hg.grip_of hx
    by_cases hgo : turn = .go k
    · subst hgo
      obtain ⟨g', hg', hstepped⟩ := hg.go hp
      obtain ⟨hlt, -⟩ := List.getElem?_eq_some_iff.mp hp
      have hp' := List.getElem?_set_self (a := ((x.step h.isHeld h.broker).1, g')) hlt
      have hsession := (hg.matched _ (List.mem_of_getElem? hp)).session
      have hsession' := (hg'.matched _ (List.mem_of_getElem? hp')).session
      exact ih hg'.kept (hg'.call_of hp') (hsession'.trans (hstepped.session (hsession.symm.trans hi)))
    · obtain ⟨xs', hg', hkeep⟩ := hg.step turn.fair_none
      exact ih hg'.kept (hg'.call_of (hkeep k _ hgo hp)) hi

theorem Booked.go (hb : h.Booked k i own xs x g) (hi : i < h.broker.sessions.length) :
    ∃ xs' x' g', (h.step (.go k)).Booked k i (own ++ [(h.broker, (h.step (.go k)).broker)]) xs' x' g' := by
  have hmatches := hb.gripped.matched _ (List.mem_of_getElem? hb.here)
  obtain ⟨hs, hc, hfree, hset⟩ := hb.gripped.pick hb.here
  obtain ⟨g', hmatches', hc', hstepped⟩ := hmatches.step hc hfree
  have hsession : g.session = some i := hmatches.session.symm.trans hb.session
  obtain ⟨hlength, hothers⟩ := hstepped.otherPorts hsession
  rw [step_go (hb.gripped.call_of hb.here)]
  obtain ⟨hlt, -⟩ := List.getElem?_eq_some_iff.mp hb.here
  refine ⟨_, _, g', hset _ g' _ hmatches' hc', List.getElem?_set_self hlt, ?_, ?_, ?_⟩
  · exact hmatches'.session.trans (hstepped.session hsession)
  · exact hstepped.pending hc.fits_self hsession hb.pending
  · refine balance_step hb.balance hc hc' (Broker.heldPorts_perm hi) ?_
    rw [← hothers]
    exact Broker.heldPorts_perm (by rw [hlength]; exact hi)

namespace Alone

theorem step (ha : h.Alone k i own) (ho : h.Ordered) (hr : h.Ruled) (habout : turn.about? ≠ some i)
    (hown : ∀ s ∈ ownSteps k h [turn], s.2.registry = s.1.registry) :
    (h.step turn).Alone k i (own ++ ownSteps k h [turn]) := by
  obtain ⟨xs, x, g, hb⟩ := ha.booked
  have hx := hb.gripped.call_of hb.here
  have hk := hb.gripped.kept
  have hregistry (hstep : h.isStep k turn = true) : (h.step turn).broker.registry = h.broker.registry :=
    hown (h.broker, (h.step turn).broker) (by simp [ownSteps, hstep])
  have hsecluded := ha.secluded.step ho hr hk hx habout hregistry
  cases hstep : h.isStep k turn with
  | true =>
    obtain ⟨rfl, -⟩ := calls_of_isStep hx hstep
    rw [show ownSteps k h [.go k] = [(h.broker, (h.step (.go k)).broker)] by simp [ownSteps, hstep]]
    refine ⟨hsecluded, hb.go ha.secluded.present, fun hshut => ?_⟩
    rcases hshut.append with hout | ⟨hbefore, hsame⟩
    · exact hout
    · intro t ht
      rw [show ((h.step (.go k)).broker.session i).tunnels = (h.broker.session i).tunnels from hsame] at ht
      exact ha.shut hbefore t ht
  | false =>
    rw [show ownSteps k h [turn] = [] by simp [ownSteps, hstep], List.append_nil]
    obtain ⟨xs', hg', hp'⟩ := hb.gripped.aside hb.here hstep
    -- others cancel the session at most, and that leaves its tunnels alone
    rcases ha.secluded.session hr hk hx hstep with he | he
    · refine ⟨hsecluded, ⟨xs', x, g, hg', hp', hb.session, ?_, ?_⟩, ?_⟩
      · rw [he]; exact hb.pending
      · rw [he]; exact hb.balance
      · rw [he]; exact ha.shut
    · refine ⟨hsecluded, ⟨xs', x, g, hg', hp', hb.session, ?_, ?_⟩, ?_⟩
      · rw [he]; exact hb.pending
      · rw [he]; exact hb.balance
      · rw [he]; exact ha.shut

/-- Whatever turns there are, if the call does not register its session and others ask only for what they know. -/
theorem after (ha : h.Alone k i own) (ho : h.Ordered) (hr : h.Ruled) (hknown : i ∉ known)
    (hd : isDiscreet known h turns) (hown : ∀ s ∈ ownSteps k h turns, s.2.registry = s.1.registry) :
    (h.after turns).Alone k i (own ++ ownSteps k h turns) := by
  induction turns generalizing h known own with
  | nil =>
    rw [show ownSteps k h [] = [] from rfl, List.append_nil]
    exact ha
  | cons turn rest ih =>
    have hsplit : ownSteps k h (turn :: rest) = ownSteps k h [turn] ++ ownSteps k (h.step turn) rest :=
      ownSteps_append k h [turn] rest
    rw [hsplit] at hown ⊢
    obtain ⟨hturn, hrest⟩ := List.forall_mem_append.mp hown
    obtain ⟨hall, hd'⟩ := Bool.and_eq_true_iff.mp hd
    have hknown' : i ∉ h.broker.registry.values ++ known := by
      intro hi
      rcases List.mem_append.mp hi with hi | hi
      · obtain ⟨key, hkey⟩ := ho.present_of_mem hi
        exact ha.secluded.unknown key hkey
      · exact hknown hi
    have habout : turn.about? ≠ some i := by
      intro habout
      rw [habout] at hall
      exact hknown' (List.contains_iff_mem.mp hall)
    rw [← List.append_assoc]
    exact ih (ha.step ho hr habout hturn) (ho.step turn) (hr.step turn) hknown' hd' hrest

/-- The first step of a call that starts a session. -/
theorem start (hg : h.Gripped none xs) (ho : h.Ordered) (hp : xs[k]? = some (x, g)) {s : Session}
    (hadded : (h.step (.go k)).broker = (h.broker.addSession s).2) (hports : g.ports = []) (hpending : s.pending = []) :
    (h.step (.go k)).Alone k h.broker.sessions.length [(h.broker, (h.step (.go k)).broker)] := by
  have hsecluded := Secluded.start ho hadded
  have hmatches := hg.matched _ (List.mem_of_getElem? hp)
  obtain ⟨hs, hc, hfree, hset⟩ := hg.pick hp
  obtain ⟨g', hmatches', hc', -⟩ := hmatches.step hc hfree
  obtain ⟨hlt, -⟩ := List.getElem?_eq_some_iff.mp hp
  have hx := hg.call_of hp
  obtain ⟨-, -, -, -, hsession⟩ :=
    Call.step_enters (ho.enters x (List.mem_of_getElem? hx)) h.isHeld (h.broker.names_none _)
  rw [step_go hx] at hadded hsecluded ⊢
  generalize x.step h.isHeld h.broker = p at *
  obtain ⟨x', b'⟩ := p
  obtain rfl : b' = (h.broker.addSession s).2 := hadded
  have hi : x'.session? = some h.broker.sessions.length := hsession.trans (if_pos hsecluded.present)
  have hbooked : Booked k h.broker.sessions.length [(h.broker, (h.broker.addSession s).2)] (xs.set k (x', g')) x' g'
      ⟨(h.broker.addSession s).2, h.calls.set k x'⟩ := by
    refine ⟨hset x' g' _ hmatches' hc', List.getElem?_set_self hlt, hi, fun _ => ?_, balance_addSession hc hc' hports⟩
    show ((h.broker.addSession s).2.session _).pending = []
    rw [Broker.session_addSession]
    exact hpending
  refine ⟨hsecluded, ⟨_, x', g', hbooked⟩, ?_⟩
  rintro ⟨first, s', last, hown, hout, -⟩
  have hmem : s' ∈ first ++ s' :: last := List.mem_append_right _ (List.mem_cons_self ..)
  rw [← hown] at hmem
  obtain rfl := List.mem_singleton.mp hmem
  exact hout

end Alone

end Service

end TunnelBroker
