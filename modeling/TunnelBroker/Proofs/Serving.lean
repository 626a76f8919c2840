/-
  TunnelBroker.Proofs.Serving — many calls at once, from the setup of their broker on.

  At every moment each call has a grip that fits the broker, and all grips fit each other, whatever turns there
  were.

  - `Matches.step`: the next step of a call, wherever the others are, is one that its grip allows.
  - `Service.Gripped`, `Service.Kept`: all calls are where their grips say they are; every turn keeps it.
  - `Service.Gripped.evolves`: what one turn may do to a session.
  - `Service.Kept.returned`: what is true when a call has ended its session and returned.
-/

import TunnelBroker.Proofs.Requests

namespace TunnelBroker

/-! ## One call -/

/-- A call is where its grip says that it is. -/
structure Matches (W : Option Watch) (x : Call) (g : Grip) : Prop where
  runs : Runs W (x.request.Returned W) x.rest g
  session : x.session? = g.session
  request : ∀ i, x.request.session? = some i → g.session = some i
  ends : g.ends = x.request.isEnding
  locks : ∀ lock, lock ∈ x.locks ↔ g.Holds lock

section

variable {W : Option Watch} {b : Broker} {g : Grip} {gs hs : List Grip} {x : Call} {isHeld : Lock → Bool}

theorem Allowed.refl (W : Option Watch) (g : Grip) (b : Broker) : Allowed W g b b :=
  ⟨Nat.le_refl _, fun _ _ _ => rfl, fun _ _ => .refl .., fun _ _ _ => rfl, fun _ _ h => h, Broker.hasListener_of_eq rfl⟩

/-- What a step of a call does to its grip: it acts, it takes a lock or gives one back, or it does nothing. -/
inductive Stepped (W : Option Watch) (b : Broker) (g : Grip) : Broker → Grip → Prop
  | acted {b' : Broker} {g' : Grip} : Act W b g b' g' → Stepped W b g b' g'
  | took (lock : Lock) : Stepped W b g b (g.take lock)
  | dropped (lock : Lock) : g.Holds lock → g.MayDrop lock → Stepped W b g b (g.drop lock)
  | stayed : Stepped W b g b g

theorem Stepped.allowed {b' : Broker} {g' : Grip} (h : Stepped W b g b' g') : Allowed W g b b' := by
  cases h with
  | acted h => exact h.allowed
  | _ => exact .refl ..

theorem Matches.returned (h : Matches W x g) {result : Except SessionError Unit} (hr : x.result? = some result) :
    x.request.Returned W result g := by
  have hruns := h.runs
  rw [Call.rest_of_result hr] at hruns
  exact hruns

/-- The next step of a call is allowed, and the call is where its grip says that it is afterwards. -/
theorem Matches.step (h : Matches W x g) (hc : Coherent W b (g :: hs))
    (hfree : ∀ lock, isHeld lock = false → ∀ k ∈ g :: hs, ¬k.Holds lock) :
    ∃ g', Matches W (x.step isHeld b).1 g' ∧ Coherent W (x.step isHeld b).2 (g' :: hs) ∧
      Stepped W b g (x.step isHeld b).2 g' := by
  have hruns := h.runs
  rcases x.step_cases isHeld b with he | ⟨change, next, hrest, he⟩ | ⟨ready, next, hrest, he⟩ |
    ⟨lock, next, hrest, hheld, he⟩ | ⟨lock, next, hrest, he⟩
  · rw [he]
    exact ⟨g, h, hc, .stayed⟩
  · rw [hrest] at hruns
    rw [he]
    obtain ⟨g', hact, hnext⟩ := hruns b hs hc
    refine ⟨g', ⟨hnext, ?_, fun i hi => ?_, hact.ends.trans h.ends, fun lock => (h.locks lock).trans hact.holds.symm⟩,
      hc.act hact, .acted hact⟩
    · show (if b.sessions.length < (change b).sessions.length then _ else x.session?) = g'.session
      rcases hact.session with ⟨hsession, hlength⟩ | ⟨hsession, hlength, -⟩
      · rw [hlength, if_neg (Nat.lt_irrefl _), hsession, h.session]
      · rw [if_pos hlength, hsession]
    · -- Only a call that is for no session starts one.
      have hsession := h.request i hi
      rcases hact.session with ⟨hsame, -⟩ | ⟨-, -, hnone, -⟩
      · rw [hsame]; exact hsession
      · rw [hnone] at hsession; cases hsession
  · rw [hrest] at hruns
    rw [he]
    exact ⟨g, ⟨hruns, h.session, h.request, h.ends, h.locks⟩, hc, .stayed⟩
  · rw [hrest] at hruns
    rw [he]
    obtain ⟨howns, hnext⟩ := hruns
    have hsame : (g.take lock).session = g.session ∧ (g.take lock).ends = g.ends := by cases lock <;> exact ⟨rfl, rfl⟩
    refine ⟨g.take lock, ⟨hnext, h.session.trans hsame.1.symm, fun i hi => hsame.1.trans (h.request i hi),
      hsame.2.trans h.ends, fun l => ?_⟩, hc.take howns (hfree lock hheld), .took lock⟩
    rw [Grip.holds_take howns, ← h.locks l]
    exact List.mem_cons
  · rw [hrest] at hruns
    rw [he]
    obtain ⟨hholds, hmay, hnext⟩ := hruns
    have hsame : (g.drop lock).session = g.session ∧ (g.drop lock).ends = g.ends := by cases lock <;> exact ⟨rfl, rfl⟩
    refine ⟨g.drop lock, ⟨hnext, h.session.trans hsame.1.symm, fun i hi => hsame.1.trans (h.request i hi),
      hsame.2.trans h.ends, fun l => ?_⟩, hc.drop hholds hmay, .dropped lock hholds hmay⟩
    rw [Grip.holds_drop (Grip.owns_of_holds hholds), ← h.locks l]
    simp [and_comm]

/-! ## What is not a step of a call -/

/-- Time, connections, listeners and other programs are nothing that a grip is about. -/
theorem Coherent.beside {b' : Broker} (hc : Coherent W b gs) (hsessions : b'.sessions = b.sessions)
    (hsame : b'.allocator = b.allocator ∧ b'.keepLost = b.keepLost ∧ b'.registry = b.registry ∧ b'.store = b.store)
    (hwilling : ∀ w ∈ W, b'.outside.refusal = fun _ => none) : Coherent W b' gs := by
  obtain ⟨hallocator, hkeepLost, hregistry, hstore⟩ := hsame
  have hsession := Broker.session_congr hsessions
  have hgone (w : Watch) (hgone : w.Gone b) : w.Gone b' := hgone.congr hsessions hregistry hstore
  exact
    { sound := fun i => by rw [hsession]; exact hc.sound i
      fits := fun g hg => by
        have hf := hc.fits g hg
        refine ⟨fun i hi => ?_, fun i hi ht => ?_, fun i hi => ?_, hf.guarded, hf.watched, hf.covered⟩
        · rw [hsessions]; exact hf.present i hi
        · rw [hsession]; exact hf.pending i hi ht
        · have hevolves : (b.session i).Evolves g (b'.session i) := by rw [hsession]; exact .refl ..
          exact (hf.knows i hi).keep hevolves (fun _ => by rw [hsession]) (fun _ _ _ => hstore) fun w _ => hgone w
      apart := hc.apart
      idle := fun i hi => by rw [hsession]; exact hc.idle i hi
      leased := by
        rw [hallocator, show b'.heldPorts = b.heldPorts by simp only [Broker.heldPorts, hsessions]]; exact hc.leased
      nodup := by rw [hallocator]; exact hc.nodup
      watched := fun w hw =>
        { id := by rw [hsession]; exact (hc.watched w hw).id
          others := by rw [hsessions]; exact (hc.watched w hw).others
          keepLost := by rw [hkeepLost]; exact (hc.watched w hw).keepLost
          willing := hwilling w hw
          usable := by rw [hstore]; exact (hc.watched w hw).usable
          known := by rw [hregistry]; exact (hc.watched w hw).known.imp id (hgone w)
          own := fun t ht => by rw [hsession] at ht; exact (hc.watched w hw).own t ht } }

theorem Grip.Free.not_holds (h : g.Free) (lock : Lock) : ¬g.Holds lock := by
  cases lock with
  | lifecycle i => exact fun hlock => Bool.false_ne_true (h.lifecycle.symm.trans hlock.1)
  | tunnels i => exact fun hlock => Bool.false_ne_true (h.tunnels.symm.trans hlock.1)

/-- Somebody comes with empty hands. -/
theorem Coherent.join (hc : Coherent W b gs) (hfree : g.Free) (hfits : Fits W b g) : Coherent W b (g :: gs) where
  sound := hc.sound
  fits := List.forall_mem_cons.mpr ⟨hfits, hc.fits⟩
  apart := List.pairwise_cons.mpr ⟨fun _ _ lock hlock => absurd hlock (hfree.not_holds lock), hc.apart⟩
  idle i hi := hc.idle i fun k hk => hi k (List.mem_cons_of_mem _ hk)
  leased := by rw [List.flatMap_cons, hfree.ports, List.nil_append]; exact hc.leased
  nodup := hc.nodup
  watched := hc.watched

/-- Somebody leaves with empty hands. -/
theorem Coherent.leave (hc : Coherent W b (g :: gs)) (hfree : g.Free) : Coherent W b gs where
  sound := hc.sound
  fits := (List.forall_mem_cons.mp hc.fits).2
  apart := (List.pairwise_cons.mp hc.apart).2
  idle i hi := hc.idle i (List.forall_mem_cons.mpr ⟨hfree.not_holds _, hi⟩)
  leased := by
    have hleased := hc.leased
    rw [List.flatMap_cons, hfree.ports, List.nil_append] at hleased
    exact hleased
  nodup := hc.nodup
  watched := hc.watched

theorem Coherent.cleared (hc : Coherent W b gs) (hfree : ∀ g ∈ gs, g.Free) : Coherent W b [] := by
  induction gs with
  | nil => exact hc
  | cons g rest ih =>
    obtain ⟨hg, hrest⟩ := List.forall_mem_cons.mp hfree
    exact ih (hc.leave hg) hrest

/-- A broker that has read its store, before any call. -/
theorem Coherent.boot (setup : Setup) : Coherent none setup.boot [] := by
  have hnobody {b : Broker} : Fits none b {} :=
    ⟨nofun, nofun, nofun, ⟨nofun, nofun⟩, fun _ hw => (by cases hw), assignedFrom_nil _⟩
  have hfree : Grip.Free {} := ⟨rfl, rfl, rfl⟩
  have hrestorable : Restorable fun b => Coherent none b [] := by
    refine ⟨fun {b b'} hr hc => ?_, fun {b} now r hc => ?_⟩
    · have hact : Act none b {} b' {} := by
        refine .record (hc.join hfree hnobody) (.inl rfl) ⟨hr.sessions, hr.allocator, ?_, ?_, ?_⟩
          (fun _ hw => by cases hw) fun _ hw => by cases hw
        · rw [hr]
        · rw [hr]
        · rw [hr]
      exact ((hc.join hfree hnobody).act hact).leave hfree
    · have hsound : (Session.ofRecord now r).Sound := by
        refine ⟨rfl, fun _ t ht => ?_⟩
        obtain ⟨t₀, -, rfl⟩ := List.mem_map.mp ht
        exact ⟨rfl, rfl⟩
      have hact : Act none b {} _ _ :=
        .addSession (hc.join hfree hnobody) rfl rfl rfl rfl hsound rfl (Session.leasedPorts_ofRecord now r)
      exact ((hc.join hfree hnobody).act hact).leave ⟨rfl, rfl, rfl⟩
  refine hrestorable.boot setup ?_
  exact
    { sound := fun _ => Session.sound_nobody
      fits := List.forall_mem_nil _
      apart := .nil
      idle := fun _ _ => rfl
      leased := .refl _
      nodup := .nil
      watched := fun _ hw => by cases hw }

end

/-! ## All calls -/

/-- While a session is watched, the store refuses nothing and only commands for that session are given. -/
def Turn.Fair (W : Option Watch) : Turn → Prop
  | outside o => ∀ w ∈ W, o.refusal = fun _ => none
  | call r => ∀ w ∈ W, ∃ c, r = .command c ∧ c.session? = some w.session
  | _ => True

theorem Turn.fair_none (turn : Turn) : turn.Fair none := by
  cases turn with
  | outside o => exact fun _ hw => by cases hw
  | call r => exact fun _ hw => by cases hw
  | _ => trivial

namespace Service

/-- Every call is where its grip says that it is, and the grips fit the broker and each other. -/
def Kept (W : Option Watch) (h : Service) : Prop :=
  ∃ xs : List (Call × Grip), h.calls = xs.map (·.1) ∧ (∀ p ∈ xs, Matches W p.1 p.2) ∧ Coherent W h.broker (xs.map (·.2))

/-- A broker that has read its store has no calls yet. -/
theorem kept_boot (setup : Setup) : (boot setup).Kept none := ⟨[], rfl, fun _ hp => (by cases hp), .boot setup⟩

/-- The calls with their grips: each is where its grip says that it is, and the grips fit the broker and each other. -/
structure Gripped (W : Option Watch) (xs : List (Call × Grip)) (h : Service) : Prop where
  calls : h.calls = xs.map (·.1)
  matched : ∀ p ∈ xs, Matches W p.1 p.2
  coherent : Coherent W h.broker (xs.map (·.2))

theorem kept_iff {W : Option Watch} {h : Service} : h.Kept W ↔ ∃ xs, h.Gripped W xs :=
  ⟨fun ⟨xs, hcalls, hmatched, hc⟩ => ⟨xs, hcalls, hmatched, hc⟩,
    fun ⟨xs, hg⟩ => ⟨xs, hg.calls, hg.matched, hg.coherent⟩⟩

namespace Gripped

variable {W : Option Watch} {xs : List (Call × Grip)} {h : Service} {k : Nat} {x : Call} {g : Grip}

theorem kept (hg : h.Gripped W xs) : h.Kept W := kept_iff.mpr ⟨xs, hg⟩

theorem call_of (hg : h.Gripped W xs) (hp : xs[k]? = some (x, g)) : h.calls[k]? = some x := by
  rw [hg.calls, List.getElem?_map, hp]
  rfl

theorem grip_of (hg : h.Gripped W xs) (hx : h.calls[k]? = some x) : ∃ g, xs[k]? = some (x, g) := by
  rw [hg.calls, List.getElem?_map] at hx
  obtain ⟨⟨x, g⟩, hp, rfl⟩ := Option.map_eq_some_iff.mp hx
  exact ⟨g, hp⟩

/-- One of the calls, with its grip before those of the others; it may be put in its place again after a step. -/
theorem pick (hg : h.Gripped W xs) (hp : xs[k]? = some (x, g)) : ∃ hs, Coherent W h.broker (g :: hs) ∧
    (∀ lock, h.isHeld lock = false → ∀ g' ∈ g :: hs, ¬g'.Holds lock) ∧
    ∀ x' g' b', Matches W x' g' → Coherent W b' (g' :: hs) →
      Gripped W (xs.set k (x', g')) { broker := b', calls := h.calls.set k x' } := by
  obtain ⟨hlt, hget⟩ := List.getElem?_eq_some_iff.mp hp
  have hpick : (g :: (xs.eraseIdx k).map (·.2)).Perm (xs.map (·.2)) := by
    have hperm := (List.getElem_cons_eraseIdx_perm hlt).map (·.2)
    rw [List.map_cons, hget] at hperm
    exact hperm
  refine ⟨(xs.eraseIdx k).map (·.2), hg.coherent.perm hpick.symm, ?_, ?_⟩
  · intro lock hlock g' hg' hholds
    obtain ⟨⟨x', g'⟩, hp', rfl⟩ := List.mem_map.mp (hpick.mem_iff.mp hg')
    have hx' : x' ∈ h.calls := by
      rw [hg.calls]
      exact List.mem_map.mpr ⟨_, hp', rfl⟩
    have hheld := isHeld_of_mem hx' (((hg.matched _ hp').locks lock).mpr hholds)
    rw [hlock] at hheld
    cases hheld
  · intro x' g' b' hmatches' hc'
    refine ⟨by rw [List.map_set, hg.calls], ?_, ?_⟩
    · intro p hp
      rcases List.mem_or_eq_of_mem_set hp with hp | rfl
      · exact hg.matched p hp
      · exact hmatches'
    · have hlt' : k < (xs.set k (x', g')).length := by rw [List.length_set]; exact hlt
      have hperm := (List.getElem_cons_eraseIdx_perm hlt').map (·.2)
      rw [List.map_cons, List.getElem_set_self, List.eraseIdx_set_eq] at hperm
      exact hc'.perm hperm

/-- A call that has just been made has the grip of its request. -/
theorem call (hg : h.Gripped W xs) {r : Request} (hr : r.isPossible h.broker)
    (hW : ∀ w ∈ W, ∃ c, r = .command c ∧ c.session? = some w.session) :
    Gripped W (xs ++ [(.ofRequest r, r.grip)]) { h with calls := h.calls ++ [.ofRequest r] } := by
  have hfits : Fits W h.broker r.grip := by
    refine ⟨?_, nofun, fun _ _ => trivial, ⟨nofun, nofun⟩, ?_, assignedFrom_nil _⟩
    · intro i hi
      have hsession : r.session? = some i := hi
      unfold Request.isPossible at hr
      rw [hsession] at hr
      exact of_decide_eq_true hr
    · intro w hw
      obtain ⟨c, rfl, hsession⟩ := hW w hw
      exact hsession
  have hno (lock : Lock) : lock ∈ ([] : List Lock) ↔ r.grip.Holds lock := by
    cases lock <;> simp [Grip.Holds, Request.grip]
  refine ⟨by simp [hg.calls], ?_, ?_⟩
  · intro p hp
    rcases List.mem_append.mp hp with hp | hp
    · exact hg.matched p hp
    · rw [List.mem_singleton.mp hp]
      exact ⟨r.runs hW, rfl, fun _ hi => hi, rfl, hno⟩
  · rw [List.map_append]
    exact (hg.coherent.join ⟨rfl, rfl, rfl⟩ hfits).perm (List.perm_append_singleton ..).symm

/-- The next step of a call, wherever the others are. -/
theorem go (hg : h.Gripped W xs) (hp : xs[k]? = some (x, g)) : ∃ g',
    (h.step (.go k)).Gripped W (xs.set k ((x.step h.isHeld h.broker).1, g')) ∧
      Stepped W h.broker g (h.step (.go k)).broker g' := by
  obtain ⟨hs, hc, hfree, hset⟩ := hg.pick hp
  obtain ⟨g', hmatches', hc', hstepped⟩ := (hg.matched _ (List.mem_of_getElem? hp)).step hc hfree
  rw [step_go (hg.call_of hp)]
  exact ⟨g', hset _ g' _ hmatches' hc', hstepped⟩

/-- What is not a step of a call changes nothing that a grip is about. -/
theorem beside (hg : h.Gripped W xs) {b' : Broker} (hsessions : b'.sessions = h.broker.sessions)
    (hsame : b'.allocator = h.broker.allocator ∧ b'.keepLost = h.broker.keepLost ∧ b'.registry = h.broker.registry ∧
      b'.store = h.broker.store)
    (hwilling : b'.outside = h.broker.outside ∨ ∀ w ∈ W, b'.outside.refusal = fun _ => none) :
    Gripped W xs { h with broker := b' } := by
  refine ⟨hg.calls, hg.matched, hg.coherent.beside hsessions hsame ?_⟩
  intro w hw
  rcases hwilling with houtside | hwilling
  · rw [houtside]; exact (hg.coherent.watched w hw).willing
  · exact hwilling w hw

/-- At a turn nothing becomes of calls and grips, one more call is made, or one call takes its step. -/
theorem step_cases (hg : h.Gripped W xs) {turn : Turn} (hfair : turn.Fair W) :
    (h.step turn).Gripped W xs ∨ (∃ r : Request, (h.step turn).Gripped W (xs ++ [(.ofRequest r, r.grip)])) ∨
      ∃ k x g g', turn = .go k ∧ xs[k]? = some (x, g) ∧
        (h.step turn).Gripped W (xs.set k ((x.step h.isHeld h.broker).1, g')) ∧
        Stepped W h.broker g (h.step turn).broker g' := by
  cases turn with
  | outside o => exact .inl (hg.beside rfl ⟨rfl, rfl, rfl, rfl⟩ (.inr hfair))
  | arrival c => exact .inl (hg.beside rfl ⟨rfl, rfl, rfl, rfl⟩ (.inl rfl))
  | hangUp connection reason => exact .inl (hg.beside rfl ⟨rfl, rfl, rfl, rfl⟩ (.inl rfl))
  | settling => exact .inl (hg.beside rfl ⟨rfl, rfl, rfl, rfl⟩ (.inl rfl))
  | call r =>
    rw [step_call]
    split
    · rename_i hr
      exact .inr (.inl ⟨r, hg.call hr hfair⟩)
    · exact .inl hg
  | go j =>
    cases hx : h.calls[j]? with
    | none => rw [step_go_none hx]; exact .inl hg
    | some x =>
      obtain ⟨g, hp⟩ := hg.grip_of hx
      obtain ⟨g', hg', hstepped⟩ := hg.go hp
      exact .inr (.inr ⟨j, x, g, g', rfl, hp, hg', hstepped⟩)

/-- A turn leaves the calls with their grips, but for the one whose step it is. -/
theorem step (hg : h.Gripped W xs) {turn : Turn} (hfair : turn.Fair W) : ∃ xs', (h.step turn).Gripped W xs' ∧
    ∀ k p, turn ≠ .go k → xs[k]? = some p → xs'[k]? = some p := by
  rcases hg.step_cases hfair with hg' | ⟨r, hg'⟩ | ⟨j, x, g, g', rfl, -, hg', -⟩
  · exact ⟨xs, hg', fun _ _ _ hp => hp⟩
  · refine ⟨_, hg', fun k p _ hp => ?_⟩
    obtain ⟨hlt, -⟩ := List.getElem?_eq_some_iff.mp hp
    exact (List.getElem?_append_left hlt).trans hp
  · refine ⟨_, hg', fun k p hne hp => ?_⟩
    rw [List.getElem?_set_ne fun hjk => hne (congrArg Turn.go hjk)]
    exact hp

/-- Sessions change only by steps of calls, which their grips allow. -/
theorem allowed (hg : h.Gripped W xs) (turn : Turn) : (h.step turn).broker.sessions = h.broker.sessions ∨
    ∃ k x g, turn = .go k ∧ xs[k]? = some (x, g) ∧ Allowed W g h.broker (h.step turn).broker := by
  by_cases hgo : ∃ k x, turn = .go k ∧ h.calls[k]? = some x
  · obtain ⟨k, x, rfl, hx⟩ := hgo
    obtain ⟨g, hp⟩ := hg.grip_of hx
    obtain ⟨_, -, hstepped⟩ := hg.go hp
    exact .inr ⟨k, x, g, rfl, hp, hstepped.allowed⟩
  · left
    apply step_sessions
    intro k x hturn hx
    exact hgo ⟨k, x, hturn, hx⟩

/-- What one turn does to a session: it may be lost only by a step of a call that is to end it. -/
theorem evolves (hg : h.Gripped W xs) (turn : Turn) {j : SessionRef} (hj : j < h.broker.sessions.length) :
    ∃ g : Grip, (h.broker.session j).Evolves g ((h.step turn).broker.session j) ∧
      (g.ends → ∃ k x, turn = .go k ∧ xs[k]? = some (x, g) ∧ x.request.isEnding ∧ g.session = some j) := by
  have hsame (hsession : (h.step turn).broker.session j = h.broker.session j) :
      (h.broker.session j).Evolves {} ((h.step turn).broker.session j) := by
    rw [hsession]; exact .refl ..
  rcases hg.allowed turn with hsessions | ⟨k, x, g, hturn, hp, hallowed⟩
  · exact ⟨{}, hsame (Broker.session_congr hsessions j), nofun⟩
  · by_cases hsession : g.session = some j
    · refine ⟨g, hallowed.evolves hj, fun hends => ⟨k, x, hturn, hp, ?_, hsession⟩⟩
      rw [← (hg.matched _ (List.mem_of_getElem? hp)).ends]; exact hends
    · exact ⟨{}, hsame (hallowed.others j hj hsession), nofun⟩

end Gripped

namespace Kept

variable {W : Option Watch} {h : Service} {k : Nat} {x : Call} {i j : SessionRef}

/-- One of the calls, with its grip before those of the others. -/
theorem pick (hk : h.Kept W) (hx : h.calls[k]? = some x) : ∃ g hs, Matches W x g ∧ Coherent W h.broker (g :: hs) := by
  obtain ⟨xs, hg⟩ := kept_iff.mp hk
  obtain ⟨g, hp⟩ := hg.grip_of hx
  obtain ⟨hs, hc, -⟩ := hg.pick hp
  exact ⟨g, hs, hg.matched _ (List.mem_of_getElem? hp), hc⟩

/-- The next step of a call, wherever the others are. -/
theorem go (hk : h.Kept W) (hx : h.calls[k]? = some x) :
    (h.step (.go k)).Kept W ∧ ∃ g, Matches W x g ∧ Allowed W g h.broker (h.step (.go k)).broker := by
  obtain ⟨xs, hg⟩ := kept_iff.mp hk
  obtain ⟨g, hp⟩ := hg.grip_of hx
  obtain ⟨g', hg', hstepped⟩ := hg.go hp
  exact ⟨hg'.kept, g, hg.matched _ (List.mem_of_getElem? hp), hstepped.allowed⟩

theorem step (hk : h.Kept W) {turn : Turn} (hfair : turn.Fair W) : (h.step turn).Kept W := by
  obtain ⟨xs, hg⟩ := kept_iff.mp hk
  obtain ⟨xs', hg', -⟩ := hg.step hfair
  exact hg'.kept

theorem after (hk : h.Kept W) (turns : List Turn) (hfair : ∀ turn ∈ turns, turn.Fair W) : (h.after turns).Kept W := by
  induction turns generalizing h with
  | nil => exact hk
  | cons turn rest ih =>
    obtain ⟨hturn, hrest⟩ := List.forall_mem_cons.mp hfair
    exact ih (hk.step hturn) hrest

/-- Where all calls have returned, nothing is in anybody's hands. -/
theorem idle (hk : h.Kept W) (hidle : h.IsIdle) : Coherent W h.broker [] := by
  obtain ⟨xs, hcalls, hmatches, hc⟩ := hk
  refine hc.cleared fun g hg => ?_
  obtain ⟨p, hp, rfl⟩ := List.mem_map.mp hg
  have hcall : p.1 ∈ h.calls := by
    rw [hcalls]
    exact List.mem_map.mpr ⟨p, hp, rfl⟩
  obtain ⟨result, hr⟩ := Option.isSome_iff_exists.mp (hidle p.1 hcall)
  exact ((hmatches p hp).returned hr).free

/-- What a call that has returned knows of its session. -/
theorem returned (hk : h.Kept W) (hx : x ∈ h.calls) {result : Except SessionError Unit} (hr : x.result? = some result)
    (hended : x.request.HasEnded result) (hi : x.session? = some i ∨ x.request.session? = some i) :
    ((h.broker.session i).disconnectedAt.isSome ∧ (h.broker.session i).cancelled) ∧ ∀ w ∈ W, w.Gone h.broker := by
  obtain ⟨k, hget⟩ := List.mem_iff_getElem?.mp hx
  obtain ⟨g, hs, hmatches, hc⟩ := hk.pick hget
  obtain ⟨hstage, hwatched⟩ := (hmatches.returned hr).ended hended
  have hsession : g.session = some i := by
    rcases hi with hi | hi
    · exact hmatches.session.symm.trans hi
    · exact hmatches.request i hi
  have hknows := hc.fits_self.knows i hsession
  refine ⟨?_, fun w hw => ?_⟩
  · rcases hstage with hstage | hstage
    · rw [hstage] at hknows; exact hknows
    · rw [hstage] at hknows; exact hknows.1
  · rw [hwatched (Option.isSome_iff_exists.mpr ⟨w, hw⟩)] at hknows
    exact hknows.2 w hw

/-- Sessions change only by steps of calls, which their grips allow. -/
theorem allowed (hk : h.Kept W) (turn : Turn) :
    (h.step turn).broker.sessions = h.broker.sessions ∨
      ∃ k x g, turn = .go k ∧ h.calls[k]? = some x ∧ Matches W x g ∧ Allowed W g h.broker (h.step turn).broker := by
  obtain ⟨xs, hg⟩ := kept_iff.mp hk
  refine (hg.allowed turn).imp_right ?_
  rintro ⟨k, x, g, hturn, hp, hallowed⟩
  exact ⟨k, x, g, hturn, hg.call_of hp, hg.matched _ (List.mem_of_getElem? hp), hallowed⟩

theorem length_le_step (hk : h.Kept W) (turn : Turn) :
    h.broker.sessions.length ≤ (h.step turn).broker.sessions.length := by
  rcases hk.allowed turn with hsame | ⟨_, _, _, -, -, -, hallowed⟩
  · exact Nat.le_of_eq (congrArg List.length hsame.symm)
  · exact hallowed.length

theorem length_le_after (hk : h.Kept W) (turns : List Turn) (hfair : ∀ turn ∈ turns, turn.Fair W) :
    h.broker.sessions.length ≤ (h.after turns).broker.sessions.length := by
  induction turns generalizing h with
  | nil => exact Nat.le_refl _
  | cons turn rest ih =>
    obtain ⟨hturn, hrest⟩ := List.forall_mem_cons.mp hfair
    exact Nat.le_trans (hk.length_le_step turn) (ih (hk.step hturn) hrest)

/-- A session never changes its id. -/
theorem id_after (hk : h.Kept none) (turns : List Turn) (hi : i < h.broker.sessions.length) :
    ((h.after turns).broker.session i).id = (h.broker.session i).id := by
  induction turns generalizing h with
  | nil => rfl
  | cons turn rest ih =>
    obtain ⟨xs, hg⟩ := kept_iff.mp hk
    obtain ⟨g, hevolves, -⟩ := hg.evolves turn hi
    exact (ih (hk.step turn.fair_none) (Nat.lt_of_lt_of_le hi (hk.length_le_step turn))).trans hevolves.id

/-- A request for a session that is there becomes a call. -/
theorem made (hk : h.Kept W) {turns : List Turn} (hfair : ∀ turn ∈ turns, turn.Fair W) {r : Request}
    (hr : .call r ∈ turns) (hpossible : r.isPossible h.broker) : ∃ x ∈ (h.after turns).calls, x.request = r := by
  induction turns generalizing h with
  | nil => cases hr
  | cons turn rest ih =>
    obtain ⟨hturn, hrest⟩ := List.forall_mem_cons.mp hfair
    rcases List.mem_cons.mp hr with rfl | hr
    · have hmade : r ∈ (h.step (.call r)).calls.map Call.request := by
        rw [step_call, if_pos hpossible, List.map_append]
        exact List.mem_append_right _ (List.mem_singleton.mpr rfl)
      exact List.mem_map.mp ((requests_after _ rest).subset hmade)
    · refine ih (hk.step hturn) hrest hr ?_
      unfold Request.isPossible at hpossible ⊢
      cases hsession : r.session? with
      | none => rfl
      | some i =>
        rw [hsession] at hpossible
        exact decide_eq_true (Nat.lt_of_lt_of_le (of_decide_eq_true hpossible) (hk.length_le_step turn))

end Kept

theorem kept_after (setup : Setup) (turns : List Turn) : ((boot setup).after turns).Kept none :=
  (kept_boot setup).after turns fun turn _ => turn.fair_none

end Service

end TunnelBroker
