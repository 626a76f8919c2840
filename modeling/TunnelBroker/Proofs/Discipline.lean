/-
  TunnelBroker.Proofs.Discipline — every operation keeps to its grip.

  A call `Runs` with a grip if each of its steps is one that its grip allows, wherever other calls have got to
  meanwhile, and it takes and gives back locks only of its own session.

  - `Runs.bind`, `Runs.locked`, `Runs.atomic`: how operations are put together.
  - `startTunnels_runs`, `register_runs`, `unregister_runs`, …: one lemma for each part of operations, with what
    the call has in its hands when that part is over.
-/

import TunnelBroker.Proofs.Grips

namespace TunnelBroker

open TunnelBroker.Net (Port)
open TunnelBroker.Ports (PortError)
open TunnelBroker.Time (Timestamp)

/-- Every step of an operation is one that its grip allows, and when it ends `post` holds. -/
def Runs (W : Option Watch) {α : Type} (post : α → Grip → Prop) : Operation α → Grip → Prop
  | .done a, g => post a g
  | .act change next, g => ∀ b hs, Coherent W b (g :: hs) → ∃ g', Act W b g (change b) g' ∧ Runs W post (next b) g'
  | .await _ next, g => Runs W post next g
  | .acquire lock next, g => g.Owns lock ∧ Runs W post next (g.take lock)
  | .release lock next, g => g.Holds lock ∧ g.MayDrop lock ∧ Runs W post next (g.drop lock)

namespace Runs

variable {W : Option Watch} {α β : Type} {post : α → Grip → Prop} {post' : β → Grip → Prop} {g : Grip}
  {t : Operation α} {f : α → Operation β}

theorem pure {a : α} (h : post a g) : Runs W post (Pure.pure a) g := h

theorem bind {p : α → Grip → Prop} (h : Runs W p t g) (hf : ∀ a g', p a g' → Runs W post' (f a) g') :
    Runs W post' (t >>= f) g := by
  show Runs W post' (t.bind f) g
  induction t generalizing g with
  | done a => exact hf a g h
  | act change next ih =>
    intro b hs hc
    obtain ⟨g', hact, hrest⟩ := h b hs hc
    exact ⟨g', hact, ih b hrest⟩
  | await ready next ih => exact ih h
  | acquire lock next ih => exact ⟨h.1, ih h.2⟩
  | release lock next ih => exact ⟨h.1, h.2.1, ih h.2.2⟩

theorem mono {p : α → Grip → Prop} (h : Runs W p t g) (hp : ∀ a g', p a g' → post a g') : Runs W post t g := by
  induction t generalizing g with
  | done a => exact hp a g h
  | act change next ih =>
    intro b hs hc
    obtain ⟨g', hact, hrest⟩ := h b hs hc
    exact ⟨g', hact, ih b hrest⟩
  | await ready next ih => exact ih h
  | acquire lock next ih => exact ⟨h.1, ih h.2⟩
  | release lock next ih => exact ⟨h.1, h.2.1, ih h.2.2⟩

/-- What follows an operation that leaves the grip as it is goes on from there. -/
theorem after (h : Runs W (fun _ g' => g' = g) t g) (hf : ∀ a, Runs W post' (f a) g) : Runs W post' (t >>= f) g :=
  h.bind fun a g' hg' => by rw [hg']; exact hf a

theorem locked {lock : Lock} {p : α → Grip → Prop} (howns : g.Owns lock) (h : Runs W p t (g.take lock))
    (hlast : ∀ a g', p a g' → g'.Holds lock ∧ g'.MayDrop lock ∧ post a (g'.drop lock)) :
    Runs W post (Task.locked lock t) g :=
  ⟨howns, h.bind fun a g' hp => hlast a g' hp⟩

theorem atomic {f : Broker → α × Broker}
    (h : ∀ b hs, Coherent W b (g :: hs) → ∃ g', Act W b g (f b).2 g' ∧ post (f b).1 g') :
    Runs W post (Task.atomic f) g := h

theorem change {f : Broker → Broker} {last : Unit → Grip → Prop}
    (h : ∀ b hs, Coherent W b (g :: hs) → ∃ g', Act W b g (f b) g' ∧ last () g') : Runs W last (Task.change f) g := h

theorem read {f : Broker → α} (h : ∀ b hs, Coherent W b (g :: hs) → ∃ g', Act W b g b g' ∧ post (f b) g') :
    Runs W post (Task.read f) g := h

theorem waitFor {ready : Broker → Bool} {last : Unit → Grip → Prop} (h : last () g) :
    Runs W last (Task.waitFor ready) g := h

end Runs

/-! ## Single steps -/

section

variable {W : Option Watch} {b b' : Broker} {g : Grip} {hs : List Grip} {i : SessionRef} {stage : Stage}

/-- Whoever looks at the broker may learn something of it. -/
theorem Act.learn (hc : Coherent W b (g :: hs)) (hknows : ∀ i ∈ g.session, stage.Holds W b i)
    (hguarded : (stage = .live → g.lifecycle ∨ g.tunnels) ∧ (stage = .erased → g.lifecycle)) :
    Act W b g b { g with stage } :=
  .still hc (hc.reckoned rfl rfl rfl rfl rfl (Broker.hasListener_of_eq rfl)) rfl hknows hguarded

theorem Coherent.fits_self (hc : Coherent W b (g :: hs)) : Fits W b g := hc.fits g (List.mem_cons_self ..)

/-- A step that changes no session and no record, but maybe leases. -/
theorem Act.tally {ports : List Port} (hc : Coherent W b (g :: hs)) (hsessions : b'.sessions = b.sessions)
    (hrest : b'.keepLost = b.keepLost ∧ b'.outside = b.outside ∧ b'.registry = b.registry ∧ b'.store = b.store)
    (hlisteners : ∀ l ∈ b'.listeners, b.HasListener l ∨ b.MayListen l)
    (hleased : ∀ rest, b.allocator.leased.Perm (b.heldPorts ++ (g.ports ++ rest)) →
      b'.allocator.leased.Perm (b.heldPorts ++ (ports ++ rest)))
    (hnodup : b'.allocator.leased.Nodup) (hcovered : AssignedFrom ports g.pending) :
    Act W b g b' { g with ports } := by
  obtain ⟨hkeepLost, houtside, hregistry, hstore⟩ := hrest
  have hreckoned := hc.reckoned hsessions hkeepLost houtside hregistry hstore hlisteners
  have hsession := Broker.session_congr hsessions
  refine .reckon hc hreckoned (fun j hj => ?_) hc.fits_self.guarded hleased hnodup hcovered
  have hevolves : (b.session j).Evolves g (b'.session j) := by rw [hsession]; exact .refl ..
  exact (hc.fits_self.knows j hj).keep hevolves (fun _ => by rw [hsession]) (fun _ _ _ => hstore) hreckoned.gone

/-- A step that changes neither sessions nor leases nor records. -/
theorem Act.aside (hc : Coherent W b (g :: hs)) (hsessions : b'.sessions = b.sessions)
    (hleased : b'.allocator.leased = b.allocator.leased)
    (hrest : b'.keepLost = b.keepLost ∧ b'.outside = b.outside ∧ b'.registry = b.registry ∧ b'.store = b.store)
    (hlisteners : ∀ l ∈ b'.listeners, b.HasListener l ∨ b.MayListen l) : Act W b g b' g :=
  .tally hc hsessions hrest hlisteners (fun _ h => by rw [hleased]; exact h) (by rw [hleased]; exact hc.nodup)
    hc.fits_self.covered

/-- A step that changes nothing but listeners. -/
theorem Act.listening (hc : Coherent W b (g :: hs)) {ls : List Listener}
    (h : ∀ l ∈ ls, b.HasListener l ∨ b.MayListen l) : Act W b g { b with listeners := ls } g :=
  .aside hc rfl rfl ⟨rfl, rfl, rfl, rfl⟩ h

theorem Act.refl (hc : Coherent W b (g :: hs)) : Act W b g b g :=
  .aside hc rfl rfl ⟨rfl, rfl, rfl, rfl⟩ (Broker.hasListener_of_eq rfl)

theorem Runs.look {α : Type} (f : Broker → α) (g : Grip) : Runs W (fun _ g' => g' = g) (Task.read f) g :=
  .read fun _ _ hc => ⟨g, .refl hc, rfl⟩

/-- The tunnels of a watched session are what the watch says of them. -/
theorem Coherent.own (hc : Coherent W b (g :: hs)) (hi : g.session = some i) :
    ∀ w ∈ W, ∀ t ∈ (b.session i).tunnels, t.autoAssigned →
      t.localPort ∉ w.outset.otherPorts w.session ∨ w.Bare t.localPort := by
  intro w hw t ht
  have hwi : w.session = i := Option.some.inj ((hc.fits_self.watched w hw).symm.trans hi)
  exact (hc.watched w hw).own t (by rw [hwi]; exact ht)

/-- A port in a call's hands is none that another session held when the watch began. -/
theorem Coherent.not_mem_otherPorts {w : Watch} {port : Port} (hc : Coherent W b (g :: hs)) (hport : port ∈ g.ports)
    (hw : w ∈ W) : port ∉ w.outset.otherPorts w.session := by
  intro hother
  have hheld : port ∈ b.heldPorts := by
    rw [Broker.otherPorts, ← (hc.watched w hw).others] at hother
    obtain ⟨s, hs, hp⟩ := List.mem_flatMap.mp hother
    exact List.mem_flatMap.mpr ⟨s, List.mem_of_mem_eraseIdx hs, hp⟩
  have hnodup := hc.leased.nodup hc.nodup
  have hmem : port ∈ (g :: hs).flatMap Grip.ports := List.mem_flatMap.mpr ⟨g, List.mem_cons_self .., hport⟩
  exact (List.nodup_append.mp hnodup).2.2 port hheld port hmem rfl

/-- A step of a call that changes the tunnels of its session, and not whether it is live. -/
theorem Act.amend {s : Session} {pending : List Tunnel} {ports : List Port} (hc : Coherent W b (g :: hs))
    (hi : g.session = some i) (hlock : g.tunnels = true)
    (hsame : s.id = (b.session i).id ∧ s.connection = (b.session i).connection ∧
      s.disconnectedAt = (b.session i).disconnectedAt ∧ s.cancelled = (b.session i).cancelled)
    (htunnels : (b.session i).disconnectedAt.isSome → s.tunnels = (b.session i).tunnels)
    (hpending : s.pending = pending) (hports : ((b.session i).leasedPorts ++ g.ports).Perm (s.leasedPorts ++ ports))
    (hcovered : AssignedFrom ports pending)
    (hown : ∀ w ∈ W, ∀ t ∈ s.tunnels, t.autoAssigned →
      t.localPort ∉ w.outset.otherPorts w.session ∨ w.Bare t.localPort) :
    Act W b g (b.setSession i s) { g with pending, ports } := by
  obtain ⟨hid, hconnection, hdisconnected, hcancelled⟩ := hsame
  have hevolves : (b.session i).Evolves g s :=
    { id := hid
      lost := fun hlost => ⟨hdisconnected, hconnection, htunnels hlost⟩
      ends := fun hnone => .inl (hdisconnected.trans hnone)
      cancelled := fun h => by rw [hcancelled]; exact h
      connection := fun _ => hconnection
      pending := fun hno => absurd hlock hno }
  have hsound : s.Sound := by
    refine ⟨by rw [hconnection, hdisconnected]; exact (hc.sound i).linked, fun hlost => ?_⟩
    rw [hdisconnected] at hlost
    rw [htunnels hlost]; exact (hc.sound i).retired hlost
  have hself : (b.setSession i s).session i = s := Broker.session_setSession_self (hc.fits_self.present i hi)
  have hgone : ∀ w ∈ W, w.Gone b → w.Gone (b.setSession i s) := fun w hw hgone => by
    have hwi : w.session = i := Option.some.inj ((hc.fits_self.watched w hw).symm.trans hi)
    exact ⟨by rw [hwi, hself, hdisconnected, ← hwi]; exact hgone.lost, hgone.unknown, hgone.erased⟩
  refine .update hc hi hevolves hsound (fun _ => hpending) ?_ hc.fits_self.guarded hports hcovered hown
  exact (hc.fits_self.knows i hi).keep (by rw [hself]; exact hevolves) (fun _ => by rw [hself]; exact hconnection)
    (fun _ _ _ => rfl) hgone

end

/-! ## Ports -/

namespace Operation

variable {W : Option Watch} {g : Grip}

/-- Ports in a call's hands are given back. -/
theorem releasePorts_runs (ports : List Port) {g : Grip} (h : g.pending = []) :
    Runs W (fun _ g' => g' = { g with ports := [] }) (releasePorts ports) { g with ports } := by
  induction ports with
  | nil => exact rfl
  | cons port rest ih =>
    refine .bind (p := fun _ g' => g' = { g with ports := rest }) (.atomic fun b hs hc => ⟨_, ?_, rfl⟩) ?_
    · have hnone : AssignedFrom rest g.pending := by
        rw [h]
        exact assignedFrom_nil rest
      refine .tally hc rfl ⟨rfl, rfl, rfl, rfl⟩ (Broker.hasListener_of_eq rfl) (fun others hleased => ?_)
        (hc.nodup.erase port) hnone
      have hhead : (b.heldPorts ++ (port :: rest ++ others)).Perm (port :: (b.heldPorts ++ (rest ++ others))) :=
        List.perm_middle
      exact (hleased.erase port).trans (by simpa using hhead.erase port)
    · intro _ g' hg'
      rw [hg']; exact ih

theorem refresh_runs : Runs W (fun _ g' => g' = g) refresh g := by
  refine .after (.look _ g) fun candidates => .after (.look _ g) fun answer => .atomic fun b hs hc => ⟨g, ?_, rfl⟩
  rcases b.allocator.adopt_cases answer with ⟨ports, he⟩ | ⟨e, he⟩
  · exact .aside hc rfl (by simp only [he]) ⟨rfl, rfl, rfl, rfl⟩ (Broker.hasListener_of_eq rfl)
  · exact .aside hc rfl (by simp only [he]) ⟨rfl, rfl, rfl, rfl⟩ (Broker.hasListener_of_eq rfl)

end Operation

/-! ## Batches -/

/-- The grip of a call that fills a batch: the tunnels that it has started, and the ports that it has leased. -/
def Grip.filling (i : SessionRef) (ends lifecycle : Bool) (ts : List Tunnel) (ports : List Port) : Grip :=
  { session := some i, ends, lifecycle, tunnels := true, stage := .live, pending := ts, ports }

/-- The grip of a call without a batch. -/
def Grip.resting (i : SessionRef) (ends lifecycle : Bool) (stage : Stage) : Grip :=
  { session := some i, ends, lifecycle, stage }

/-- The grip of a call that has read the moment at which its session is to end. -/
def Grip.timing (i : SessionRef) (moment : Timestamp) : Grip :=
  { session := some i, ends := true, lifecycle := true, moment := some moment }

/-- The ports are those on which the tunnels hold leases. -/
structure Batched (ts : List Tunnel) (ports : List Port) : Prop where
  leased : ts.filterMap Tunnel.leasedPort? = ports
  fresh : ∀ t ∈ ts, t.Fresh

namespace Operation

variable {W : Option Watch} {i : SessionRef} {ends lifecycle : Bool} {ts : List Tunnel} {ports : List Port}

theorem resolve_runs (f : Forward) (g : Grip) :
    Runs W (fun r g' => (∃ e, r = .error e ∧ g' = g) ∨ ∃ f' port, r = .ok (f', port) ∧
      g' = { g with ports := g.ports ++ port.toList } ∧ ∀ p ∈ port, f'.localPort = some p) (resolve f) g := by
  unfold resolve
  split
  · exact .pure (.inr ⟨f, none, rfl, by simp, nofun⟩)
  · refine .bind (p := fun r g' => (∃ e, r = .error e ∧ g' = g) ∨
      ∃ port, r = .ok port ∧ g' = { g with ports := g.ports ++ [port] }) (.atomic fun b hs hc => ?_) ?_
    · rcases b.allocator.lease_cases b.outside.draw with ⟨-, he⟩ | ⟨port, hport, he⟩
      · exact ⟨g, by simp only [he]; exact .refl hc, .inl ⟨.exhausted b.allocator.pool.size, by simp only [he], rfl⟩⟩
      · refine ⟨{ g with ports := g.ports ++ [port] }, ?_, .inr ⟨port, by simp only [he], rfl⟩⟩
        simp only [he]
        refine .tally hc rfl ⟨rfl, rfl, rfl, rfl⟩ (Broker.hasListener_of_eq rfl) (fun rest hleased => ?_) ?_
          fun t ht hauto => List.mem_append_left _ (hc.fits_self.covered t ht hauto)
        · have hmiddle : (b.heldPorts ++ g.ports ++ port :: rest).Perm (port :: (b.heldPorts ++ g.ports ++ rest)) :=
            List.perm_middle
          simp only [List.append_assoc, List.singleton_append] at hmiddle ⊢
          exact (hleased.cons port).trans hmiddle.symm
        · exact List.nodup_cons.mpr ⟨(Ports.Allocator.mem_free.mp hport).2.2, hc.nodup⟩
    · rintro _ g' (⟨e, rfl, rfl⟩ | ⟨port, rfl, rfl⟩)
      · exact .pure (.inl ⟨_, rfl, rfl⟩)
      · exact .pure (.inr ⟨_, some port, rfl, rfl, fun p hp => hp⟩)

/-- A tunnel that is started is one more in the batch. -/
theorem start_runs {f : Forward} (acl : Acl) {autoAssigned : Bool}
    (hport : autoAssigned = true → ∃ p ∈ ports, f.localPort = some p) :
    Runs W (fun r g' => (∃ e, r = .error e ∧ g' = .filling i ends lifecycle ts ports) ∨
      ∃ t, r = .ok t ∧ g' = .filling i ends lifecycle (ts ++ [t]) ports ∧ t.forward = f ∧
        t.autoAssigned = autoAssigned ∧ t.Fresh ∧ f.validate = .ok ())
      (update i fun b s => s.start f acl autoAssigned b.outside.now) (.filling i ends lifecycle ts ports) := by
  refine .atomic fun b hs hc => ?_
  rcases (b.session i).start_cases f acl autoAssigned b.outside.now with ⟨e, he⟩ | ⟨hvalid, he⟩
  · refine ⟨_, ?_, .inl ⟨e, by simp only [he], rfl⟩⟩
    simp only [he, Broker.setSession_of_eq]
    exact .refl hc
  · let t := (b.session i).nextTunnel f acl autoAssigned b.outside.now
    refine ⟨_, ?_, .inr ⟨t, by simp only [he, t], rfl, rfl, rfl, ⟨rfl, rfl⟩, hvalid⟩⟩
    simp only [he]
    have hpending : (b.session i).pending = ts := hc.fits_self.pending i rfl rfl
    have hcovered : AssignedFrom ports (ts ++ [t]) := by
      refine List.forall_mem_append.mpr ⟨hc.fits_self.covered, List.forall_mem_singleton.mpr fun hauto => ?_⟩
      obtain ⟨p, hp, hf⟩ := hport hauto
      show f.localPort.getD 0 ∈ ports
      rw [hf]
      exact hp
    exact .amend hc rfl rfl ⟨rfl, rfl, rfl, rfl⟩ (fun _ => rfl) (by simp only [hpending, t])
      (.refl _) hcovered (hc.own rfl)

theorem place_runs {f : Forward} (acl : Acl) {autoAssigned : Bool}
    (hport : autoAssigned = true → ∃ p ∈ ports, f.localPort = some p) :
    Runs W (fun r g' => ∃ ts', g' = .filling i ends lifecycle ts' ports ∧ ∀ l, r = .ok l →
      ∃ t, ts' = ts ++ [t] ∧ t.forward = f ∧ t.autoAssigned = autoAssigned ∧ t.Fresh)
      (place i f acl autoAssigned) (.filling i ends lifecycle ts ports) := by
  refine .bind (start_runs acl hport) ?_
  rintro _ g' (⟨e, rfl, rfl⟩ | ⟨t, rfl, rfl, rfl, hauto, hfresh, hvalid⟩)
  · exact .pure ⟨ts, rfl, nofun⟩
  · refine .atomic fun b hs hc => ⟨_, ?_, ts ++ [t], rfl, fun _ _ => ⟨t, rfl, rfl, hauto, hfresh⟩⟩
    dsimp only
    cases he : t.forward.localEndpoint with
    | error e => exact .refl hc
    | ok e =>
      dsimp only
      cases b.canListen e with
      | error error => exact .refl hc
      | ok _ =>
        refine .listening hc fun l hl => ?_
        rcases List.mem_append.mp hl with hl | hl
        · exact .inl ⟨l, hl, rfl⟩
        · obtain rfl := List.mem_singleton.mp hl
          have hpending : (b.session i).pending = ts ++ [t] := hc.fits_self.pending i rfl rfl
          have ht : t ∈ (b.session i).pending := by rw [hpending]; exact List.mem_concat_self
          exact .inr ⟨t, ht, rfl, hvalid, hfresh, he⟩

/-- An attempt that goes well leaves the batch as it should be; one that fails may leave a lease too many. -/
theorem attempt_runs (acl : Acl) (f : Forward) (taken : Taken) (h : Batched ts taken.leased) :
    Runs W (fun r g' => ∃ ts', g' = .filling i ends lifecycle ts' r.2.leased ∧ (r.1 = .ok () → Batched ts' r.2.leased))
      (attempt i acl f taken) (.filling i ends lifecycle ts taken.leased) := by
  refine .bind (resolve_runs f _) ?_
  rintro _ g' (⟨e, rfl, rfl⟩ | ⟨f', port, rfl, rfl, hport⟩)
  · exact .pure ⟨ts, rfl, nofun⟩
  · have hassigned : port.isSome = true → ∃ p ∈ taken.leased ++ port.toList, f'.localPort = some p := by
      intro hsome
      obtain ⟨p, rfl⟩ := Option.isSome_iff_exists.mp hsome
      exact ⟨p, List.mem_concat_self, hport p rfl⟩
    have hplace : Runs W _ (place i f' acl port.isSome) (.filling i ends lifecycle ts (taken.leased ++ port.toList)) :=
      place_runs acl hassigned
    refine .bind hplace ?_
    rintro r g' ⟨ts', rfl, hts'⟩
    cases r with
    | error e => exact .pure ⟨ts', rfl, nofun⟩
    | ok l =>
      refine .pure ⟨ts', rfl, fun _ => ?_⟩
      obtain ⟨t, rfl, htf, hauto, hfresh⟩ := hts' l rfl
      have hlease : t.leasedPort? = port := by
        rw [Tunnel.leasedPort?, hfresh.2, hauto, Tunnel.localPort, htf]
        cases port with
        | none => rfl
        | some p => rw [hport p rfl]; rfl
      refine ⟨?_, fun t' ht' => ?_⟩
      · simp only [List.filterMap_append, h.leased, List.filterMap_cons, hlease, List.filterMap_nil]
        cases port <;> rfl
      · rcases List.mem_append.mp ht' with ht' | ht'
        · exact h.fresh t' ht'
        · rw [List.mem_singleton.mp ht']; exact hfresh

theorem fill_runs (acl : Acl) (forwards : List Forward) (taken : Taken) (h : Batched ts taken.leased) :
    Runs W (fun r g' => ∃ ts', g' = .filling i ends lifecycle ts' r.2.leased ∧ (r.1 = .ok () → Batched ts' r.2.leased))
      (fill i acl forwards taken) (.filling i ends lifecycle ts taken.leased) := by
  induction forwards generalizing ts taken with
  | nil => exact .pure ⟨ts, rfl, fun _ => h⟩
  | cons f rest ih =>
    refine .bind (attempt_runs acl f taken h) ?_
    rintro ⟨r, taken'⟩ g' ⟨ts', rfl, hbatched⟩
    cases r with
    | error e => exact .pure ⟨ts', rfl, nofun⟩
    | ok _ => exact ih taken' (hbatched rfl)

theorem commit_runs (h : Batched ts ports) :
    Runs W (fun _ g' => g' = .filling i ends lifecycle [] []) (update i fun _ s => s.commit)
      (.filling i ends lifecycle ts ports) := by
  refine .atomic fun b hs hc => ⟨_, ?_, rfl⟩
  have hpending : (b.session i).pending = ts := hc.fits_self.pending i rfl rfl
  have hlive := (hc.sound i).not_lost (hc.fits_self.knows i rfl)
  refine .amend hc rfl rfl ⟨rfl, rfl, rfl, rfl⟩ (fun hlost => ?_) rfl ?_ (assignedFrom_nil _) fun w hw t ht hauto => ?_
  · rw [hlive] at hlost; cases hlost
  · have hjoined : (b.session i).commit.2.leasedPorts = (b.session i).leasedPorts ++ ports := by
      simp only [Session.leasedPorts, Session.commit, List.filterMap_append, hpending, h.leased]
    rw [hjoined, List.append_nil]
    exact .refl _
  · rcases List.mem_append.mp ht with ht | ht
    · exact hc.own rfl w hw t ht hauto
    · -- A port that was leased for the batch is nobody else's.
      rw [hpending] at ht
      refine .inl (hc.not_mem_otherPorts (g := .filling i ends lifecycle ts ports) ?_ hw)
      have hholds : t.holdsLease = true := (h.fresh t ht).2.trans hauto
      show t.localPort ∈ ports
      rw [← h.leased]
      exact List.mem_filterMap.mpr ⟨t, ht, by simp [Tunnel.leasedPort?, hholds]⟩

theorem discard_runs :
    Runs W (fun _ g' => g' = .filling i ends lifecycle [] ports) (update i fun _ s => ((), s.discard))
      (.filling i ends lifecycle ts ports) :=
  .atomic fun _ _ hc =>
    ⟨_, .amend hc rfl rfl ⟨rfl, rfl, rfl, rfl⟩ (fun _ => rfl) rfl (.refl _) (assignedFrom_nil _) (hc.own rfl), rfl⟩

theorem closeListeners_runs (opened : List Listener) (g : Grip) :
    Runs W (fun _ g' => g' = g) (closeListeners opened) g :=
  .change fun _ _ hc => ⟨g, .listening hc fun l hl => .inl ⟨l, List.mem_of_mem_filter hl, rfl⟩, rfl⟩

theorem serve_runs (i : SessionRef) (tunnels : List Tunnel) (g : Grip) :
    Runs W (fun _ g' => g' = g) (serve i tunnels) g := by
  refine .change fun b hs hc => ⟨g, .listening hc fun l hl => .inl ?_, rfl⟩
  obtain ⟨l', hl', rfl⟩ := List.mem_map.mp hl
  refine ⟨l', hl', ?_⟩
  split <;> rfl

/-- A batch that goes well leaves nothing in the call's hands; one that fails leaves what it has leased. -/
theorem openBatch_runs (forwards : List Forward) (acl : Acl) :
    Runs W (fun r g' => (∃ tunnels, r = .ok tunnels ∧ g' = .filling i ends lifecycle [] []) ∨
      ∃ e leased stage, r = .error (e, leased) ∧ (stage = .unknown ∨ stage = .live) ∧
        g' = { Grip.resting i ends lifecycle stage with tunnels := true, ports := leased })
      (openBatch i forwards acl) { Grip.resting i ends lifecycle .unknown with tunnels := true } := by
  refine .bind (p := fun r g' => (r.1 = none ∧ g' = { Grip.resting i ends lifecycle .unknown with tunnels := true }) ∨
    r.1.isSome ∧ g' = .filling i ends lifecycle [] []) (.read fun b hs hc => ?_) ?_
  · cases hconnection : (b.session i).connection with
    | none => exact ⟨_, .refl hc, .inl ⟨hconnection, rfl⟩⟩
    | some c =>
      have hlive : (b.session i).connection.isSome := by rw [hconnection]; rfl
      refine ⟨.filling i ends lifecycle [] [], .learn hc (fun j hj => ?_) ⟨fun _ => .inr rfl, nofun⟩, .inr ⟨hlive, rfl⟩⟩
      obtain rfl : i = j := Option.some.inj hj
      exact hlive
  rintro ⟨_ | c, id⟩ g' (⟨hnone, rfl⟩ | ⟨hsome, rfl⟩)
  · exact .pure (.inr ⟨_, _, _, rfl, .inl rfl, rfl⟩)
  · cases hsome
  · cases hnone
  · refine .after refresh_runs fun r => ?_
    cases r with
    | error e => exact .pure (.inr ⟨_, _, _, rfl, .inr rfl, rfl⟩)
    | ok _ =>
      refine .bind (fill_runs acl forwards {} ⟨rfl, fun t ht => (by cases ht)⟩) ?_
      rintro ⟨r, taken⟩ g' ⟨ts', rfl, hbatched⟩
      cases r with
      | error e =>
        refine .after (closeListeners_runs taken.listeners _) fun _ => ?_
        refine .bind discard_runs ?_
        rintro _ _ rfl
        exact .pure (.inr ⟨_, _, _, rfl, .inr rfl, rfl⟩)
      | ok _ =>
        refine .bind (commit_runs (hbatched rfl)) ?_
        rintro tunnels _ rfl
        exact .pure (.inl ⟨tunnels, rfl, rfl⟩)

/-- The knowledge that a session is live lasts beyond a batch only under the lock of the session's life. -/
theorem startTunnels_runs (lifecycle : Bool) (forwards : List Forward) (acl : Acl) :
    Runs W (fun r g' => ∃ stage, g' = .resting i ends lifecycle stage ∧ (stage = .unknown ∨ stage = .live ∧ lifecycle) ∧
      ∀ tunnels, r = .ok tunnels → lifecycle → stage = .live)
      (startTunnels i forwards acl) (.resting i ends lifecycle .unknown) := by
  have hsettle {stage : Stage} (h : stage = .unknown ∨ stage = .live) :
      (if lifecycle then stage else stage.settle) = .unknown ∨
        (if lifecycle then stage else stage.settle) = .live ∧ lifecycle := by
    rcases h with rfl | rfl <;> cases lifecycle <;> simp [Stage.settle]
  refine .bind (p := fun r g' => ∃ stage leased, g' = { Grip.resting i ends lifecycle stage with ports := leased } ∧
    (stage = .unknown ∨ stage = .live ∧ lifecycle) ∧
    ((∃ tunnels, r = .ok tunnels ∧ leased = [] ∧ (lifecycle → stage = .live)) ∨ ∃ e, r = .error (e, leased)))
    (.locked rfl (openBatch_runs forwards acl) ?_) ?_
  · rintro r g' (⟨tunnels, rfl, rfl⟩ | ⟨e, leased, stage, rfl, hstage, rfl⟩)
    · refine ⟨⟨rfl, rfl⟩, rfl, _, [], rfl, hsettle (.inr rfl), .inl ⟨tunnels, rfl, rfl, fun hl => ?_⟩⟩
      subst hl; rfl
    · exact ⟨⟨rfl, rfl⟩, rfl, _, leased, rfl, hsettle hstage, .inr ⟨e, rfl⟩⟩
  rintro _ g' ⟨stage, leased, rfl, hstage, ⟨tunnels, rfl, rfl, hlive⟩ | ⟨e, rfl⟩⟩
  · refine .after (serve_runs i tunnels _) fun _ => ?_
    exact .pure ⟨stage, rfl, hstage, fun _ _ => hlive⟩
  · refine .bind (releasePorts_runs leased (g := .resting i ends lifecycle stage) rfl) ?_
    rintro _ _ rfl
    exact .pure ⟨stage, rfl, hstage, nofun⟩

end Operation

/-! ## Records -/

section

variable {W : Option Watch} {b b' : Broker} {g : Grip} {hs : List Grip} {i : SessionRef} {w : Watch}

/-- A session that is live is not gone, so it is known. -/
theorem Coherent.known_of_live (hc : Coherent W b (g :: hs)) (hstage : g.stage = .live) (hw : w ∈ W) :
    ¬w.Gone b ∧ b.registry.find? w.id = some w.session := by
  have hnot : ¬w.Gone b := by
    intro hgone
    have hlive := hc.fits_self.knows w.session (hc.fits_self.watched w hw)
    rw [hstage] at hlive
    have hlost := hgone.lost
    rw [(hc.sound w.session).not_lost hlive] at hlost
    cases hlost
  exact ⟨hnot, (hc.watched w hw).known.resolve_right hnot⟩

/-- A step that changes records: nobody watches, or the session is live and stays known. -/
theorem Act.record (hc : Coherent W b (g :: hs)) (hW : W = none ∨ g.stage = .live ∧ g.lifecycle)
    (hsame : b'.sessions = b.sessions ∧ b'.allocator = b.allocator ∧ b'.keepLost = b.keepLost ∧
      b'.outside = b.outside ∧ b'.listeners = b.listeners)
    (husable : ∀ w ∈ W, b'.store ≠ some (.database none))
    (hknown : ∀ w ∈ W, b'.registry.find? w.id = some w.session) : Act W b g b' g := by
  obtain ⟨hsessions, hallocator, hkeepLost, houtside, hlisteners⟩ := hsame
  have hsession := Broker.session_congr hsessions
  have hlive (w : Watch) (hw : w ∈ W) : g.stage = .live ∧ g.lifecycle := by
    rcases hW with rfl | hlive
    · cases hw
    · exact hlive
  have hreckoned : Reckoned W b b' g :=
    { sessions := hsessions
      keepLost := hkeepLost
      outside := houtside
      store := fun w hw hno => absurd ⟨(hlive w hw).2, hc.fits_self.watched w hw⟩ hno
      usable := husable
      known := fun w hw => .inl (hknown w hw)
      gone := fun w hw hgone => absurd hgone (hc.known_of_live (hlive w hw).1 hw).1
      listeners := Broker.hasListener_of_eq hlisteners }
  refine .still hc hreckoned (by rw [hallocator]) (fun j hj => ?_) hc.fits_self.guarded
  have hevolves : (b.session j).Evolves g (b'.session j) := by rw [hsession]; exact .refl ..
  refine (hc.fits_self.knows j hj).keep hevolves (fun _ => by rw [hsession]) (fun herased w hw => ?_) hreckoned.gone
  rw [(hlive w hw).1] at herased
  cases herased

theorem Watch.forall_mem_some {P : Watch → Prop} (h : P w) : ∀ w' ∈ some w, P w' := by
  intro w' hw'
  rw [← Option.some.inj hw']; exact h

end

theorem Store.save_usable {store : Store} (h : store ≠ .database none) (refusal : Store.Refusal) (now : Timestamp)
    (r : SessionRecord) : (store.save refusal now r).2 ≠ .database none := by
  unfold save
  split
  · exact h
  · split
    · exact nofun
    · exact h
    · exact nofun

/-- A store that is there deletes what it is asked to. -/
theorem Store.delete_ok {store : Store} (h : store ≠ .database none) (id : String) :
    ∃ store', store.delete (fun _ => none) id = (.ok (), store') ∧ store'.contains id = false ∧
      store' ≠ .database none := by
  cases store with
  | memory records => exact ⟨_, rfl, by simp [contains, Table.contains], fun h' => by cases h'⟩
  | database table =>
    cases table with
    | none => exact absurd rfl h
    | some rows => exact ⟨_, rfl, by simp [contains, Table.contains], fun h' => by cases h'⟩

namespace Operation

variable {W : Option Watch} {i : SessionRef} {ends lifecycle : Bool} {stage : Stage}

theorem takeRecord_runs (h : lifecycle = true ∨ stage.settle = stage) :
    Runs W (fun _ g' => g' = .resting i ends lifecycle stage) (takeRecord i) (.resting i ends lifecycle stage) := by
  refine .after (.locked rfl (.look _ _) ?_) fun ts => .look _ _
  rintro _ _ rfl
  have hstage : (if lifecycle then stage else stage.settle) = stage := by
    rcases h with rfl | h
    · rfl
    · rw [h, ite_self]
  exact ⟨⟨rfl, rfl⟩, rfl, congrArg (Grip.resting i ends lifecycle) hstage⟩

theorem saveRecord_runs {g : Grip} (r : SessionRecord) (hW : W = none ∨ g.stage = .live ∧ g.lifecycle) :
    Runs W (fun _ g' => g' = g) (saveRecord r) g := by
  refine .atomic fun b hs hc => ⟨g, ?_, rfl⟩
  have hknown (w : Watch) (hw : w ∈ W) : b.registry.find? w.id = some w.session := by
    rcases hW with rfl | hlive
    · cases hw
    · exact (hc.known_of_live hlive.1 hw).2
  cases hstore : b.store with
  | none => exact .refl hc
  | some store =>
    refine .record hc hW ⟨rfl, rfl, rfl, rfl, rfl⟩ (fun w hw hnone => ?_) hknown
    have husable : store ≠ .database none := fun h => (hc.watched w hw).usable (by rw [hstore, h])
    exact Store.save_usable husable b.outside.refusal b.outside.now r (Option.some.inj hnone)

/-- A session may be registered where it is live, or where nobody watches. -/
theorem register_runs (h : lifecycle = true ∨ stage.settle = stage) (hW : W = none ∨ stage = .live ∧ lifecycle) :
    Runs W (fun _ g' => g' = .resting i ends lifecycle stage) (register i) (.resting i ends lifecycle stage) := by
  have hpersist : Runs W (fun _ g' => g' = .resting i ends lifecycle stage) (persist i)
      (.resting i ends lifecycle stage) := by
    refine .after (.look _ _) fun stored => ?_
    cases stored with
    | false => exact .pure rfl
    | true => exact .after (takeRecord_runs h) fun r => saveRecord_runs r hW
  refine .after hpersist fun r => ?_
  cases r with
  | error e => exact .pure rfl
  | ok _ =>
    refine .after (.change fun b hs hc => ⟨_, ?_, rfl⟩) fun _ => .pure rfl
    refine .record hc hW ⟨rfl, rfl, rfl, rfl, rfl⟩ (fun w hw => (hc.watched w hw).usable) fun w hw => ?_
    obtain rfl : i = w.session := Option.some.inj (hc.fits_self.watched w hw)
    rw [(hc.watched w hw).id]
    exact Store.Table.find?_insert_self ..

/-- Where nobody watches, any id may be made unknown. -/
theorem unregister_runs (id : String) (g : Grip) : Runs none (fun _ g' => g' = g) (unregister id) g := by
  have hrecord {b b' : Broker} {hs : List Grip} (hc : Coherent none b (g :: hs))
      (hsame : b'.sessions = b.sessions ∧ b'.allocator = b.allocator ∧ b'.keepLost = b.keepLost ∧
        b'.outside = b.outside ∧ b'.listeners = b.listeners) : Act none b g b' g :=
    .record hc (.inl rfl) hsame (fun _ hw => by cases hw) fun _ hw => by cases hw
  refine .after (.look _ _) fun r => ?_
  cases r with
  | error e => exact .pure rfl
  | ok _ =>
    refine .after (.atomic fun b hs hc => ⟨g, ?_, rfl⟩) fun r => ?_
    · cases b.store with
      | none => exact .refl hc
      | some store => exact hrecord hc ⟨rfl, rfl, rfl, rfl, rfl⟩
    · cases r with
      | error e => exact .pure rfl
      | ok _ => exact .after (.change fun b hs hc => ⟨g, hrecord hc ⟨rfl, rfl, rfl, rfl, rfl⟩, rfl⟩) fun _ => .pure rfl

section

variable (w : Watch)

/-- Who looks for a watched session that is over finds it, or learns that it is gone. -/
theorem find_runs_watched :
    Runs (some w) (fun r g' => (r = .error (.notFound w.id) ∧ g' = .resting w.session ends true .forgotten) ∨
      r = .ok w.session ∧ g' = .resting w.session ends true .ended) (find w.id)
      (.resting w.session ends true .ended) := by
  refine .read fun b hs hc => ?_
  rcases (hc.watched w rfl).known with hknown | hgone
  · exact ⟨_, .refl hc, .inr ⟨by simp only [hknown], rfl⟩⟩
  · refine ⟨.resting w.session ends true .forgotten, .learn hc (fun j hj => ?_) ⟨nofun, nofun⟩,
      .inl ⟨by simp only [hgone.unknown], rfl⟩⟩
    exact ⟨hc.fits_self.knows j hj, Watch.forall_mem_some hgone⟩

/-- The record of a watched session is deleted; whoever holds the lock of its life knows that it stays so. -/
theorem deleteRecord_runs_watched :
    Runs (some w) (fun r g' => r = .ok () ∧ g' = .resting w.session ends true .erased) (deleteRecord w.id)
      (.resting w.session ends true .ended) := by
  refine .atomic fun b hs hc => ?_
  have hwatch : w.Holds b := hc.watched w rfl
  cases hstore : b.store with
  | none =>
    have herased : Erased w.id b.store := fun store hs => by rw [hstore] at hs; cases hs
    refine ⟨.resting w.session ends true .erased, .learn hc (fun j hj => ?_) ⟨nofun, fun _ => rfl⟩, rfl, rfl⟩
    exact ⟨hc.fits_self.knows j hj, Watch.forall_mem_some herased⟩
  | some store =>
    have husable : store ≠ .database none := fun h => hwatch.usable (by rw [hstore, h])
    obtain ⟨store', he, hcontains, husable'⟩ := Store.delete_ok husable w.id
    have herased : Erased w.id (some store') := fun _ hs => Option.some.inj hs ▸ hcontains
    have hlock : (Grip.resting w.session ends true .ended).Holds (.lifecycle w.session) := ⟨rfl, rfl⟩
    have hgone (hgone : w.Gone b) : w.Gone { b with store := some store' } := ⟨hgone.lost, hgone.unknown, herased⟩
    simp only [hwatch.willing, he]
    refine ⟨.resting w.session ends true .erased, .still hc ?_ rfl (fun j hj => ?_) ⟨nofun, fun _ => rfl⟩, trivial,
      rfl⟩
    · exact
        { sessions := rfl
          keepLost := rfl
          outside := rfl
          store := Watch.forall_mem_some fun hno => absurd hlock hno
          usable := Watch.forall_mem_some fun h => husable' (Option.some.inj h)
          known := Watch.forall_mem_some (hwatch.known.imp id hgone)
          gone := Watch.forall_mem_some hgone
          listeners := Broker.hasListener_of_eq rfl }
    · exact ⟨hc.fits_self.knows j hj, Watch.forall_mem_some herased⟩

/-- A watched session whose record is deleted is made unknown, and then it is gone. -/
theorem remove_runs_watched :
    Runs (some w) (fun _ g' => g' = .resting w.session ends true .forgotten) (remove w.id)
      (.resting w.session ends true .erased) := by
  refine .change fun b hs hc => ⟨_, ?_, rfl⟩
  have hknows := hc.fits_self.knows w.session rfl
  have hgone : w.Gone { b with registry := b.registry.erase w.id } :=
    ⟨hknows.1.1, Store.Table.find?_erase_self .., hknows.2 w rfl⟩
  refine .still hc ?_ rfl (fun j hj => ?_) ⟨nofun, nofun⟩
  · exact
      { sessions := rfl
        keepLost := rfl
        outside := rfl
        store := fun _ _ _ => rfl
        usable := Watch.forall_mem_some (hc.watched w rfl).usable
        known := Watch.forall_mem_some (.inr hgone)
        gone := Watch.forall_mem_some fun _ => hgone
        listeners := Broker.hasListener_of_eq rfl }
  · obtain rfl : w.session = j := Option.some.inj hj
    exact ⟨hknows.1, Watch.forall_mem_some hgone⟩

/-- A watched session that is over is made unknown: its record is deleted first, then its entry. -/
theorem unregister_runs_watched :
    Runs (some w) (fun _ g' => g' = .resting w.session ends true .forgotten) (unregister w.id)
      (.resting w.session ends true .ended) := by
  refine .bind (find_runs_watched w) ?_
  rintro _ _ (⟨rfl, rfl⟩ | ⟨rfl, rfl⟩)
  · exact .pure rfl
  · refine .bind (deleteRecord_runs_watched w) ?_
    rintro _ _ ⟨rfl, rfl⟩
    refine .bind (remove_runs_watched w) ?_
    rintro _ _ rfl
    exact .pure rfl

end

end Operation

end TunnelBroker
