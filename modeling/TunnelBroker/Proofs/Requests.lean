/-
  TunnelBroker.Proofs.Requests — every request keeps to its grip, from its first step to its last.

  - `closeTunnel_runs`, `terminate_runs`, `startSession_runs`, …: one lemma for each operation on sessions.
  - `Request.runs`: a call that has returned holds no lock and no port. If it was to end its session, it knows
    that the session is over; while the session is watched, it knows that the session is gone.
-/

import TunnelBroker.Proofs.Discipline

namespace TunnelBroker

open TunnelBroker.Net (Port)
open TunnelBroker.Time (Duration Timestamp)

/-! ## What becomes of sessions -/

namespace Session

variable {s : Session}

theorem Sound.map_retire (h : s.Sound) (hlost : s.disconnectedAt.isSome) : s.tunnels.map Tunnel.retire = s.tunnels := by
  have hretire : ∀ t ∈ s.tunnels, t.retire = t := by
    intro t ht
    obtain ⟨hhalted, hlease⟩ := h.retired hlost t ht
    rw [Tunnel.retire, ← hhalted, ← hlease]
  exact (List.map_congr_left hretire).trans (List.map_id _)

theorem Sound.disconnect (h : s.Sound) (now : Timestamp) : (s.disconnect now).2.Sound := by
  rw [s.disconnect_eq h.unlinked]
  exact ⟨rfl, fun _ => s.retired_of_retire⟩

theorem Sound.disconnect_evolves (h : s.Sound) {g : Grip} (hends : g.ends) (hlifecycle : g.lifecycle)
    (htunnels : g.tunnels) {moment : Timestamp} (hmoment : moment ∈ g.moment) :
    s.Evolves g (s.disconnect moment).2 := by
  rw [s.disconnect_eq h.unlinked]
  exact
    { id := rfl
      lost := fun hlost => by
        obtain ⟨earlier, hd⟩ := Option.isSome_iff_exists.mp hlost
        exact ⟨by rw [hd]; rfl, (h.unlinked hlost).symm, h.map_retire hlost⟩
      ends := fun hd => .inr ⟨hends, moment, hmoment, by rw [hd]; rfl⟩
      cancelled := fun h => h
      connection := fun hno => absurd ⟨hlifecycle, htunnels⟩ hno
      pending := fun hno => absurd htunnels hno }

end Session

section

variable {W : Option Watch} {b : Broker} {g : Grip} {hs : List Grip} {i : SessionRef} {stage : Stage}

/-- What is said of the tunnels of a watched session goes for their retired forms. -/
theorem Coherent.own_retire (hc : Coherent W b (g :: hs)) (hi : g.session = some i) :
    ∀ w ∈ W, ∀ t ∈ (b.session i).tunnels.map Tunnel.retire, t.autoAssigned →
      t.localPort ∉ w.outset.otherPorts w.session ∨ w.Bare t.localPort := by
  intro w hw t ht
  obtain ⟨t₀, ht₀, rfl⟩ := List.mem_map.mp ht
  exact hc.own hi w hw t₀ ht₀

theorem Act.cancel (hc : Coherent W b (g :: hs)) (hi : g.session = some i)
    (hknows : stage.Holds W (b.setSession i (b.session i).cancel) i)
    (hguarded : (stage = .live → g.lifecycle ∨ g.tunnels) ∧ (stage = .erased → g.lifecycle)) :
    Act W b g (b.setSession i (b.session i).cancel) { g with stage } := by
  have hevolves : (b.session i).Evolves g (b.session i).cancel :=
    ⟨rfl, fun _ => ⟨rfl, rfl, rfl⟩, fun h => .inl h, fun _ => rfl, fun _ => rfl, fun _ => rfl⟩
  have hsound : (b.session i).cancel.Sound := ⟨(hc.sound i).linked, (hc.sound i).retired⟩
  exact .update hc hi hevolves hsound (fun ht => hc.fits_self.pending i hi ht) hknows hguarded (.refl _)
    hc.fits_self.covered (hc.own hi)

end

/-! ## Operations on sessions -/

namespace Operation

variable {W : Option Watch} {i : SessionRef} {ends lifecycle : Bool}

theorem openTunnels_runs (forwards : List Forward) (acl : Acl) :
    Runs W (fun _ g' => g' = .resting i ends false .unknown) (openTunnels i forwards acl)
      (.resting i ends false .unknown) := by
  refine .locked (p := fun _ g' => ∃ stage, g' = .resting i ends true stage ∧ (stage = .unknown ∨ stage = .live)) rfl
    ?_ ?_
  · refine .bind (startTunnels_runs true forwards acl) ?_
    rintro r _ ⟨stage, rfl, hstage, hlive⟩
    have hstage' : stage = .unknown ∨ stage = .live := hstage.imp id And.left
    cases r with
    | error e => exact .pure ⟨stage, rfl, hstage'⟩
    | ok tunnels =>
      obtain rfl : stage = .live := hlive tunnels rfl rfl
      refine .after (register_runs (.inl rfl) (.inr ⟨rfl, rfl⟩)) fun r => ?_
      cases r with
      | error e => exact .pure ⟨.live, rfl, .inr rfl⟩
      | ok _ => exact .pure ⟨.live, rfl, .inr rfl⟩
  · rintro _ _ ⟨stage, rfl, rfl | rfl⟩
    · exact ⟨⟨rfl, rfl⟩, rfl, rfl⟩
    · exact ⟨⟨rfl, rfl⟩, rfl, rfl⟩

/-- A tunnel is taken out of a live session; its lease is in the call's hands then. -/
theorem removeTunnel_runs (tunnel : String) :
    Runs W (fun r g' => g' = { Grip.resting i ends true .live with ports := (r.bind Tunnel.leasedPort?).toList })
      (Task.locked (.tunnels i) <| update i fun _ s =>
        match s.removeTunnel? tunnel with
        | none => (none, s)
        | some (t, s) => (some t, s))
      (.resting i ends true .live) := by
  refine .locked
    (p := fun r g' => g' = { Grip.filling i ends true [] [] with ports := (r.bind Tunnel.leasedPort?).toList })
    rfl (.atomic fun b hs hc => ⟨_, ?_, rfl⟩) ?_
  · have hpending : (b.session i).pending = [] := hc.fits_self.pending i rfl rfl
    have hlive := (hc.sound i).not_lost (hc.fits_self.knows i rfl)
    cases hr : (b.session i).removeTunnel? tunnel with
    | none =>
      simp only [hr, Broker.setSession_of_eq]
      exact .refl hc
    | some p =>
      obtain ⟨t, s⟩ := p
      simp only [hr]
      obtain ⟨k, hk, rfl⟩ := Session.removeTunnel?_some hr
      refine .amend hc rfl rfl ⟨rfl, rfl, rfl, rfl⟩ (fun hlost => ?_) hpending ?_ (assignedFrom_nil _)
        fun w hw t' ht' => ?_
      · rw [hlive] at hlost; cases hlost
      · show ((b.session i).leasedPorts ++ []).Perm _
        rw [List.append_nil]
        exact (Session.leasedPorts_eraseIdx hk).trans List.perm_append_comm
      · exact hc.own rfl w hw t' (List.mem_of_mem_eraseIdx ht')
  · rintro r _ rfl
    exact ⟨⟨rfl, rfl⟩, rfl, rfl⟩

theorem closeTunnel_runs (tunnel : String) :
    Runs W (fun _ g' => g' = .resting i ends false .unknown) (closeTunnel i tunnel)
      (.resting i ends false .unknown) := by
  refine .locked (p := fun _ g' => ∃ stage, g' = .resting i ends true stage ∧ (stage = .unknown ∨ stage = .live)) rfl
    ?_ ?_
  · refine .bind (p := fun r g' => (r.1 = false ∧ g' = .resting i ends true .unknown) ∨
      r.1 = true ∧ g' = .resting i ends true .live) (.read fun b hs hc => ?_) ?_
    · cases hactive : (b.session i).isActive with
      | false => exact ⟨_, .refl hc, .inl ⟨hactive, rfl⟩⟩
      | true =>
        have hlive : (b.session i).connection.isSome := (Bool.and_eq_true _ _ ▸ hactive : _ ∧ _).1
        refine ⟨.resting i ends true .live, .learn hc (fun j hj => ?_) ⟨fun _ => .inl rfl, nofun⟩, .inr ⟨hactive, rfl⟩⟩
        obtain rfl : i = j := Option.some.inj hj
        exact hlive
    rintro ⟨_ | _, id⟩ g' (⟨hfalse, rfl⟩ | ⟨htrue, rfl⟩)
    · exact .pure ⟨_, rfl, .inl rfl⟩
    · cases htrue
    · cases hfalse
    · refine .bind (removeTunnel_runs tunnel) ?_
      rintro (_ | t) _ rfl
      · exact .pure ⟨_, rfl, .inr rfl⟩
      · refine .bind (releasePorts_runs t.leasedPort?.toList (g := .resting i ends true .live) rfl) ?_
        rintro _ _ rfl
        refine .after (register_runs (.inl rfl) (.inr ⟨rfl, rfl⟩)) fun r => ?_
        exact .pure ⟨.live, rfl, .inr rfl⟩
  · rintro _ _ ⟨stage, rfl, rfl | rfl⟩
    · exact ⟨⟨rfl, rfl⟩, rfl, rfl⟩
    · exact ⟨⟨rfl, rfl⟩, rfl, rfl⟩

theorem cancel_runs {stage : Stage} (h : stage = .unknown) :
    Runs W (fun _ g' => g' = .resting i ends lifecycle stage) (cancel i) (.resting i ends lifecycle stage) :=
  .atomic fun b hs hc => ⟨_, .cancel hc rfl (by rw [h]; trivial) (by rw [h]; exact ⟨nofun, nofun⟩), rfl⟩

/-- A session is lost, and all that its tunnels held is in the hands of the call that ends it. -/
theorem disconnect_runs (moment : Timestamp) :
    Runs W (fun ports g' => g' = { Grip.resting i true true .lost with ports })
      (Task.locked (.tunnels i) (update i fun _ s => s.disconnect moment)) (.timing i moment) := by
  refine .locked (p := fun ports g' => g' = { Grip.resting i true true .lost with tunnels := true, ports }) rfl
    (.atomic fun b hs hc => ⟨_, ?_, rfl⟩) ?_
  · have hsound := hc.sound i
    have hself := Broker.session_setSession_self (b := b) (s := ((b.session i).disconnect moment).2)
      (hc.fits_self.present i rfl)
    have hlost : Act W b ((Grip.timing i moment).take (.tunnels i)) (b.setSession i ((b.session i).disconnect moment).2)
        { Grip.timing i moment with stage := .lost, tunnels := true, ports := ((b.session i).disconnect moment).1 } := by
      refine .update hc rfl (hsound.disconnect_evolves rfl rfl rfl rfl) (hsound.disconnect _) (fun _ => ?_) ?_
        ⟨nofun, nofun⟩ ?_ (assignedFrom_nil _) ?_
      · rw [Session.disconnect_eq _ hsound.unlinked]
        exact hc.fits_self.pending i rfl rfl
      · show (Broker.session _ i).disconnectedAt.isSome
        rw [hself, Session.disconnect_eq _ hsound.unlinked]; rfl
      · have hnone : ((b.session i).disconnect moment).2.leasedPorts = [] := Session.leasedPorts_haltTunnels _
        rw [hnone, Session.disconnect_ports]
        show ((b.session i).leasedPorts ++ []).Perm _
        rw [List.append_nil]
        exact .refl _
      · rw [Session.disconnect_eq _ hsound.unlinked]
        exact hc.own_retire rfl
    exact hlost.withMoment fun m hm => absurd hm (Option.not_mem_none m)
  · rintro ports _ rfl
    exact ⟨⟨rfl, rfl⟩, rfl, rfl⟩

/-- Who has ended a session knows that it is over; if it is watched, that it is gone. -/
theorem terminate_runs :
    Runs W (fun _ g' => ∃ stage, g' = .resting i true false stage ∧ (stage = .ended ∨ stage = .forgotten) ∧
      (W.isSome → stage = .forgotten)) (terminate i) (.resting i true false .unknown) := by
  refine .locked (p := fun _ g' => ∃ stage, g' = .resting i true true stage ∧ (stage = .ended ∨ stage = .forgotten) ∧
    (W.isSome → stage = .forgotten)) rfl ?_ ?_
  · refine .bind (p := fun moment g' => g' = .timing i moment)
      (.read fun b hs hc => ⟨_, (Act.refl hc).withMoment fun m hm => ?_, rfl⟩) ?_
    · exact .inr ⟨(Option.some.inj hm).symm, i, ⟨rfl, rfl⟩, fun h => Bool.false_ne_true h.1⟩
    rintro moment _ rfl
    refine .bind (disconnect_runs moment) ?_
    rintro ports _ rfl
    refine .bind (releasePorts_runs ports (g := .resting i true true .lost) rfl) ?_
    rintro _ _ rfl
    refine .bind (p := fun _ g' => g' = .resting i true true .ended) (.atomic fun b hs hc => ⟨_, ?_, rfl⟩) ?_
    · have hself := Broker.session_setSession_self (b := b) (s := (b.session i).cancel) (hc.fits_self.present i rfl)
      refine .cancel hc rfl ?_ ⟨nofun, nofun⟩
      show (Broker.session _ i).disconnectedAt.isSome ∧ (Broker.session _ i).cancelled
      rw [hself]
      exact ⟨hc.fits_self.knows i rfl, rfl⟩
    rintro _ _ rfl
    refine .bind (p := fun keep g' => g' = .resting i true true .ended ∧ (W.isSome → keep = none))
      (.read fun b hs hc => ⟨_, .refl hc, rfl, fun hw => ?_⟩) ?_
    · obtain ⟨w, rfl⟩ := Option.isSome_iff_exists.mp hw
      exact (hc.watched w rfl).keepLost
    rintro (_ | keep) _ ⟨rfl, hkeep⟩
    · refine .bind (p := fun id g' => g' = .resting i true true .ended ∧ ∀ w ∈ W, w.session = i ∧ id = w.id)
        (.read fun b hs hc => ⟨_, .refl hc, rfl, fun w hw => ?_⟩) ?_
      · obtain rfl : i = w.session := Option.some.inj (hc.fits_self.watched w hw)
        exact ⟨rfl, (hc.watched w hw).id⟩
      rintro id _ ⟨rfl, hid⟩
      cases W with
      | none => exact .after (unregister_runs id _) fun _ => .pure ⟨_, rfl, .inl rfl, nofun⟩
      | some w =>
        obtain ⟨rfl, rfl⟩ := hid w rfl
        refine .bind (unregister_runs_watched w) ?_
        rintro _ _ rfl
        exact .pure ⟨_, rfl, .inr rfl, fun _ => rfl⟩
    · have hnone : W = none := by
        cases W with
        | none => rfl
        | some w => cases hkeep rfl
      subst hnone
      exact .after (register_runs (.inl rfl) (.inl rfl)) fun _ => .pure ⟨_, rfl, .inl rfl, nofun⟩
  · rintro _ _ ⟨stage, rfl, hstage, hw⟩
    refine ⟨⟨rfl, rfl⟩, rfl, stage, ?_, hstage, hw⟩
    rcases hstage with rfl | rfl <;> rfl

theorem haltTunnels_runs :
    Runs W (fun _ g' => g' = .resting i ends false .unknown) (haltTunnels i) (.resting i ends false .unknown) := by
  refine .bind (p := fun ports g' => g' = { Grip.resting i ends false .unknown with ports }) ?_ ?_
  · refine .locked (p := fun ports g' => g' = { Grip.resting i ends false .unknown with tunnels := true, ports }) rfl
      (.atomic fun b hs hc => ⟨_, ?_, rfl⟩) ?_
    · refine .amend hc rfl rfl ⟨rfl, rfl, rfl, rfl⟩ (fun hlost => (hc.sound i).map_retire hlost)
        (hc.fits_self.pending i rfl rfl) ?_ (assignedFrom_nil _) (hc.own_retire rfl)
      show ((b.session i).leasedPorts ++ []).Perm ((b.session i).haltTunnels.2.leasedPorts ++ _)
      rw [Session.leasedPorts_haltTunnels, List.append_nil]
      exact .refl _
    · rintro ports _ rfl
      exact ⟨⟨rfl, rfl⟩, rfl, rfl⟩
  · rintro ports _ rfl
    exact releasePorts_runs ports (g := .resting i ends false .unknown) rfl

/-- A call that starts a session goes on as one that is for it. -/
theorem startSession_runs (id : String) (connection : ConnectionRef) (request : ConnectionRequest) (user : Option User)
    (cancelled : Bool) :
    Runs none (fun r g' => ∃ i, g' = .resting i ends false .unknown ∧ ∀ j, r = .ok j → j = i)
      (startSession id connection request user cancelled) { ends } := by
  refine .bind (p := fun i g' => g' = .resting i ends false .unknown) (.atomic fun b hs hc => ⟨_, ?_, rfl⟩) ?_
  · exact .addSession hc rfl rfl rfl rfl ⟨rfl, nofun⟩ rfl rfl
  rintro i _ rfl
  refine .bind (startTunnels_runs false request.forwards {}) ?_
  rintro r _ ⟨stage, rfl, hstage, -⟩
  obtain rfl : stage = .unknown := hstage.resolve_right fun h => Bool.false_ne_true h.2
  cases r with
  | error e => exact .pure ⟨i, rfl, nofun⟩
  | ok _ =>
    refine .after (register_runs (.inr rfl) (.inl rfl)) fun r => ?_
    cases r with
    | ok _ => exact .pure ⟨i, rfl, fun j hj => (Except.ok.inj hj).symm⟩
    | error e => exact .after haltTunnels_runs fun _ => .pure ⟨i, rfl, nofun⟩

theorem forget_runs (id : String) (g : Grip) : Runs none (fun _ g' => g' = g) (forget id) g := by
  refine .after (.look _ g) fun r => ?_
  cases r with
  | error e => exact .pure rfl
  | ok i =>
    refine .after (.look _ g) fun active => ?_
    cases active with
    | true => exact .pure rfl
    | false => exact .after (unregister_runs id g) fun _ => .pure rfl

theorem unregisterAll_runs (ids : List String) (g : Grip) : Runs none (fun _ g' => g' = g) (unregisterAll ids) g := by
  induction ids with
  | nil => exact .pure rfl
  | cons id rest ih =>
    refine .after (unregister_runs id g) fun r => ?_
    rcases r with (_ | _) | _
    · exact ih
    · exact .pure rfl
    · exact .after ih fun _ => .pure rfl

theorem deleteObsolete_runs (g : Grip) : Runs none (fun _ g' => g' = g) deleteObsolete g := by
  refine .after (.look _ g) fun keep => ?_
  cases keep with
  | none => exact .pure rfl
  | some keep =>
    have hdelete : Runs none (fun _ g' => g' = g) (deleteLostFor keep) g := by
      refine .after (.look _ g) fun now => ?_
      split
      · exact .pure rfl
      · exact .after (.look _ g) fun ids => unregisterAll_runs ids g
    exact .after hdelete fun _ => .pure rfl

/-- A handler that returns without an error has ended the session that it started. -/
theorem handle_runs (id : String) (connection : ConnectionRef) (request : ConnectionRequest) (user : Option User)
    (cancelled : Bool) :
    Runs none (fun r g' => ∃ i stage, g' = .resting i true false stage ∧
      (r = .ok () → stage = .ended ∨ stage = .forgotten))
      (handle id connection request user cancelled) { ends := true } := by
  have hclose (g : Grip) (reason : String) : Runs none (fun _ g' => g' = g) (closeConnection connection reason) g :=
    .change fun b hs hc => ⟨g, .aside hc rfl rfl ⟨rfl, rfl, rfl, rfl⟩ (Broker.hasListener_of_eq rfl), rfl⟩
  refine .bind (startSession_runs id connection request user cancelled) ?_
  rintro r _ ⟨i, rfl, hi⟩
  cases r with
  | error e => exact .after (hclose _ _) fun _ => .pure ⟨i, _, rfl, nofun⟩
  | ok j =>
    obtain rfl : j = i := hi j rfl
    refine .after (.waitFor rfl) fun _ => .after (.look _ _) fun closed => ?_
    have hlast : Runs none (fun (r : Except SessionError Unit) g' => ∃ i stage, g' = .resting i true false stage ∧
        (r = .ok () → stage = .ended ∨ stage = .forgotten))
        (terminate j >>= fun _ => pure (.ok ())) (.resting j true false .unknown) := by
      refine .bind terminate_runs ?_
      rintro _ _ ⟨stage, rfl, hstage, -⟩
      exact .pure ⟨j, stage, rfl, fun _ => hstage⟩
    cases closed with
    | true => exact hlast
    | false => exact .after (hclose _ _) fun _ => hlast

end Operation

/-! ## Requests -/

namespace Request

/-- With this result, the call has ended its session. -/
def HasEnded (r : Request) (result : Except SessionError Unit) : Prop :=
  match r with
  | command (.terminate _) => True
  | command _ => False
  | handle .. => result = .ok ()

theorem hasEnded_of_isEnding {r : Request} (h : r.isEnding) : r.HasEnded (.ok ()) := by
  cases r with
  | command c =>
    cases c with
    | terminate i => trivial
    | _ => cases h
  | handle id connection request user cancelled => rfl

/-- What a call has in its hands when it has returned: nothing. -/
structure Returned (W : Option Watch) (r : Request) (result : Except SessionError Unit) (g : Grip) : Prop where
  free : g.Free
  ended : r.HasEnded result → (g.stage = .ended ∨ g.stage = .forgotten) ∧ (W.isSome → g.stage = .forgotten)

/-- The grip of a call that has just been made. -/
def grip (r : Request) : Grip := { session := r.session?, ends := r.isEnding }

variable {W : Option Watch}

theorem returned_resting {r : Request} {result : Except SessionError Unit} {i : SessionRef} {ends : Bool}
    (h : ¬r.HasEnded result) : r.Returned W result (.resting i ends false .unknown) :=
  ⟨⟨rfl, rfl, rfl⟩, fun hend => absurd hend h⟩

/-- Every call keeps to its grip and returns with empty hands. While a session is watched, only commands for it
are given. -/
theorem runs (r : Request) (hW : ∀ w ∈ W, ∃ c, r = .command c ∧ c.session? = some w.session) :
    Runs W (r.Returned W) r.operation r.grip := by
  have hunwatched (h : ∀ c i, r = .command c → c.session? ≠ some i) : W = none := by
    cases W with
    | none => rfl
    | some w =>
      obtain ⟨c, hc, hw⟩ := hW w rfl
      exact absurd hw (h c w.session hc)
  cases r with
  | command c =>
    cases c with
    | start name connection request user cancelled =>
      obtain rfl := hunwatched fun c i hc => by cases hc; exact nofun
      refine .bind (Operation.startSession_runs name connection request user cancelled) ?_
      rintro _ _ ⟨i, rfl, -⟩
      exact .pure (returned_resting id)
    | startTunnels i forwards acl =>
      refine .bind (Operation.startTunnels_runs false forwards acl) ?_
      rintro _ _ ⟨stage, rfl, hstage, -⟩
      obtain rfl : stage = .unknown := hstage.resolve_right fun h => Bool.false_ne_true h.2
      exact .pure (returned_resting id)
    | openTunnels i forwards acl =>
      exact .after (Operation.openTunnels_runs forwards acl) fun _ => .pure (returned_resting id)
    | closeTunnel i tunnel =>
      refine (Operation.closeTunnel_runs tunnel).mono ?_
      rintro _ _ rfl
      exact returned_resting id
    | terminate i =>
      refine Operation.terminate_runs.mono ?_
      rintro _ _ ⟨stage, rfl, hstage, hforgotten⟩
      exact ⟨⟨rfl, rfl, rfl⟩, fun _ => ⟨hstage, hforgotten⟩⟩
    | cancel i => exact .after (Operation.cancel_runs rfl) fun _ => .pure (returned_resting id)
    | forget name =>
      obtain rfl := hunwatched fun c i hc => by cases hc; exact nofun
      refine (Operation.forget_runs name _).mono ?_
      rintro _ _ rfl
      exact ⟨⟨rfl, rfl, rfl⟩, nofun⟩
    | deleteObsolete =>
      obtain rfl := hunwatched fun c i hc => by cases hc; exact nofun
      exact .after (Operation.deleteObsolete_runs _) fun _ => .pure ⟨⟨rfl, rfl, rfl⟩, nofun⟩
  | handle name connection request user cancelled =>
    obtain rfl := hunwatched nofun
    refine (Operation.handle_runs name connection request user cancelled).mono ?_
    rintro result _ ⟨i, stage, rfl, hstage⟩
    exact ⟨⟨rfl, rfl, rfl⟩, fun hend => ⟨hstage hend, nofun⟩⟩

end Request

end TunnelBroker
