/-
  TunnelBroker.Proofs.Race — who ends a session wins against all who open tunnels of it.

  Calls that open and close tunnels of one session and calls that end it are under way at the same time, and take
  their steps in any order. When all have returned, nothing is left of the session.

  - `Race`: what is assumed of the broker and of the turns.
  - `Vanished`: what the broker is like in the end.
  - `termination_wins`: every race ends so, and whoever came too late was told so.
-/

import TunnelBroker.Proofs.Absorption

namespace TunnelBroker

open TunnelBroker.Net (Port)

/-- The broker after some turns since its setup, where no call is under way. -/
def Broker.IsRested (b : Broker) : Prop :=
  ∃ setup turns, ((Service.boot setup).after turns).IsIdle ∧ ((Service.boot setup).after turns).broker = b

theorem Broker.IsRested.coherent {b : Broker} (h : b.IsRested) : Coherent none b [] := by
  obtain ⟨setup, turns, hidle, rfl⟩ := h
  exact ((Service.kept_boot setup).after turns fun turn _ => turn.fair_none).idle hidle

/-- The session is known under its id, lost sessions are not kept, the store refuses nothing, and all calls that
are made are for this session. -/
structure Race (b : Broker) (i : SessionRef) (turns : List Turn) : Prop where
  present : i < b.sessions.length
  known : b.registry.find? (b.session i).id = some i
  keepLost : b.keepLost = none
  usable : b.store ≠ some (.database none)
  willing : b.outside.refusal = fun _ => none
  outsides : ∀ o, .outside o ∈ turns → o.refusal = fun _ => none
  commands : ∀ r, .call r ∈ turns → ∃ c, r = .command c ∧ c.session? = some i

/-- What is left in `b'` of a session of `b`: an object that nobody knows, with tunnels that are not open. All leases
are those of other sessions. A port that was assigned to one of its tunnels can be among them only if that tunnel
had given its lease back before. -/
structure Vanished (b : Broker) (i : SessionRef) (b' : Broker) : Prop where
  unknown : b'.registry.find? (b.session i).id = none
  erased : Operation.Erased (b.session i).id b'.store
  lost : (b'.session i).connection = none ∧ (b'.session i).disconnectedAt.isSome
  cancelled : (b'.session i).cancelled
  closed : ∀ t ∈ (b'.session i).tunnels, (b'.session i).isOpen t = false ∧ t.halted ∧ t.holdsLease = false
  pending : (b'.session i).pending = []
  leased : b'.allocator.leased.Perm (b.otherPorts i)
  released : ∀ t ∈ (b'.session i).tunnels, t.autoAssigned → t.localPort ∈ b'.allocator.leased →
    ∃ t₀ ∈ (b.session i).tunnels, t₀.autoAssigned ∧ t₀.holdsLease = false ∧ t₀.localPort = t.localPort

namespace Race

variable {b b' : Broker} {i : SessionRef} {turns : List Turn}

theorem fair (h : Race b i turns) : ∀ turn ∈ turns, turn.Fair (some ⟨i, b⟩) := by
  intro turn hturn
  cases turn with
  | outside o => exact fun _ _ => h.outsides o hturn
  | call r =>
    intro w hw
    obtain rfl : ⟨i, b⟩ = w := Option.some.inj hw
    exact h.commands r hturn
  | _ => trivial

/-- When a race begins, its session can be watched. -/
theorem watched (h : Race b i turns) (hc : Coherent none b []) : Watch.Holds ⟨i, b⟩ b where
  id := rfl
  others := rfl
  keepLost := h.keepLost
  willing := h.willing
  usable := h.usable
  known := .inl h.known
  own := by
    intro t ht hauto
    cases hlease : t.holdsLease with
    | false => exact .inr ⟨t, ht, hauto, hlease, rfl⟩
    | true =>
      have hleased := hc.leased
      rw [List.flatMap_nil, List.append_nil] at hleased
      have hnodup : ((b.session i).leasedPorts ++ b.otherPorts i).Nodup :=
        (hleased.trans (Broker.heldPorts_perm h.present)).nodup hc.nodup
      have hown : t.localPort ∈ (b.session i).leasedPorts :=
        List.mem_filterMap.mpr ⟨t, ht, by simp [Tunnel.leasedPort?, hlease]⟩
      exact .inl fun hother => (List.nodup_append.mp hnodup).2.2 _ hown _ hother rfl

theorem kept (h : Race b i turns) (hb : b.IsRested) : (Service.ofBroker b).Kept (some ⟨i, b⟩) := by
  have hc := hb.coherent
  have hstart : Coherent (some ⟨i, b⟩) b [] :=
    { sound := hc.sound
      fits := fun _ hg => by cases hg
      apart := .nil
      idle := hc.idle
      leased := hc.leased
      nodup := hc.nodup
      watched := Watch.forall_mem_some (h.watched hc) }
  exact ⟨[], rfl, fun _ hp => (by cases hp), hstart⟩

/-- Where nothing is in anybody's hands any more and the session is gone, it has vanished. -/
theorem vanished (hc : Coherent (some ⟨i, b⟩) b' []) (hi : i < b'.sessions.length) (hgone : Watch.Gone ⟨i, b⟩ b')
    (hcancelled : (b'.session i).cancelled) : Vanished b i b' := by
  have hwatch : Watch.Holds ⟨i, b⟩ b' := hc.watched _ rfl
  have hretired := (hc.sound i).retired hgone.lost
  have hleased : b'.allocator.leased.Perm (b.otherPorts i) := by
    have hnone : (b'.session i).leasedPorts = [] := by
      refine List.filterMap_eq_nil_iff.mpr fun t ht => ?_
      rw [Tunnel.leasedPort?, (hretired t ht).2]; rfl
    have hheld := Broker.heldPorts_perm hi
    have hothers : b'.otherPorts i = b.otherPorts i := by
      rw [Broker.otherPorts, show b'.sessions.eraseIdx i = b.sessions.eraseIdx i from hwatch.others]; rfl
    rw [hnone, hothers, List.nil_append] at hheld
    have hall := hc.leased
    rw [List.flatMap_nil, List.append_nil] at hall
    exact hall.trans hheld
  exact
    { unknown := hgone.unknown
      erased := hgone.erased
      lost := ⟨(hc.sound i).unlinked hgone.lost, hgone.lost⟩
      cancelled := hcancelled
      closed := fun t ht => ⟨by rw [Session.isOpen, hcancelled, Bool.not_true, Bool.and_false], hretired t ht⟩
      pending := hc.idle i fun _ hg => by cases hg
      leased := hleased
      released := fun t ht hauto hport => by
        rcases hwatch.own t ht hauto with hother | hbare
        · exact absurd (hleased.mem_iff.mp hport) hother
        · exact hbare }

end Race

/-- A race on one session, in which somebody ends it: when all calls have returned, the session has vanished. Once it
is lost, whoever has not looked at it yet and wants it connected is told that it is not. -/
theorem termination_wins {b : Broker} {i : SessionRef} {turns : List Turn} (hb : b.IsRested) (hrace : Race b i turns)
    (hreturned : ((Service.ofBroker b).after turns).IsIdle)
    (hterminate : .call (.command (.terminate i)) ∈ turns) :
    Vanished b i ((Service.ofBroker b).after turns).broker ∧
    ∀ first last, turns = first ++ last →
      (((Service.ofBroker b).after first).broker.session i).disconnectedAt.isSome →
      ∀ k x, ((Service.ofBroker b).after first).HasNotBegun k →
        ((Service.ofBroker b).after turns).calls[k]? = some x → x.request.needs? = some i →
        x.result? = some (.error (.notConnected (b.session i).id)) := by
  have hstart := hrace.kept hb
  have hend := hstart.after turns hrace.fair
  constructor
  · obtain ⟨x, hx, hrequest⟩ := hstart.made hrace.fair hterminate (decide_eq_true hrace.present)
    obtain ⟨result, hr⟩ := Option.isSome_iff_exists.mp (hreturned x hx)
    have hended : x.request.HasEnded result := by rw [hrequest]; trivial
    obtain ⟨⟨-, hcancelled⟩, hgone⟩ := hend.returned hx hr hended (.inr (by rw [hrequest]; rfl))
    have hi : i < ((Service.ofBroker b).after turns).broker.sessions.length :=
      Nat.lt_of_lt_of_le hrace.present (hstart.length_le_after turns hrace.fair)
    exact Race.vanished (hend.idle hreturned) hi (hgone _ rfl) hcancelled
  · rintro first last rfl hlost k x hplace hx hneeds
    obtain ⟨hfair, hfair'⟩ := List.forall_mem_append.mp hrace.fair
    have hmiddle := hstart.after first hfair
    have hi : i < ((Service.ofBroker b).after first).broker.sessions.length :=
      Nat.lt_of_lt_of_le hrace.present (hstart.length_le_after first hfair)
    have hid : (((Service.ofBroker b).after first).broker.session i).id = (b.session i).id := by
      obtain ⟨_, _, _, hc⟩ := hmiddle
      exact (hc.watched _ rfl).id
    have hfresh : ((Service.ofBroker b).after first).Fresh := Service.Fresh.after (fun x hx => (by cases hx)) first
    rw [Service.after_append] at hx hreturned
    obtain ⟨result, hr⟩ := Option.isSome_iff_exists.mp (hreturned x (List.mem_of_getElem? hx))
    have hrefused := (hfresh.late i _).after hmiddle ⟨hi, hlost, hid⟩ hfair' k x hplace hx hneeds
    rw [hr, hrefused.result hr]

/-- A batch is under way when somebody ends the session: the end waits for it, and the next batch is refused. -/
theorem end_waits_for_batch :
    let forward : Forward := ⟨none, none, "web", 22⟩
    let before : List Turn := .arrival default ::
      .call (.command (.start "a" 0 { forwards := [forward] } none false)) :: .replicate 19 (.go 0) ++ [.outside {}]
    let opened : Request := .command (.openTunnels 0 [forward] {})
    let turns : List Turn := .call opened :: .call (.command (.terminate 0)) :: .call opened ::
      .replicate 8 (.go 0) ++ .replicate 2 (.go 1) ++ .replicate 12 (.go 0) ++ .replicate 14 (.go 1) ++
      .replicate 6 (.go 2)
    let b := ((Service.boot { pool := ⟨#[20000, 20001]⟩, store := some (.memory {}) }).after before).broker
    let h := (Service.ofBroker b).after turns
    (b.session 0).leasedPorts = [20000] ∧ Vanished b 0 h.broker ∧ h.calls.map Call.result? =
      [some (.ok ()), some (.ok ()), some (.error (.notConnected "a"))] := by
  intro forward before opened turns b h
  have hb : b.IsRested := by
    refine ⟨_, before, ?_, rfl⟩
    unfold Service.IsIdle
    decide +kernel
  have hresults : h.calls.map Call.result? = [some (.ok ()), some (.ok ()), some (.error (.notConnected "a"))] := by
    decide +kernel
  have hpresent : 0 < b.sessions.length := by decide +kernel
  have hknown : b.registry.find? (b.session 0).id = some 0 := by decide +kernel
  have hkeepLost : b.keepLost = none := by decide +kernel
  have husable : b.store ≠ some (.database none) := by decide +kernel
  have hrace : Race b 0 turns := by
    refine ⟨hpresent, hknown, hkeepLost, husable, rfl, fun o ho => ?_, fun r hr => ?_⟩
    · simp [turns] at ho
    · simp only [turns, List.mem_cons, List.mem_append, List.mem_replicate, Turn.call.injEq, reduceCtorEq, and_false,
        or_false] at hr
      rcases hr with rfl | rfl | rfl <;> exact ⟨_, rfl, rfl⟩
  have hreturned : h.IsIdle := by
    unfold Service.IsIdle
    decide +kernel
  have hterminate : .call (.command (.terminate 0)) ∈ turns := by simp [turns]
  exact ⟨by decide +kernel, (termination_wins hb hrace hreturned hterminate).1, hresults⟩

end TunnelBroker
