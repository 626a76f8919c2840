/-
  TunnelBroker.Proofs.Absorption — a session that is lost stays lost.

  A session has a connection or a moment at which it was lost, never both. It is lost by the step of a call
  that ends it; from then on nothing but its context changes, whatever calls are under way and whatever fails,
  and whoever wants to open or close a tunnel of it is told that it is not connected.

  - `Refuses`: an operation that changes nothing while a session has no connection.
  - `Service.Kept.rests`: what is left of a lost session does not change.
  - `lost_is_absorbing`: all of this, for every setup and all turns.
-/

import TunnelBroker.Proofs.Clock

namespace TunnelBroker

open TunnelBroker.Time (Timestamp)

/-! ## Operations that need a connection -/

/-- While the session has no connection, no step of the operation changes anything, and it ends with `post`. -/
def Refuses (i : SessionRef) (id : String) {α : Type} (post : α → Prop) : Operation α → Prop
  | .done a => post a
  | .act change next => ∀ b, (b.session i).connection = none → (b.session i).id = id →
      change b = b ∧ Refuses i id post (next b)
  | .await _ next | .acquire _ next | .release _ next => Refuses i id post next

namespace Refuses

variable {i : SessionRef} {id : String} {α β : Type} {p post : α → Prop} {post' : β → Prop} {t : Operation α}
  {f : α → Operation β} {b : Broker}

theorem pure {a : α} (h : post a) : Refuses i id post (Pure.pure a) := h

theorem bind (h : Refuses i id p t) (hf : ∀ a, p a → Refuses i id post' (f a)) : Refuses i id post' (t >>= f) := by
  show Refuses i id post' (t.bind f)
  induction t with
  | done a => exact hf a h
  | act change next ih => exact fun b hnone hid => ⟨(h b hnone hid).1, ih b (h b hnone hid).2⟩
  | await ready next ih => exact ih h
  | acquire lock next ih => exact ih h
  | release lock next ih => exact ih h

theorem locked {lock : Lock} (h : Refuses i id post t) : Refuses i id post (Task.locked lock t) :=
  show Refuses i id post (t.bind fun a => .release lock (.done a)) from h.bind fun _ ha => ha

theorem look {f : Session → α} (h : ∀ s, s.connection = none → s.id = id → post (f s)) :
    Refuses i id post (Operation.look i f) := fun b hnone hid => ⟨rfl, h (b.session i) hnone hid⟩

/-- The operation alone. -/
theorem run (h : Refuses i id post t) (hnone : (b.session i).connection = none) (hid : (b.session i).id = id) :
    post (t.run b).1 ∧ (t.run b).2 = b := by
  induction t with
  | done a => exact ⟨h, rfl⟩
  | act change next ih =>
    obtain ⟨hsame, hnext⟩ := h b hnone hid
    show post ((next b).run (change b)).1 ∧ ((next b).run (change b)).2 = b
    rw [hsame]; exact ih b hnext
  | await ready next ih => exact ih h
  | acquire lock next ih => exact ih h
  | release lock next ih => exact ih h

end Refuses

namespace Operation

variable {i : SessionRef} {id : String}

theorem startTunnels_refuses (forwards : List Forward) (acl : Acl) :
    Refuses i id (· = .error (.notConnected id)) (startTunnels i forwards acl) := by
  refine .bind (p := (· = .error (.notConnected id, []))) (.locked ?_) ?_
  · refine .bind (p := (· = (none, id))) (.look fun s hnone hid => by rw [hnone, hid]) ?_
    rintro _ rfl
    exact .pure rfl
  · rintro _ rfl
    exact .pure rfl

theorem openTunnels_refuses (forwards : List Forward) (acl : Acl) :
    Refuses i id (· = .error (.notConnected id)) (openTunnels i forwards acl) := by
  refine .locked (.bind (startTunnels_refuses forwards acl) ?_)
  rintro _ rfl
  exact .pure rfl

theorem closeTunnel_refuses (tunnel : String) :
    Refuses i id (· = .error (.notConnected id)) (closeTunnel i tunnel) := by
  refine .locked (.bind (p := (· = (false, id))) (.look fun s hnone hid => ?_) ?_)
  · rw [Session.isActive, hnone, hid]; rfl
  · rintro _ rfl
    exact .pure rfl

end Operation

namespace Request

/-- The session that has to be connected for the request. -/
def needs? : Request → Option SessionRef
  | command (.startTunnels i ..) | command (.openTunnels i ..) | command (.closeTunnel i _) => some i
  | _ => none

theorem refuses {r : Request} {i : SessionRef} (h : r.needs? = some i) (id : String) :
    Refuses i id (· = .error (.notConnected id)) r.operation := by
  cases r with
  | command c =>
    cases c with
    | startTunnels k forwards acl =>
      obtain rfl : k = i := Option.some.inj h
      refine .bind (Operation.startTunnels_refuses forwards acl) ?_
      rintro _ rfl
      exact .pure rfl
    | openTunnels k forwards acl =>
      obtain rfl : k = i := Option.some.inj h
      refine .bind (Operation.openTunnels_refuses forwards acl) ?_
      rintro _ rfl
      exact .pure rfl
    | closeTunnel k tunnel =>
      obtain rfl : k = i := Option.some.inj h
      exact Operation.closeTunnel_refuses tunnel
    | _ => cases h
  | handle => cases h

end Request

/-! ## Calls that come too late -/

/-- What is left of the call is a refusal, as long as the session has no connection. -/
def Call.Refused (i : SessionRef) (id : String) (x : Call) : Prop := Refuses i id (· = .error (.notConnected id)) x.rest

namespace Call

variable {i : SessionRef} {id : String} {x : Call} {b : Broker} {isHeld : Lock → Bool}

/-- A step of a call that would be refused changes nothing; it is still to be refused if it has not looked at the
broker, or has found the session without a connection. -/
theorem Refused.step (h : x.Refused i id)
    (hstep : (x.step isHeld b).1.begun = false ∨ (b.session i).connection = none ∧ (b.session i).id = id) :
    (x.step isHeld b).2 = b ∧ (x.step isHeld b).1.Refused i id := by
  unfold Refused at h ⊢
  rcases x.step_cases isHeld b with he | ⟨change, next, hrest, he⟩ | ⟨ready, next, hrest, he⟩ |
    ⟨lock, next, hrest, -, he⟩ | ⟨lock, next, hrest, he⟩
  · rw [he]; exact ⟨rfl, h⟩
  · rw [hrest] at h
    rw [he] at hstep ⊢
    obtain ⟨hnone, hid⟩ := hstep.resolve_left nofun
    exact h b hnone hid
  · rw [hrest] at h; rw [he]; exact ⟨rfl, h⟩
  · rw [hrest] at h; rw [he]; exact ⟨rfl, h⟩
  · rw [hrest] at h; rw [he]; exact ⟨rfl, h⟩

theorem Refused.result (h : x.Refused i id) {result : Except SessionError Unit} (hr : x.result? = some result) :
    result = .error (.notConnected id) := by
  unfold Refused at h
  rw [rest_of_result hr] at h
  exact h

end Call

/-! ## Lost sessions -/

/-- The session is as it was, but for its context. -/
structure Session.Rests (s s' : Session) : Prop where
  id : s'.id = s.id
  disconnectedAt : s'.disconnectedAt = s.disconnectedAt
  connection : s'.connection = s.connection
  tunnels : s'.tunnels = s.tunnels
  cancelled : s.cancelled → s'.cancelled

namespace Session

variable {s s' s'' : Session}

theorem Rests.refl (s : Session) : s.Rests s := ⟨rfl, rfl, rfl, rfl, fun h => h⟩

theorem Rests.trans (h : s.Rests s') (h' : s'.Rests s'') : s.Rests s'' :=
  ⟨h'.id.trans h.id, h'.disconnectedAt.trans h.disconnectedAt, h'.connection.trans h.connection,
    h'.tunnels.trans h.tunnels, fun hc => h'.cancelled (h.cancelled hc)⟩

theorem Evolves.rests {g : Grip} (h : s.Evolves g s') (hlost : s.disconnectedAt.isSome) :
    s.Rests s' :=
  ⟨h.id, (h.lost hlost).1, (h.lost hlost).2.1, (h.lost hlost).2.2, h.cancelled⟩

end Session

namespace Service

variable {W : Option Watch} {h : Service} {turns : List Turn} {i : SessionRef} {id : String}

theorem Kept.sound (hk : h.Kept W) (i : SessionRef) : (h.broker.session i).Sound := by
  obtain ⟨_, _, _, hc⟩ := hk
  exact hc.sound i

/-- The session is there, under its id, and lost. -/
structure Lost (i : SessionRef) (id : String) (h : Service) : Prop where
  present : i < h.broker.sessions.length
  lost : (h.broker.session i).disconnectedAt.isSome
  id : (h.broker.session i).id = id

theorem Kept.rests_step (hk : h.Kept W) (hlost : h.Lost i id) (turn : Turn) :
    (h.broker.session i).Rests ((h.step turn).broker.session i) := by
  obtain ⟨xs, hg⟩ := kept_iff.mp hk
  obtain ⟨g, hevolves, -⟩ := hg.evolves turn hlost.present
  exact hevolves.rests hlost.lost

theorem Lost.step (hlost : h.Lost i id) (hk : h.Kept W) (turn : Turn) : (h.step turn).Lost i id := by
  have hrests := hk.rests_step hlost turn
  refine ⟨Nat.lt_of_lt_of_le hlost.present (hk.length_le_step turn), ?_, hrests.id.trans hlost.id⟩
  rw [hrests.disconnectedAt]; exact hlost.lost

/-- A session that is lost rests, whatever turns come. -/
theorem Kept.rests (hk : h.Kept W) (hlost : h.Lost i id) (hfair : ∀ turn ∈ turns, turn.Fair W) :
    (h.broker.session i).Rests ((h.after turns).broker.session i) := by
  induction turns generalizing h with
  | nil => exact .refl _
  | cons turn rest ih =>
    obtain ⟨hturn, hrest⟩ := List.forall_mem_cons.mp hfair
    exact (hk.rests_step hlost turn).trans (ih (hk.step hturn) (hlost.step hk turn) hrest)

/-- The calls that need the session connected and have not looked at the broker yet would be refused. -/
def Fresh (h : Service) : Prop := ∀ x ∈ h.calls, x.begun = false → ∀ i id, x.request.needs? = some i → x.Refused i id

theorem Fresh.step (hf : h.Fresh) (turn : Turn) : (h.step turn).Fresh := by
  intro x' hx' hbegun i id hneeds
  obtain ⟨k, hget⟩ := List.mem_iff_getElem?.mp hx'
  rcases step_calls hget with hsame | ⟨r, -, rfl⟩ | ⟨x, hx, rfl⟩
  · exact hf x' (List.mem_of_getElem? hsame) hbegun i id hneeds
  · exact Request.refuses hneeds id
  · rw [Call.request_step] at hneeds
    exact ((hf x (List.mem_of_getElem? hx) (Call.begun_of_step hbegun) i id hneeds).step (.inl hbegun)).2

theorem Fresh.after (hf : h.Fresh) (turns : List Turn) : (h.after turns).Fresh := by
  induction turns generalizing h with
  | nil => exact hf
  | cons turn rest ih => exact ih (hf.step turn)

/-- The calls at some places that need the session connected would be refused. -/
def Late (places : Nat → Prop) (i : SessionRef) (id : String) (h : Service) : Prop :=
  ∀ k x, places k → h.calls[k]? = some x → x.request.needs? = some i → x.Refused i id

variable {places : Nat → Prop}

theorem Fresh.late (hf : h.Fresh) (i : SessionRef) (id : String) : h.Late h.HasNotBegun i id := by
  intro k x hplace hx hneeds
  exact hf x (List.mem_of_getElem? hx) (hplace x hx) i id hneeds

theorem Late.step (hl : h.Late places i id) (hk : h.Kept W) (hlost : h.Lost i id) (turn : Turn) :
    (h.step turn).Late places i id := by
  intro k x' hplace hget hneeds
  have hnone := (hk.sound i).unlinked hlost.lost
  rcases step_calls hget with hsame | ⟨r, -, rfl⟩ | ⟨x, hx, rfl⟩
  · exact hl k x' hplace hsame hneeds
  · exact Request.refuses hneeds id
  · rw [Call.request_step] at hneeds
    exact ((hl k x hplace hx hneeds).step (.inr ⟨hnone, hlost.id⟩)).2

/-- Once a session is lost, calls that would be refused are refused, whatever turns come. -/
theorem Late.after (hl : h.Late places i id) (hk : h.Kept W) (hlost : h.Lost i id)
    (hfair : ∀ turn ∈ turns, turn.Fair W) : (h.after turns).Late places i id := by
  induction turns generalizing h with
  | nil => exact hl
  | cons turn rest ih =>
    obtain ⟨hturn, hrest⟩ := List.forall_mem_cons.mp hfair
    exact ih (hl.step hk hlost turn) (hk.step hturn) (hlost.step hk turn) hrest

/-! ## What a lost session is -/

/-- What holds of a session in the state `h'` that was lost in `h` before. -/
structure StaysLost (i : SessionRef) (h h' : Service) : Prop where
  disconnectedAt : (h'.broker.session i).disconnectedAt = (h.broker.session i).disconnectedAt
  connection : (h'.broker.session i).connection = none
  tunnels : (h'.broker.session i).tunnels = (h.broker.session i).tunnels
  retired : ∀ t ∈ (h'.broker.session i).tunnels, t.halted ∧ t.holdsLease = false
  cancelled : (h.broker.session i).cancelled → (h'.broker.session i).cancelled
  /-- An operation that needs the session connected says that it is not, and changes nothing. -/
  refuses : ∀ r : Request, r.needs? = some i →
    r.operation.run h'.broker = (.error (.notConnected (h.broker.session i).id), h'.broker)
  /-- So does a call of such an operation, step by step among others, if it had not begun in `h`. -/
  late : ∀ k x, h.HasNotBegun k → h'.calls[k]? = some x → x.request.needs? = some i →
    (h'.step (.go k)).broker = h'.broker ∧
      ∀ result, x.result? = some result → result = .error (.notConnected (h.broker.session i).id)

theorem Kept.staysLost (hk : h.Kept W) (hfresh : h.Fresh) (hlost : h.Lost i (h.broker.session i).id)
    (hfair : ∀ turn ∈ turns, turn.Fair W) : StaysLost i h (h.after turns) := by
  have hrests : (h.broker.session i).Rests ((h.after turns).broker.session i) := hk.rests hlost hfair
  have hnone : ((h.after turns).broker.session i).connection = none :=
    hrests.connection.trans ((hk.sound i).unlinked hlost.lost)
  exact
    { disconnectedAt := hrests.disconnectedAt
      connection := hnone
      tunnels := hrests.tunnels
      retired := fun t ht => by
        rw [hrests.tunnels] at ht
        exact (hk.sound i).retired hlost.lost t ht
      cancelled := hrests.cancelled
      refuses := fun r hneeds => by
        obtain ⟨hresult, hsame⟩ := (Request.refuses hneeds _).run hnone hrests.id
        exact Prod.ext hresult hsame
      late := fun k x hplace hx hneeds => by
        have hrefused := (hfresh.late i _).after hk hlost hfair k x hplace hx hneeds
        refine ⟨?_, fun result => hrefused.result⟩
        rw [step_go hx]
        exact (hrefused.step (.inr ⟨hnone, hrests.id⟩)).1 }

end Service

/-- From the setup of a broker on, whatever turns there were, with any failures: a session has a connection or
a moment at which it was lost. Only the step of a call that is to end it makes it lost, and the moment is the one that
this call has read, before it waited for the session's tunnels; when the call has returned, with an error or not, the
session is cancelled too. A session that is lost stays lost. -/
theorem lost_is_absorbing (setup : Setup) (before after : List Turn) (i : SessionRef) :
    let h := (Service.boot setup).after before
    ((h.broker.session i).connection.isSome ↔ (h.broker.session i).disconnectedAt = none) ∧
    (∀ turn, (h.broker.session i).disconnectedAt = none →
      ((h.step turn).broker.session i).disconnectedAt = none ∨
        ∃ k x moment, turn = .go k ∧ h.calls[k]? = some x ∧ x.request.isEnding ∧ x.session? = some i ∧
          (Service.boot setup).HasRead before k i moment ∧
          ((h.step turn).broker.session i).disconnectedAt = some moment) ∧
    (∀ x ∈ h.calls, x.request = .command (.terminate i) → x.result?.isSome →
      (h.broker.session i).disconnectedAt.isSome ∧ (h.broker.session i).cancelled) ∧
    (∀ x ∈ h.calls, x.request.isEnding → x.session? = some i → x.result? = some (.ok ()) →
      (h.broker.session i).disconnectedAt.isSome ∧ (h.broker.session i).cancelled) ∧
    (i < h.broker.sessions.length → (h.broker.session i).disconnectedAt.isSome →
      h.StaysLost i (h.after after)) := by
  have hfair (turns : List Turn) : ∀ turn ∈ turns, turn.Fair none := fun turn _ => turn.fair_none
  have hfresh : ((Service.boot setup).after before).Fresh := Service.Fresh.after (fun x hx => (by cases hx)) before
  have hk := (Service.kept_boot setup).after before (hfair before)
  intro h
  refine ⟨?_, ?_, ?_, ?_, ?_⟩
  · rw [(hk.sound i).linked, Option.isNone_iff_eq_none]
  · intro turn hnone
    exact Service.lost_at setup before turn hnone
  · intro x hx hterminate hreturned
    obtain ⟨result, hr⟩ := Option.isSome_iff_exists.mp hreturned
    have hended : x.request.HasEnded result := by rw [hterminate]; trivial
    exact (hk.returned hx hr hended (.inr (by rw [hterminate]; rfl))).1
  · intro x hx hends hi hok
    exact (hk.returned hx hok (Request.hasEnded_of_isEnding hends) (.inl hi)).1
  · intro hi hlost
    exact hk.staysLost hfresh ⟨hi, hlost, rfl⟩ (hfair after)

/-- A batch is under way when a session is ended, and the clock goes on while the end waits for the batch. The session
is lost when the batch is done, as of the time before. -/
theorem lost_as_of_time_read :
    let forward : Forward := ⟨none, none, "web", 22⟩
    let setup : Setup := { pool := ⟨#[20000, 20001]⟩, store := some (.memory {}) }
    let waiting : List Turn := .arrival default :: .call (.command (.start "a" 0 {} none false)) ::
      .replicate 20 (.go 0) ++ .call (.command (.startTunnels 0 [forward] {})) :: .call (.command (.terminate 0)) ::
      .replicate 4 (.go 1) ++ .replicate 3 (.go 2)
    let before : List Turn := waiting ++ .outside { now := ⟨50, 0, by decide, by decide⟩ } :: .replicate 20 (.go 1) ++
      [.go 2]
    let h := (Service.boot setup).after before
    (((Service.boot setup).after waiting).calls.map Call.locks = [[], [.tunnels 0], [.lifecycle 0]]) ∧
      (h.broker.session 0).tunnels.length = 1 ∧ (h.broker.session 0).disconnectedAt = none ∧
      h.broker.outside.now.seconds = 50 ∧ (Service.boot setup).HasRead before 2 0 .epoch ∧
      ((h.step (.go 2)).broker.session 0).disconnectedAt = some .epoch := by
  intro forward setup waiting before h
  have hlocks : ((Service.boot setup).after waiting).calls.map Call.locks = [[], [.tunnels 0], [.lifecycle 0]] := by
    decide +kernel
  have hlength : (h.broker.session 0).tunnels.length = 1 := by decide +kernel
  have hnone : (h.broker.session 0).disconnectedAt = none := by decide +kernel
  have hnow : h.broker.outside.now.seconds = 50 := by decide +kernel
  have hlost : ((h.step (.go 2)).broker.session 0).disconnectedAt = some .epoch := by decide +kernel
  obtain ⟨-, hends, -⟩ := lost_is_absorbing setup before [] 0
  rcases hends (.go 2) hnone with hstill | ⟨k, x, moment, hturn, -, -, -, hread, hmoment⟩
  · exact absurd (hstill.symm.trans hlost) nofun
  · obtain rfl : 2 = k := Turn.go.inj hturn
    obtain rfl : Time.Timestamp.epoch = moment := Option.some.inj (hlost.symm.trans hmoment)
    exact ⟨hlocks, hlength, hnone, hnow, hread, hlost⟩

end TunnelBroker
