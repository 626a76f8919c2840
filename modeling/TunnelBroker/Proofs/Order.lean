/-
  TunnelBroker.Proofs.Order — what the steps of operations may be, and in which order they take locks.

  Each step of an operation is of one of few kinds: the allocator, a session, the listeners, the records or a connection
  changes. Whoever takes the lock of a session's life holds no lock, whoever takes the lock of a session's tunnels holds
  none of that sort, and whoever waits for something else holds none at all. So nobody waits for a lock forever.

  - `Effect`: the kinds of steps, and `Inside`: those that are within tunnels.
  - `Orderly`: an operation that keeps to some rules; one lemma for each operation.
  - `Request.orderly`, `Service.Ruled`: so does every call, at any time.
  - `Service.sessions_have_histories`: so every session goes through changes of a session, whatever calls there are.
  - `Lasting`, `Ruled.lasting`: a connection that is closed stays closed, and tunnels that have left stay halted.
-/

import TunnelBroker.Proofs.Bindings
import TunnelBroker.Proofs.Starting

namespace TunnelBroker

open TunnelBroker.Net (Port)
open TunnelBroker.Ports (Allocator)
open TunnelBroker.Time (Duration Timestamp)

/-! ## Kinds of steps -/

/-- A change that leaves the committed tunnels alone. -/
def Session.Change.LeavesTunnels (c : Session.Change) : Prop := ∀ s : Session, (s.apply c).tunnels = s.tunnels

/-- A step that changes no record and no connection. `C` says what becomes of sessions. -/
inductive Inside (C : Session.Change → Prop) (b : Broker) : Broker → Prop
  | still : Inside C b b
  | allocator (a : Allocator) : Inside C b { b with allocator := a }
  | session (i : SessionRef) {c : Session.Change} : C c → Inside C b (b.setSession i ((b.session i).apply c))
  | listeners (ls : List Listener) : Inside C b { b with listeners := ls }

/-- The step of any operation. -/
inductive Effect (b : Broker) : Broker → Prop
  | inside {b' : Broker} : Inside (fun _ => True) b b' → Effect b b'
  | added {s : Session} : s.IsOrigin → Effect b (b.addSession s).2
  | records {b' : Broker} : OnlyRecords b b' → Effect b b'
  | closed (c : ConnectionRef) (reason : String) :
      Effect b { b with connections := b.connections.modify c (·.close reason) }

section

variable {C C' : Session.Change → Prop} {b b' : Broker} {i : SessionRef}

theorem Inside.mono (h : Inside C b b') (hC : ∀ c, C c → C' c) : Inside C' b b' := by
  cases h with
  | still => exact .still
  | allocator a => exact .allocator a
  | session i hc => exact .session i (hC _ hc)
  | listeners ls => exact .listeners ls

/-- A step within tunnels is no change of the records. -/
theorem Inside.records (h : Inside C b b') : b'.registry = b.registry ∧ b'.store = b.store := by
  cases h <;> exact ⟨rfl, rfl⟩

/-- Where one session has changed, any session is as it was or has gone through that change. -/
theorem Broker.session_changed (b : Broker) (i j : SessionRef) (c : Session.Change) :
    (b.setSession j ((b.session j).apply c)).session i = b.session i ∨
      (b.setSession j ((b.session j).apply c)).session i = (b.session i).apply c := by
  by_cases hlt : j < b.sessions.length
  · by_cases hij : i = j
    · subst hij
      exact .inr (session_setSession_self hlt)
    · exact .inl (session_setSession_ne hij)
  · left
    rw [setSession_of_le (Nat.le_of_not_lt hlt)]

theorem Inside.tunnels (h : Inside Session.Change.LeavesTunnels b b') (i : SessionRef) :
    (b'.session i).tunnels = (b.session i).tunnels := by
  cases h with
  | @session j c hc =>
    rcases b.session_changed i j c with hsame | hchanged
    · rw [hsame]
    · rw [hchanged]
      exact hc _
  | _ => rfl

end

/-! ## Rules -/

/-- What the steps of an operation may do, and what an operation that is for some session may wait for. -/
structure Rules where
  effects : Broker → Broker → Prop
  waits : Option SessionRef → (Broker → Bool) → Prop

namespace Rules

/-- While a batch is filled or taken back. -/
def filling : Rules := ⟨Inside Session.Change.LeavesTunnels, fun _ _ => False⟩

def batch : Rules := ⟨Inside fun _ => True, fun _ _ => False⟩

def general : Rules := ⟨Effect, fun _ _ => False⟩

def cancelling (i : SessionRef) : Rules := ⟨fun b b' => b' = b.cancelled i, fun _ _ => False⟩

/-- Who looks after a connection waits for its end, or for that of the session on it. -/
def handling (connection : ConnectionRef) : Rules :=
  ⟨Effect, fun own ready => ∃ i, own = some i ∧
    ready = fun b => (b.connection connection).closed || (b.session i).cancelled⟩

/-- Whatever the first rules allow, the second ones do too. -/
structure Within (R R' : Rules) : Prop where
  effects : ∀ b b', R.effects b b' → R'.effects b b'
  waits : ∀ own ready, R.waits own ready → R'.waits own ready

theorem filling_batch : filling.Within batch := ⟨fun _ _ h => h.mono fun _ _ => trivial, fun _ _ h => h⟩

theorem batch_general : batch.Within general := ⟨fun _ _ h => .inside h, fun _ _ h => h⟩

theorem filling_general : filling.Within general :=
  ⟨fun _ _ h => .inside (h.mono fun _ _ => trivial), fun _ _ h => h⟩

theorem general_handling (connection : ConnectionRef) : general.Within (handling connection) :=
  ⟨fun _ _ h => h, fun _ _ h => h.elim⟩

end Rules

/-- Locks are taken in one order. -/
def MayTake : Lock → List Lock → Prop
  | .lifecycle _, held => held = []
  | .tunnels _, held => ∀ i, .tunnels i ∉ held

/-- An operation that keeps to the rules while it holds some locks and is for some session. When it ends it holds the
locks `last`, and `post` holds. -/
def Orderly (R : Rules) {α : Type} (post : α → Option SessionRef → Prop) (last : List Lock) :
    Operation α → List Lock → Option SessionRef → Prop
  | .done a, held, own => held = last ∧ post a own
  | .act change next, held, own =>
    ∀ b, R.effects b (change b) ∧ Orderly R post last (next b) held (ownAfter own b (change b))
  | .await ready next, held, own => held = [] ∧ R.waits own ready ∧ Orderly R post last next held own
  | .acquire lock next, held, own => MayTake lock held ∧ Orderly R post last next (lock :: held) own
  | .release lock next, held, own => Orderly R post last next (held.filter (· ≠ lock)) own

/-- The operation ends with the locks and the session that it began with. -/
abbrev OrderlyOnly {α : Type} (R : Rules) (held : List Lock) (own : Option SessionRef) (t : Operation α) : Prop :=
  Orderly R (fun _ own' => own' = own) held t held own

namespace Orderly

variable {R R' : Rules} {α β : Type} {post : α → Option SessionRef → Prop} {post' : β → Option SessionRef → Prop}
  {last held : List Lock} {own : Option SessionRef} {t : Operation α} {f : α → Operation β} {lock : Lock}

theorem pure {a : α} (h : post a own) : Orderly R post held (Pure.pure a) held own := ⟨rfl, h⟩

theorem bind {p : α → Option SessionRef → Prop} {mid : List Lock} (h : Orderly R p mid t held own)
    (hf : ∀ a own', p a own' → Orderly R post' last (f a) mid own') : Orderly R post' last (t >>= f) held own := by
  show Orderly R post' last (t.bind f) held own
  induction t generalizing held own with
  | done a =>
    obtain ⟨rfl, ha⟩ := h
    exact hf a own ha
  | act change next ih => exact fun b => ⟨(h b).1, ih b (h b).2⟩
  | await ready next ih => exact ⟨h.1, h.2.1, ih h.2.2⟩
  | acquire lock next ih => exact ⟨h.1, ih h.2⟩
  | release lock next ih => exact ih h

theorem mono {p : α → Option SessionRef → Prop} (h : Orderly R p last t held own) (hR : R.Within R')
    (hp : ∀ a own', p a own' → post a own') : Orderly R' post last t held own := by
  induction t generalizing held own with
  | done a => exact ⟨h.1, hp a own h.2⟩
  | act change next ih => exact fun b => ⟨hR.effects _ _ (h b).1, ih b (h b).2⟩
  | await ready next ih => exact ⟨h.1, hR.waits _ _ h.2.1, ih h.2.2⟩
  | acquire lock next ih => exact ⟨h.1, ih h.2⟩
  | release lock next ih => exact ih h

theorem within (h : Orderly R post last t held own) (hR : R.Within R') : Orderly R' post last t held own :=
  h.mono hR fun _ _ ha => ha

theorem weaken {p : α → Option SessionRef → Prop} (h : Orderly R p last t held own)
    (hp : ∀ a own', p a own' → post a own') : Orderly R post last t held own :=
  h.mono ⟨fun _ _ h => h, fun _ _ h => h⟩ hp

theorem after (h : OrderlyOnly R held own t) (hf : ∀ a, Orderly R post' last (f a) held own) :
    Orderly R post' last (t >>= f) held own :=
  h.bind fun a own' hown => by rw [hown]; exact hf a

theorem locked (hmay : MayTake lock held) (h : Orderly R post (lock :: held) t (lock :: held) own) :
    Orderly R post held (Task.locked lock t) held own := by
  refine ⟨hmay, h.bind (f := fun a => .release lock (.done a)) fun a own' ha => ⟨?_, ha⟩⟩
  have hnot : ∀ l ∈ held, decide (l ≠ lock) = true := by
    intro l hl
    rw [decide_eq_true_iff]
    rintro rfl
    cases l with
    | lifecycle i =>
      have hnil : held = [] := hmay
      rw [hnil] at hl
      cases hl
    | tunnels i => exact hmay i hl
  rw [List.filter_cons_of_neg (by simp), List.filter_eq_self.mpr hnot]

/-- One step that adds no session. -/
theorem atomic {f : Broker → α × Broker} (heffect : ∀ b, R.effects b (f b).2)
    (hlength : ∀ b, (f b).2.sessions.length = b.sessions.length) : OrderlyOnly R held own (Task.atomic f) := by
  intro b
  rw [ownAfter_of_length (hlength b)]
  exact ⟨heffect b, rfl, rfl⟩

theorem change {f : Broker → Broker} (heffect : ∀ b, R.effects b (f b))
    (hlength : ∀ b, (f b).sessions.length = b.sessions.length) : OrderlyOnly R held own (Task.change f) :=
  atomic (f := fun b => ((), f b)) heffect hlength

theorem read {C : Session.Change → Prop} {waits : Option SessionRef → (Broker → Bool) → Prop} (f : Broker → α) :
    OrderlyOnly ⟨Inside C, waits⟩ held own (Task.read f) :=
  atomic (f := fun b => (f b, b)) (fun _ => .still) fun _ => rfl

theorem look (f : Broker → α) : OrderlyOnly .general held own (Task.read f) :=
  (read (C := fun _ => True) f).within Rules.batch_general

/-- A step of one session. -/
theorem update {C : Session.Change → Prop} {waits : Option SessionRef → (Broker → Bool) → Prop} (i : SessionRef)
    {f : Broker → Session → α × Session} (h : ∀ b s, ∃ c, C c ∧ (f b s).2 = s.apply c) :
    OrderlyOnly ⟨Inside C, waits⟩ held own (Operation.update i f) := by
  refine atomic (fun b => ?_) fun _ => List.length_set
  obtain ⟨c, hc, heq⟩ := h b (b.session i)
  show Inside C b (b.setSession i (f b (b.session i)).2)
  rw [heq]
  exact .session i hc

end Orderly

namespace Operation

variable {held : List Lock} {own : Option SessionRef} {i : SessionRef}

/-! ### Tunnels -/

theorem releasePorts_orderly (ports : List Port) : OrderlyOnly .filling held own (releasePorts ports) := by
  induction ports with
  | nil => exact .pure rfl
  | cons port rest ih => exact .after (.atomic (fun _ => .allocator _) fun _ => rfl) fun _ => ih

theorem refresh_orderly : OrderlyOnly .filling held own refresh :=
  .after (.read _) fun _ => .after (.read _) fun _ => .atomic (fun _ => .allocator _) fun _ => rfl

theorem resolve_orderly (f : Forward) : OrderlyOnly .filling held own (resolve f) := by
  unfold resolve
  split
  · exact .pure rfl
  · refine .after (.atomic (fun _ => .allocator _) fun _ => rfl) fun r => ?_
    cases r with
    | error e => exact .pure rfl
    | ok port => exact .pure rfl

theorem start_leavesTunnels (f : Forward) (acl : Acl) (autoAssigned : Bool) (now : Time.Timestamp) :
    (Session.Change.start f acl autoAssigned now).LeavesTunnels := by
  intro s
  rcases s.bound_start f acl autoAssigned now with hsame | ⟨-, -, hstarted, -⟩
  · exact congrArg Session.tunnels hsame
  · rw [Session.apply, hstarted]

theorem place_orderly (f : Forward) (acl : Acl) (autoAssigned : Bool) :
    OrderlyOnly .filling held own (place i f acl autoAssigned) := by
  refine .after (.update i fun b _ => ⟨.start f acl autoAssigned b.outside.now,
    start_leavesTunnels f acl autoAssigned _, rfl⟩) fun r => ?_
  cases r with
  | error e => exact .pure rfl
  | ok t =>
    refine .atomic (fun b => ?_) fun b => ?_
    · dsimp only
      split
      · exact .still
      · split
        · exact .still
        · exact .listeners _
    · dsimp only
      split
      · rfl
      · split
        · rfl
        · rfl

theorem attempt_orderly (acl : Acl) (f : Forward) (taken : Taken) :
    OrderlyOnly .filling held own (attempt i acl f taken) := by
  refine .after (resolve_orderly f) fun r => ?_
  cases r with
  | error e => exact .pure rfl
  | ok p =>
    refine .after (place_orderly p.1 acl p.2.isSome) fun r => ?_
    cases r with
    | error e => exact .pure rfl
    | ok l => exact .pure rfl

theorem fill_orderly (acl : Acl) (forwards : List Forward) (taken : Taken) :
    OrderlyOnly .filling held own (fill i acl forwards taken) := by
  induction forwards generalizing taken with
  | nil => exact .pure rfl
  | cons f rest ih =>
    refine .after (attempt_orderly acl f taken) fun r => ?_
    obtain ⟨result, taken'⟩ := r
    cases result with
    | error e => exact .pure rfl
    | ok _ => exact ih taken'

/-- What a batch that has failed does at last. -/
theorem takeBack_orderly {α : Type} (opened : List Listener) (a : α) :
    OrderlyOnly .filling held own (do closeListeners opened; update i fun _ s => ((), s.discard); return a) :=
  .after (.change (fun _ => .listeners _) fun _ => rfl) fun _ =>
    .after (.update i fun _ _ => ⟨.discard, fun _ => rfl, rfl⟩) fun _ => .pure rfl

theorem openBatch_orderly (forwards : List Forward) (acl : Acl) :
    OrderlyOnly .batch held own (openBatch i forwards acl) := by
  refine .after (.read _) fun r => ?_
  obtain ⟨connection, id⟩ := r
  cases connection with
  | none => exact .pure rfl
  | some _ =>
    refine .after (refresh_orderly.within Rules.filling_batch) fun r => ?_
    cases r with
    | error e => exact .pure rfl
    | ok _ =>
      refine .after ((fill_orderly acl forwards {}).within Rules.filling_batch) fun r => ?_
      obtain ⟨result, taken⟩ := r
      cases result with
      | ok _ => exact .after (.update i fun _ _ => ⟨.commit, trivial, rfl⟩) fun _ => .pure rfl
      | error e => exact (takeBack_orderly taken.listeners _).within Rules.filling_batch

theorem startTunnels_orderly (hheld : ∀ j, .tunnels j ∉ held) (forwards : List Forward) (acl : Acl) :
    OrderlyOnly .batch held own (startTunnels i forwards acl) := by
  refine .after (.locked hheld (openBatch_orderly forwards acl)) fun r => ?_
  cases r with
  | ok tunnels => exact .after (.change (fun _ => .listeners _) fun _ => rfl) fun _ => .pure rfl
  | error p => exact .after ((releasePorts_orderly p.2).within Rules.filling_batch) fun _ => .pure rfl

theorem haltTunnels_orderly (hheld : ∀ j, .tunnels j ∉ held) : OrderlyOnly .batch held own (haltTunnels i) :=
  .after (.locked hheld (.update i fun _ _ => ⟨.haltTunnels, trivial, rfl⟩)) fun ports =>
    (releasePorts_orderly ports).within Rules.filling_batch

/-! ### Records -/

theorem saveRecord_orderly (r : SessionRecord) : OrderlyOnly .general held own (saveRecord r) :=
  .atomic (fun b => .records (saveRecord_onlyRecords r b)) fun b =>
    congrArg List.length (saveRecord_onlyRecords r b).sessions

theorem deleteRecord_orderly (id : String) : OrderlyOnly .general held own (deleteRecord id) := by
  refine .atomic (fun b => .records ?_) fun b => ?_
  · dsimp only
    split
    · exact .refl b
    · rfl
  · dsimp only
    split
    · rfl
    · rfl

theorem takeRecord_orderly (hheld : ∀ j, .tunnels j ∉ held) : OrderlyOnly .general held own (takeRecord i) :=
  .after (.locked hheld (.look _)) fun _ => .look _

theorem register_orderly (hheld : ∀ j, .tunnels j ∉ held) : OrderlyOnly .general held own (register i) := by
  have hpersist : OrderlyOnly .general held own (persist i) := by
    refine .after (.look _) fun r => ?_
    cases r with
    | true => exact .after (takeRecord_orderly hheld) fun r => saveRecord_orderly r
    | false => exact .pure rfl
  refine .after hpersist fun r => ?_
  cases r with
  | error e => exact .pure rfl
  | ok _ => exact .after (.change (fun _ => .records rfl) fun _ => rfl) fun _ => .pure rfl

theorem unregister_orderly (id : String) : OrderlyOnly .general held own (unregister id) := by
  refine .after (.look _) fun r => ?_
  cases r with
  | error e => exact .pure rfl
  | ok _ =>
    refine .after (deleteRecord_orderly id) fun r => ?_
    cases r with
    | error e => exact .pure rfl
    | ok _ => exact .after (.change (fun _ => .records rfl) fun _ => rfl) fun _ => .pure rfl

theorem unregisterAll_orderly (ids : List String) : OrderlyOnly .general held own (unregisterAll ids) := by
  induction ids with
  | nil => exact .pure rfl
  | cons id rest ih =>
    refine .after (unregister_orderly id) fun r => ?_
    rcases r with (_ | _) | _
    · exact ih
    · exact .pure rfl
    · exact .after ih fun _ => .pure rfl

/-! ### Sessions -/

theorem startSession_orderly (id : String) (connection : ConnectionRef) (request : ConnectionRequest)
    (user : Option User) (cancelled : Bool) : Orderly .general (fun r own' => ∀ i, r = .ok i → own' = some i) []
      (startSession id connection request user cancelled) [] own := by
  have hadd : Orderly .general (fun i own' => own' = some i) [] (Task.atomic fun b => b.addSession
      (.connect id connection (b.connection connection).address.text request.profile user cancelled)) [] own :=
    fun _ => ⟨.added (.connected ..), rfl, if_pos (by rw [Broker.length_addSession]; exact Nat.lt_succ_self _)⟩
  refine hadd.bind ?_
  rintro i _ rfl
  refine .after ((startTunnels_orderly (fun _ => List.not_mem_nil) request.forwards {}).within
    Rules.batch_general) fun r => ?_
  cases r with
  | error e => exact .pure nofun
  | ok _ =>
    refine .after (register_orderly fun _ => List.not_mem_nil) fun r => ?_
    cases r with
    | ok _ => exact .pure fun j hj => congrArg some (Except.ok.inj hj)
    | error e =>
      exact .after ((haltTunnels_orderly fun _ => List.not_mem_nil).within Rules.batch_general) fun _ => .pure nofun

/-- Who holds the lock of a session's life may take that of its tunnels. -/
theorem mayTake_tunnels (i : SessionRef) : ∀ j, Lock.tunnels j ∉ [Lock.lifecycle i] := by
  intro j hj
  cases List.mem_singleton.mp hj

theorem openTunnels_orderly (forwards : List Forward) (acl : Acl) :
    OrderlyOnly .general [] own (openTunnels i forwards acl) := by
  refine .locked rfl (.after ((startTunnels_orderly (mayTake_tunnels i) forwards acl).within
    Rules.batch_general) fun r => ?_)
  cases r with
  | error e => exact .pure rfl
  | ok tunnels =>
    refine .after (register_orderly (mayTake_tunnels i)) fun r => ?_
    cases r with
    | error e => exact .pure rfl
    | ok _ => exact .pure rfl

theorem closeTunnel_orderly (tunnel : String) : OrderlyOnly .general [] own (closeTunnel i tunnel) := by
  refine .locked rfl (.after (.look _) fun r => ?_)
  obtain ⟨active, id⟩ := r
  cases active with
  | false => exact .pure rfl
  | true =>
    refine .after (.locked (mayTake_tunnels i) (.within (.update i fun b s => ⟨.removeTunnel tunnel, trivial, ?_⟩)
      Rules.batch_general)) fun removed => ?_
    · rw [Session.apply]
      cases s.removeTunnel? tunnel with
      | none => rfl
      | some p => rfl
    · cases removed with
      | none => exact .pure rfl
      | some t =>
        exact .after ((releasePorts_orderly _).within Rules.filling_general) fun _ =>
          .after (register_orderly (mayTake_tunnels i)) fun _ => .pure rfl

theorem terminate_orderly : OrderlyOnly .general [] own (terminate i) := by
  have hdisconnect (moment : Timestamp) : OrderlyOnly .batch (.tunnels i :: [.lifecycle i]) own
      (update i fun _ s => s.disconnect moment) := .update i fun _ _ => ⟨.disconnect moment, trivial, rfl⟩
  have hcancel : OrderlyOnly .batch [.lifecycle i] own (update i fun _ s => ((), s.cancel)) :=
    .update i fun _ _ => ⟨.cancel, trivial, rfl⟩
  refine .locked rfl (.after (.look _) fun moment =>
    .after (.locked (mayTake_tunnels i) ((hdisconnect moment).within Rules.batch_general)) fun ports =>
    .after ((releasePorts_orderly ports).within Rules.filling_general) fun _ =>
    .after (hcancel.within Rules.batch_general) fun _ => .after (.look _) fun keep => ?_)
  cases keep with
  | none => exact .after (.look _) fun id => .after (unregister_orderly id) fun _ => .pure rfl
  | some _ => exact .after (register_orderly (mayTake_tunnels i)) fun _ => .pure rfl

theorem forget_orderly (id : String) : OrderlyOnly .general [] own (forget id) := by
  refine .after (.look _) fun r => ?_
  cases r with
  | error e => exact .pure rfl
  | ok i =>
    refine .after (.look _) fun active => ?_
    cases active with
    | true => exact .pure rfl
    | false => exact .after (unregister_orderly id) fun _ => .pure rfl

theorem deleteObsolete_orderly : OrderlyOnly .general [] own deleteObsolete := by
  refine .after (.look _) fun keep => ?_
  cases keep with
  | none => exact .pure rfl
  | some keep =>
    have hdelete : OrderlyOnly .general [] own (deleteLostFor keep) := by
      refine .after (.look _) fun now => ?_
      split
      · exact .pure rfl
      · exact .after (.look _) fun ids => unregisterAll_orderly ids
    exact .after hdelete fun _ => .pure rfl

theorem handle_orderly (id : String) (connection : ConnectionRef) (request : ConnectionRequest) (user : Option User)
    (cancelled : Bool) : Orderly (.handling connection) (fun _ _ => True) []
      (handle id connection request user cancelled) [] own := by
  have hgeneral := Rules.general_handling connection
  have hclose (own : Option SessionRef) (reason : String) :
      OrderlyOnly (.handling connection) [] own (closeConnection connection reason) :=
    .change (fun _ => .closed connection reason) fun _ => rfl
  refine .bind ((startSession_orderly id connection request user cancelled).within hgeneral) ?_
  intro r own' hown
  cases r with
  | error e => exact .after (hclose _ _) fun _ => .pure trivial
  | ok i =>
    obtain rfl := hown i rfl
    have hwait : OrderlyOnly (.handling connection) [] (some i)
        (Task.waitFor fun b => (b.connection connection).closed || (b.session i).cancelled) :=
      ⟨rfl, ⟨i, rfl, rfl⟩, rfl, rfl⟩
    have hlook (f : Broker → Bool) : OrderlyOnly (.handling connection) [] (some i) (Task.read f) :=
      (Orderly.look f).within hgeneral
    refine .after hwait fun _ => .after (hlook _) fun closed => ?_
    cases closed with
    | true => exact .after (terminate_orderly.within hgeneral) fun _ => .pure trivial
    | false => exact .after (hclose _ _) fun _ => .after (terminate_orderly.within hgeneral) fun _ => .pure trivial

end Operation

/-! ## Requests -/

namespace Request

/-- The rules by which a request is served. -/
def rules : Request → Rules
  | command (.cancel i) => .cancelling i
  | command _ => .general
  | handle _ connection _ _ _ => .handling connection

theorem orderly (r : Request) : Orderly r.rules (fun _ _ => True) [] r.operation [] r.session? := by
  cases r with
  | command c =>
    cases c with
    | start id connection request user cancelled =>
      exact .bind (Operation.startSession_orderly id connection request user cancelled) fun _ _ _ => .pure trivial
    | startTunnels i forwards acl =>
      exact .after ((Operation.startTunnels_orderly (fun _ => List.not_mem_nil) forwards acl).within
        Rules.batch_general) fun _ => .pure trivial
    | openTunnels i forwards acl => exact .after (Operation.openTunnels_orderly forwards acl) fun _ => .pure trivial
    | closeTunnel i tunnel => exact (Operation.closeTunnel_orderly tunnel).weaken fun _ _ _ => trivial
    | terminate i => exact Operation.terminate_orderly.weaken fun _ _ _ => trivial
    | cancel i => exact .after (.atomic (fun _ => rfl) fun _ => List.length_set) fun _ => .pure trivial
    | forget id => exact (Operation.forget_orderly id).weaken fun _ _ _ => trivial
    | deleteObsolete => exact .after Operation.deleteObsolete_orderly fun _ => .pure trivial
  | handle id connection request user cancelled => exact Operation.handle_orderly id connection request user cancelled

theorem effect (r : Request) {b b' : Broker} (h : r.rules.effects b b') : Effect b b' := by
  cases r with
  | command c =>
    cases c with
    | cancel i =>
      obtain rfl : b' = b.cancelled i := h
      exact .inside (.session i (c := .cancel) trivial)
    | _ => exact h
  | handle id connection request user cancelled => exact h

end Request

/-! ## Calls -/

/-- What is left of the call keeps to the rules of its request. -/
def Call.Keeps (x : Call) : Prop := Orderly x.request.rules (fun _ _ => True) [] x.rest x.locks x.session?

/-- The step of a call is one that its rules allow, or none. -/
theorem Call.Keeps.step {x : Call} (h : x.Keeps) (isHeld : Lock → Bool) (b : Broker) :
    (x.step isHeld b).1.Keeps ∧ ((x.step isHeld b).2 = b ∨ x.request.rules.effects b (x.step isHeld b).2) := by
  unfold Keeps at h ⊢
  rcases x.step_cases isHeld b with he | ⟨change, next, hrest, he⟩ | ⟨ready, next, hrest, he⟩ |
    ⟨lock, next, hrest, -, he⟩ | ⟨lock, next, hrest, he⟩
  · rw [he]
    exact ⟨h, .inl rfl⟩
  · rw [hrest] at h
    rw [he]
    exact ⟨(h b).2, .inr (h b).1⟩
  · rw [hrest] at h
    rw [he]
    exact ⟨h.2.2, .inl rfl⟩
  · rw [hrest] at h
    rw [he]
    exact ⟨h.2, .inl rfl⟩
  · rw [hrest] at h
    rw [he]
    exact ⟨h, .inl rfl⟩

namespace Service

variable {h : Service} {turn : Turn}

/-- Every call keeps to its rules. -/
def Ruled (h : Service) : Prop := ∀ x ∈ h.calls, x.Keeps

theorem ruled_boot (setup : Setup) : (boot setup).Ruled := fun _ hx => by cases hx

namespace Ruled

theorem step (hr : h.Ruled) (turn : Turn) : (h.step turn).Ruled := by
  intro x' hx'
  obtain ⟨k, hget⟩ := List.mem_iff_getElem?.mp hx'
  rcases step_calls hget with hsame | ⟨r, -, rfl⟩ | ⟨x, hx, rfl⟩
  · exact hr x' (List.mem_of_getElem? hsame)
  · exact r.orderly
  · exact ((hr x (List.mem_of_getElem? hx)).step h.isHeld h.broker).1

theorem after (hr : h.Ruled) (turns : List Turn) : (h.after turns).Ruled := by
  induction turns generalizing h with
  | nil => exact hr
  | cons turn rest ih => exact ih (hr.step turn)

/-- A step of a call is of one of the kinds there are. -/
theorem effect (hr : h.Ruled) (k : Nat) : Effect h.broker (h.step (.go k)).broker := by
  cases hx : h.calls[k]? with
  | none =>
    rw [step_go_none hx]
    exact .inside .still
  | some x =>
    rw [step_go hx]
    rcases ((hr x (List.mem_of_getElem? hx)).step h.isHeld h.broker).2 with hsame | heffect
    · rw [hsame]
      exact .inside .still
    · exact x.request.effect heffect

end Ruled

end Service

/-! ## What becomes of sessions -/

/-- Somebody connected, or the store was read, and since then the session has gone through changes. -/
def Session.HasHistory (s : Session) : Prop :=
  ∃ (origin : Session) (changes : List Session.Change), origin.IsOrigin ∧ s = origin.after changes

section

variable {b b' : Broker} {s : Session}

theorem Session.IsOrigin.hasHistory (h : s.IsOrigin) : s.HasHistory := ⟨s, [], h, rfl⟩

theorem Session.HasHistory.apply (h : s.HasHistory) (c : Session.Change) : (s.apply c).HasHistory := by
  obtain ⟨origin, changes, horigin, rfl⟩ := h
  refine ⟨origin, changes ++ [c], horigin, ?_⟩
  unfold after
  rw [List.foldl_append]
  rfl

theorem Broker.hasHistory_addSession (hb : ∀ s ∈ b.sessions, s.HasHistory) (h : s.IsOrigin) :
    ∀ s' ∈ (b.addSession s).2.sessions, s'.HasHistory :=
  List.forall_mem_append.mpr ⟨hb, List.forall_mem_singleton.mpr h.hasHistory⟩

theorem Effect.hasHistory (h : Effect b b') (hb : ∀ s ∈ b.sessions, s.HasHistory) :
    ∀ s ∈ b'.sessions, s.HasHistory := by
  cases h with
  | inside h =>
    cases h with
    | @session i c _ =>
      by_cases hi : i < b.sessions.length
      · have hold : (b.session i).HasHistory := by
          rw [Broker.session_eq hi]
          exact hb _ (List.getElem_mem hi)
        intro s hs
        rcases List.mem_or_eq_of_mem_set hs with hs | rfl
        · exact hb s hs
        · exact hold.apply c
      · rw [Broker.setSession_of_le (Nat.le_of_not_lt hi)]
        exact hb
    | _ => exact hb
  | added horigin => exact Broker.hasHistory_addSession hb horigin
  | records h =>
    rw [h.sessions]
    exact hb
  | closed => exact hb

end

/-- Whatever calls there are, every session has come to be as sessions do and has gone through changes of a session. -/
theorem Service.sessions_have_histories (setup : Setup) (turns : List Turn) :
    ∀ s ∈ ((boot setup).after turns).broker.sessions, s.HasHistory := by
  have hboot : ∀ s ∈ (boot setup).broker.sessions, s.HasHistory := by
    have hrestorable : Restorable fun b => ∀ s ∈ b.sessions, s.HasHistory := by
      refine ⟨fun {b b'} hr hb => ?_, fun {b} now r hb => Broker.hasHistory_addSession hb (.restored now r)⟩
      rw [hr.sessions]
      exact hb
    exact hrestorable.boot setup fun _ hs => by cases hs
  have hruled := ruled_boot setup
  generalize boot setup = h at hboot hruled ⊢
  induction turns generalizing h with
  | nil => exact hboot
  | cons turn rest ih =>
    refine ih (h.step turn) ?_ (hruled.step turn)
    cases turn with
    | go k => exact (hruled.effect k).hasHistory hboot
    | _ =>
      rw [step_sessions fun _ _ hgo => (by cases hgo)]
      exact hboot

/-! ## What lasts -/

/-- Tunnels leave a session halted and without their leases. -/
theorem Session.apply_retired (s : Session) (c : Session.Change) :
    ∀ t ∈ (s.apply c).retired, t ∈ s.retired ∨ t.IsOut := by
  have hadded (ts : List Tunnel) : ∀ t ∈ s.retired ++ ts.map Tunnel.retire, t ∈ s.retired ∨ t.IsOut := by
    intro t ht
    refine (List.mem_append.mp ht).imp_right fun ht => ?_
    obtain ⟨u, -, rfl⟩ := List.mem_map.mp ht
    exact ⟨rfl, rfl⟩
  have hstart (f : Forward) (acl : Acl) (autoAssigned : Bool) (now : Time.Timestamp) :
      (s.start f acl autoAssigned now).2.retired = s.retired := by
    rcases s.bound_start f acl autoAssigned now with hsame | ⟨-, -, hstarted, -⟩
    · rw [hsame]
    · rw [hstarted]
  cases c with
  | start f acl autoAssigned now =>
    intro t ht
    rw [Session.apply, hstart] at ht
    exact .inl ht
  | commit => exact fun t ht => .inl ht
  | discard => exact hadded s.pending
  | startAlone f acl now =>
    intro t ht
    rw [Session.apply] at ht
    rcases s.startAlone_cases f acl now with hcommit | hdiscard
    · rw [hcommit] at ht
      have hsame : (s.start f acl false now).2.commit.2.retired = s.retired := hstart f acl false now
      rw [hsame] at ht
      exact .inl ht
    · rw [hdiscard] at ht
      exact hadded s.pending t ht
  | removeTunnel id =>
    intro t ht
    rw [Session.apply] at ht
    cases hremoved : s.removeTunnel? id with
    | none =>
      rw [hremoved] at ht
      exact .inl ht
    | some p =>
      obtain ⟨k, -, hs⟩ := Session.removeTunnel?_some hremoved
      rw [hremoved, Option.map_some, Option.getD_some, hs] at ht
      exact hadded [p.1] t ht
  | haltTunnel id => exact fun t ht => .inl ht
  | haltTunnels => exact fun t ht => .inl ht
  | disconnect moment =>
    intro t ht
    have hsame : (s.disconnect moment).2.retired = s.retired := by
      unfold disconnect markDisconnected
      split <;> rfl
    rw [Session.apply, hsame] at ht
    exact .inl ht
  | cancel => exact fun t ht => .inl ht

/-- What is so for good: connections that are closed, and tunnels that have left their session. -/
structure Lasting (b b' : Broker) : Prop where
  connections : b.connections.length ≤ b'.connections.length
  closed : ∀ c, (b.connection c).closed = true → (b'.connection c).closed = true
  retired : ∀ i, (∀ t ∈ (b.session i).retired, t.IsOut) → ∀ t ∈ (b'.session i).retired, t.IsOut

section

variable {b b' b'' : Broker}

theorem Lasting.refl (b : Broker) : Lasting b b := ⟨Nat.le_refl _, fun _ h => h, fun _ h => h⟩

theorem Lasting.trans (h : Lasting b b') (h' : Lasting b' b'') : Lasting b b'' :=
  ⟨Nat.le_trans h.connections h'.connections, fun c hc => h'.closed c (h.closed c hc),
    fun i hi => h'.retired i (h.retired i hi)⟩

/-- What changes neither sessions nor connections. -/
theorem Lasting.of_eq (hconnections : b'.connections = b.connections) (hsessions : b'.sessions = b.sessions) :
    Lasting b b' where
  connections := Nat.le_of_eq (by rw [hconnections])
  closed c hc := by
    unfold Broker.connection at hc ⊢
    rw [hconnections]
    exact hc
  retired i hi := by
    unfold Broker.session at hi ⊢
    rw [hsessions]
    exact hi

theorem Broker.connection_modify (b : Broker) (c d : ConnectionRef) (reason : String) :
    let b' : Broker := { b with connections := b.connections.modify c (·.close reason) }
    b'.connection d = if c = d ∧ d < b.connections.length then (b.connection d).close reason else b.connection d := by
  intro b'
  show (b.connections.modify c _)[d]?.getD default = _
  unfold connection
  rw [List.getElem?_modify]
  by_cases hd : d < b.connections.length
  · rw [List.getElem?_eq_getElem hd]
    by_cases hc : c = d
    · simp [hc, hd]
    · simp [hc]
  · rw [List.getElem?_eq_none (Nat.le_of_not_lt hd)]
    simp [hd]

theorem Lasting.close (b : Broker) (c : ConnectionRef) (reason : String) :
    Lasting b { b with connections := b.connections.modify c (·.close reason) } where
  connections := Nat.le_of_eq (List.length_modify ..).symm
  closed d hd := by
    rw [Broker.connection_modify]
    split
    · rfl
    · exact hd
  retired _ hi := hi

theorem Lasting.arrival (b : Broker) (c : Connection) : Lasting b (b.addConnection c).2 where
  connections := by
    show b.connections.length ≤ (b.connections ++ [c]).length
    rw [List.length_append]
    exact Nat.le_add_right ..
  closed d hd := by
    show ((b.connections ++ [c])[d]?.getD default).closed = true
    unfold Broker.connection at hd
    by_cases hlt : d < b.connections.length
    · rw [List.getElem?_append_left hlt]
      exact hd
    · rw [List.getElem?_eq_none (Nat.le_of_not_lt hlt)] at hd
      cases hd
  retired _ hi := hi

theorem Lasting.inside {C : Session.Change → Prop} (h : Inside C b b') : Lasting b b' := by
  cases h with
  | @session j c hc =>
    refine ⟨Nat.le_refl _, fun _ h => h, fun i hi => ?_⟩
    rcases b.session_changed i j c with hsame | hchanged
    · rw [hsame]
      exact hi
    · rw [hchanged]
      exact fun t ht => ((b.session i).apply_retired c t ht).elim (hi t) fun hout => hout
  | still => exact .refl b
  | allocator a => exact .of_eq rfl rfl
  | listeners ls => exact .of_eq rfl rfl

theorem Effect.lasting (h : Effect b b') : Lasting b b' := by
  cases h with
  | inside h => exact .inside h
  | @added s horigin =>
    refine ⟨Nat.le_refl _, fun _ h => h, fun i hi => ?_⟩
    by_cases hnew : i = b.sessions.length
    · rw [hnew, Broker.session_addSession]
      cases horigin <;> exact fun _ ht => by cases ht
    · rw [Broker.session_addSession_ne s hnew]
      exact hi
  | records h => exact .of_eq (by rw [h]) h.sessions
  | closed c reason => exact .close b c reason

end

namespace Service

variable {h : Service}

theorem Ruled.lasting_step (hr : h.Ruled) (turn : Turn) : Lasting h.broker (h.step turn).broker := by
  cases turn with
  | outside o => exact .of_eq rfl rfl
  | arrival c => exact .arrival h.broker c
  | hangUp connection reason => exact .close h.broker connection reason
  | settling => exact .of_eq rfl rfl
  | call r =>
    rw [step_call]
    split
    · exact .refl _
    · exact .refl _
  | go k => exact (hr.effect k).lasting

/-- Whatever turns there are. -/
theorem Ruled.lasting (hr : h.Ruled) (turns : List Turn) : Lasting h.broker (h.after turns).broker := by
  induction turns generalizing h with
  | nil => exact .refl _
  | cons turn rest ih => exact (hr.lasting_step turn).trans (ih (hr.step turn))

end Service

end TunnelBroker
