/-
  TunnelBroker.Proofs.Catalog — who enters what in the registry, and writes what to the store.

  A call enters its own session under the id of that session, and nobody else's, and the only record that it writes is
  that of its own session. So the registry knows only sessions that are there, and a session that becomes known was
  entered by a call for it.

  - `Registered`, `Filed`: what a step does to the registry and to the store.
  - `Enters`: an operation that enters no session but its own; one lemma for each operation.
  - `Service.Ordered`: what that comes to for all calls together; `Ordered.after`: it holds at any time.
  - `Ordered.entered_by`: how a session becomes known.
-/

import TunnelBroker.Proofs.Interleaving
import TunnelBroker.Proofs.Records

namespace TunnelBroker

open TunnelBroker.Net (Port)
open TunnelBroker.Store (Row Table)
open TunnelBroker.Time (Duration)

/-! ## Operations that enter their own session -/

/-- How the registry changes in a step of an operation that is for the session `own`. -/
inductive Registered (own : Option SessionRef) (b b' : Broker) : Prop
  | same (h : b'.registry = b.registry)
  | erased (id : String) (h : b'.registry = b.registry.erase id)
  | entered (i : SessionRef) (hi : own = some i) (h : b'.registry = b.registry.insert (b'.session i).id i)

/-- What is stored under an id. -/
def Broker.stored? (b : Broker) (id : String) : Option (SessionRecord ⊕ Row) := b.store.bind (·.stored? id)

/-- How the store changes in a step of an operation that is for the session `own`. The sessions have the ids `ids`. -/
inductive Filed (ids : SessionRef → String) (own : Option SessionRef) (b b' : Broker) : Prop
  | same (h : b'.store = b.store)
  | deleted (h : ∀ id, b'.stored? id = b.stored? id ∨ b'.stored? id = none)
  | saved (i : SessionRef) (hi : own = some i) (h : ∀ id, id ≠ ids i → b'.stored? id = b.stored? id)

/-- The session that an operation is for after a step: the one that it has just added, or else the one it was for. -/
def ownAfter (own : Option SessionRef) (b b' : Broker) : Option SessionRef :=
  if b.sessions.length < b'.sessions.length then some b.sessions.length else own

/-- The session that an operation is for has its id, if the ids are given. -/
def Broker.Names (b : Broker) (ids : Option (SessionRef → String)) (own : Option SessionRef) : Prop :=
  ∀ f ∈ ids, ∀ i, own = some i → (b.session i).id = f i

theorem Broker.names_none (b : Broker) (own : Option SessionRef) : b.Names none own := fun _ hf => by cases hf

/-- No step of an operation for the session `own` removes a session, enters another one or writes another one's record,
and when it ends `post` holds of its result and the session that it is for then. Of records that is said only where the
ids of sessions are given. -/
def Enters (ids : Option (SessionRef → String)) {α : Type} (post : α → Option SessionRef → Prop) :
    Operation α → Option SessionRef → Prop
  | .done a, own => post a own
  | .act change next, own => ∀ b, b.Names ids own → b.sessions.length ≤ (change b).sessions.length ∧
      Registered (ownAfter own b (change b)) b (change b) ∧ (∀ f ∈ ids, Filed f (ownAfter own b (change b)) b (change b)) ∧
      Enters ids post (next b) (ownAfter own b (change b))
  | .await _ next, own | .acquire _ next, own | .release _ next, own => Enters ids post next own

/-- The operation stays with one session. -/
abbrev EntersOnly (ids : Option (SessionRef → String)) {α : Type} (own : Option SessionRef) (t : Operation α) : Prop :=
  Enters ids (fun _ own' => own' = own) t own

theorem ownAfter_of_length {b b' : Broker} (h : b'.sessions.length = b.sessions.length) (own : Option SessionRef) :
    ownAfter own b b' = own := by
  unfold ownAfter
  rw [h, if_neg (Nat.lt_irrefl _)]

namespace Enters

variable {ids : Option (SessionRef → String)} {α β : Type} {own : Option SessionRef} {post : α → Option SessionRef → Prop}
  {post' : β → Option SessionRef → Prop} {t : Operation α} {f : α → Operation β}

theorem pure {a : α} (h : post a own) : Enters ids post (Pure.pure a) own := h

theorem bind {p : α → Option SessionRef → Prop} (h : Enters ids p t own)
    (hf : ∀ a own', p a own' → Enters ids post' (f a) own') : Enters ids post' (t >>= f) own := by
  show Enters ids post' (t.bind f) own
  induction t generalizing own with
  | done a => exact hf a own h
  | act change next ih =>
    intro b hb
    obtain ⟨hlength, hregistered, hfiled, hrest⟩ := h b hb
    exact ⟨hlength, hregistered, hfiled, ih b hrest⟩
  | await ready next ih => exact ih h
  | acquire lock next ih => exact ih h
  | release lock next ih => exact ih h

theorem mono {p : α → Option SessionRef → Prop} (h : Enters ids p t own) (hp : ∀ a own', p a own' → post a own') :
    Enters ids post t own := by
  induction t generalizing own with
  | done a => exact hp a own h
  | act change next ih =>
    intro b hb
    obtain ⟨hlength, hregistered, hfiled, hrest⟩ := h b hb
    exact ⟨hlength, hregistered, hfiled, ih b hrest⟩
  | await ready next ih => exact ih h
  | acquire lock next ih => exact ih h
  | release lock next ih => exact ih h

/-- What follows an operation that stays with its session goes on with it. -/
theorem after (h : EntersOnly ids own t) (hf : ∀ a, Enters ids post' (f a) own) : Enters ids post' (t >>= f) own :=
  h.bind fun a own' hown => by rw [hown]; exact hf a

theorem locked {lock : Lock} (h : Enters ids post t own) : Enters ids post (Task.locked lock t) own :=
  show Enters ids post (t.bind fun a => .release lock (.done a)) own from h.bind fun _ _ hpost => hpost

/-- One step that adds no session. -/
theorem atomic {f : Broker → α × Broker} (hlength : ∀ b, (f b).2.sessions.length = b.sessions.length)
    (hregistered : ∀ b, Registered own b (f b).2) (hfiled : ∀ b, ∀ g ∈ ids, Filed g own b (f b).2) :
    EntersOnly ids own (Task.atomic f) := by
  intro b _
  rw [ownAfter_of_length (hlength b)]
  exact ⟨Nat.le_of_eq (hlength b).symm, hregistered b, hfiled b, rfl⟩

/-- One step that touches neither the sessions nor the registry nor the store. -/
theorem aside {f : Broker → α × Broker}
    (h : ∀ b, (f b).2.sessions = b.sessions ∧ (f b).2.registry = b.registry ∧ (f b).2.store = b.store) :
    EntersOnly ids own (Task.atomic f) :=
  .atomic (fun b => congrArg List.length (h b).1) (fun b => .same (h b).2.1) fun b _ _ => .same (h b).2.2

theorem change {f : Broker → Broker} (hlength : ∀ b, (f b).sessions.length = b.sessions.length)
    (hregistered : ∀ b, Registered own b (f b)) (hstore : ∀ b, (f b).store = b.store) :
    EntersOnly ids own (Task.change f) :=
  atomic (f := fun b => ((), f b)) hlength hregistered fun b _ _ => .same (hstore b)

/-- A look at the broker, in which the session has its id. -/
theorem learn {f : Broker → α} (h : ∀ b, b.Names ids own → post (f b) own) : Enters ids post (Task.read f) own := by
  intro b hb
  have hown : ownAfter own b (id b) = own := ownAfter_of_length rfl own
  rw [hown]
  exact ⟨Nat.le_refl _, .same rfl, fun _ _ => .same rfl, h b hb⟩

theorem read (f : Broker → α) : EntersOnly ids own (Task.read f) := .learn fun _ _ => rfl

theorem update (i : SessionRef) (f : Broker → Session → α × Session) : EntersOnly ids own (Operation.update i f) :=
  .atomic (fun _ => List.length_set) (fun _ => .same rfl) fun _ _ _ => .same rfl

theorem waitFor (ready : Broker → Bool) : EntersOnly ids own (Task.waitFor ready) := rfl

end Enters

namespace Operation

variable {ids : Option (SessionRef → String)} {own : Option SessionRef} {i : SessionRef}

/-! ## Tunnels -/

theorem releasePorts_enters (ports : List Port) : EntersOnly ids own (releasePorts ports) := by
  induction ports with
  | nil => exact rfl
  | cons port rest ih => exact .after (.aside fun _ => ⟨rfl, rfl, rfl⟩) fun _ => ih

theorem refresh_enters : EntersOnly ids own refresh :=
  .after (.read _) fun _ => .after (.read _) fun _ => .aside fun _ => ⟨rfl, rfl, rfl⟩

theorem resolve_enters (f : Forward) : EntersOnly ids own (resolve f) := by
  unfold resolve
  split
  · exact .pure rfl
  · refine .after (.aside fun _ => ⟨rfl, rfl, rfl⟩) fun r => ?_
    cases r with
    | error e => exact .pure rfl
    | ok port => exact .pure rfl

theorem place_enters (f : Forward) (acl : Acl) (autoAssigned : Bool) : EntersOnly ids own (place i f acl autoAssigned) := by
  refine .after (.update i _) fun r => ?_
  cases r with
  | error e => exact .pure rfl
  | ok t =>
    refine .aside fun b => ?_
    dsimp only
    split
    · exact ⟨rfl, rfl, rfl⟩
    · split
      · exact ⟨rfl, rfl, rfl⟩
      · exact ⟨rfl, rfl, rfl⟩

theorem attempt_enters (acl : Acl) (f : Forward) (taken : Taken) : EntersOnly ids own (attempt i acl f taken) := by
  refine .after (resolve_enters f) fun r => ?_
  cases r with
  | error e => exact .pure rfl
  | ok p =>
    refine .after (place_enters p.1 acl p.2.isSome) fun r => ?_
    cases r with
    | error e => exact .pure rfl
    | ok l => exact .pure rfl

theorem fill_enters (acl : Acl) (forwards : List Forward) (taken : Taken) : EntersOnly ids own (fill i acl forwards taken) := by
  induction forwards generalizing taken with
  | nil => exact .pure rfl
  | cons f rest ih =>
    refine .after (attempt_enters acl f taken) fun r => ?_
    obtain ⟨result, taken'⟩ := r
    cases result with
    | error e => exact .pure rfl
    | ok _ => exact ih taken'

theorem openBatch_enters (forwards : List Forward) (acl : Acl) : EntersOnly ids own (openBatch i forwards acl) := by
  refine .after (.read _) fun r => ?_
  obtain ⟨connection, id⟩ := r
  cases connection with
  | none => exact .pure rfl
  | some _ =>
    refine .after refresh_enters fun r => ?_
    cases r with
    | error e => exact .pure rfl
    | ok _ =>
      refine .after (fill_enters acl forwards {}) fun r => ?_
      obtain ⟨result, taken⟩ := r
      cases result with
      | ok _ => exact .after (.update i _) fun _ => .pure rfl
      | error e =>
        refine .after (.change (fun _ => rfl) (fun _ => .same rfl) fun _ => rfl) fun _ => ?_
        exact .after (.update i _) fun _ => .pure rfl

theorem startTunnels_enters (forwards : List Forward) (acl : Acl) : EntersOnly ids own (startTunnels i forwards acl) := by
  refine .after (.locked (openBatch_enters forwards acl)) fun r => ?_
  cases r with
  | ok tunnels => exact .after (.change (fun _ => rfl) (fun _ => .same rfl) fun _ => rfl) fun _ => .pure rfl
  | error p => exact .after (releasePorts_enters p.2) fun _ => .pure rfl

/-! ## Records -/

/-- A call writes the record of the session that it is for. -/
theorem saveRecord_enters {r : SessionRecord} (h : ∀ f ∈ ids, r.id = f i) : EntersOnly ids (some i) (saveRecord r) := by
  refine .atomic (fun b => ?_) (fun b => ?_) fun b f hf => .saved i rfl fun key hkey => ?_
  · cases b.store <;> rfl
  · refine .same ?_
    cases b.store <;> rfl
  · rw [← h f hf] at hkey
    cases hstore : b.store with
    | none => rfl
    | some store =>
      unfold Broker.stored?
      rw [hstore]
      exact Store.stored?_save_of_ne hkey

theorem deleteRecord_enters (id : String) : EntersOnly ids own (deleteRecord id) := by
  refine .atomic (fun b => ?_) (fun b => ?_) fun b f _ => .deleted fun key => ?_
  · cases b.store <;> rfl
  · refine .same ?_
    cases b.store <;> rfl
  · cases hstore : b.store with
    | none => exact .inl rfl
    | some store =>
      unfold Broker.stored?
      rw [hstore]
      exact store.stored?_delete b.outside.refusal id key

/-- The record that a call takes of its session has the session's id. -/
theorem takeRecord_enters : Enters ids (fun r own' => own' = some i ∧ ∀ f ∈ ids, r.id = f i) (takeRecord i) (some i) :=
  .after (.locked (.read _)) fun _ => .learn fun _ hb => ⟨rfl, fun f hf => hb f hf i rfl⟩

theorem enter_enters : EntersOnly ids (some i) (enter i) := .change (fun _ => rfl) (fun _ => .entered i rfl rfl) fun _ => rfl

/-- A call may register the session that it is for. -/
theorem register_enters : EntersOnly ids (some i) (register i) := by
  have hpersist : EntersOnly ids (some i) (persist i) := by
    refine .after (.read _) fun r => ?_
    cases r with
    | false => exact .pure rfl
    | true =>
      refine .bind takeRecord_enters ?_
      rintro r _ ⟨rfl, hr⟩
      exact saveRecord_enters hr
  refine .after hpersist fun r => ?_
  cases r with
  | error e => exact .pure rfl
  | ok _ => exact .after enter_enters fun _ => .pure rfl

theorem unregister_enters (id : String) : EntersOnly ids own (unregister id) := by
  refine .after (.read _) fun r => ?_
  cases r with
  | error e => exact .pure rfl
  | ok _ =>
    refine .after (deleteRecord_enters id) fun r => ?_
    cases r with
    | error e => exact .pure rfl
    | ok _ => exact .after (.change (fun _ => rfl) (fun _ => .erased id rfl) fun _ => rfl) fun _ => .pure rfl

theorem unregisterAll_enters (names : List String) : EntersOnly ids own (unregisterAll names) := by
  induction names with
  | nil => exact .pure rfl
  | cons name rest ih =>
    refine .after (unregister_enters name) fun r => ?_
    rcases r with (_ | _) | _
    · exact ih
    · exact .pure rfl
    · exact .after ih fun _ => .pure rfl

/-! ## Sessions -/

theorem addSession_enters (f : Broker → Session) :
    Enters ids (fun i own' => own' = some i) (Task.atomic fun b => b.addSession (f b)) own := by
  intro b _
  have hlength : (b.addSession (f b)).2.sessions.length = b.sessions.length + 1 := List.length_append
  have hown : ownAfter own b (b.addSession (f b)).2 = some b.sessions.length := by
    unfold ownAfter
    rw [hlength, if_pos (Nat.lt_succ_self _)]
  rw [hown, hlength]
  exact ⟨Nat.le_succ _, .same rfl, fun _ _ => .same rfl, rfl⟩

theorem haltTunnels_enters : EntersOnly ids own (haltTunnels i) :=
  .after (.locked (.update i _)) fun ports => releasePorts_enters ports

theorem startSession_enters (id : String) (connection : ConnectionRef) (request : ConnectionRequest) (user : Option User)
    (cancelled : Bool) : Enters ids (fun r own' => ∀ i, r = .ok i → own' = some i)
      (startSession id connection request user cancelled) own := by
  refine .bind (addSession_enters _) ?_
  rintro i _ rfl
  refine .after (startTunnels_enters request.forwards {}) fun r => ?_
  cases r with
  | error e => exact .pure nofun
  | ok _ =>
    refine .after register_enters fun r => ?_
    cases r with
    | ok _ => exact .pure fun j hj => congrArg some (Except.ok.inj hj)
    | error e => exact .after haltTunnels_enters fun _ => .pure nofun

theorem openTunnels_enters (forwards : List Forward) (acl : Acl) : EntersOnly ids (some i) (openTunnels i forwards acl) := by
  refine .locked (.after (startTunnels_enters forwards acl) fun r => ?_)
  cases r with
  | error e => exact .pure rfl
  | ok tunnels =>
    refine .after register_enters fun r => ?_
    cases r with
    | error e => exact .pure rfl
    | ok _ => exact .pure rfl

theorem closeTunnel_enters (tunnel : String) : EntersOnly ids (some i) (closeTunnel i tunnel) := by
  refine .locked (.after (.read _) fun r => ?_)
  obtain ⟨active, id⟩ := r
  cases active with
  | false => exact .pure rfl
  | true =>
    refine .after (.locked (.update i _)) fun removed => ?_
    cases removed with
    | none => exact .pure rfl
    | some t => exact .after (releasePorts_enters _) fun _ => .after register_enters fun _ => .pure rfl

theorem terminate_enters : EntersOnly ids (some i) (terminate i) := by
  refine .locked (.after (.read _) fun moment => .after (.locked (.update i _)) fun ports =>
    .after (releasePorts_enters ports) fun _ => .after (.update i _) fun _ => .after (.read _) fun keep => ?_)
  cases keep with
  | none => exact .after (.read _) fun id => .after (unregister_enters id) fun _ => .pure rfl
  | some _ => exact .after register_enters fun _ => .pure rfl

theorem forget_enters (id : String) : EntersOnly ids own (forget id) := by
  refine .after (.read _) fun r => ?_
  cases r with
  | error e => exact .pure rfl
  | ok i =>
    refine .after (.read _) fun active => ?_
    cases active with
    | true => exact .pure rfl
    | false => exact .after (unregister_enters id) fun _ => .pure rfl

theorem deleteObsolete_enters : EntersOnly ids own deleteObsolete := by
  refine .after (.read _) fun keep => ?_
  cases keep with
  | none => exact .pure rfl
  | some keep =>
    have hdelete : EntersOnly ids own (deleteLostFor keep) := by
      refine .after (.read _) fun now => ?_
      split
      · exact .pure rfl
      · exact .after (.read _) fun names => unregisterAll_enters names
    exact .after hdelete fun _ => .pure rfl

theorem handle_enters (id : String) (connection : ConnectionRef) (request : ConnectionRequest) (user : Option User)
    (cancelled : Bool) : Enters ids (fun _ _ => True) (handle id connection request user cancelled) own := by
  have hclose (own : Option SessionRef) (reason : String) : EntersOnly ids own (closeConnection connection reason) :=
    .change (fun _ => rfl) (fun _ => .same rfl) fun _ => rfl
  refine .bind (startSession_enters id connection request user cancelled) ?_
  intro r own' hown
  cases r with
  | error e => exact .after (hclose _ _) fun _ => .pure trivial
  | ok i =>
    obtain rfl := hown i rfl
    refine .after (.waitFor _) fun _ => .after (.read _) fun closed => ?_
    cases closed with
    | true => exact .after terminate_enters fun _ => .pure trivial
    | false => exact .after (hclose _ _) fun _ => .after terminate_enters fun _ => .pure trivial

theorem restoreRecords_enters (records : List SessionRecord) : Enters ids (fun _ _ => True) (restoreRecords records) own := by
  induction records generalizing own with
  | nil => exact .pure trivial
  | cons r rest ih =>
    have hrecord : Enters ids (fun _ _ => True) (restoreRecord r) own := by
      refine .bind (addSession_enters _) ?_
      rintro i _ rfl
      split
      · exact .after enter_enters fun _ => .pure trivial
      · refine .bind takeRecord_enters ?_
        rintro r _ ⟨rfl, hr⟩
        refine .after (saveRecord_enters hr) fun result => ?_
        cases result with
        | error e => exact .pure trivial
        | ok _ => exact .after enter_enters fun _ => .pure trivial
    refine .bind hrecord fun result own' _ => ?_
    cases result with
    | error e => exact .pure trivial
    | ok _ => exact ih

theorem restore_enters : Enters ids (fun _ _ => True) restore own := by
  refine .after (.read _) fun r => ?_
  obtain ⟨store, refusal⟩ := r
  cases store with
  | none => exact .pure trivial
  | some store =>
    dsimp only
    split
    · exact .pure trivial
    · refine .bind (restoreRecords_enters _) fun result own' _ => ?_
      cases result with
      | error e => exact .pure trivial
      | ok _ => exact .pure trivial

end Operation

/-- A call enters no session but the one that it is for, and writes no other record. -/
theorem Request.enters (r : Request) (ids : Option (SessionRef → String)) :
    Enters ids (fun _ _ => True) r.operation r.session? := by
  cases r with
  | command c =>
    cases c with
    | start id connection request user cancelled =>
      exact .bind (Operation.startSession_enters id connection request user cancelled) fun _ _ _ => .pure trivial
    | startTunnels i forwards acl => exact .after (Operation.startTunnels_enters forwards acl) fun _ => .pure trivial
    | openTunnels i forwards acl => exact .after (Operation.openTunnels_enters forwards acl) fun _ => .pure trivial
    | closeTunnel i tunnel => exact (Operation.closeTunnel_enters tunnel).mono fun _ _ _ => trivial
    | terminate i => exact Operation.terminate_enters.mono fun _ _ _ => trivial
    | cancel i => exact .after (.update i _) fun _ => .pure trivial
    | forget id => exact (Operation.forget_enters id).mono fun _ _ _ => trivial
    | deleteObsolete => exact .after Operation.deleteObsolete_enters fun _ => .pure trivial
  | handle id connection request user cancelled => exact Operation.handle_enters id connection request user cancelled

/-! ## The registry of a broker -/

/-- The ids ascend, and each stands for a session that is there. -/
structure Broker.Catalogued (b : Broker) : Prop where
  sorted : b.registry.IsSorted
  present : ∀ id i, b.registry.find? id = some i → i < b.sessions.length

variable {b b' : Broker} {own : Option SessionRef}

theorem present_ownAfter (hlength : b.sessions.length ≤ b'.sessions.length)
    (hown : ∀ i, own = some i → i < b.sessions.length) :
    ∀ i, ownAfter own b b' = some i → i < b'.sessions.length := by
  intro i hi
  unfold ownAfter at hi
  split at hi
  · rename_i hlt
    rw [← Option.some.inj hi]
    exact hlt
  · exact Nat.lt_of_lt_of_le (hown i hi) hlength

theorem Registered.catalogued (h : Registered own b b') (hb : b.Catalogued)
    (hlength : b.sessions.length ≤ b'.sessions.length) (hown : ∀ i, own = some i → i < b'.sessions.length) :
    b'.Catalogued := by
  have hpresent : ∀ id i, b.registry.find? id = some i → i < b'.sessions.length :=
    fun id i hi => Nat.lt_of_lt_of_le (hb.present id i hi) hlength
  cases h with
  | same h => exact ⟨by rw [h]; exact hb.sorted, by rw [h]; exact hpresent⟩
  | erased id h =>
    refine ⟨by rw [h]; exact hb.sorted.erase id, ?_⟩
    rw [h]
    exact fun key i hi => hpresent key i (Table.erase_isPart _ id key i hi)
  | entered i hi h =>
    refine ⟨by rw [h]; exact hb.sorted.insert _ _, ?_⟩
    rw [h]
    intro key j hj
    by_cases hkey : key = (b'.session i).id
    · subst hkey
      rw [Table.find?_insert_self] at hj
      rw [← Option.some.inj hj]
      exact hown i hi
    · rw [Table.find?_insert_of_ne _ _ hkey] at hj
      exact hpresent key j hj

/-- A session that becomes known is the own one of the operation, and becomes known under its id. -/
theorem Registered.entered_by (h : Registered own b b') {id : String} {i : SessionRef}
    (hbefore : b.registry.find? id ≠ some i) (hafter : b'.registry.find? id = some i) :
    own = some i ∧ (b'.session i).id = id := by
  cases h with
  | same h =>
    rw [h] at hafter
    exact absurd hafter hbefore
  | erased key h =>
    rw [h] at hafter
    exact absurd (Table.erase_isPart _ key id i hafter) hbefore
  | entered j hj h =>
    rw [h] at hafter
    by_cases hid : id = (b'.session j).id
    · subst hid
      rw [Table.find?_insert_self] at hafter
      obtain rfl := Option.some.inj hafter
      exact ⟨hj, rfl⟩
    · rw [Table.find?_insert_of_ne _ _ hid] at hafter
      exact absurd hafter hbefore

/-- What was not stored under the id before the step is the record of the operation's own session. -/
theorem Filed.saved_by {ids : SessionRef → String} {own : Option SessionRef} {b b' : Broker} {id : String}
    {entry : SessionRecord ⊕ Row} (h : Filed ids own b b') (hbefore : b.stored? id ≠ some entry)
    (hafter : b'.stored? id = some entry) : ∃ i, own = some i ∧ ids i = id := by
  cases h with
  | same h =>
    unfold Broker.stored? at hbefore hafter
    rw [h] at hafter
    exact absurd hafter hbefore
  | deleted h =>
    rcases h id with hsame | hnone
    · exact absurd (hsame.symm.trans hafter) hbefore
    · rw [hnone] at hafter
      cases hafter
  | saved i hi h =>
    refine ⟨i, hi, ?_⟩
    by_contra hid
    exact hbefore ((h id (Ne.symm hid)).symm.trans hafter)

theorem Enters.run {α : Type} {t : Operation α} {post : α → Option SessionRef → Prop} (h : Enters none post t own)
    (hb : b.Catalogued) (hown : ∀ i, own = some i → i < b.sessions.length) : (t.run b).2.Catalogued := by
  induction t generalizing b own with
  | done a => exact hb
  | act change next ih =>
    obtain ⟨hlength, hregistered, -, hrest⟩ := h b (b.names_none own)
    have hown' := present_ownAfter hlength hown
    exact ih b hrest (hregistered.catalogued hb hlength hown') hown'
  | await ready next ih => exact ih h hb hown
  | acquire lock next ih => exact ih h hb hown
  | release lock next ih => exact ih h hb hown

theorem Setup.boot_catalogued (setup : Setup) : setup.boot.Catalogued :=
  (@Operation.restore_enters none none).run ⟨.nil, nofun⟩ nofun

/-! ## All calls together -/

/-- The step of a call enters the session that the call is for, if any, and writes its record. -/
theorem Call.step_enters {ids : Option (SessionRef → String)} {x : Call}
    (h : Enters ids (fun _ _ => True) x.rest x.session?) (isHeld : Lock → Bool) {b : Broker} (hb : b.Names ids x.session?) :
    let p := x.step isHeld b
    b.sessions.length ≤ p.2.sessions.length ∧ Registered p.1.session? b p.2 ∧ (∀ f ∈ ids, Filed f p.1.session? b p.2) ∧
      Enters ids (fun _ _ => True) p.1.rest p.1.session? ∧ p.1.session? = ownAfter x.session? b p.2 := by
  have hidle : x.session? = ownAfter x.session? b b := (ownAfter_of_length rfl _).symm
  rcases x.step_cases isHeld b with he | ⟨change, next, hrest, he⟩ | ⟨ready, next, hrest, he⟩ |
    ⟨lock, next, hrest, -, he⟩ | ⟨lock, next, hrest, he⟩
  · rw [he]
    exact ⟨Nat.le_refl _, .same rfl, fun _ _ => .same rfl, h, hidle⟩
  · rw [hrest] at h
    rw [he]
    obtain ⟨hlength, hregistered, hfiled, hnext⟩ := h b hb
    exact ⟨hlength, hregistered, hfiled, hnext, rfl⟩
  · rw [hrest] at h
    rw [he]
    exact ⟨Nat.le_refl _, .same rfl, fun _ _ => .same rfl, h, hidle⟩
  · rw [hrest] at h
    rw [he]
    exact ⟨Nat.le_refl _, .same rfl, fun _ _ => .same rfl, h, hidle⟩
  · rw [hrest] at h
    rw [he]
    exact ⟨Nat.le_refl _, .same rfl, fun _ _ => .same rfl, h, hidle⟩

namespace Service

variable {h : Service} {turn : Turn}

/-- The registry is in order, and every call enters only the session that it is for, which is there. -/
structure Ordered (h : Service) : Prop where
  catalogued : h.broker.Catalogued
  enters : ∀ x ∈ h.calls, Enters none (fun _ _ => True) x.rest x.session?
  present : ∀ x ∈ h.calls, ∀ i, x.session? = some i → i < h.broker.sessions.length

theorem ordered_boot (setup : Setup) : (boot setup).Ordered := ⟨setup.boot_catalogued, nofun, nofun⟩

namespace Ordered

/-- What changes neither the sessions nor the registry keeps the order. -/
theorem congr (ho : h.Ordered) {b' : Broker} (hsessions : b'.sessions = h.broker.sessions)
    (hregistry : b'.registry = h.broker.registry) : ({ h with broker := b' } : Service).Ordered where
  catalogued := ⟨by rw [hregistry]; exact ho.catalogued.sorted, by rw [hregistry, hsessions]; exact ho.catalogued.present⟩
  enters := ho.enters
  present := by rw [hsessions]; exact ho.present

theorem go (ho : h.Ordered) (k : Nat) : (h.step (.go k)).Ordered := by
  cases hx : h.calls[k]? with
  | none =>
    rw [step_go_none hx]
    exact ho
  | some x =>
    have hmem := List.mem_of_getElem? hx
    obtain ⟨hlength, hregistered, -, henters, hown⟩ := Call.step_enters (ho.enters x hmem) h.isHeld (h.broker.names_none _)
    have hpresent := present_ownAfter hlength (ho.present x hmem)
    rw [← hown] at hpresent
    rw [step_go hx]
    refine ⟨hregistered.catalogued ho.catalogued hlength hpresent, ?_, ?_⟩
    · intro y hy
      rcases List.mem_or_eq_of_mem_set hy with hy | rfl
      · exact ho.enters y hy
      · exact henters
    · intro y hy i hi
      rcases List.mem_or_eq_of_mem_set hy with hy | rfl
      · exact Nat.lt_of_lt_of_le (ho.present y hy i hi) hlength
      · exact hpresent i hi

theorem step (ho : h.Ordered) (turn : Turn) : (h.step turn).Ordered := by
  cases turn with
  | outside o => exact ho.congr rfl rfl
  | arrival c => exact ho.congr rfl rfl
  | hangUp connection reason => exact ho.congr rfl rfl
  | settling => exact ho.congr rfl rfl
  | call r =>
    rw [step_call]
    split
    · rename_i hpossible
      refine ⟨ho.catalogued, ?_, ?_⟩
      · intro x hx
        rcases List.mem_append.mp hx with hx | hx
        · exact ho.enters x hx
        · rw [List.mem_singleton.mp hx]
          exact r.enters none
      · intro x hx i hi
        rcases List.mem_append.mp hx with hx | hx
        · exact ho.present x hx i hi
        · rw [List.mem_singleton.mp hx] at hi
          have hi' : r.session? = some i := hi
          unfold Request.isPossible at hpossible
          rw [hi'] at hpossible
          exact of_decide_eq_true hpossible
    · exact ho
  | go k => exact ho.go k

theorem after (ho : h.Ordered) (turns : List Turn) : (h.after turns).Ordered := by
  induction turns generalizing h with
  | nil => exact ho
  | cons turn rest ih => exact ih (ho.step turn)

/-- A session becomes known by the step of a call for it, under its own id. -/
theorem entered_by (ho : h.Ordered) {id : String} {i : SessionRef} (hbefore : h.broker.registry.find? id ≠ some i)
    (hafter : (h.step turn).broker.registry.find? id = some i) :
    ((h.step turn).broker.session i).id = id ∧
      ∃ k x, turn = .go k ∧ (h.step turn).calls[k]? = some x ∧ x.session? = some i := by
  cases turn with
  | outside o => exact absurd hafter hbefore
  | arrival c => exact absurd hafter hbefore
  | hangUp connection reason => exact absurd hafter hbefore
  | settling => exact absurd hafter hbefore
  | call r =>
    rw [step_call] at hafter
    split at hafter
    · exact absurd hafter hbefore
    · exact absurd hafter hbefore
  | go k =>
    cases hx : h.calls[k]? with
    | none =>
      rw [step_go_none hx] at hafter
      exact absurd hafter hbefore
    | some x =>
      obtain ⟨hlt, -⟩ := List.getElem?_eq_some_iff.mp hx
      obtain ⟨-, hregistered, -⟩ :=
        Call.step_enters (ho.enters x (List.mem_of_getElem? hx)) h.isHeld (h.broker.names_none _)
      rw [step_go hx] at hafter ⊢
      obtain ⟨hown, hid⟩ := hregistered.entered_by hbefore hafter
      exact ⟨hid, k, _, rfl, List.getElem?_set_self hlt, hown⟩

end Ordered

end Service

end TunnelBroker
