/-
  TunnelBroker.Proofs.Bindings — the local sides of a session's tunnels.

  A session opens a tunnel only where its local side conflicts with none that is open. Two local sides conflict if
  their ports are equal, and their addresses are, or one of them stands for all interfaces. That is no equivalence: two
  addresses may both conflict with a third and not with each other. So a session cannot keep a table of what is taken;
  it looks at every tunnel that is open, whatever has become of the others.

  - `Forward.Conflicts`: the relation, and `collides_iff`: the comparison that is made decides it.
  - `Session.Change`: what can be done with a session, in any order; `Session.after`.
  - `bound_apply`: what one change does to the local sides of open tunnels.
  - `Separate`: what holds of them at any time; `Separate.apply`, `Separate.after`.
  - `bindings_never_conflict`: all of this for sessions of clients and for restored ones, and what a start answers.
-/

import TunnelBroker.Proofs.Leases

namespace TunnelBroker

open TunnelBroker.Net (Endpoint)
open TunnelBroker.Time (Timestamp)
open scoped List

/-! ## Conflicts -/

namespace Forward

/-- The local sides cannot both be listened on: same port, and the same address or all of them. -/
def Conflicts (f g : Forward) : Prop :=
  ∃ a b : Endpoint, f.localEndpoint = .ok a ∧ g.localEndpoint = .ok b ∧ a.port = b.port ∧
    (a.ip = b.ip ∨ a.ip.isUnspecified ∨ b.ip.isUnspecified)

theorem Conflicts.symm {f g : Forward} (h : f.Conflicts g) : g.Conflicts f := by
  obtain ⟨a, b, ha, hb, hport, hip⟩ := h
  refine ⟨b, a, hb, ha, hport.symm, ?_⟩
  rcases hip with hip | hip | hip
  · exact .inl hip.symm
  · exact .inr (.inr hip)
  · exact .inr (.inl hip)

/-- The endpoint of a forward that has one. -/
theorem localEndpoint_ok {f : Forward} {e : Endpoint} (h : f.localEndpoint = .ok e) :
    f.localPort = some e.port ∧ f.localIp = .ok e.ip := by
  unfold localEndpoint at h
  cases hport : f.localPort with
  | none =>
    rw [hport] at h
    cases h
  | some port =>
    cases hip : f.localIp with
    | error error =>
      rw [hport, hip] at h
      cases h
    | ok ip =>
      rw [hport, hip] at h
      cases h
      exact ⟨rfl, rfl⟩

/-- Of complete forwards, those collide that conflict. -/
theorem collides_iff {f g : Forward} (hf : f.validate = .ok ()) (hg : g.validate = .ok ()) :
    f.collides g = true ↔ f.Conflicts g := by
  obtain ⟨a, ha⟩ := f.localEndpoint_of_validate hf
  obtain ⟨b, hb⟩ := g.localEndpoint_of_validate hg
  obtain ⟨hfport, hfip⟩ := localEndpoint_ok ha
  obtain ⟨hgport, hgip⟩ := localEndpoint_ok hb
  have hcollides : f.collides g = true ↔ a.port = b.port ∧ (a.ip = b.ip ∨ a.ip.isUnspecified ∨ b.ip.isUnspecified) := by
    simp [collides, hfport, hgport, hfip, hgip, or_assoc]
  rw [hcollides]
  constructor
  · rintro ⟨hport, hip⟩
    exact ⟨a, b, ha, hb, hport, hip⟩
  · rintro ⟨a', b', ha', hb', hport, hip⟩
    obtain rfl : a = a' := Except.ok.inj (ha.symm.trans ha')
    obtain rfl : b = b' := Except.ok.inj (hb.symm.trans hb')
    exact ⟨hport, hip⟩

end Forward

/-! ## What can be done with a session -/

namespace Session

/-- One change of a session and its tunnels. -/
inductive Change where
  /-- In the batch that is under way. -/
  | start (f : Forward) (acl : Acl) (autoAssigned : Bool) (now : Timestamp)
  | commit
  | discard
  | startAlone (f : Forward) (acl : Acl) (now : Timestamp)
  | removeTunnel (id : String)
  | haltTunnel (id : String)
  | haltTunnels
  | disconnect (moment : Timestamp)
  | cancel

/-- The session after a change; one that is refused leaves it as it is. -/
def apply (s : Session) : Change → Session
  | .start f acl autoAssigned now => (s.start f acl autoAssigned now).2
  | .commit => s.commit.2
  | .discard => s.discard
  | .startAlone f acl now => (s.startAlone f acl now).2
  | .removeTunnel id => ((s.removeTunnel? id).map (·.2)).getD s
  | .haltTunnel id => s.haltTunnel id
  | .haltTunnels => s.haltTunnels.2
  | .disconnect moment => (s.disconnect moment).2
  | .cancel => s.cancel

def after (s : Session) (changes : List Change) : Session := changes.foldl apply s

/-- How a session comes to be: a client connects, or the store is read. -/
inductive IsOrigin : Session → Prop
  | connected (id : String) (connection : ConnectionRef) (address : String) (profile : Profile) (user : Option User)
      (cancelled : Bool) : IsOrigin (.connect id connection address profile user cancelled)
  | restored (now : Timestamp) (r : SessionRecord) : IsOrigin (.ofRecord now r)

/-- Every tunnel that is or was the session's has a property. -/
structure Each (P : Tunnel → Prop) (s : Session) : Prop where
  tunnels : ∀ t ∈ s.tunnels, P t
  pending : ∀ t ∈ s.pending, P t
  retired : ∀ t ∈ s.retired, P t

/-- The forwards of the tunnels that are open, the committed ones first. -/
def bound (s : Session) : List Forward := ((s.tunnels ++ s.pending).filter s.isOpen).map (·.forward)

/-- The first tunnel that is open and whose local side conflicts with that of a forward. -/
def FirstConflict (s : Session) (f : Forward) (t : Tunnel) : Prop :=
  ∃ before after, s.tunnels ++ s.pending = before ++ t :: after ∧ s.isOpen t ∧ t.forward.Conflicts f ∧
    ∀ u ∈ before, s.isOpen u → ¬u.forward.Conflicts f

/-! ### Tunnels that are open -/

section

variable {s : Session} {f : Forward} {acl : Acl} {autoAssigned : Bool} {now : Timestamp} {ts : List Tunnel}

theorem mem_bound : f ∈ s.bound ↔ ∃ t ∈ s.tunnels ++ s.pending, s.isOpen t ∧ t.forward = f := by
  simp only [bound, List.mem_map, List.mem_filter, and_assoc]

theorem bound_of_cancelled (h : s.cancelled = true) : s.bound = [] := by
  unfold bound
  rw [List.map_eq_nil_iff, List.filter_eq_nil_iff]
  intro t _
  simp [isOpen, h]

/-- Tunnels of which some are halted: no other forward is bound then. -/
theorem bound_halting {g : Tunnel → Tunnel} (hg : ∀ t, (g t).halted = true ∨ g t = t) (s : Session) (ts : List Tunnel) :
    ((ts.map g).filter s.isOpen).map (·.forward) <+ (ts.filter s.isOpen).map (·.forward) := by
  induction ts with
  | nil => exact .slnil
  | cons t rest ih =>
    rw [List.map_cons]
    rcases hg t with hhalted | hsame
    · have hshut : s.isOpen (g t) = false := by simp [isOpen, hhalted]
      rw [List.filter_cons_of_neg (by simp [hshut])]
      refine ih.trans (List.Sublist.map _ ?_)
      exact (List.sublist_cons_self t rest).filter _
    · rw [hsame]
      cases hopen : s.isOpen t with
      | true =>
        rw [List.filter_cons_of_pos hopen, List.filter_cons_of_pos hopen]
        exact ih.cons_cons _
      | false =>
        rw [List.filter_cons_of_neg (by simp [hopen]), List.filter_cons_of_neg (by simp [hopen])]
        exact ih

/-- What takes tunnels out of a session, or halts some, binds nothing. -/
theorem bound_of_halting {s' : Session} {g : Tunnel → Tunnel} (hg : ∀ t, (g t).halted = true ∨ g t = t)
    (hcancelled : s'.cancelled = s.cancelled) (htunnels : s'.tunnels = ts.map g) (hts : ts <+ s.tunnels)
    (hpending : s'.pending <+ s.pending) : s'.bound <+ s.bound := by
  have hopen : s'.isOpen = s.isOpen := by
    funext t
    simp only [isOpen, hcancelled]
  unfold bound
  rw [hopen, htunnels, List.filter_append, List.map_append, List.filter_append, List.map_append]
  exact ((bound_halting hg s ts).trans ((hts.filter _).map _)).append ((hpending.filter _).map _)

/-- A start is refused, or binds its forward in addition. -/
theorem bound_start (s : Session) (f : Forward) (acl : Acl) (autoAssigned : Bool) (now : Timestamp) :
    (s.start f acl autoAssigned now).2 = s ∨ f.validate = .ok () ∧ s.collision? f = none ∧
      (s.start f acl autoAssigned now).2 = { s with pending := s.pending ++ [s.nextTunnel f acl autoAssigned now] } ∧
      (s.start f acl autoAssigned now).2.bound <+ s.bound ++ [f] := by
  unfold start
  cases hvalid : f.validate with
  | error e => exact .inl rfl
  | ok _ =>
    cases hcollision : s.collision? f with
    | some t => exact .inl rfl
    | none =>
      refine .inr ⟨rfl, rfl, rfl, ?_⟩
      have hopen : isOpen { s with pending := s.pending ++ [s.nextTunnel f acl autoAssigned now] } = s.isOpen := rfl
      unfold bound
      rw [hopen, ← List.append_assoc, List.filter_append, List.map_append]
      refine (List.Sublist.refl _).append ?_
      exact (List.filter_sublist (l := [s.nextTunnel f acl autoAssigned now])).map (·.forward)

/-- A start alone is a batch of one. -/
theorem startAlone_cases (s : Session) (f : Forward) (acl : Acl) (now : Timestamp) :
    (s.startAlone f acl now).2 = (s.start f acl false now).2.commit.2 ∨ (s.startAlone f acl now).2 = s.discard := by
  unfold startAlone
  rcases s.start_cases f acl false now with ⟨e, hrefused⟩ | ⟨-, hstarted⟩
  · right
    rw [hrefused]
  · left
    rw [hstarted]

theorem bound_commit (s : Session) : s.commit.2.bound = s.bound := by
  have hopen : s.commit.2.isOpen = s.isOpen := rfl
  unfold bound
  rw [hopen]
  show List.map _ (List.filter _ (s.tunnels ++ s.pending ++ [])) = _
  rw [List.append_nil]

theorem bound_discard (s : Session) : s.discard.bound <+ s.bound :=
  bound_of_halting (g := fun t => t) (fun _ => .inr rfl) rfl (List.map_id' _).symm (.refl _) (List.nil_sublist _)

/-- A change binds nothing, or one forward in addition that is complete and collides with nothing that is open. -/
theorem bound_apply (s : Session) (c : Change) : (s.apply c).bound <+ s.bound ∨
    ∃ f, f.validate = .ok () ∧ s.collision? f = none ∧ (s.apply c).bound <+ s.bound ++ [f] := by
  cases c with
  | start f acl autoAssigned now =>
    rcases s.bound_start f acl autoAssigned now with hsame | ⟨hvalid, hfree, -, hbound⟩
    · exact .inl (by rw [apply, hsame])
    · exact .inr ⟨f, hvalid, hfree, hbound⟩
  | commit => exact .inl (by rw [apply, bound_commit])
  | discard => exact .inl s.bound_discard
  | startAlone f acl now =>
    rw [apply]
    rcases s.startAlone_cases f acl now with hcommit | hdiscard
    · rw [hcommit, bound_commit]
      rcases s.bound_start f acl false now with hsame | ⟨hvalid, hfree, -, hbound⟩
      · exact .inl (by rw [hsame])
      · exact .inr ⟨f, hvalid, hfree, hbound⟩
    · rw [hdiscard]
      exact .inl s.bound_discard
  | removeTunnel id =>
    left
    rw [apply]
    cases hremoved : s.removeTunnel? id with
    | none => exact .refl _
    | some p =>
      obtain ⟨k, -, hs⟩ := removeTunnel?_some hremoved
      rw [Option.map_some, Option.getD_some, hs]
      exact bound_of_halting (g := fun t => t) (fun _ => .inr rfl) rfl (List.map_id' _).symm
        (List.eraseIdx_sublist ..) (.refl _)
  | haltTunnel id =>
    refine .inl (bound_of_halting (g := fun t => if t.id = id then t.halt else t) (fun t => ?_) rfl rfl (.refl _)
      (.refl _))
    by_cases hid : t.id = id
    · exact .inl (by rw [if_pos hid]; rfl)
    · exact .inr (if_neg hid)
  | haltTunnels => exact .inl (bound_of_halting (g := Tunnel.retire) (fun _ => .inl rfl) rfl rfl (.refl _) (.refl _))
  | disconnect moment =>
    left
    rw [apply, disconnect, haltTunnels, tunnels_markDisconnected]
    unfold markDisconnected
    split
    · exact bound_of_halting (g := Tunnel.retire) (fun _ => .inl rfl) rfl rfl (.refl _) (.refl _)
    · exact bound_of_halting (g := Tunnel.retire) (fun _ => .inl rfl) rfl rfl (.refl _) (.refl _)
  | cancel =>
    left
    rw [apply, bound_of_cancelled rfl]
    exact List.nil_sublist _

/-! ### All tunnels -/

namespace Each

variable {P : Tunnel → Prop}

theorem start (h : s.Each P) (hnew : f.validate = .ok () → P (s.nextTunnel f acl autoAssigned now)) :
    (s.start f acl autoAssigned now).2.Each P := by
  rcases s.bound_start f acl autoAssigned now with hsame | ⟨hvalid, -, hstarted, -⟩
  · rw [hsame]
    exact h
  · rw [hstarted]
    refine ⟨h.tunnels, List.forall_mem_append.mpr ⟨h.pending, ?_⟩, h.retired⟩
    exact List.forall_mem_singleton.mpr (hnew hvalid)

theorem commit (h : s.Each P) : s.commit.2.Each P :=
  ⟨List.forall_mem_append.mpr ⟨h.tunnels, h.pending⟩, fun _ ht => (by cases ht), h.retired⟩

theorem discard (h : s.Each P) (hretire : ∀ t, P t → P t.retire) : s.discard.Each P := by
  refine ⟨h.tunnels, fun _ ht => (by cases ht), List.forall_mem_append.mpr ⟨h.retired, ?_⟩⟩
  exact List.forall_mem_map.mpr fun t ht => hretire t (h.pending t ht)

theorem haltTunnels (h : s.Each P) (hretire : ∀ t, P t → P t.retire) : s.haltTunnels.2.Each P :=
  ⟨List.forall_mem_map.mpr fun t ht => hretire t (h.tunnels t ht), h.pending, h.retired⟩

/-- What tunnels have when they are started, and keep when they are halted, every tunnel has after a change. -/
theorem apply (h : s.Each P) (hhalt : ∀ t, P t → P t.halt) (hretire : ∀ t, P t → P t.retire)
    (hnew : ∀ f acl autoAssigned now, f.validate = .ok () → P (s.nextTunnel f acl autoAssigned now)) (c : Change) :
    (s.apply c).Each P := by
  cases c with
  | start f acl autoAssigned now => exact h.start (hnew f acl autoAssigned now)
  | commit => exact h.commit
  | discard => exact h.discard hretire
  | startAlone f acl now =>
    rw [Session.apply]
    rcases s.startAlone_cases f acl now with hcommit | hdiscard
    · rw [hcommit]
      exact (h.start (hnew f acl false now)).commit
    · rw [hdiscard]
      exact h.discard hretire
  | removeTunnel id =>
    rw [Session.apply]
    cases hremoved : s.removeTunnel? id with
    | none => exact h
    | some p =>
      obtain ⟨k, hk, hs⟩ := removeTunnel?_some hremoved
      rw [Option.map_some, Option.getD_some, hs]
      refine ⟨fun t ht => h.tunnels t (List.mem_of_mem_eraseIdx ht), h.pending, ?_⟩
      refine List.forall_mem_append.mpr ⟨h.retired, List.forall_mem_singleton.mpr ?_⟩
      exact hretire p.1 (h.tunnels p.1 (List.mem_of_getElem? hk))
  | haltTunnel id =>
    refine ⟨List.forall_mem_map.mpr fun t ht => ?_, h.pending, h.retired⟩
    split
    · exact hhalt t (h.tunnels t ht)
    · exact h.tunnels t ht
  | haltTunnels => exact h.haltTunnels hretire
  | disconnect moment =>
    refine haltTunnels ?_ hretire
    unfold markDisconnected
    split
    · exact h
    · exact ⟨h.tunnels, h.pending, h.retired⟩
  | cancel => exact ⟨h.tunnels, h.pending, h.retired⟩

theorem after_of_started (h : s.Each P) (hhalt : ∀ t, P t → P t.halt) (hretire : ∀ t, P t → P t.retire)
    (hnew : ∀ (s : Session) f acl autoAssigned now, f.validate = .ok () → P (s.nextTunnel f acl autoAssigned now))
    (changes : List Change) : (s.after changes).Each P := by
  induction changes generalizing s with
  | nil => exact h
  | cons c rest ih => exact ih (h.apply hhalt hretire (hnew s) c)

theorem after (h : s.Each P) (hhalt : ∀ t, P t → P t.halt) (hretire : ∀ t, P t → P t.retire)
    (hnew : ∀ t, t.forward.validate = .ok () → P t) (changes : List Change) : (s.after changes).Each P :=
  h.after_of_started hhalt hretire (fun _ _ _ _ _ hvalid => hnew _ hvalid) changes

end Each

end

end Session

/-! ## What holds at any time -/

/-- The forwards of open tunnels are complete, and none of them conflicts with another. -/
structure Session.Separate (s : Session) : Prop where
  valid : ∀ f ∈ s.bound, f.validate = .ok ()
  apart : s.bound.Pairwise fun f g => ¬f.Conflicts g

namespace Session

variable {s origin : Session} {f : Forward}

theorem IsOrigin.bound (h : origin.IsOrigin) : origin.bound = [] := by
  cases h with
  | connected _ _ _ _ _ _ => rfl
  | restored now r => exact bound_of_cancelled rfl

/-- The tunnels of the past are halted already. -/
theorem IsOrigin.retired (h : origin.IsOrigin) : ∀ t ∈ origin.tunnels, t.halt = t ∧ t.retire = t := by
  cases h with
  | connected _ _ _ _ _ _ => exact fun t ht => by cases ht
  | restored now r =>
    intro t ht
    obtain ⟨t₀, -, rfl⟩ := List.mem_map.mp ht
    exact ⟨rfl, rfl⟩

/-- Where open tunnels are complete, nothing open collides with a complete forward if nothing open conflicts with it. -/
theorem Separate.collides_iff (h : s.Separate) (hf : f.validate = .ok ()) {t : Tunnel}
    (ht : t ∈ s.tunnels ++ s.pending) (hopen : s.isOpen t) : t.forward.collides f = true ↔ t.forward.Conflicts f :=
  Forward.collides_iff (h.valid _ (mem_bound.mpr ⟨t, ht, hopen, rfl⟩)) hf

theorem collision?_eq_none (h : s.Separate) (hf : f.validate = .ok ()) :
    s.collision? f = none ↔ ∀ t ∈ s.tunnels ++ s.pending, s.isOpen t → ¬t.forward.Conflicts f := by
  unfold collision?
  rw [List.find?_eq_none]
  refine forall₂_congr fun t ht => ?_
  rw [Bool.and_eq_true, not_and]
  exact forall_congr' fun hopen => not_congr (h.collides_iff hf ht hopen)

theorem collision?_eq_some (h : s.Separate) (hf : f.validate = .ok ()) (t : Tunnel) :
    s.collision? f = some t ↔ s.FirstConflict f t := by
  unfold collision?
  rw [List.find?_eq_some_iff_append, Bool.and_eq_true]
  constructor
  · rintro ⟨⟨hopen, hcollides⟩, before, after, hsplit, hbefore⟩
    have hmem (u : Tunnel) (hu : u ∈ before ++ t :: after) : u ∈ s.tunnels ++ s.pending := hsplit ▸ hu
    refine ⟨before, after, hsplit, hopen, ?_, fun u hu huopen hconflicts => ?_⟩
    · exact (h.collides_iff hf (hmem t (List.mem_append_right _ (List.mem_cons_self ..))) hopen).mp hcollides
    · have hcollides := (h.collides_iff hf (hmem u (List.mem_append_left _ hu)) huopen).mpr hconflicts
      have hno := hbefore u hu
      simp [huopen, hcollides] at hno
  · rintro ⟨before, after, hsplit, hopen, hconflicts, hbefore⟩
    have hmem (u : Tunnel) (hu : u ∈ before ++ t :: after) : u ∈ s.tunnels ++ s.pending := hsplit ▸ hu
    refine ⟨⟨hopen, ?_⟩, before, after, hsplit, fun u hu => ?_⟩
    · exact (h.collides_iff hf (hmem t (List.mem_append_right _ (List.mem_cons_self ..))) hopen).mpr hconflicts
    · cases huopen : s.isOpen u with
      | false => rfl
      | true =>
        have hiff := h.collides_iff hf (hmem u (List.mem_append_left _ hu)) huopen
        have hno : u.forward.collides f = false := Bool.eq_false_iff.mpr fun hc => hbefore u hu huopen (hiff.mp hc)
        rw [hno]
        rfl

theorem Separate.apply (h : s.Separate) (c : Change) : (s.apply c).Separate := by
  rcases s.bound_apply c with hbound | ⟨f, hvalid, hfree, hbound⟩
  · exact ⟨fun f hf => h.valid f (hbound.subset hf), h.apart.sublist hbound⟩
  · have hnone := (collision?_eq_none h hvalid).mp hfree
    constructor
    · intro g hg
      rcases List.mem_append.mp (hbound.subset hg) with hg | hg
      · exact h.valid g hg
      · rw [List.mem_singleton.mp hg]
        exact hvalid
    · refine List.Pairwise.sublist hbound (List.pairwise_append.mpr ⟨h.apart, List.pairwise_singleton _ _, ?_⟩)
      intro g hg f' hf'
      obtain rfl := List.mem_singleton.mp hf'
      obtain ⟨t, ht, hopen, rfl⟩ := mem_bound.mp hg
      exact hnone t ht hopen

/-- Whatever is done with a session, its open tunnels never conflict. -/
theorem Separate.after (h : s.Separate) (changes : List Change) : (s.after changes).Separate := by
  induction changes generalizing s with
  | nil => exact h
  | cons c rest ih => exact ih (h.apply c)

/-- What a start in the batch under way answers, and what it leaves. -/
structure Answers (s : Session) (f : Forward) (acl : Acl) (autoAssigned : Bool) (now : Timestamp) : Prop where
  incomplete : ∀ spec reason, (s.start f acl autoAssigned now).1 = .error (.invalidSpec spec reason) ↔
    ∃ e, f.validate = .error e ∧ spec = f.text ∧ reason = e.message
  conflicting : ∀ endpoint id, (s.start f acl autoAssigned now).1 = .error (.duplicateBinding endpoint id) ↔
    f.validate = .ok () ∧ endpoint = f.localText ∧ ∃ t, s.FirstConflict f t ∧ t.id = id
  accepted : ∀ t, (s.start f acl autoAssigned now).1 = .ok t ↔ f.validate = .ok () ∧
    (∀ u ∈ s.tunnels ++ s.pending, s.isOpen u → ¬u.forward.Conflicts f) ∧ t = s.nextTunnel f acl autoAssigned now
  refused : ∀ e, (s.start f acl autoAssigned now).1 = .error e → (s.start f acl autoAssigned now).2 = s
  started : ∀ t, (s.start f acl autoAssigned now).1 = .ok t →
    (s.start f acl autoAssigned now).2 = { s with pending := s.pending ++ [t] }

section

variable {acl : Acl} {autoAssigned : Bool} {now : Timestamp} {t : Tunnel}

theorem answers_of_incomplete {e : ForwardError} (hf : f.validate = .error e) : s.Answers f acl autoAssigned now := by
  have hrun : s.start f acl autoAssigned now = (.error (.ofForward f e), s) := by simp only [start, hf]
  have hnot : f.validate ≠ .ok () := by simp [hf]
  constructor <;> rw [hrun]
  · intro spec reason
    constructor
    · intro heq
      cases heq
      exact ⟨e, hf, rfl, rfl⟩
    · rintro ⟨e', he', rfl, rfl⟩
      obtain rfl : e = e' := Except.error.inj (hf.symm.trans he')
      rfl
  · exact fun _ _ => ⟨fun heq => (by cases heq), fun hok => absurd hok.1 hnot⟩
  · exact fun _ => ⟨fun heq => (by cases heq), fun hok => absurd hok.1 hnot⟩
  · exact fun _ _ => rfl
  · exact fun _ heq => by cases heq

/-- What is found to collide is the first conflict, and the only one that is first. -/
theorem Separate.answers_of_conflict (h : s.Separate) (hf : f.validate = .ok ()) (ht : s.collision? f = some t) :
    s.Answers f acl autoAssigned now := by
  have hrun : s.start f acl autoAssigned now = (.error (.duplicateBinding f.localText t.id), s) := by
    simp only [start, hf, ht]
  have hnot (e : ForwardError) : f.validate ≠ .error e := by simp [hf]
  constructor <;> rw [hrun]
  · exact fun _ _ => ⟨fun heq => (by cases heq), fun herror => herror.elim fun e he => absurd he.1 (hnot e)⟩
  · intro endpoint id
    constructor
    · intro heq
      cases heq
      exact ⟨hf, rfl, t, (collision?_eq_some h hf t).mp ht, rfl⟩
    · rintro ⟨-, rfl, t', ht', rfl⟩
      rw [(collision?_eq_some h hf t').mpr ht'] at ht
      rw [Option.some.inj ht]
  · refine fun _ => ⟨fun heq => (by cases heq), fun hok => ?_⟩
    rw [(collision?_eq_none h hf).mpr hok.2.1] at ht
    cases ht
  · exact fun _ _ => rfl
  · exact fun _ heq => by cases heq

theorem Separate.answers_of_free (h : s.Separate) (hf : f.validate = .ok ()) (hfree : s.collision? f = none) :
    s.Answers f acl autoAssigned now := by
  have hrun : s.start f acl autoAssigned now = (.ok (s.nextTunnel f acl autoAssigned now),
      { s with pending := s.pending ++ [s.nextTunnel f acl autoAssigned now] }) := by
    simp only [start, hf, hfree]
  have hnot (e : ForwardError) : f.validate ≠ .error e := by simp [hf]
  constructor <;> rw [hrun]
  · exact fun _ _ => ⟨fun heq => (by cases heq), fun herror => herror.elim fun e he => absurd he.1 (hnot e)⟩
  · refine fun _ _ => ⟨fun heq => (by cases heq), ?_⟩
    rintro ⟨-, -, t, ht, -⟩
    rw [(collision?_eq_some h hf t).mpr ht] at hfree
    cases hfree
  · intro t
    constructor
    · exact fun heq => ⟨hf, (collision?_eq_none h hf).mp hfree, (Except.ok.inj heq).symm⟩
    · rintro ⟨-, -, rfl⟩
      rfl
  · exact fun _ heq => by cases heq
  · intro t heq
    rw [← Except.ok.inj heq]

theorem Separate.answers (h : s.Separate) (f : Forward) (acl : Acl) (autoAssigned : Bool) (now : Timestamp) :
    s.Answers f acl autoAssigned now := by
  cases hf : f.validate with
  | error e => exact answers_of_incomplete hf
  | ok _ =>
    cases hcollision : s.collision? f with
    | some t => exact h.answers_of_conflict hf hcollision
    | none => exact h.answers_of_free hf hcollision

end

end Session

/-- Whatever is done with a session, of a client or of the past, in any order: every tunnel that it has started has a
complete forward, and no two of its open tunnels conflict. A start is refused because of its forward if that is not
complete, else because of the first open tunnel that it conflicts with, if there is one, and else it goes well. Tunnels
that are halted are in nobody's way. -/
theorem bindings_never_conflict {origin : Session} (h : origin.IsOrigin) (changes : List Session.Change) :
    let s := origin.after changes
    (∀ t ∈ s.tunnels ++ s.pending ++ s.retired, t ∈ origin.tunnels ∨ t.forward.validate = .ok ()) ∧
      (s.tunnels ++ s.pending).Pairwise (fun t u => s.isOpen t → s.isOpen u → ¬t.forward.Conflicts u.forward) ∧
      (∀ f g : Forward, f.validate = .ok () → g.validate = .ok () → (f.collides g = true ↔ f.Conflicts g)) ∧
      (∀ f g : Forward, f.Conflicts g ↔ g.Conflicts f) ∧
      ∀ f acl autoAssigned now, s.Answers f acl autoAssigned now := by
  intro s
  have hseparate : s.Separate := by
    refine Session.Separate.after ⟨?_, ?_⟩ changes
    · rw [h.bound]
      exact fun _ hf => by cases hf
    · rw [h.bound]
      exact .nil
  -- Halting a tunnel of the past changes nothing.
  have hkept {g : Tunnel → Tunnel} (hg : ∀ t ∈ origin.tunnels, g t = t) (hforward : ∀ t, (g t).forward = t.forward)
      (t : Tunnel) (ht : t ∈ origin.tunnels ∨ t.forward.validate = .ok ()) :
      g t ∈ origin.tunnels ∨ (g t).forward.validate = .ok () := by
    rcases ht with ht | hvalid
    · exact .inl (by rw [hg t ht]; exact ht)
    · exact .inr (by rw [hforward]; exact hvalid)
  have heach : s.Each fun t => t ∈ origin.tunnels ∨ t.forward.validate = .ok () := by
    refine Session.Each.after ⟨fun t ht => .inl ht, ?_, ?_⟩ (hkept (fun t ht => (h.retired t ht).1) fun _ => rfl)
      (hkept (fun t ht => (h.retired t ht).2) fun _ => rfl) (fun _ hvalid => .inr hvalid) changes
    · cases h <;> exact fun _ ht => by cases ht
    · cases h <;> exact fun _ ht => by cases ht
  refine ⟨?_, ?_, fun f g => Forward.collides_iff, fun f g => ⟨.symm, .symm⟩, hseparate.answers⟩
  · exact List.forall_mem_append.mpr ⟨List.forall_mem_append.mpr ⟨heach.tunnels, heach.pending⟩, heach.retired⟩
  · exact List.pairwise_filter.mp (List.pairwise_map.mp hseparate.apart)

/-- Two addresses of one port are no conflict, and all interfaces conflict with both: first with the one that was opened
first, then, when that is halted, with the other, and when that is taken out with none. -/
theorem all_interfaces_wait_for_both :
    let forward (host : String) : Forward := ⟨some host, some 8080, "web", 80⟩
    let origin := Session.connect "a" 0 "198.51.100.4:40000" {} none false
    let opened : List Session.Change :=
      [.startAlone (forward "127.0.0.1") {} .epoch, .startAlone (forward "127.0.0.2") {} .epoch]
    let s := origin.after opened
    let s' := origin.after (opened ++ [.haltTunnel "1"])
    let s'' := origin.after (opened ++ [.haltTunnel "1", .removeTunnel "2"])
    s.bound = [forward "127.0.0.1", forward "127.0.0.2"] ∧
      (∃ t, s.FirstConflict (forward "[::]") t ∧ t.id = "1") ∧ (∃ t, s'.FirstConflict (forward "[::]") t ∧ t.id = "2") ∧
      ∀ u ∈ s''.tunnels ++ s''.pending, s''.isOpen u → ¬u.forward.Conflicts (forward "[::]") := by
  intro forward origin opened s s' s''
  have horigin : origin.IsOrigin := .connected ..
  have hanswers (changes : List Session.Change) : (origin.after changes).Answers (forward "[::]") {} false .epoch :=
    (bindings_never_conflict horigin changes).2.2.2.2 _ _ _ _
  have hs : s.Answers (forward "[::]") {} false .epoch := hanswers opened
  have hs' : s'.Answers (forward "[::]") {} false .epoch := hanswers _
  have hs'' : s''.Answers (forward "[::]") {} false .epoch := hanswers _
  have hbound : s.bound = [forward "127.0.0.1", forward "127.0.0.2"] := by decide +kernel
  have hfirst : (s.start (forward "[::]") {} false .epoch).1 = .error (.duplicateBinding "[::]:8080" "1") := by
    decide +kernel
  have hsecond : (s'.start (forward "[::]") {} false .epoch).1 = .error (.duplicateBinding "[::]:8080" "2") := by
    decide +kernel
  have hfree : (s''.start (forward "[::]") {} false .epoch).1 =
      .ok (s''.nextTunnel (forward "[::]") {} false .epoch) := by decide +kernel
  -- the kernel has made the changes: nothing below looks into the sessions again
  clear_value s s' s''
  refine ⟨hbound, ?_, ?_, ?_⟩
  · exact ((hs.conflicting _ _).mp hfirst).2.2
  · exact ((hs'.conflicting _ _).mp hsecond).2.2
  · exact ((hs''.accepted _).mp hfree).2.1

end TunnelBroker
