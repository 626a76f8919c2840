/-
  TunnelBroker.Proofs.Takeover — what is removed when lost sessions are forgotten.

  Whoever forgets lost sessions looks at a session first, and removes whatever is known under its id some steps later.
  The session is still lost then, but the id may have gone to another one.

  - `Cautious`: an operation that removes only ids under which it has seen a lost session.
  - `Service.findings`: what a call may have seen since it was made, and what is still so.
  - `removed_was_seen_lost`: a live session is removed only if it has taken the id after the call had looked.
-/

import TunnelBroker.Proofs.Absorption
import TunnelBroker.Proofs.Catalog
import TunnelBroker.Proofs.Filing

namespace TunnelBroker

open TunnelBroker.Store (Table)
open TunnelBroker.Time (Duration Timestamp)

/-! ## What is removed -/

namespace Broker

/-- There is a record under the id. -/
def keeps (b : Broker) (id : String) : Bool := b.store.any (·.contains id)

/-- Something was known under the id and is not in `b'`, or there was a record and is none in `b'`. -/
def Drops (b b' : Broker) (id : String) : Prop :=
  b.registry.contains id = true ∧ b'.registry.contains id = false ∨ b.keeps id = true ∧ b'.keeps id = false

variable {b b' : Broker} {id key : String}

theorem not_drops (hregistry : b'.registry = b.registry) (hstore : b'.store = b.store) : ¬b.Drops b' id := by
  unfold Drops keeps
  rw [hregistry, hstore]
  rintro (⟨htrue, hfalse⟩ | ⟨htrue, hfalse⟩)
  · rw [htrue] at hfalse
    cases hfalse
  · rw [htrue] at hfalse
    cases hfalse

end Broker

theorem Store.Table.contains_erase_of_ne {α : Type} (t : Table α) {id key : String} (h : key ≠ id) :
    (t.erase id).contains key = t.contains key := by
  unfold contains
  rw [find?_erase_of_ne t h]

theorem Store.contains_delete_of_ne (store : Store) (refusal : Store.Refusal) {id key : String} (h : key ≠ id) :
    (store.delete refusal id).2.contains key = store.contains key := by
  unfold Store.delete
  cases refusal (.delete id) with
  | some reason => rfl
  | none =>
    cases store with
    | memory records => exact Table.contains_erase_of_ne records h
    | database table =>
      cases table with
      | none => rfl
      | some rows => exact Table.contains_erase_of_ne rows h

namespace Broker

variable {b : Broker} {id key : String}

/-- Deleting a record removes no other. -/
theorem drops_deleteRecord (h : b.Drops ((Operation.deleteRecord id).run b).2 key) : key = id := by
  by_contra hkey
  unfold Operation.deleteRecord at h
  rw [Task.run_atomic] at h
  cases hstore : b.store with
  | none =>
    rw [hstore] at h
    exact not_drops rfl rfl h
  | some store =>
    rw [hstore] at h
    rcases h with ⟨hknown, hunknown⟩ | ⟨hkept, hgone⟩
    · rw [hknown] at hunknown
      cases hunknown
    · unfold keeps at hkept hgone
      rw [hstore] at hkept
      have hsame := store.contains_delete_of_ne b.outside.refusal hkey
      rw [show store.contains key = true from hkept] at hsame
      rw [show (store.delete b.outside.refusal id).2.contains key = false from hgone] at hsame
      cases hsame

/-- Making an id unknown makes no other unknown. -/
theorem drops_remove (h : b.Drops ((Operation.remove id).run b).2 key) : key = id := by
  by_contra hkey
  rcases h with ⟨hknown, hunknown⟩ | ⟨hkept, hgone⟩
  · have hsame := b.registry.contains_erase_of_ne hkey
    rw [hknown] at hsame
    rw [show (b.registry.erase id).contains key = false from hunknown] at hsame
    cases hsame
  · rw [show b.keeps key = false from hgone] at hkept
    cases hkept

end Broker

theorem Session.not_isActive_of_isLostBefore {s : Session} {cutoff : Timestamp} (h : s.isLostBefore cutoff = true) :
    s.isActive = false := by
  unfold isLostBefore at h
  unfold isActive
  cases hlost : s.disconnectedAt with
  | none =>
    rw [hlost] at h
    cases h
  | some moment => exact Bool.and_false _

/-! ## Operations that have looked before they remove -/

/-- What was found out: sessions that were known under ids, and sessions that are lost. -/
structure Findings where
  known : String → SessionRef → Prop
  lost : SessionRef → Prop

namespace Findings

/-- With what a look at the broker shows. -/
def look (f : Findings) (b : Broker) : Findings where
  known id i := f.known id i ∨ b.registry.find? id = some i
  lost i := f.lost i ∨ i < b.sessions.length ∧ (b.session i).isActive = false

/-- A session was known under the id that is lost. -/
def Lost (f : Findings) (id : String) : Prop := ∃ i, f.known id i ∧ f.lost i

/-- All of it was found out in `g` too. -/
structure Within (f g : Findings) : Prop where
  known : ∀ id i, f.known id i → g.known id i
  lost : ∀ i, f.lost i → g.lost i

variable {f g : Findings} {b : Broker} {id : String}

theorem within_look (f : Findings) (b : Broker) : f.Within (f.look b) := ⟨fun _ _ => .inl, fun _ => .inl⟩

theorem Within.trans {k : Findings} (h : f.Within g) (h' : g.Within k) : f.Within k :=
  ⟨fun id i hi => h'.known id i (h.known id i hi), fun i hi => h'.lost i (h.lost i hi)⟩

theorem Within.look (h : f.Within g) (b : Broker) : (f.look b).Within (g.look b) :=
  ⟨fun id i => Or.imp_left (h.known id i), fun i => Or.imp_left (h.lost i)⟩

theorem Lost.mono (hlost : f.Lost id) (h : f.Within g) : g.Lost id := by
  obtain ⟨i, hknown, hi⟩ := hlost
  exact ⟨i, h.known id i hknown, h.lost i hi⟩

end Findings

/-- Whenever a step of the operation removes an id or its record, a lost session was found under it before. When the
operation ends, `post` holds of its result and of what was found out. -/
def Cautious {α : Type} (post : α → Findings → Prop) : Operation α → Findings → Prop
  | .done a, f => post a f
  | .act change next, f => ∀ b, b.Catalogued → (∀ id i, f.known id i → i < b.sessions.length) →
      (∀ id, b.Drops (change b) id → f.Lost id) ∧ Cautious post (next b) (f.look b)
  | .await _ next, f | .acquire _ next, f | .release _ next, f => Cautious post next f

namespace Cautious

variable {α β : Type} {post : α → Findings → Prop} {post' : β → Findings → Prop} {t : Operation α} {f g : Findings}
  {next : α → Operation β} {id : String}

theorem pure {a : α} (h : post a f) : Cautious post (Pure.pure a) f := h

theorem bind {p : α → Findings → Prop} (h : Cautious p t f) (hnext : ∀ a g, p a g → Cautious post' (next a) g) :
    Cautious post' (t >>= next) f := by
  show Cautious post' (t.bind next) f
  induction t generalizing f with
  | done a => exact hnext a f h
  | act change next ih => exact fun b hb hpresent => ⟨(h b hb hpresent).1, ih b (h b hb hpresent).2⟩
  | await ready next ih => exact ih h
  | acquire lock next ih => exact ih h
  | release lock next ih => exact ih h

/-- Who has found out more is as cautious. -/
theorem mono (h : Cautious (fun _ _ => True) t f) (hfg : f.Within g) : Cautious (fun _ _ => True) t g := by
  induction t generalizing f g with
  | done a => trivial
  | act change next ih =>
    intro b hb hpresent
    obtain ⟨hdrops, hnext⟩ := h b hb fun id i hi => hpresent id i (hfg.known id i hi)
    exact ⟨fun id hid => (hdrops id hid).mono hfg, ih b hnext (hfg.look b)⟩
  | await ready next ih => exact ih h hfg
  | acquire lock next ih => exact ih h hfg
  | release lock next ih => exact ih h hfg

/-- A look removes nothing. -/
theorem read {look : Broker → α}
    (h : ∀ b, b.Catalogued → (∀ id i, f.known id i → i < b.sessions.length) → post (look b) (f.look b)) :
    Cautious post (Task.read look) f :=
  fun b hb hpresent => ⟨fun _ hid => absurd hid (Broker.not_drops rfl rfl), h b hb hpresent⟩

end Cautious

namespace Operation

variable {f : Findings} {id : String}

/-- An id is removed under which a lost session was found. -/
theorem unregister_cautious (h : f.Lost id) : Cautious (fun _ g => f.Within g) (unregister id) f := by
  refine .bind (p := fun _ g => f.Within g) (.read fun b _ _ => f.within_look b) ?_
  intro r g hg
  cases r with
  | error e => exact .pure hg
  | ok _ =>
    have hdelete : Cautious (fun _ k => f.Within k) (deleteRecord id) g := by
      intro b _ _
      refine ⟨fun key hkey => ?_, hg.trans (g.within_look b)⟩
      rw [Broker.drops_deleteRecord hkey]
      exact h.mono hg
    refine .bind hdelete ?_
    intro r k hk
    cases r with
    | error e => exact .pure hk
    | ok _ =>
      have hremove : Cautious (fun _ l => f.Within l) (remove id) k := by
        intro b _ _
        refine ⟨fun key hkey => ?_, hk.trans (k.within_look b)⟩
        rw [Broker.drops_remove hkey]
        exact h.mono hk
      exact .bind hremove fun _ _ hl => .pure hl

theorem unregisterAll_cautious {ids : List String} (h : ∀ id ∈ ids, f.Lost id) :
    Cautious (fun _ _ => True) (unregisterAll ids) f := by
  induction ids generalizing f with
  | nil => exact .pure trivial
  | cons id rest ih =>
    obtain ⟨hid, hrest⟩ := List.forall_mem_cons.mp h
    refine .bind (unregister_cautious hid) ?_
    intro r g hg
    have hrest' : Cautious (fun _ _ => True) (unregisterAll rest) g := ih fun key hkey => (hrest key hkey).mono hg
    rcases r with (_ | _) | _
    · exact hrest'
    · exact .pure trivial
    · exact .bind hrest' fun _ _ _ => .pure trivial

theorem forget_cautious (id : String) (f : Findings) : Cautious (fun _ _ => True) (forget id) f := by
  refine .bind (p := fun r g => ∀ i, r = .ok i → g.known id i) (.read fun b _ _ => ?_) ?_
  · intro i hi
    cases hfind : b.registry.find? id with
    | none =>
      rw [hfind] at hi
      cases hi
    | some j =>
      rw [hfind] at hi
      obtain rfl := Except.ok.inj hi
      exact .inr hfind
  intro r g hknown
  cases r with
  | error e => exact .pure trivial
  | ok i =>
    refine .bind (p := fun active k => active = false → k.Lost id) (.read fun b _ hpresent => ?_) ?_
    · intro hactive
      exact ⟨i, .inl (hknown i rfl), .inr ⟨hpresent id i (hknown i rfl), hactive⟩⟩
    intro active k hlost
    cases active with
    | true => exact .pure trivial
    | false => exact .bind (unregister_cautious (hlost rfl)) fun _ _ _ => .pure trivial

theorem deleteObsolete_cautious (f : Findings) : Cautious (fun _ _ => True) deleteObsolete f := by
  refine .bind (p := fun _ _ => True) (.read fun _ _ _ => trivial) ?_
  intro keep g _
  cases keep with
  | none => exact .pure trivial
  | some keep =>
    have hdelete : Cautious (fun _ _ => True) (deleteLostFor keep) g := by
      refine .bind (p := fun _ _ => True) (.read fun _ _ _ => trivial) ?_
      intro now k _
      split
      · exact .pure trivial
      · rename_i cutoff _
        refine .bind (p := fun ids l => ∀ id ∈ ids, l.Lost id) (.read fun b hb _ => ?_) ?_
        · intro id hid
          unfold lostBefore at hid
          obtain ⟨e, he, rfl⟩ := List.mem_map.mp hid
          obtain ⟨hmem, hlost⟩ := List.mem_filter.mp he
          have hfind : b.registry.find? e.1 = some e.2 := Table.find?_of_mem hb.sorted hmem
          exact ⟨e.2, .inr hfind, .inr ⟨hb.present _ _ hfind, Session.not_isActive_of_isLostBefore hlost⟩⟩
        · intro ids l hids
          exact unregisterAll_cautious hids
    exact .bind hdelete fun _ _ _ => .pure trivial

end Operation

/-! ## Calls that forget lost sessions -/

/-- The request is to forget lost sessions. -/
def Request.isForgetting : Request → Bool
  | command (.forget _) => true
  | command .deleteObsolete => true
  | _ => false

theorem Request.cautious {r : Request} (h : r.isForgetting = true) (f : Findings) :
    Cautious (fun _ _ => True) r.operation f := by
  cases r with
  | command c =>
    cases c with
    | forget id => exact Operation.forget_cautious id f
    | deleteObsolete => exact .bind (Operation.deleteObsolete_cautious f) fun _ _ _ => .pure trivial
    | _ => cases h
  | handle => cases h

namespace Service

variable {setup : Setup} {turns : List Turn} {turn : Turn} {k : Nat} {x : Call}

/-- What a call may have found out after some turns: what was known at some time since it was made, and what is lost. -/
def findings (setup : Setup) (turns : List Turn) (k : Nat) : Findings where
  known id i := ∃ before since, turns = before ++ since ∧ k < ((boot setup).after before).calls.length ∧
    ((boot setup).after before).broker.registry.find? id = some i
  lost i := i < ((boot setup).after turns).broker.sessions.length ∧
    (((boot setup).after turns).broker.session i).disconnectedAt.isSome

/-- What was found out stays so. -/
theorem findings_within (setup : Setup) (turns : List Turn) (turn : Turn) (k : Nat) :
    (findings setup turns k).Within (findings setup (turns ++ [turn]) k) where
  known := by
    rintro id i ⟨before, since, rfl, hmade, hknown⟩
    exact ⟨before, since ++ [turn], List.append_assoc .., hmade, hknown⟩
  lost := by
    rintro i ⟨hpresent, hlost⟩
    have hstep := Lost.step ⟨hpresent, hlost, rfl⟩ (kept_after setup turns) turn
    unfold findings
    rw [after_concat]
    exact ⟨hstep.present, hstep.lost⟩

/-- What a call sees before its step is found out after it. -/
theorem look_within (hx : ((boot setup).after turns).calls[k]? = some x) (turn : Turn) :
    ((findings setup turns k).look ((boot setup).after turns).broker).Within (findings setup (turns ++ [turn]) k) where
  known := by
    rintro id i (hknown | hknown)
    · exact (findings_within setup turns turn k).known id i hknown
    · exact ⟨turns, [turn], rfl, (List.getElem?_eq_some_iff.mp hx).1, hknown⟩
  lost := by
    rintro i (hlost | ⟨hpresent, hactive⟩)
    · exact (findings_within setup turns turn k).lost i hlost
    · refine (findings_within setup turns turn k).lost i ⟨hpresent, ?_⟩
      have hlinked := ((kept_after setup turns).sound i).linked
      unfold Session.isActive at hactive
      rw [hlinked, Bool.and_self] at hactive
      exact Option.isNone_eq_false_iff.mp hactive

theorem present_of_known (setup : Setup) (turns : List Turn) (k : Nat) :
    ∀ id i, (findings setup turns k).known id i → i < ((boot setup).after turns).broker.sessions.length := by
  rintro id i ⟨before, since, rfl, -, hknown⟩
  have hpresent := ((ordered_boot setup).after before).catalogued.present id i hknown
  rw [after_append]
  exact Nat.lt_of_lt_of_le hpresent ((kept_after setup before).length_le_after since fun turn _ => turn.fair_none)

/-- Whoever forgets lost sessions has found them lost before, at any time. -/
theorem cautious_after (setup : Setup) (turns : List Turn) :
    ∀ k x, ((boot setup).after turns).calls[k]? = some x → x.request.isForgetting = true →
      Cautious (fun _ _ => True) x.rest (findings setup turns k) := by
  induction turns using List.reverseRecOn with
  | nil => exact nofun
  | append_singleton turns turn ih =>
    intro k x' hx' hforgets
    rw [after_concat] at hx'
    rcases step_calls hx' with hsame | ⟨r, -, rfl⟩ | ⟨x, hx, rfl⟩
    · exact (ih k x' hsame hforgets).mono (findings_within setup turns turn k)
    · exact r.cautious hforgets _
    · rw [Call.request_step] at hforgets
      have hcautious := ih k x hx hforgets
      have hwithin := findings_within setup turns turn k
      rcases x.step_cases ((boot setup).after turns).isHeld ((boot setup).after turns).broker with he |
        ⟨change, next, hrest, he⟩ | ⟨ready, next, hrest, he⟩ | ⟨lock, next, hrest, -, he⟩ | ⟨lock, next, hrest, he⟩
      · rw [he]
        exact hcautious.mono hwithin
      · rw [hrest] at hcautious
        rw [he]
        have hnext := hcautious _ ((ordered_boot setup).after turns).catalogued (present_of_known setup turns k)
        exact hnext.2.mono (look_within hx turn)
      · rw [hrest] at hcautious
        rw [he]
        exact Cautious.mono hcautious hwithin
      · rw [hrest] at hcautious
        rw [he]
        exact Cautious.mono hcautious hwithin
      · rw [hrest] at hcautious
        rw [he]
        exact Cautious.mono hcautious hwithin

/-- Where such a call removes an id or its record, it has found a lost session under the id. -/
theorem lost_of_drops {id : String} (hx : ((boot setup).after turns).calls[k]? = some x)
    (hforgets : x.request.isForgetting = true)
    (hdrops : ((boot setup).after turns).broker.Drops (((boot setup).after turns).step (.go k)).broker id) :
    (findings setup turns k).Lost id := by
  have hcautious := cautious_after setup turns k x hx hforgets
  rw [step_go hx] at hdrops
  rcases x.step_cases ((boot setup).after turns).isHeld ((boot setup).after turns).broker with
    he | ⟨change, next, hrest, he⟩ | ⟨ready, next, hrest, he⟩ | ⟨lock, next, hrest, -, he⟩ | ⟨lock, next, hrest, he⟩
  · rw [he] at hdrops
    exact absurd hdrops (Broker.not_drops rfl rfl)
  · rw [hrest] at hcautious
    rw [he] at hdrops
    have hstep := hcautious _ ((ordered_boot setup).after turns).catalogued (present_of_known setup turns k)
    exact hstep.1 id hdrops
  · rw [he] at hdrops
    exact absurd hdrops (Broker.not_drops rfl rfl)
  · rw [he] at hdrops
    exact absurd hdrops (Broker.not_drops rfl rfl)
  · rw [he] at hdrops
    exact absurd hdrops (Broker.not_drops rfl rfl)

/-- What was written before the last turns is there already when they begin. -/
theorem FiledBy.since_look {h : Service} {first last before since : List Turn} {n : Nat} {j : SessionRef} {id : String}
    {entry : SessionRecord ⊕ Store.Row} (hf : h.FiledBy first last n j id entry)
    (hsplit : before ++ since = first ++ .go n :: last) :
    (∃ mid, first = before ++ mid) ∨ (h.after before).broker.stored? id = some entry := by
  rcases List.append_eq_append_iff.mp hsplit with ⟨mid, rfl, -⟩ | ⟨mid, rfl, hrest⟩
  · exact .inl ⟨mid, rfl⟩
  · rcases List.cons_eq_append_iff.mp hrest with ⟨rfl, -⟩ | ⟨mid, rfl, hlast⟩
    · exact .inl ⟨[], by simp⟩
    · exact .inr (hf.since mid since hlast)

/-- A session that has come to be known under an id was entered by a call for it. -/
theorem Ordered.taken_over {h : Service} (ho : h.Ordered) {turns : List Turn} {id : String} {j : SessionRef}
    (hbefore : h.broker.registry.find? id ≠ some j) (hafter : (h.after turns).broker.registry.find? id = some j) :
    ∃ first last n y, turns = first ++ .go n :: last ∧ (h.after (first ++ [.go n])).calls[n]? = some y ∧
      y.session? = some j ∧ ((h.after (first ++ [.go n])).broker.session j).id = id ∧
      (h.after (first ++ [.go n])).broker.registry.find? id = some j := by
  rcases exists_last_turn (P := fun g => g.broker.registry.find? id = some j) hafter with
    halways | ⟨first, turn, last, rfl, hunknown, hsince⟩
  · exact absurd (halways [] turns rfl) hbefore
  · have hknown := hsince [] last rfl
    rw [after_concat] at hknown
    obtain ⟨hid, n, y, rfl, hy, hown⟩ := (ho.after first).entered_by hunknown hknown
    refine ⟨first, last, n, y, rfl, ?_⟩
    rw [after_concat]
    exact ⟨hy, hown, hid, hknown⟩

end Service

/-- From the setup of a broker on, whatever turns there were, with any failures: a call that forgets lost sessions removes
an id, or its record, only if since it was made a session was known under the id that is lost. If a live session is known
under the id when that happens, a call for that session has entered it there in between. What is stored under the id then
was found there when the broker was set up, or a call for a session with this id has written it: after the look, or
before it, and then a live session of which it is the record was not the one that the look has shown. -/
theorem removed_was_seen_lost (setup : Setup) (turns : List Turn) {k : Nat} {x : Call} {id : String}
    (hx : ((Service.boot setup).after turns).calls[k]? = some x) (hforgets : x.request.isForgetting = true)
    (hdrops : ((Service.boot setup).after turns).broker.Drops (((Service.boot setup).after turns).step (.go k)).broker id) :
    let h := (Service.boot setup).after turns
    ∃ before since i, turns = before ++ since ∧ k < ((Service.boot setup).after before).calls.length ∧
      ((Service.boot setup).after before).broker.registry.find? id = some i ∧ (h.broker.session i).isActive = false ∧
      (∀ j, h.broker.registry.find? id = some j → (h.broker.session j).isActive = true →
        ∃ first last n y, since = first ++ .go n :: last ∧
          let g := (Service.boot setup).after (before ++ (first ++ [.go n]))
          g.calls[n]? = some y ∧ y.session? = some j ∧ (g.broker.session j).id = id ∧
            g.broker.registry.find? id = some j) ∧
      ∀ entry, h.broker.stored? id = some entry →
        (∀ first last, turns = first ++ last → ((Service.boot setup).after first).broker.stored? id = some entry) ∨
          ∃ first last n j, turns = first ++ .go n :: last ∧ (Service.boot setup).FiledBy first last n j id entry ∧
            ((∃ mid, first = before ++ mid) ∨ ((Service.boot setup).after before).broker.stored? id = some entry ∧
              ((h.broker.session j).isActive = true → j ≠ i)) := by
  intro h
  obtain ⟨i, ⟨before, since, hturns, hmade, hknown⟩, -, hlost⟩ := Service.lost_of_drops hx hforgets hdrops
  have hactive : (h.broker.session i).isActive = false := by
    unfold Session.isActive
    rw [Option.isNone_eq_false_iff.mpr hlost, Bool.and_false]
  have hother {j : SessionRef} (hlive : (h.broker.session j).isActive = true) : j ≠ i := by
    rintro rfl
    rw [hactive] at hlive
    cases hlive
  refine ⟨before, since, i, hturns, hmade, hknown, hactive, fun j hj hlive => ?_, fun entry hentry => ?_⟩
  · have hunknown : ((Service.boot setup).after before).broker.registry.find? id ≠ some j := by
      rw [hknown]
      exact fun hsame => hother hlive (Option.some.inj hsame).symm
    have hafter : (((Service.boot setup).after before).after since).broker.registry.find? id = some j := by
      rw [← Service.after_append, ← hturns]
      exact hj
    obtain ⟨first, last, n, y, hsince, hentered⟩ :=
      ((Service.ordered_boot setup).after before).taken_over hunknown hafter
    refine ⟨first, last, n, y, hsince, ?_⟩
    rw [Service.after_append]
    exact hentered
  · refine (Service.filed_by setup turns hentry).imp_right ?_
    rintro ⟨first, last, n, j, hsplit, hfiled⟩
    refine ⟨first, last, n, j, hsplit, hfiled, ?_⟩
    exact (hfiled.since_look (hturns.symm.trans hsplit)).imp_right fun hbefore => ⟨hbefore, hother⟩

/-- A client comes back under its id while its lost session is being forgotten: the new session is forgotten too, with its
record. -/
theorem live_session_is_forgotten :
    let start (connection : ConnectionRef) : Turn := .call (.command (.start "a" connection {} none false))
    let turns : List Turn := [.arrival default, start 0] ++ .replicate 16 (.go 0) ++
      .call (.command (.terminate 0)) :: .replicate 16 (.go 1) ++ .call (.command (.forget "a")) :: .replicate 2 (.go 2) ++
      [.arrival default, start 1] ++ .replicate 16 (.go 3) ++ .replicate 2 (.go 2)
    let setup : Setup := { pool := ⟨#[20000]⟩, store := some (.memory {}), keepLost := some (.ofSeconds 60) }
    let h := (Service.boot setup).after turns
    let h' := h.step (.go 2)
    h.broker.registry.find? "a" = some 1 ∧ (h.broker.session 1).isActive = true ∧ h.broker.keeps "a" = false ∧
      h'.broker.registry.find? "a" = none ∧ (h'.broker.session 1).isActive = true ∧
      ∃ before i, before <+: turns ∧ ((Service.boot setup).after before).broker.registry.find? "a" = some i ∧
        (h.broker.session i).isActive = false := by
  intro start turns setup h h'
  have hcalls : (h.calls[2]?.map fun x => x.request.isForgetting) = some true := by decide +kernel
  obtain ⟨x, hx, hforgets⟩ := Option.map_eq_some_iff.mp hcalls
  have hknown : h.broker.registry.find? "a" = some 1 := by decide +kernel
  have hunknown : h'.broker.registry.find? "a" = none := by decide +kernel
  have hdrops : h.broker.Drops h'.broker "a" := by
    refine .inl ⟨?_, ?_⟩
    · rw [Table.contains, hknown]
      rfl
    · rw [Table.contains, hunknown]
      rfl
  obtain ⟨before, since, i, hturns, -, hseen, hlost, -, -⟩ := removed_was_seen_lost setup turns hx hforgets hdrops
  exact ⟨hknown, by decide +kernel, by decide +kernel, hunknown, by decide +kernel, before, i, ⟨since, hturns.symm⟩, hseen,
    hlost⟩

/-- The record of the new session may have been written before the look already: it is deleted, and then the session
becomes known without one. -/
example :
    let start (connection : ConnectionRef) : Turn := .call (.command (.start "a" connection {} none false))
    let turns : List Turn := [.arrival default, start 0] ++ .replicate 16 (.go 0) ++
      .call (.command (.terminate 0)) :: .replicate 17 (.go 1) ++ [.arrival default, start 1] ++ .replicate 15 (.go 2)
    let setup : Setup := { pool := ⟨#[20000]⟩, store := some (.memory {}), keepLost := some (.ofSeconds 60) }
    let h := (Service.boot setup).after turns
    let h' := h.after (.call (.command (.forget "a")) :: .replicate 5 (.go 3) ++ [.go 2])
    (h.broker.stored? "a").map (Sum.elim SessionRecord.isLost fun _ => true) = some false ∧
      h'.broker.stored? "a" = none ∧ h'.broker.registry.find? "a" = some 1 ∧ (h'.broker.session 1).isActive = true := by
  decide +kernel

end TunnelBroker
