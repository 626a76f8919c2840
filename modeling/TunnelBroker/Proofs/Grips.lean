/-
  TunnelBroker.Proofs.Grips — what calls that are under way have in their hands.

  While a call is under way it holds locks, it has ports that are leased but that no tunnel holds, it has a batch
  that is not committed, and it knows something about its session. It opens listeners for the tunnels of its batch and
  no others. All that is its `Grip`. What one call may do to the broker is bounded by its grip (`Allowed`), so that
  what any other call knows stays true.

  - `Fits`: what a grip says is true of the broker.
  - `Fits.stable`: it stays true, whatever calls that hold other locks do.
  - `Coherent`: all grips fit, no lock is held twice, and every lease is in somebody's hands.
  - `Coherent.act`: the steps of calls keep it; `Act.still`, `Act.reckon`, `Act.update` and `Act.addSession` are the
    kinds of steps there are.
  - `Coherent.take`, `Coherent.drop`: so does taking a lock that nobody holds, and giving it back.
-/

import TunnelBroker.Proofs.Interleaving
import TunnelBroker.Proofs.Leases

namespace TunnelBroker

open TunnelBroker.Net (Port)
open TunnelBroker.Time (Timestamp)
open scoped List

/-! ## The end of one session -/

/-- A session whose end is watched, and the broker at the moment at which that began. -/
structure Watch where
  session : SessionRef
  outset : Broker

namespace Watch

def id (w : Watch) : String := (w.outset.session w.session).id

/-- A tunnel of the session had no lease of the port that was assigned to it when the watch began. -/
def Bare (w : Watch) (port : Port) : Prop :=
  ∃ t ∈ (w.outset.session w.session).tunnels, t.autoAssigned ∧ t.holdsLease = false ∧ t.localPort = port

/-- The session is lost, and nothing is known or stored under its id. -/
structure Gone (w : Watch) (b : Broker) : Prop where
  lost : (b.session w.session).disconnectedAt.isSome
  unknown : b.registry.find? w.id = none
  erased : Operation.Erased w.id b.store

/-- Where lost sessions are not kept, the store refuses nothing, and no other session has the id, the session is
known or gone. -/
structure Holds (w : Watch) (b : Broker) : Prop where
  id : (b.session w.session).id = w.id
  others : b.sessions.eraseIdx w.session = w.outset.sessions.eraseIdx w.session
  keepLost : b.keepLost = none
  willing : b.outside.refusal = fun _ => none
  usable : b.store ≠ some (.database none)
  known : b.registry.find? w.id = some w.session ∨ w.Gone b
  own : ∀ t ∈ (b.session w.session).tunnels, t.autoAssigned →
    t.localPort ∉ w.outset.otherPorts w.session ∨ w.Bare t.localPort

end Watch

/-! ## Grips -/

/-- What is known of a session. -/
inductive Stage where
  | unknown
  | live
  | lost
  /-- Lost and cancelled. -/
  | ended
  /-- Over, and its record is deleted. -/
  | erased
  /-- Over, and not known any more. -/
  | forgotten
  deriving DecidableEq

namespace Stage

def Holds (W : Option Watch) (b : Broker) (i : SessionRef) : Stage → Prop
  | unknown => True
  | live => (b.session i).connection.isSome
  | lost => (b.session i).disconnectedAt.isSome
  | ended => (b.session i).disconnectedAt.isSome ∧ (b.session i).cancelled
  | erased => ((b.session i).disconnectedAt.isSome ∧ (b.session i).cancelled) ∧ ∀ w ∈ W, Operation.Erased w.id b.store
  | forgotten => ((b.session i).disconnectedAt.isSome ∧ (b.session i).cancelled) ∧ ∀ w ∈ W, w.Gone b

/-- What is still known without any lock. -/
def settle : Stage → Stage
  | live => unknown
  | erased => ended
  | stage => stage

end Stage

/-- The tunnels to which a port was assigned have one of these. -/
def AssignedFrom (ports : List Port) (ts : List Tunnel) : Prop := ∀ t ∈ ts, t.autoAssigned → t.localPort ∈ ports

theorem assignedFrom_nil (ports : List Port) : AssignedFrom ports [] := fun _ ht => by cases ht

structure Grip where
  /-- The session that the call is for, or the one that it has started. -/
  session : Option SessionRef := none
  /-- The call may end its session. -/
  ends : Bool := false
  /-- It holds the lock of the session's life, and that of its tunnels. -/
  lifecycle : Bool := false
  tunnels : Bool := false
  stage : Stage := .unknown
  /-- The tunnels of its batch. -/
  pending : List Tunnel := []
  /-- The ports that are leased and that no committed tunnel holds, or holds any more. -/
  ports : List Port := []
  /-- The time that it has read for the end of its session. -/
  moment : Option Timestamp := none

namespace Grip

def Holds (g : Grip) : Lock → Prop
  | .lifecycle i => g.lifecycle ∧ g.session = some i
  | .tunnels i => g.tunnels ∧ g.session = some i

/-- No lock is held by both. -/
def Apart (g h : Grip) : Prop := ∀ lock, g.Holds lock → ¬h.Holds lock

/-- It holds no lock, and nothing is in its hands. -/
structure Free (g : Grip) : Prop where
  lifecycle : g.lifecycle = false
  tunnels : g.tunnels = false
  ports : g.ports = []

theorem Apart.symm {g h : Grip} (ha : g.Apart h) : h.Apart g := fun lock hh hg => ha lock hg hh

end Grip

/-- What a grip says is true of the broker. -/
structure Fits (W : Option Watch) (b : Broker) (g : Grip) : Prop where
  present : ∀ i ∈ g.session, i < b.sessions.length
  pending : ∀ i ∈ g.session, g.tunnels → (b.session i).pending = g.pending
  knows : ∀ i ∈ g.session, g.stage.Holds W b i
  guarded : (g.stage = .live → g.lifecycle ∨ g.tunnels) ∧ (g.stage = .erased → g.lifecycle)
  watched : ∀ w ∈ W, g.session = some w.session
  /-- What was assigned to the tunnels of the batch is leased. -/
  covered : AssignedFrom g.ports g.pending

/-! ## What a call may do -/

/-- What a call may do to its session. A session that is lost stays as it is, but for its context. -/
structure Session.Evolves (g : Grip) (s s' : Session) : Prop where
  id : s'.id = s.id
  lost : s.disconnectedAt.isSome →
    s'.disconnectedAt = s.disconnectedAt ∧ s'.connection = s.connection ∧ s'.tunnels = s.tunnels
  ends : s.disconnectedAt = none →
    s'.disconnectedAt = none ∨ g.ends ∧ ∃ moment ∈ g.moment, s'.disconnectedAt = some moment
  cancelled : s.cancelled → s'.cancelled
  connection : ¬(g.lifecycle ∧ g.tunnels) → s'.connection = s.connection
  pending : ¬g.tunnels → s'.pending = s.pending

theorem Session.Evolves.refl (g : Grip) (s : Session) : s.Evolves g s :=
  ⟨rfl, fun _ => ⟨rfl, rfl, rfl⟩, fun h => .inl h, fun h => h, fun _ => rfl, fun _ => rfl⟩

/-- The listener is one of the broker's, but for whether it lets callers in. -/
def Broker.HasListener (b : Broker) (l : Listener) : Prop :=
  ∃ l' ∈ b.listeners, l = { l' with serving := l.serving }

/-- The listener may be opened: a tunnel of the batch that is under way has been started for it. -/
def Broker.MayListen (b : Broker) (l : Listener) : Prop :=
  ∃ t ∈ (b.session l.session).pending, t.id = l.tunnel ∧ t.forward.validate = .ok () ∧ t.Fresh ∧
    t.forward.localEndpoint = .ok l.endpoint

/-- What a call may do to the broker. -/
structure Allowed (W : Option Watch) (g : Grip) (b b' : Broker) : Prop where
  length : b.sessions.length ≤ b'.sessions.length
  others : ∀ j < b.sessions.length, g.session ≠ some j → b'.session j = b.session j
  own : ∀ i ∈ g.session, (b.session i).Evolves g (b'.session i)
  store : ∀ w ∈ W, ¬g.Holds (.lifecycle w.session) → b'.store = b.store
  gone : ∀ w ∈ W, w.Gone b → w.Gone b'
  listeners : ∀ l ∈ b'.listeners, b.HasListener l ∨ b.MayListen l

section

variable {W : Option Watch} {b b' : Broker} {g g' h : Grip} {hs : List Grip} {i j : SessionRef}

/-- What any session goes through by a step of a call. -/
theorem Allowed.evolves (ha : Allowed W g b b') (hj : j < b.sessions.length) :
    (b.session j).Evolves g (b'.session j) := by
  by_cases hsession : g.session = some j
  · exact ha.own j hsession
  · rw [ha.others j hj hsession]
    exact .refl ..

/-- What is known of a session stays true while it evolves, as far as it is protected. -/
theorem Stage.Holds.keep {stage : Stage} (h : stage.Holds W b i)
    (hevolves : (b.session i).Evolves g (b'.session i))
    (hlive : stage = .live → (b'.session i).connection = (b.session i).connection)
    (herased : stage = .erased → ∀ w ∈ W, b'.store = b.store) (hgone : ∀ w ∈ W, w.Gone b → w.Gone b') :
    stage.Holds W b' i := by
  have hover (hover : (b.session i).disconnectedAt.isSome ∧ (b.session i).cancelled) :
      (b'.session i).disconnectedAt.isSome ∧ (b'.session i).cancelled :=
    ⟨by rw [(hevolves.lost hover.1).1]; exact hover.1, hevolves.cancelled hover.2⟩
  cases stage with
  | unknown => trivial
  | live =>
    show (b'.session i).connection.isSome
    rw [hlive rfl]; exact h
  | lost =>
    show (b'.session i).disconnectedAt.isSome
    rw [(hevolves.lost h).1]; exact h
  | ended => exact hover h
  | erased => exact ⟨hover h.1, fun w hw => by rw [herased rfl w hw]; exact h.2 w hw⟩
  | forgotten => exact ⟨hover h.1, fun w hw => hgone w hw (h.2 w hw)⟩

/-- What a call knows stays true while others take their steps. -/
theorem Fits.stable (hf : Fits W b h) (ha : Allowed W g b b') (hapart : g.Apart h) : Fits W b' h where
  present i hi := Nat.lt_of_lt_of_le (hf.present i hi) ha.length
  pending i hi ht := by
    have hlt := hf.present i hi
    rw [← hf.pending i hi ht]
    by_cases hsession : g.session = some i
    · exact (ha.own i hsession).pending fun hg => hapart (.tunnels i) ⟨hg, hsession⟩ ⟨ht, hi⟩
    · rw [ha.others i hlt hsession]
  knows i hi := by
    have hlt := hf.present i hi
    refine (hf.knows i hi).keep (ha.evolves hlt) (fun hlive => ?_) (fun herased w hw => ?_) ha.gone
    · by_cases hsession : g.session = some i
      · refine (ha.own i hsession).connection fun hboth => ?_
        rcases hf.guarded.1 hlive with hl | ht
        · exact hapart (.lifecycle i) ⟨hboth.1, hsession⟩ ⟨hl, hi⟩
        · exact hapart (.tunnels i) ⟨hboth.2, hsession⟩ ⟨ht, hi⟩
      · rw [ha.others i hlt hsession]
    · -- Only who holds the lock of the session's life changes its record.
      refine ha.store w hw fun hlock => ?_
      exact hapart _ hlock ⟨hf.guarded.2 herased, hf.watched w hw⟩
  guarded := hf.guarded
  watched := hf.watched
  covered := hf.covered

end

/-! ## Coherence -/

/-- A session has a connection as long as it is not lost; then all its tunnels are halted, without leases. -/
structure Session.Sound (s : Session) : Prop where
  linked : s.connection.isSome = s.disconnectedAt.isNone
  retired : s.disconnectedAt.isSome → ∀ t ∈ s.tunnels, t.halted ∧ t.holdsLease = false

namespace Session.Sound

variable {s : Session}

theorem unlinked (h : s.Sound) (hlost : s.disconnectedAt.isSome) : s.connection = none := by
  have hlinked := h.linked
  rw [Option.isNone_eq_false_iff.mpr hlost] at hlinked
  exact Option.not_isSome_iff_eq_none.mp (Bool.eq_false_iff.mp hlinked)

theorem not_lost (h : s.Sound) (hlive : s.connection.isSome) : s.disconnectedAt = none := by
  have hlinked := h.linked
  rw [hlive] at hlinked
  exact Option.isNone_iff_eq_none.mp hlinked.symm

end Session.Sound

/-- The grips of all calls that are under way fit the broker and each other. Every lease is in the hands of a
tunnel or of a call. -/
structure Coherent (W : Option Watch) (b : Broker) (gs : List Grip) : Prop where
  sound : ∀ i, (b.session i).Sound
  fits : ∀ g ∈ gs, Fits W b g
  apart : gs.Pairwise Grip.Apart
  idle : ∀ i, (∀ g ∈ gs, ¬g.Holds (.tunnels i)) → (b.session i).pending = []
  leased : b.allocator.leased.Perm (b.heldPorts ++ gs.flatMap Grip.ports)
  nodup : b.allocator.leased.Nodup
  watched : ∀ w ∈ W, w.Holds b

/-- A step of a call, which finds the broker `b` with the grip `g` and leaves `b'` with `g'`. -/
structure Act (W : Option Watch) (b : Broker) (g : Grip) (b' : Broker) (g' : Grip) : Prop where
  session : (g'.session = g.session ∧ b'.sessions.length = b.sessions.length) ∨
    (g'.session = some b.sessions.length ∧ b.sessions.length < b'.sessions.length ∧ g.session = none ∧
      g.lifecycle = false ∧ g.tunnels = false)
  locks : g'.lifecycle = g.lifecycle ∧ g'.tunnels = g.tunnels
  ends : g'.ends = g.ends
  /-- The time is read with the lock of the session's life, before that of its tunnels is taken. -/
  moment : ∀ m ∈ g'.moment, m ∈ g.moment ∨
    m = b.outside.now ∧ ∃ i, g.Holds (.lifecycle i) ∧ ¬g.Holds (.tunnels i)
  allowed : Allowed W g b b'
  fits : Fits W b' g'
  sound : ∀ i, (b'.session i).Sound
  fresh : ∀ i, b.sessions.length ≤ i → (b'.session i).pending = []
  leased : ∀ rest, b.allocator.leased.Perm (b.heldPorts ++ (g.ports ++ rest)) →
    b'.allocator.leased.Perm (b'.heldPorts ++ (g'.ports ++ rest))
  nodup : b'.allocator.leased.Nodup
  watched : ∀ w ∈ W, w.Holds b'

section

variable {W : Option Watch} {b b' : Broker} {g g' : Grip} {gs gs' hs : List Grip} {i : SessionRef}

/-- A step takes no lock and gives none back. -/
theorem Act.holds (h : Act W b g b' g') {lock : Lock} : g'.Holds lock ↔ g.Holds lock := by
  obtain ⟨hlifecycle, htunnels⟩ := h.locks
  rcases h.session with ⟨hsession, -⟩ | ⟨-, -, -, hl, ht⟩
  · cases lock with
    | lifecycle j => simp only [Grip.Holds, hlifecycle, hsession]
    | tunnels j => simp only [Grip.Holds, htunnels, hsession]
  · cases lock with
    | lifecycle j => simp only [Grip.Holds, hlifecycle, hl, Bool.false_eq_true, false_and]
    | tunnels j => simp only [Grip.Holds, htunnels, ht, Bool.false_eq_true, false_and]

namespace Coherent

theorem perm (h : Coherent W b gs) (hp : gs.Perm gs') : Coherent W b gs' where
  sound := h.sound
  fits g hg := h.fits g (hp.mem_iff.mpr hg)
  apart := h.apart.perm hp fun ha => ha.symm
  idle i hi := h.idle i fun g hg => hi g (hp.mem_iff.mp hg)
  leased := h.leased.trans ((hp.flatMap_right Grip.ports).append_left _)
  nodup := h.nodup
  watched := h.watched

/-- Every step of a call leaves all grips fitting. -/
theorem act (h : Coherent W b (g :: hs)) (ha : Act W b g b' g') : Coherent W b' (g' :: hs) where
  sound := ha.sound
  fits k hk := by
    rcases List.mem_cons.mp hk with rfl | hk
    · exact ha.fits
    · exact (h.fits k (List.mem_cons_of_mem _ hk)).stable ha.allowed ((List.pairwise_cons.mp h.apart).1 k hk)
  apart := by
    obtain ⟨hfirst, hrest⟩ := List.pairwise_cons.mp h.apart
    refine List.pairwise_cons.mpr ⟨fun k hk lock hlock => ?_, hrest⟩
    exact hfirst k hk lock (ha.holds.mp hlock)
  idle i hi := by
    have hidle : (b.session i).pending = [] := by
      refine h.idle i fun k hk hlock => ?_
      rcases List.mem_cons.mp hk with rfl | hk
      · exact hi g' (List.mem_cons_self ..) (ha.holds.mpr hlock)
      · exact hi k (List.mem_cons_of_mem _ hk) hlock
    by_cases hlt : i < b.sessions.length
    · rw [← hidle]
      by_cases hsession : g.session = some i
      · refine (ha.allowed.own i hsession).pending fun ht => ?_
        exact hi g' (List.mem_cons_self ..) (ha.holds.mpr ⟨ht, hsession⟩)
      · rw [ha.allowed.others i hlt hsession]
    · exact ha.fresh i (Nat.le_of_not_lt hlt)
  leased := by
    rw [List.flatMap_cons]
    exact ha.leased _ (by rw [← List.flatMap_cons]; exact h.leased)
  nodup := ha.nodup
  watched := ha.watched

end Coherent

end

/-! ## The kinds of steps -/

section

variable {W : Option Watch} {b b' : Broker} {g : Grip} {hs : List Grip} {i : SessionRef} {w : Watch}

theorem Session.sound_nobody : Session.nobody.Sound := ⟨rfl, fun _ t ht => (by cases ht)⟩

theorem Broker.session_congr (h : b'.sessions = b.sessions) (i : SessionRef) : b'.session i = b.session i := by
  simp only [Broker.session, h]

/-- A change of the allocator, the registry and the store. -/
structure Reckoned (W : Option Watch) (b b' : Broker) (g : Grip) : Prop where
  sessions : b'.sessions = b.sessions
  keepLost : b'.keepLost = b.keepLost
  outside : b'.outside = b.outside
  store : ∀ w ∈ W, ¬g.Holds (.lifecycle w.session) → b'.store = b.store
  usable : ∀ w ∈ W, b'.store ≠ some (.database none)
  known : ∀ w ∈ W, b'.registry.find? w.id = some w.session ∨ w.Gone b'
  gone : ∀ w ∈ W, w.Gone b → w.Gone b'
  listeners : ∀ l ∈ b'.listeners, b.HasListener l ∨ b.MayListen l

theorem Broker.hasListener_of_eq (h : b'.listeners = b.listeners) :
    ∀ l ∈ b'.listeners, b.HasListener l ∨ b.MayListen l := by
  intro l hl
  rw [h] at hl
  exact .inl ⟨l, hl, rfl⟩

theorem Watch.Gone.congr (h : w.Gone b) (hsessions : b'.sessions = b.sessions) (hregistry : b'.registry = b.registry)
    (hstore : b'.store = b.store) : w.Gone b' where
  lost := by rw [Broker.session_congr hsessions]; exact h.lost
  unknown := by rw [hregistry]; exact h.unknown
  erased := by rw [hstore]; exact h.erased

/-- A change that the registry and the store have no part in. -/
theorem Coherent.reckoned (hc : Coherent W b (g :: hs)) (hsessions : b'.sessions = b.sessions)
    (hkeepLost : b'.keepLost = b.keepLost) (houtside : b'.outside = b.outside) (hregistry : b'.registry = b.registry)
    (hstore : b'.store = b.store) (hlisteners : ∀ l ∈ b'.listeners, b.HasListener l ∨ b.MayListen l) :
    Reckoned W b b' g where
  sessions := hsessions
  keepLost := hkeepLost
  outside := houtside
  store _ _ _ := hstore
  usable w hw := by rw [hstore]; exact (hc.watched w hw).usable
  known w hw := by
    rw [hregistry]
    exact (hc.watched w hw).known.imp id fun hgone => hgone.congr hsessions hregistry hstore
  gone _ _ hgone := hgone.congr hsessions hregistry hstore
  listeners := hlisteners

/-- A step that changes no session: ports are leased or given back, or records change. -/
theorem Act.reckon (hc : Coherent W b (g :: hs)) (h : Reckoned W b b' g) {stage : Stage} {ports : List Port}
    (hknows : ∀ i ∈ g.session, stage.Holds W b' i)
    (hguarded : (stage = .live → g.lifecycle ∨ g.tunnels) ∧ (stage = .erased → g.lifecycle))
    (hleased : ∀ rest, b.allocator.leased.Perm (b.heldPorts ++ (g.ports ++ rest)) →
      b'.allocator.leased.Perm (b.heldPorts ++ (ports ++ rest)))
    (hnodup : b'.allocator.leased.Nodup) (hcovered : AssignedFrom ports g.pending) :
    Act W b g b' { g with stage, ports } := by
  have hsession := Broker.session_congr h.sessions
  have hfits := hc.fits g (List.mem_cons_self ..)
  exact
    { session := .inl ⟨rfl, by rw [h.sessions]⟩
      locks := ⟨rfl, rfl⟩
      ends := rfl
      moment := fun _ hm => .inl hm
      allowed :=
        { length := Nat.le_of_eq (by rw [h.sessions])
          others := fun j _ _ => hsession j
          own := fun j _ => by rw [hsession j]; exact .refl ..
          store := h.store
          gone := h.gone
          listeners := h.listeners }
      fits :=
        { present := fun j hj => by rw [h.sessions]; exact hfits.present j hj
          pending := fun j hj ht => by rw [hsession j]; exact hfits.pending j hj ht
          knows := hknows
          guarded := hguarded
          watched := hfits.watched
          covered := hcovered }
      sound := fun j => by rw [hsession j]; exact hc.sound j
      fresh := fun j hj => by rw [hsession j, Broker.session_of_le hj]; rfl
      leased := fun rest hrest => by
        rw [show b'.heldPorts = b.heldPorts by simp only [Broker.heldPorts, h.sessions]]
        exact hleased rest hrest
      nodup := hnodup
      watched := fun w hw =>
        { id := by rw [hsession]; exact (hc.watched w hw).id
          others := by rw [h.sessions]; exact (hc.watched w hw).others
          keepLost := by rw [h.keepLost]; exact (hc.watched w hw).keepLost
          willing := by rw [h.outside]; exact (hc.watched w hw).willing
          usable := h.usable w hw
          known := h.known w hw
          own := fun t ht => by rw [hsession] at ht; exact (hc.watched w hw).own t ht } }

/-- A step of a call that looks at the broker, or changes what no grip is about. -/
theorem Act.still (hc : Coherent W b (g :: hs)) (h : Reckoned W b b' g) {stage : Stage}
    (hleased : b'.allocator.leased = b.allocator.leased) (hknows : ∀ i ∈ g.session, stage.Holds W b' i)
    (hguarded : (stage = .live → g.lifecycle ∨ g.tunnels) ∧ (stage = .erased → g.lifecycle)) :
    Act W b g b' { g with stage } :=
  .reckon hc h hknows hguarded (fun _ hrest => by rw [hleased]; exact hrest) (by rw [hleased]; exact hc.nodup)
    (hc.fits g (List.mem_cons_self ..)).covered

/-- A session that gives its leases into a call's hands, or takes them from there, leaves those of others alone. -/
theorem Broker.leased_setSession {s : Session} {ports ports' rest : List Port} (hi : i < b.sessions.length)
    (hports : ((b.session i).leasedPorts ++ ports).Perm (s.leasedPorts ++ ports'))
    (hleased : b.allocator.leased.Perm (b.heldPorts ++ (ports ++ rest))) :
    b.allocator.leased.Perm ((b.setSession i s).heldPorts ++ (ports' ++ rest)) := by
  have hbefore := Broker.heldPorts_perm hi
  have hafter : (b.setSession i s).heldPorts.Perm (s.leasedPorts ++ b.otherPorts i) := Broker.heldPorts_set hi
  calc b.allocator.leased
    _ ~ b.heldPorts ++ (ports ++ rest) := hleased
    _ ~ (b.session i).leasedPorts ++ b.otherPorts i ++ (ports ++ rest) := hbefore.append_right _
    _ ~ (b.session i).leasedPorts ++ ports ++ (b.otherPorts i ++ rest) := by
      simp only [List.append_assoc]
      exact (List.perm_append_comm_assoc ..).append_left _
    _ ~ s.leasedPorts ++ ports' ++ (b.otherPorts i ++ rest) := hports.append_right _
    _ ~ s.leasedPorts ++ b.otherPorts i ++ (ports' ++ rest) := by
      simp only [List.append_assoc]
      exact (List.perm_append_comm_assoc ..).append_left _
    _ ~ (b.setSession i s).heldPorts ++ (ports' ++ rest) := hafter.symm.append_right _

theorem Watch.Gone.setSession {s : Session} (h : w.Gone b) (hi : i < b.sessions.length)
    (hevolves : (b.session i).Evolves g s) : w.Gone (b.setSession i s) := by
  refine ⟨?_, h.unknown, h.erased⟩
  by_cases hwi : w.session = i
  · have hlost := h.lost
    rw [hwi] at hlost ⊢
    rw [Broker.session_setSession_self hi, (hevolves.lost hlost).1]; exact hlost
  · rw [Broker.session_setSession_ne hwi]; exact h.lost

theorem Watch.Holds.setSession {s : Session} (h : w.Holds b) (hwi : w.session = i)
    (hi : i < b.sessions.length) (hevolves : (b.session i).Evolves g s)
    (hown : ∀ t ∈ s.tunnels, t.autoAssigned → t.localPort ∉ w.outset.otherPorts w.session ∨ w.Bare t.localPort) :
    w.Holds (b.setSession i s) := by
  subst hwi
  have hself : (b.setSession w.session s).session w.session = s := Broker.session_setSession_self hi
  exact
    { id := by rw [hself, hevolves.id]; exact h.id
      others := by
        rw [← h.others]
        simp only [Broker.setSession, List.eraseIdx_set_eq]
      keepLost := h.keepLost
      willing := h.willing
      usable := h.usable
      known := h.known.imp_right fun hgone => hgone.setSession hi hevolves
      own := by rw [hself]; exact hown }

/-- A step of a call that changes its session. -/
theorem Act.update {s : Session} {stage : Stage} {pending : List Tunnel} {ports : List Port}
    (hc : Coherent W b (g :: hs)) (hi : g.session = some i) (hevolves : (b.session i).Evolves g s)
    (hsound : s.Sound) (hpending : g.tunnels → s.pending = pending)
    (hknows : stage.Holds W (b.setSession i s) i)
    (hguarded : (stage = .live → g.lifecycle ∨ g.tunnels) ∧ (stage = .erased → g.lifecycle))
    (hports : ((b.session i).leasedPorts ++ g.ports).Perm (s.leasedPorts ++ ports))
    (hcovered : AssignedFrom ports pending)
    (hown : ∀ w ∈ W, ∀ t ∈ s.tunnels, t.autoAssigned →
      t.localPort ∉ w.outset.otherPorts w.session ∨ w.Bare t.localPort) :
    Act W b g (b.setSession i s) { g with stage, pending, ports } := by
  have hfits := hc.fits g (List.mem_cons_self ..)
  have hlt : i < b.sessions.length := hfits.present i hi
  have hself : (b.setSession i s).session i = s := Broker.session_setSession_self hlt
  have hlen : (b.setSession i s).sessions.length = b.sessions.length := Broker.length_setSession ..
  have hsome {j : SessionRef} (hj : g.session = some j) : j = i := Option.some.inj (hj.symm.trans hi)
  exact
    { session := .inl ⟨rfl, hlen⟩
      locks := ⟨rfl, rfl⟩
      ends := rfl
      moment := fun _ hm => .inl hm
      allowed :=
        { length := Nat.le_of_eq hlen.symm
          others := fun j _ hj => Broker.session_setSession_ne fun hji => hj (by rw [hji]; exact hi)
          own := fun j hj => by
            obtain rfl : j = i := hsome hj
            rw [hself]; exact hevolves
          store := fun _ _ _ => rfl
          gone := fun w _ hgone => hgone.setSession hlt hevolves
          listeners := Broker.hasListener_of_eq rfl }
      fits :=
        { present := fun j hj => by rw [hlen]; exact hfits.present j hj
          pending := fun j hj ht => by
            obtain rfl : j = i := hsome hj
            rw [hself]; exact hpending ht
          knows := fun j hj => by
            obtain rfl : j = i := hsome hj
            exact hknows
          guarded := hguarded
          watched := hfits.watched
          covered := hcovered }
      sound := fun j => by
        by_cases hj : j = i
        · rw [hj, hself]; exact hsound
        · rw [Broker.session_setSession_ne hj]; exact hc.sound j
      fresh := fun j hj => by rw [Broker.session_of_le (by rw [hlen]; exact hj)]; rfl
      leased := fun rest hrest => Broker.leased_setSession hlt hports hrest
      nodup := hc.nodup
      watched := fun w hw =>
        (hc.watched w hw).setSession (hsome (hfits.watched w hw)) hlt hevolves (hown w hw) }

/-- What a call has read of the time is about nothing in the broker. -/
theorem Act.withMoment {g' : Grip} {moment : Option Timestamp} (h : Act W b g b' g')
    (hmoment : ∀ m ∈ moment, m ∈ g.moment ∨
      m = b.outside.now ∧ ∃ i, g.Holds (.lifecycle i) ∧ ¬g.Holds (.tunnels i)) :
    Act W b g b' { g' with moment } :=
  { h with
    moment := hmoment
    fits := ⟨h.fits.present, h.fits.pending, h.fits.knows, h.fits.guarded, h.fits.watched, h.fits.covered⟩ }

/-- A step of a call that starts a session. -/
theorem Act.addSession {s : Session} (hc : Coherent none b (g :: hs)) (hi : g.session = none)
    (hl : g.lifecycle = false) (ht : g.tunnels = false) (hstage : g.stage = .unknown) (hsound : s.Sound)
    (hpending : s.pending = []) (hports : s.leasedPorts = []) :
    Act none b g (b.addSession s).2 { g with session := some b.sessions.length } := by
  have hlen : (b.addSession s).2.sessions.length = b.sessions.length + 1 := Broker.length_addSession ..
  have hself : (b.addSession s).2.session b.sessions.length = s := Broker.session_addSession b s
  have hother {j : SessionRef} (hj : j ≠ b.sessions.length) : (b.addSession s).2.session j = b.session j :=
    Broker.session_addSession_ne s hj
  exact
    { session := .inr ⟨rfl, by rw [hlen]; exact Nat.lt_succ_self _, hi, hl, ht⟩
      locks := ⟨rfl, rfl⟩
      ends := rfl
      moment := fun _ hm => .inl hm
      allowed :=
        { length := by rw [hlen]; exact Nat.le_succ _
          others := fun j hj _ => hother (Nat.ne_of_lt hj)
          own := fun j hj => by
            rw [hother (Nat.ne_of_lt ((hc.fits g (List.mem_cons_self ..)).present j hj))]
            exact .refl ..
          store := fun _ hw => by cases hw
          gone := fun _ hw => by cases hw
          listeners := Broker.hasListener_of_eq rfl }
      fits :=
        { present := fun j hj => by
            obtain rfl : b.sessions.length = j := Option.some.inj hj
            rw [hlen]; exact Nat.lt_succ_self _
          pending := fun _ _ htrue => by rw [show g.tunnels = false from ht] at htrue; cases htrue
          knows := fun _ _ => by
            show g.stage.Holds none _ _
            rw [hstage]; trivial
          guarded := by
            show (g.stage = .live → _) ∧ (g.stage = .erased → _)
            rw [hstage]; exact ⟨nofun, nofun⟩
          watched := fun _ hw => by cases hw
          covered := (hc.fits g (List.mem_cons_self ..)).covered }
      sound := fun j => by
        by_cases hj : j = b.sessions.length
        · rw [hj, hself]; exact hsound
        · rw [hother hj]; exact hc.sound j
      fresh := fun j hj => by
        by_cases hj' : j = b.sessions.length
        · rw [hj', hself]; exact hpending
        · rw [hother hj', Broker.session_of_le hj]; rfl
      leased := fun rest hrest => by
        have hheld : (b.addSession s).2.heldPorts = b.heldPorts := by
          simp [Broker.heldPorts, Broker.addSession, hports]
        rw [hheld]; exact hrest
      nodup := hc.nodup
      watched := fun _ hw => by cases hw }

end

/-! ## Locks -/

/-- The session that a lock is of. -/
def Lock.session : Lock → SessionRef
  | .lifecycle i => i
  | .tunnels i => i

namespace Grip

/-- The grip of a call that takes a lock. -/
def take (g : Grip) : Lock → Grip
  | .lifecycle _ => { g with lifecycle := true }
  | .tunnels _ => { g with tunnels := true, pending := [] }

/-- The grip of a call that gives a lock back. -/
def drop (g : Grip) : Lock → Grip
  | .lifecycle _ => { g with lifecycle := false, stage := g.stage.settle, moment := none }
  | .tunnels _ => { g with tunnels := false, stage := if g.lifecycle then g.stage else g.stage.settle }

/-- The lock is one of the call's session. -/
def Owns (g : Grip) (lock : Lock) : Prop := g.session = some lock.session

/-- The call may give the lock back: the session's batch is at its end. -/
def MayDrop (g : Grip) : Lock → Prop
  | .lifecycle _ => g.tunnels = false
  | .tunnels _ => g.pending = []

end Grip

section

variable {W : Option Watch} {b : Broker} {g : Grip} {hs : List Grip} {i : SessionRef} {lock l : Lock}

theorem Grip.owns_of_holds (h : g.Holds lock) : g.Owns lock := by
  cases lock with
  | lifecycle i => exact h.2
  | tunnels i => exact h.2

theorem Grip.holds_take (h : g.Owns lock) : (g.take lock).Holds l ↔ l = lock ∨ g.Holds l := by
  have hsession : g.session = some lock.session := h
  cases lock <;> cases l <;> simp only [take, Holds, hsession, Lock.session] <;> grind

theorem Grip.holds_drop (h : g.Owns lock) : (g.drop lock).Holds l ↔ l ≠ lock ∧ g.Holds l := by
  have hsession : g.session = some lock.session := h
  cases lock <;> cases l <;> simp only [drop, Holds, hsession, Lock.session] <;> grind

theorem Stage.holds_settle {stage : Stage} (h : stage.Holds W b i) : stage.settle.Holds W b i := by
  cases stage with
  | live => trivial
  | erased => exact h.1
  | _ => exact h

/-- Who takes the lock of the tunnels finds no batch. -/
theorem Fits.take (h : Fits W b g) (howns : g.Owns lock) (hidle : ∀ i, lock = .tunnels i → (b.session i).pending = []) :
    Fits W b (g.take lock) := by
  cases lock with
  | lifecycle j => exact ⟨h.present, h.pending, h.knows, ⟨fun _ => .inl rfl, fun _ => rfl⟩, h.watched, h.covered⟩
  | tunnels j =>
    refine ⟨h.present, fun i hi _ => ?_, h.knows, ⟨fun _ => .inr rfl, h.guarded.2⟩, h.watched, assignedFrom_nil _⟩
    obtain rfl : j = i := Option.some.inj (Eq.trans (Eq.symm howns) hi)
    exact hidle j rfl

/-- Who gives a lock back keeps what is known without it. -/
theorem Fits.drop (h : Fits W b g) (lock : Lock) : Fits W b (g.drop lock) := by
  have hsettled (stage : Stage) : stage.settle ≠ .live ∧ stage.settle ≠ .erased := by cases stage <;> decide
  cases lock with
  | lifecycle j =>
    refine ⟨h.present, h.pending, fun i hi => Stage.holds_settle (h.knows i hi), ?_, h.watched, h.covered⟩
    exact ⟨fun hstage => absurd hstage (hsettled _).1, fun hstage => absurd hstage (hsettled _).2⟩
  | tunnels j =>
    by_cases hl : g.lifecycle = true
    · have hstage : (g.drop (.tunnels j)).stage = g.stage := if_pos hl
      refine ⟨h.present, nofun, fun i hi => ?_, ⟨fun _ => .inl hl, fun _ => hl⟩, h.watched, h.covered⟩
      rw [hstage]; exact h.knows i hi
    · have hstage : (g.drop (.tunnels j)).stage = g.stage.settle := if_neg hl
      refine ⟨h.present, nofun, fun i hi => ?_, ?_, h.watched, h.covered⟩
      · rw [hstage]; exact Stage.holds_settle (h.knows i hi)
      · rw [hstage]
        exact ⟨fun hstage => absurd hstage (hsettled _).1, fun hstage => absurd hstage (hsettled _).2⟩

/-- A lock that nobody holds can be taken. -/
theorem Coherent.take (hc : Coherent W b (g :: hs)) (howns : g.Owns lock) (hfree : ∀ k ∈ g :: hs, ¬k.Holds lock) :
    Coherent W b (g.take lock :: hs) where
  sound := hc.sound
  fits := by
    obtain ⟨hfits, hrest⟩ := List.forall_mem_cons.mp hc.fits
    refine List.forall_mem_cons.mpr ⟨hfits.take howns ?_, hrest⟩
    rintro i rfl
    exact hc.idle i hfree
  apart := by
    obtain ⟨hfirst, hrest⟩ := List.pairwise_cons.mp hc.apart
    refine List.pairwise_cons.mpr ⟨fun k hk l hl => ?_, hrest⟩
    rcases (Grip.holds_take howns).mp hl with rfl | hl
    · exact hfree k (List.mem_cons_of_mem _ hk)
    · exact hfirst k hk l hl
  idle i hi := by
    obtain ⟨hfirst, hrest⟩ := List.forall_mem_cons.mp hi
    refine hc.idle i (List.forall_mem_cons.mpr ⟨fun hlock => ?_, hrest⟩)
    exact hfirst ((Grip.holds_take howns).mpr (.inr hlock))
  leased := by
    have hports : (g.take lock).ports = g.ports := by cases lock <;> rfl
    rw [List.flatMap_cons, hports, ← List.flatMap_cons]; exact hc.leased
  nodup := hc.nodup
  watched := hc.watched

/-- A lock can be given back when the batch that it protects is at its end. -/
theorem Coherent.drop (hc : Coherent W b (g :: hs)) (hholds : g.Holds lock) (hmay : g.MayDrop lock) :
    Coherent W b (g.drop lock :: hs) := by
  have howns : g.Owns lock := Grip.owns_of_holds hholds
  obtain ⟨hfits, hothers⟩ := List.forall_mem_cons.mp hc.fits
  exact
    { sound := hc.sound
      fits := List.forall_mem_cons.mpr ⟨hfits.drop lock, hothers⟩
      apart := by
        obtain ⟨hfirst, hrest⟩ := List.pairwise_cons.mp hc.apart
        exact List.pairwise_cons.mpr ⟨fun k hk l hl => hfirst k hk l ((Grip.holds_drop howns).mp hl).2, hrest⟩
      idle := fun i hi => by
        obtain ⟨hfirst, hrest⟩ := List.forall_mem_cons.mp hi
        by_cases hlock : lock = .tunnels i
        · subst hlock
          rw [hfits.pending i howns hholds.1]; exact hmay
        · refine hc.idle i (List.forall_mem_cons.mpr ⟨fun hheld => ?_, hrest⟩)
          exact hfirst ((Grip.holds_drop howns).mpr ⟨Ne.symm hlock, hheld⟩)
      leased := by
        have hports : (g.drop lock).ports = g.ports := by cases lock <;> rfl
        rw [List.flatMap_cons, hports, ← List.flatMap_cons]; exact hc.leased
      nodup := hc.nodup
      watched := hc.watched }

end

end TunnelBroker
