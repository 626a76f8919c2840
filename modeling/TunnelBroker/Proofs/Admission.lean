/-
  TunnelBroker.Proofs.Admission — who gets through a tunnel to the client.

  The events at a listener come in any order: callers, troubles with them, the halt, the end of the loop, and
  whatever its relays do in between. A listener does not remember whom it has taken, so this is worked out from
  the events (`Accepting.taken`).

  - `Accepting.Moves`: all that one event can do; nothing above it opens the definition of a step.
  - `Accepting.Conforms`: what the counters and the relays have to do with the callers that were taken. One event
    keeps it (`Conforms.step`), so any sequence of events does (`Conforms.run`).
  - `halt_then_leave`, `taken_eq_of_not_left`: the loop ends only after a halt, and takes every caller until then.
  - `run_without_trouble`: a caller who could not be taken makes no difference.
  - `only_allowed_callers_get_channels`: all of this for a tunnel that a session has started.
-/

import TunnelBroker.Session.Accept
import TunnelBroker.Proofs.Steps

namespace TunnelBroker

open TunnelBroker.Net (Endpoint)
open TunnelBroker.Time (Timestamp)

/-! ## What is said about events -/

/-- The caller that an event offers to the loop. -/
def AcceptEvent.caller? : AcceptEvent → Option Endpoint
  | .caller endpoint => some endpoint
  | _ => none

/-- The channel that the relay has asked for: for whom, and to the remote side of which forward. -/
def Relay.request? (r : Relay) : Option (Endpoint × Forward) := r.target?.map fun target => (r.caller, target)

/-- What a caller who was taken, or that nobody was, means for the counters of a tunnel: exactly one of them moves
for a caller, and which one is up to the list. -/
inductive Acl.Counts (acl : Acl) (t t' : Tunnel) : Option Endpoint → Prop where
  | nobody : t'.accepted = t.accepted → t'.rejected = t.rejected → acl.Counts t t' none
  | allowed {caller : Endpoint} : acl.allowsCaller caller = true → t'.accepted = t.accepted + 1 →
      t'.rejected = t.rejected → acl.Counts t t' (some caller)
  | denied {caller : Endpoint} : acl.allowsCaller caller = false → t'.accepted = t.accepted →
      t'.rejected = t.rejected + 1 → acl.Counts t t' (some caller)

namespace Accepting

/-- The caller whom the loop takes at an event. -/
def taken? (a : Accepting) (e : AcceptEvent) : Option Endpoint := if a.left then none else e.caller?

/-- The callers whom the loop takes in the course of some events, the first one first. -/
def taken (a : Accepting) : List AcceptEvent → List Endpoint
  | [] => []
  | e :: rest => (a.taken? e).toList ++ (a.step e).taken rest

/-- All the channels that were ever asked for; those that were opened are among them. -/
def requests (a : Accepting) : List (Endpoint × Forward) := a.relays.filterMap Relay.request?

theorem run_cons (a : Accepting) (e : AcceptEvent) (rest : List AcceptEvent) :
    a.run (e :: rest) = (a.step e).run rest := rfl

end Accepting

/-! ## One event of a relay -/

namespace Relay

@[simp] theorem step_caller (forward : Forward) (r : Relay) (e : RelayEvent) : (r.step forward e).caller = r.caller := by
  unfold step
  split <;> rfl

/-- A relay keeps its target; it gets none but the forward of its tunnel. -/
theorem step_target (forward : Forward) (r : Relay) (e : RelayEvent) :
    (r.step forward e).target? = r.target? ∨ r.target? = none ∧ (r.step forward e).target? = some forward := by
  unfold step
  split
  · rename_i h
    exact .inr ⟨by simp only [target?, h], rfl⟩
  all_goals exact .inl (by simp only [target?, *])

theorem step_request (forward : Forward) (r : Relay) (e : RelayEvent) :
    (r.step forward e).request? = r.request? ∨
      r.request? = none ∧ (r.step forward e).request? = some (r.caller, forward) := by
  unfold request?
  rw [step_caller]
  rcases step_target forward r e with h | ⟨hnone, h⟩
  · exact .inl (by rw [h])
  · exact .inr ⟨by rw [hnone]; rfl, by rw [h]; rfl⟩

/-- A relay that is told to ask has asked afterwards. -/
theorem target_ask (forward : Forward) (r : Relay) :
    (r.step forward .ask).target? = some (r.target?.getD forward) := by
  obtain ⟨caller, stage⟩ := r
  cases stage <;> rfl

end Relay

/-! ## One event at a listener -/

namespace Accepting

variable {t : Tunnel} {a a' : Accepting} {e : AcceptEvent} {caller? : Option Endpoint} {callers : List Endpoint}

/-- What an event does, and who is taken at it. -/
inductive Moves (a : Accepting) : AcceptEvent → Option Endpoint → Accepting → Prop where
  | allowed {caller : Endpoint} (hleft : a.left = false) (h : a.tunnel.acl.allowsCaller caller = true) :
      a.Moves (.caller caller) (some caller)
        { a with tunnel := { a.tunnel with accepted := a.tunnel.accepted + 1 }, relays := a.relays ++ [{ caller }] }
  | denied {caller : Endpoint} (hleft : a.left = false) (h : a.tunnel.acl.allowsCaller caller = false) :
      a.Moves (.caller caller) (some caller)
        { a with tunnel := { a.tunnel with rejected := a.tunnel.rejected + 1 } }
  | missed {caller : Endpoint} (hleft : a.left = true) : a.Moves (.caller caller) none a
  | trouble : a.Moves .trouble none a
  | halt : a.Moves .halt none { a with tunnel := a.tunnel.halt }
  | leave : a.Moves .leave none { a with left := a.left || a.tunnel.halted }
  | relay {position : Nat} {event : RelayEvent} {before after : List Relay} {r : Relay}
      (h : a.relays = before ++ r :: after) :
      a.Moves (.relay position event) none { a with relays := before ++ r.step a.tunnel.forward event :: after }
  | noRelay {position : Nat} {event : RelayEvent} : a.Moves (.relay position event) none a

theorem moves_step (a : Accepting) (e : AcceptEvent) : a.Moves e (a.taken? e) (a.step e) := by
  cases e with
  | caller caller =>
    cases hleft : a.left with
    | true => simpa [taken?, step, hleft] using Moves.missed hleft
    | false =>
      cases h : a.tunnel.acl.allowsCaller caller with
      | true => simpa [taken?, step, hleft, Tunnel.receive, AcceptEvent.caller?, h] using Moves.allowed hleft h
      | false => simpa [taken?, step, hleft, Tunnel.receive, AcceptEvent.caller?, h] using Moves.denied hleft h
  | trouble => simpa [taken?, step, AcceptEvent.caller?] using Moves.trouble
  | halt => simpa [taken?, step, AcceptEvent.caller?] using Moves.halt
  | leave => simpa [taken?, step, AcceptEvent.caller?] using Moves.leave
  | relay position event =>
    simp only [taken?, step, AcceptEvent.caller?, ite_self]
    rcases Nat.lt_or_ge position a.relays.length with hlt | hle
    · obtain ⟨before, r, after, hsplit, -, hmodify⟩ := List.exists_of_modify (·.step a.tunnel.forward event) hlt
      rw [hmodify]
      exact .relay hsplit
    · rw [List.modify_eq_self hle]
      exact .noRelay

namespace Moves

theorem counts (h : a.Moves e caller? a') : a.tunnel.acl.Counts a.tunnel a'.tunnel caller? := by
  cases h with
  | allowed _ h => exact .allowed h rfl rfl
  | denied _ h => exact .denied h rfl rfl
  | _ => exact .nobody rfl rfl

/-- A request that was made stays made. -/
theorem requests (h : a.Moves e caller? a') : a.requests.Sublist a'.requests := by
  cases h with
  | allowed => exact (List.sublist_append_left ..).filterMap _
  | @relay _ event before after r h =>
    simp only [Accepting.requests, h, List.filterMap_append, List.filterMap_cons]
    refine List.Sublist.append_left ?_ _
    rcases r.step_request a.tunnel.forward event with hsame | ⟨hnone, hsome⟩
    · rw [hsame]
    · rw [hnone, hsome]
      exact List.sublist_cons_self ..
  | _ => exact .refl _

theorem halted (h : a.Moves e caller? a') : a'.tunnel.halted = (a.tunnel.halted || e == .halt) := by
  cases h <;> simp [Tunnel.halt]

theorem left (h : a.Moves e caller? a') : a'.left = (a.left || a.tunnel.halted && e == .leave) := by
  cases h <;> simp

end Moves

/-! ## Any events -/

/-- The state of a listener whose tunnel was `t` and which has taken some callers. -/
structure Conforms (t : Tunnel) (callers : List Endpoint) (a : Accepting) : Prop where
  acl : a.tunnel.acl = t.acl
  forward : a.tunnel.forward = t.forward
  accepted : a.tunnel.accepted = t.accepted + UInt64.ofNat (callers.countP fun c => t.acl.allowsCaller c)
  rejected : a.tunnel.rejected = t.rejected + UInt64.ofNat (callers.countP fun c => !t.acl.allowsCaller c)
  relayed : a.relays.map Relay.caller = callers.filter fun c => t.acl.allowsCaller c
  targets : ∀ r ∈ a.relays, ∀ target, r.target? = some target → target = t.forward

theorem conforms_start (t : Tunnel) : Conforms t [] { tunnel := t } where
  acl := rfl
  forward := rfl
  accepted := by simp
  rejected := by simp
  relayed := rfl
  targets := by simp

theorem Conforms.step (hc : Conforms t callers a) (h : a.Moves e caller? a') :
    Conforms t (callers ++ caller?.toList) a' := by
  obtain ⟨hacl, hforward, haccepted, hrejected, hrelayed, htargets⟩ := hc
  cases h with
  | @allowed caller _ h =>
    rw [hacl] at h
    refine ⟨hacl, hforward, ?_, ?_, ?_, ?_⟩
    · simp [haccepted, h, UInt64.add_assoc]
    · simp [hrejected, h]
    · simp [hrelayed, h]
    · intro r hr
      rcases List.mem_append.mp hr with hr | hr
      · exact htargets r hr
      · rw [List.mem_singleton.mp hr]
        intro target htarget
        cases htarget
  | @denied caller _ h =>
    rw [hacl] at h
    refine ⟨hacl, hforward, ?_, ?_, ?_, htargets⟩
    · simp [haccepted, h]
    · simp [hrejected, h, UInt64.add_assoc]
    · simp [hrelayed, h]
  | @relay _ event before after r h =>
    rw [h] at hrelayed htargets
    simp only [Option.toList_none, List.append_nil]
    refine ⟨hacl, hforward, haccepted, hrejected, ?_, ?_⟩
    · simpa using hrelayed
    · intro r' hr' target htarget
      rcases List.mem_append.mp hr' with hr' | hr'
      · exact htargets r' (List.mem_append_left _ hr') target htarget
      · rcases List.mem_cons.mp hr' with rfl | hr'
        · rcases r.step_target a.tunnel.forward event with hsame | ⟨-, hsome⟩
          · exact htargets r (by simp) target (hsame ▸ htarget)
          · rw [hsome] at htarget
            rw [← Option.some.inj htarget, hforward]
        · exact htargets r' (by simp [hr']) target htarget
  | _ => simpa using ⟨hacl, hforward, haccepted, hrejected, hrelayed, htargets⟩

theorem Conforms.run (hc : Conforms t callers a) (events : List AcceptEvent) :
    Conforms t (callers ++ a.taken events) (a.run events) := by
  induction events generalizing a callers with
  | nil => simpa [taken, Accepting.run] using hc
  | cons e rest ih =>
    rw [run_cons, taken, ← List.append_assoc]
    exact ih (hc.step (a.moves_step e))

/-- Each relay asks at most once, and for its own caller. -/
theorem requests_sublist (a : Accepting) : (a.requests.map Prod.fst).Sublist (a.relays.map Relay.caller) := by
  unfold requests
  induction a.relays with
  | nil => exact .slnil
  | cons r rest ih =>
    rw [List.filterMap_cons, List.map_cons]
    cases htarget : r.target? with
    | none => simpa [Relay.request?, htarget] using ih.cons r.caller
    | some target => simpa [Relay.request?, htarget] using ih

theorem Conforms.target_eq (hc : Conforms t callers a) {request : Endpoint × Forward} (h : request ∈ a.requests) :
    request.2 = t.forward := by
  obtain ⟨r, hr, hrequest⟩ := List.mem_filterMap.mp h
  obtain ⟨target, htarget, rfl⟩ := Option.map_eq_some_iff.mp hrequest
  exact hc.targets r hr target htarget

theorem Conforms.asks (hc : Conforms t callers a) {position : Nat} {r : Relay} (h : a.relays[position]? = some r) :
    (r.caller, t.forward) ∈ (a.step (.relay position .ask)).requests := by
  have hmem : r.step a.tunnel.forward .ask ∈ (a.step (.relay position .ask)).relays :=
    List.mem_of_getElem? (i := position) (by simp [Accepting.step, h])
  have htarget : r.target?.getD a.tunnel.forward = t.forward := by
    cases htarget : r.target? with
    | none => exact hc.forward
    | some target => exact hc.targets r (List.mem_of_getElem? h) target htarget
  refine List.mem_filterMap.mpr ⟨_, hmem, ?_⟩
  rw [Relay.request?, Relay.target_ask, htarget, Relay.step_caller]
  rfl

/-- Nobody is missed before the loop was left. -/
theorem taken_eq_of_not_left {events : List AcceptEvent} (h : (a.run events).left = false) :
    a.left = false ∧ a.taken events = events.filterMap AcceptEvent.caller? := by
  induction events generalizing a with
  | nil => exact ⟨h, rfl⟩
  | cons e rest ih =>
    obtain ⟨hstep, hrest⟩ := ih h
    rw [(a.moves_step e).left, Bool.or_eq_false_iff] at hstep
    refine ⟨hstep.1, ?_⟩
    rw [taken, hrest, List.filterMap_cons, taken?, hstep.1]
    cases e.caller? <;> rfl

theorem leave_mem {events : List AcceptEvent} (hleft : a.left = false) (h : (a.run events).left = true) :
    .leave ∈ events := by
  induction events generalizing a with
  | nil => rw [Accepting.run, List.foldl_nil, hleft] at h; cases h
  | cons e rest ih =>
    by_cases he : e = .leave
    · exact he ▸ List.mem_cons_self ..
    · refine List.mem_cons_of_mem _ (ih ?_ h)
      simp [(a.moves_step e).left, hleft, he]

/-- The loop is only left some time after its tunnel was halted. -/
theorem halt_then_leave {events : List AcceptEvent} (hleft : a.left = false) (hhalted : a.tunnel.halted = false)
    (h : (a.run events).left = true) : [AcceptEvent.halt, .leave].Sublist events := by
  induction events generalizing a with
  | nil => rw [Accepting.run, List.foldl_nil, hleft] at h; cases h
  | cons e rest ih =>
    have hleft' : (a.step e).left = false := by simp [(a.moves_step e).left, hleft, hhalted]
    by_cases he : e = .halt
    · subst he
      exact (List.singleton_sublist.mpr (leave_mem hleft' h)).cons_cons _
    · refine (ih hleft' ?_ h).cons _
      simp [(a.moves_step e).halted, hhalted, he]

/-- Callers who could not be taken make no difference: neither to the state nor to who is taken. -/
theorem run_without_trouble (a : Accepting) (events : List AcceptEvent) :
    a.run (events.filter (· ≠ .trouble)) = a.run events ∧ a.taken (events.filter (· ≠ .trouble)) = a.taken events := by
  induction events generalizing a with
  | nil => exact ⟨rfl, rfl⟩
  | cons e rest ih =>
    by_cases he : e = .trouble
    · subst he
      have hnobody : a.taken? .trouble = none := by simp [taken?, AcceptEvent.caller?]
      simpa [run_cons, taken, hnobody, step] using ih a
    · obtain ⟨hrun, htaken⟩ := ih (a.step e)
      rw [List.filter_cons_of_pos (by simpa using he), run_cons, run_cons, taken, taken]
      exact ⟨hrun, by rw [htaken]⟩

end Accepting

/-! ## Started tunnels -/

/-- A tunnel that was just started serves the forward that was asked for and nobody was counted yet. -/
theorem Session.started_uncounted {s : Session} {f : Forward} {acl : Acl} {autoAssigned : Bool} {now : Timestamp}
    {t : Tunnel} (h : (s.start f acl autoAssigned now).1 = .ok t) :
    t.forward = f ∧ t.acl = acl ∧ t.halted = false ∧ t.accepted = 0 ∧ t.rejected = 0 := by
  rcases s.start_cases f acl autoAssigned now with ⟨e, he⟩ | ⟨-, ht⟩
  · rw [he] at h
    cases h
  · rw [ht] at h
    cases h
    exact ⟨rfl, rfl, rfl, rfl, rfl⟩

/-- Whatever happens at the listener of a tunnel that a session has started, in any order. Channels are asked for on
behalf of callers whom the list allows, at most once for each of them, and only to the remote side of the tunnel's
forward; each of these callers has a relay, and a relay that asks is heard. Everyone who is taken moves one of the
counters, the one that the list says. So both together are the number of callers who were taken, as far as words of
64 bits can tell, and no more channels are asked for than callers were accepted. A caller who cannot be taken changes
nothing. The loop ends only some time after a halt, and takes everyone until then. -/
theorem only_allowed_callers_get_channels {s : Session} {f : Forward} {acl : Acl} {autoAssigned : Bool}
    {now : Timestamp} {t : Tunnel} (hstart : (s.start f acl autoAssigned now).1 = .ok t) (events : List AcceptEvent) :
    let listening : Accepting := { tunnel := t }
    let a := listening.run events
    let callers := listening.taken events
    ((a.requests.map Prod.fst).Sublist (callers.filter fun c => acl.allowsCaller c) ∧
      (∀ request ∈ a.requests, request.2 = f) ∧ (∀ e, a.requests.Sublist (a.step e).requests) ∧
      a.requests.length ≤ callers.countP (fun c => acl.allowsCaller c) ∧
      a.relays.map Relay.caller = callers.filter (fun c => acl.allowsCaller c) ∧
      ∀ position r, a.relays[position]? = some r → (r.caller, f) ∈ (a.step (.relay position .ask)).requests) ∧
    ((∀ e, acl.Counts a.tunnel (a.step e).tunnel (a.taken? e)) ∧
      a.tunnel.accepted = UInt64.ofNat (callers.countP fun c => acl.allowsCaller c) ∧
      a.tunnel.rejected = UInt64.ofNat (callers.countP fun c => !acl.allowsCaller c) ∧
      a.tunnel.accepted + a.tunnel.rejected = UInt64.ofNat callers.length ∧
      (callers.length < UInt64.size → a.tunnel.accepted.toNat + a.tunnel.rejected.toNat = callers.length ∧
        a.requests.length ≤ a.tunnel.accepted.toNat)) ∧
    (a.step .trouble = a ∧ listening.run (events.filter (· ≠ .trouble)) = a ∧
      listening.taken (events.filter (· ≠ .trouble)) = callers) ∧
    (a.left = false → callers = events.filterMap AcceptEvent.caller?) ∧
    (a.left = true → [AcceptEvent.halt, .leave].Sublist events) := by
  intro listening a callers
  obtain ⟨rfl, rfl, hhalted, hzero, hzero'⟩ := Session.started_uncounted hstart
  have hc : Accepting.Conforms t callers a := (Accepting.conforms_start t).run events
  have hsublist : (a.requests.map Prod.fst).Sublist (callers.filter fun c => t.acl.allowsCaller c) := by
    rw [← hc.relayed]
    exact a.requests_sublist
  have hrequests : a.requests.length ≤ callers.countP fun c => t.acl.allowsCaller c := by
    simpa [List.countP_eq_length_filter] using hsublist.length_le
  have haccepted : a.tunnel.accepted = UInt64.ofNat (callers.countP fun c => t.acl.allowsCaller c) := by
    rw [hc.accepted, hzero, UInt64.zero_add]
  have hrejected : a.tunnel.rejected = UInt64.ofNat (callers.countP fun c => !t.acl.allowsCaller c) := by
    rw [hc.rejected, hzero', UInt64.zero_add]
  have hlength : callers.length =
      callers.countP (fun c => t.acl.allowsCaller c) + callers.countP (fun c => !t.acl.allowsCaller c) := by
    simpa using callers.length_eq_countP_add_countP fun c => t.acl.allowsCaller c
  refine ⟨⟨hsublist, fun _ => hc.target_eq, fun e => (a.moves_step e).requests, hrequests, hc.relayed,
    fun _ _ => hc.asks⟩, ⟨fun e => hc.acl ▸ (a.moves_step e).counts, haccepted, hrejected, ?_, fun hsize => ?_⟩,
    ⟨rfl, listening.run_without_trouble events⟩, fun h => (Accepting.taken_eq_of_not_left h).2,
    Accepting.halt_then_leave rfl hhalted⟩
  · rw [haccepted, hrejected, hlength, UInt64.ofNat_add]
  · rw [haccepted, hrejected, UInt64.toNat_ofNat_of_lt' (by omega), UInt64.toNat_ofNat_of_lt' (by omega)]
    exact ⟨hlength.symm, hrequests⟩

/-- A stranger between two callers from the network that is allowed. The second of these comes after the halt, with a
relay that is the first one to ask; who comes after the end of the loop is not taken. -/
theorem stranger_gets_no_channel :
    let f : Forward := ⟨some "127.0.0.1", some 8080, "web", 80⟩
    let acl : Acl := ⟨[⟨.v4 0x0a000000, 8, by decide⟩]⟩
    let s : Session := .connect "a" 0 "192.0.2.7:40000" {} none false
    let t := s.nextTunnel f acl false .epoch
    let first : Endpoint := ⟨.v4 0x0a000001, 40001, 0⟩
    let stranger : Endpoint := ⟨.v4 0xc0000201, 40002, 0⟩
    let second : Endpoint := ⟨.v4 0x0a000002, 40003, 0⟩
    let events : List AcceptEvent := [.caller first, .trouble, .caller stranger, .halt, .caller second, .relay 1 .ask,
      .leave, .caller first, .relay 0 .ask, .relay 1 (.answer none), .relay 2 .ask]
    let listening : Accepting := { tunnel := t }
    let a := listening.run events
    (s.start f acl false .epoch).1 = .ok t ∧ listening.taken events = [first, stranger, second] ∧
      a.requests.map Prod.fst = [first, second] ∧ (∀ request ∈ a.requests, request.2 = f) ∧ a.tunnel.accepted = 2 ∧
      a.tunnel.rejected = 1 ∧ a.left = true ∧ [AcceptEvent.halt, .leave].Sublist events ∧
      a.tunnel.accepted.toNat + a.tunnel.rejected.toNat = 3 ∧ a.requests.length ≤ a.tunnel.accepted.toNat := by
  intro f acl s t first stranger second events listening a
  have hstart : (s.start f acl false .epoch).1 = .ok t := by decide +kernel
  have htaken : listening.taken events = [first, stranger, second] := by decide +kernel
  have hrequests : a.requests.map Prod.fst = [first, second] := by decide +kernel
  have haccepted : a.tunnel.accepted = 2 := by decide +kernel
  have hrejected : a.tunnel.rejected = 1 := by decide +kernel
  have hleft : a.left = true := by decide +kernel
  obtain ⟨⟨-, htarget, -⟩, ⟨-, -, -, -, hcount⟩, -, -, hend⟩ := only_allowed_callers_get_channels hstart events
  rw [htaken] at hcount
  obtain ⟨hsum, hle⟩ := hcount (by decide +kernel)
  exact ⟨hstart, htaken, hrequests, htarget, haccepted, hrejected, hleft, hend hleft, hsum, hle⟩

end TunnelBroker
