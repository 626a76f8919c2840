/-
  TunnelBroker.Proofs.Interleaving — calls of a broker's operations, side by side.

  Any number of calls are under way. At a turn, one of them takes its next step: it looks at the broker and
  changes it, it takes a lock or gives one back, or it stops waiting. A call whose next step is not possible
  now stays where it is. At any other turn somebody makes a call, or something outside changes.

  - `Call.step`: the next step of one call.
  - `Service.step`, `Service.after`: one turn, and one turn after the other.
-/

import TunnelBroker.Proofs.History

namespace TunnelBroker

open scoped List

/-- What can be asked of a broker: a command, or that somebody looks after a connection. -/
inductive Request where
  | command (c : Command)
  | handle (id : String) (connection : ConnectionRef) (request : ConnectionRequest) (user : Option User)
      (cancelled : Bool)

namespace Request

def operation : Request → Operation (Except SessionError Unit)
  | command c => c.operation
  | handle id connection request user cancelled => Operation.handle id connection request user cancelled

/-- The session that the request is made for. -/
def session? : Request → Option SessionRef
  | command c => c.session?
  | handle .. => none

/-- The session that the request is made for is there. -/
def isPossible (b : Broker) (r : Request) : Bool := r.session?.all (· < b.sessions.length)

/-- The request may end a session. -/
def isEnding : Request → Bool
  | command (.terminate _) => true
  | command _ => false
  | handle .. => true

end Request

/-- A request that is being served. -/
structure Call where
  request : Request
  /-- What is left to do. -/
  rest : Operation (Except SessionError Unit)
  /-- The session that the call is for, or the one that it has started. -/
  session? : Option SessionRef := none
  /-- The locks that it holds. -/
  locks : List Lock := []
  /-- It has looked at the broker. -/
  begun : Bool := false

namespace Call

def ofRequest (r : Request) : Call := { request := r, rest := r.operation, session? := r.session? }

/-- What the call has returned. -/
def result? (x : Call) : Option (Except SessionError Unit) := x.rest.result?

/-- The next step of the call, if it can be taken where some locks are held. -/
def step (isHeld : Lock → Bool) (b : Broker) (x : Call) : Call × Broker :=
  match x.rest with
  | .done _ => (x, b)
  | .act change next =>
    let b' := change b
    let session? := if b.sessions.length < b'.sessions.length then some b.sessions.length else x.session?
    ({ x with rest := next b, begun := true, session? }, b')
  | .await ready next => (if ready b then { x with rest := next } else x, b)
  | .acquire lock next => (if isHeld lock then x else { x with rest := next, locks := lock :: x.locks }, b)
  | .release lock next => ({ x with rest := next, locks := x.locks.filter (· ≠ lock) }, b)

end Call

/-- A broker and the calls that were made. -/
structure Service where
  broker : Broker
  calls : List Call := []

inductive Turn where
  | outside (o : Outside)
  /-- A client connects. -/
  | arrival (c : Connection)
  /-- A client closes its connection. -/
  | hangUp (connection : ConnectionRef) (reason : String)
  /-- The listeners of halted tunnels close. -/
  | settling
  | call (r : Request)
  /-- A call takes its next step, if it can. -/
  | go (k : Nat)

namespace Service

/-- A broker before any call. -/
def ofBroker (b : Broker) : Service := { broker := b }

def boot (setup : Setup) : Service := ofBroker setup.boot

def isHeld (h : Service) (lock : Lock) : Bool := h.calls.any (·.locks.contains lock)

def step (h : Service) : Turn → Service
  | .outside o => { h with broker := { h.broker with outside := o } }
  | .arrival c => { h with broker := (h.broker.addConnection c).2 }
  | .hangUp connection reason => { h with broker := ((Operation.closeConnection connection reason).run h.broker).2 }
  | .settling => { h with broker := h.broker.closeStale }
  | .call r => if r.isPossible h.broker then { h with calls := h.calls ++ [.ofRequest r] } else h
  | .go k =>
    match h.calls[k]? with
    | none => h
    | some x =>
      let p := x.step h.isHeld h.broker
      { broker := p.2, calls := h.calls.set k p.1 }

def after (h : Service) (turns : List Turn) : Service := turns.foldl step h

/-- Every call has returned. -/
def IsIdle (h : Service) : Prop := ∀ x ∈ h.calls, x.result?.isSome

/-- The call has not looked at the broker yet, or it has not been made. -/
def HasNotBegun (h : Service) (k : Nat) : Prop := ∀ x, h.calls[k]? = some x → x.begun = false

end Service

/-! ## The step of one call -/

namespace Call

/-- The call has returned or has to wait, or it takes the step that comes next. -/
theorem step_cases (isHeld : Lock → Bool) (b : Broker) (x : Call) :
    x.step isHeld b = (x, b) ∨
      (∃ change next, x.rest = .act change next ∧
        x.step isHeld b =
          ({ x with
              rest := next b, begun := true
              session? :=
                if b.sessions.length < (change b).sessions.length then some b.sessions.length else x.session? },
            change b)) ∨
      (∃ ready next, x.rest = .await ready next ∧ x.step isHeld b = ({ x with rest := next }, b)) ∨
      (∃ lock next, x.rest = .acquire lock next ∧ isHeld lock = false ∧
        x.step isHeld b = ({ x with rest := next, locks := lock :: x.locks }, b)) ∨
      ∃ lock next, x.rest = .release lock next ∧
        x.step isHeld b = ({ x with rest := next, locks := x.locks.filter (· ≠ lock) }, b) := by
  unfold step
  cases x.rest with
  | done result => exact .inl rfl
  | act change next => exact .inr (.inl ⟨change, next, rfl, rfl⟩)
  | await ready next =>
    dsimp only
    split
    · exact .inr (.inr (.inl ⟨ready, next, rfl, rfl⟩))
    · exact .inl rfl
  | acquire lock next =>
    dsimp only
    split
    · exact .inl rfl
    · rename_i hheld
      exact .inr (.inr (.inr (.inl ⟨lock, next, rfl, Bool.not_eq_true _ ▸ hheld, rfl⟩)))
  | release lock next => exact .inr (.inr (.inr (.inr ⟨lock, next, rfl, rfl⟩)))

theorem request_step (isHeld : Lock → Bool) (b : Broker) (x : Call) : (x.step isHeld b).1.request = x.request := by
  rcases x.step_cases isHeld b with he | ⟨_, _, -, he⟩ | ⟨_, _, -, he⟩ | ⟨_, _, -, -, he⟩ | ⟨_, _, -, he⟩ <;> rw [he]

/-- A call that has not looked at the broker after a step had not done so before. -/
theorem begun_of_step {isHeld : Lock → Bool} {b : Broker} {x : Call} (h : (x.step isHeld b).1.begun = false) :
    x.begun = false := by
  rcases x.step_cases isHeld b with he | ⟨_, _, -, he⟩ | ⟨_, _, -, he⟩ | ⟨_, _, -, -, he⟩ | ⟨_, _, -, he⟩
  · rw [he] at h; exact h
  · rw [he] at h; cases h
  · rw [he] at h; exact h
  · rw [he] at h; exact h
  · rw [he] at h; exact h

theorem rest_of_result {x : Call} {result : Except SessionError Unit} (h : x.result? = some result) :
    x.rest = .done result := by
  unfold result? Task.result? at h
  split at h
  · rename_i a hrest
    rw [hrest, Option.some.inj h]
  · cases h

end Call

/-! ## One turn, and many -/

namespace Service

theorem isHeld_of_mem {h : Service} {x : Call} {lock : Lock} (hx : x ∈ h.calls) (hlock : lock ∈ x.locks) :
    h.isHeld lock = true := by
  unfold isHeld
  rw [List.any_eq_true]
  exact ⟨x, hx, List.contains_iff_mem.mpr hlock⟩

theorem step_go {h : Service} {k : Nat} {x : Call} (hx : h.calls[k]? = some x) :
    h.step (.go k) =
      { broker := (x.step h.isHeld h.broker).2, calls := h.calls.set k (x.step h.isHeld h.broker).1 } := by
  simp only [step, hx]

theorem step_go_none {h : Service} {k : Nat} (hx : h.calls[k]? = none) : h.step (.go k) = h := by
  simp only [step, hx]

/-- The steps of a call leave the others where they are. -/
theorem calls_go_ne (h : Service) {j k : Nat} (hj : j ≠ k) : (h.step (.go k)).calls[j]? = h.calls[j]? := by
  cases hx : h.calls[k]? with
  | none => rw [step_go_none hx]
  | some x => rw [step_go hx, List.getElem?_set_ne (Ne.symm hj)]

theorem step_call (h : Service) (r : Request) :
    h.step (.call r) = if r.isPossible h.broker then { h with calls := h.calls ++ [.ofRequest r] } else h := rfl

/-- Sessions change only by the steps of calls. -/
theorem step_sessions {h : Service} {turn : Turn} (hno : ∀ k x, turn = .go k → h.calls[k]? ≠ some x) :
    (h.step turn).broker.sessions = h.broker.sessions := by
  cases turn with
  | outside o => rfl
  | arrival c => rfl
  | hangUp connection reason => rfl
  | settling => rfl
  | call r =>
    rw [step_call]
    split
    · rfl
    · rfl
  | go k =>
    cases hx : h.calls[k]? with
    | none => rw [step_go_none hx]
    | some x => exact absurd hx (hno k x rfl)

/-- A call is as it was, or it has just been made, or it has taken its step. -/
theorem step_calls {h : Service} {turn : Turn} {k : Nat} {x' : Call} (hx' : (h.step turn).calls[k]? = some x') :
    h.calls[k]? = some x' ∨ (∃ r, turn = .call r ∧ x' = .ofRequest r) ∨
      ∃ x, h.calls[k]? = some x ∧ x' = (x.step h.isHeld h.broker).1 := by
  cases turn with
  | outside o => exact .inl hx'
  | arrival c => exact .inl hx'
  | hangUp connection reason => exact .inl hx'
  | settling => exact .inl hx'
  | call r =>
    rw [step_call] at hx'
    split at hx'
    · by_cases hlt : k < h.calls.length
      · exact .inl (by rw [← List.getElem?_append_left hlt]; exact hx')
      · rw [List.getElem?_append_right (Nat.le_of_not_lt hlt)] at hx'
        exact .inr (.inl ⟨r, rfl, List.mem_singleton.mp (List.mem_of_getElem? hx')⟩)
    · exact .inl hx'
  | go k' =>
    cases hx : h.calls[k']? with
    | none => rw [step_go_none hx] at hx'; exact .inl hx'
    | some x =>
      rw [step_go hx] at hx'
      by_cases hk : k = k'
      · subst hk
        obtain ⟨hlt, -⟩ := List.getElem?_eq_some_iff.mp hx
        rw [List.getElem?_set_self hlt] at hx'
        exact .inr (.inr ⟨x, hx, (Option.some.inj hx').symm⟩)
      · rw [List.getElem?_set_ne (Ne.symm hk)] at hx'
        exact .inl hx'

/-- No request is forgotten. -/
theorem requests_step (h : Service) (turn : Turn) :
    h.calls.map Call.request <+: (h.step turn).calls.map Call.request := by
  cases turn with
  | outside o => exact List.prefix_rfl
  | arrival c => exact List.prefix_rfl
  | hangUp connection reason => exact List.prefix_rfl
  | settling => exact List.prefix_rfl
  | call r =>
    rw [step_call]
    split
    · rw [List.map_append]; exact List.prefix_append ..
    · exact List.prefix_rfl
  | go k =>
    cases hx : h.calls[k]? with
    | none => simp only [step_go_none hx, List.prefix_rfl]
    | some x =>
      obtain ⟨hlt, rfl⟩ := List.getElem?_eq_some_iff.mp hx
      have hsame : (h.calls.map Call.request).set k (h.calls[k].request) = h.calls.map Call.request := by
        rw [← List.getElem_map Call.request (h := by rw [List.length_map]; exact hlt), List.set_getElem_self]
      simp only [step_go hx, List.map_set, Call.request_step, hsame, List.prefix_rfl]

theorem after_append (h : Service) (before after : List Turn) :
    h.after (before ++ after) = (h.after before).after after := List.foldl_append ..

theorem after_concat (h : Service) (turns : List Turn) (turn : Turn) :
    h.after (turns ++ [turn]) = (h.after turns).step turn := h.after_append turns [turn]

theorem requests_after (h : Service) (turns : List Turn) :
    h.calls.map Call.request <+: (h.after turns).calls.map Call.request := by
  induction turns generalizing h with
  | nil => exact List.prefix_rfl
  | cons turn rest ih => exact (h.requests_step turn).trans (ih (h.step turn))

end Service

end TunnelBroker
