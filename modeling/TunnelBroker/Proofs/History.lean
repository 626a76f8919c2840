/-
  TunnelBroker.Proofs.History — brokers from their setup on, one event after the other.

  A broker starts with the sessions of its store, all lost. Then clients connect, commands are given, and
  what is outside changes, in any order. Nobody can give a command about a session that is not there.

  - `Stable`: a property that every move keeps and that is not about what is outside.
  - `Stable.after`: a stable property holds after all events if it held before them.
  - `session_after`: a session changes only by the commands that are about it.
-/

import TunnelBroker.Proofs.Moves

namespace TunnelBroker

open TunnelBroker.Net (Port)
open TunnelBroker.Ports (Pool)
open TunnelBroker.Time (Duration Timestamp)

/-! ## Commands and events -/

inductive Command where
  | start (id : String) (connection : ConnectionRef) (request : ConnectionRequest) (user : Option User)
      (cancelled : Bool)
  | startTunnels (session : SessionRef) (forwards : List Forward) (acl : Acl)
  | openTunnels (session : SessionRef) (forwards : List Forward) (acl : Acl)
  | closeTunnel (session : SessionRef) (tunnel : String)
  | terminate (session : SessionRef)
  | cancel (session : SessionRef)
  | forget (id : String)
  | deleteObsolete

namespace Command

def operation : Command → Operation (Except SessionError Unit)
  | start id connection request user cancelled => do
    return (← Operation.startSession id connection request user cancelled).map fun _ => ()
  | startTunnels i forwards acl => do return (← Operation.startTunnels i forwards acl).map fun _ => ()
  | openTunnels i forwards acl => do return (← Operation.openTunnels i forwards acl).map fun _ => ()
  | closeTunnel i tunnel => Operation.closeTunnel i tunnel
  | terminate i => Operation.terminate i
  | cancel i => do
    Operation.cancel i
    return .ok ()
  | forget id => Operation.forget id
  | deleteObsolete => do return (← Operation.deleteObsolete).map fun _ => ()

/-- The session that the command is given for. -/
def session? : Command → Option SessionRef
  | startTunnels i .. | openTunnels i .. | closeTunnel i _ | terminate i | cancel i => some i
  | start .. | forget _ | deleteObsolete => none

/-- The session that the command is about: the one it is given for, or the one that it starts. -/
def subject? (b : Broker) : Command → Option SessionRef
  | start .. => some b.sessions.length
  | c => c.session?

/-- The session that the command is given for is there. -/
def isPossible (b : Broker) (c : Command) : Bool := c.session?.all (· < b.sessions.length)

end Command

inductive Event where
  | outside (o : Outside)
  /-- A client connects. -/
  | arrival (c : Connection)
  /-- The listeners of halted tunnels close. -/
  | settling
  | command (c : Command)

namespace Broker

def step (b : Broker) : Event → Broker
  | .outside o => { b with outside := o }
  | .arrival c => (b.addConnection c).2
  | .settling => b.closeStale
  | .command c => if c.isPossible b then (c.operation.run b).2 else b

def after (b : Broker) (events : List Event) : Broker := events.foldl step b

theorem step_command (b : Broker) (c : Command) :
    b.step (.command c) = if c.isPossible b then (c.operation.run b).2 else b := rfl

theorem after_append (b : Broker) (before after : List Event) :
    b.after (before ++ after) = (b.after before).after after := List.foldl_append ..

end Broker

/-- What a broker is set up with. -/
structure Setup where
  pool : Pool
  timeout : Duration := .ofSeconds 5
  store : Option Store := none
  keepLost : Option Duration := none
  outside : Outside := {}

namespace Setup

/-- The broker before it has read its store. -/
def fresh (s : Setup) : Broker :=
  { outside := s.outside, allocator := { pool := s.pool, timeout := s.timeout }, store := s.store,
    keepLost := s.keepLost }

def boot (s : Setup) : Broker := (Operation.restore.run s.fresh).2

end Setup

/-! ## Every command is moves of one session -/

variable {b b' : Broker} {i j : SessionRef}

theorem Command.moves (c : Command) (h : c.subject? b = some i ∨ c.subject? b = none) :
    Moves i b (c.operation.run b).2 := by
  have hsome (k : SessionRef) (hk : some k = some i ∨ some k = none) : k = i := by
    rcases hk with hk | hk <;> cases hk; rfl
  cases c with
  | start id connection request user cancelled =>
    rw [← hsome _ h]; simpa [operation] using Operation.startSession_moves id connection request user cancelled b
  | startTunnels k forwards acl =>
    rw [← hsome k h]; simpa [operation] using Operation.startTunnels_moves k forwards acl b
  | openTunnels k forwards acl =>
    rw [← hsome k h]; simpa [operation] using Operation.openTunnels_moves k forwards acl b
  | closeTunnel k tunnel => rw [← hsome k h]; exact Operation.closeTunnel_moves k tunnel b
  | terminate k => rw [← hsome k h]; exact Operation.terminate_moves k b
  | cancel k => rw [← hsome k h]; exact .single .cancelled
  | forget id => exact (Operation.forget_onlyRecords id b).moves
  | deleteObsolete => simpa [operation] using (Operation.deleteObsolete_onlyRecords b).moves

/-- No session but the one that a command is about changes. -/
theorem Command.session_ne (c : Command) (h : c.subject? b ≠ some j) :
    (c.operation.run b).2.session j = b.session j := by
  cases hs : c.subject? b with
  | none => exact (c.moves (i := j + 1) (.inr hs)).session_ne (Nat.ne_of_lt (Nat.lt_succ_self j))
  | some k => exact (c.moves (.inl hs)).session_ne fun hjk => h (by rw [hs, hjk])

theorem Command.exists_moves (c : Command) (b : Broker) : ∃ i, Moves i b (c.operation.run b).2 := by
  cases hs : c.subject? b with
  | none => exact ⟨0, c.moves (.inr hs)⟩
  | some i => exact ⟨i, c.moves (.inl hs)⟩

/-! ## Stable properties -/

/-- Every move keeps the property, and it is not about what is outside, connections or listeners. -/
structure Stable (P : Broker → Prop) : Prop where
  move {i : SessionRef} {b b' : Broker} : Move i b b' → P b → P b'
  outside {b : Broker} (o : Outside) : P b → P { b with outside := o }
  connections {b : Broker} (cs : List Connection) : P b → P { b with connections := cs }
  listeners {b : Broker} (ls : List Listener) : P b → P { b with listeners := ls }

namespace Stable

variable {P : Broker → Prop}

theorem moves (h : Stable P) (hm : Moves i b b') : P b → P b' := hm.keep h.move

theorem step (h : Stable P) (e : Event) (hb : P b) : P (b.step e) := by
  cases e with
  | outside o => exact h.outside o hb
  | arrival c => exact h.connections _ hb
  | settling => exact h.listeners _ hb
  | command c =>
    rw [Broker.step_command]
    split
    · obtain ⟨i, hm⟩ := c.exists_moves b
      exact h.moves hm hb
    · exact hb

theorem after (h : Stable P) (events : List Event) (hb : P b) : P (b.after events) := by
  induction events generalizing b with
  | nil => exact hb
  | cons e rest ih => exact ih (h.step e hb)

end Stable

/-! ## Brokers that have read their store -/

/-- Registering keeps the property, and so does a lost session of the past that comes to be. -/
structure Restorable (P : Broker → Prop) : Prop where
  records {b b' : Broker} : OnlyRecords b b' → P b → P b'
  restored {b : Broker} (now : Timestamp) (r : SessionRecord) : P b → P (b.addSession (.ofRecord now r)).2

theorem Stable.restorable {P : Broker → Prop} (h : Stable P) : Restorable P where
  records hr := h.move (i := 0) (.records hr)
  restored now r := h.move (.restored now r rfl)

namespace Restorable

variable {P : Broker → Prop}

theorem restoreRecord (h : Restorable P) (r : SessionRecord) (hb : P b) : P ((Operation.restoreRecord r).run b).2 := by
  refine h.records ?_ (h.restored b.outside.now r hb)
  simp only [Operation.restoreRecord, Task.run_bind, Task.run_atomic]
  generalize (b.addSession (.ofRecord b.outside.now r)) = p
  cases hl : r.isLost with
  | true => rfl
  | false =>
    have hsave := Operation.saveRecord_onlyRecords (p.2.session p.1).record p.2
    simp only [Bool.false_eq_true, if_false, Task.run_bind, Operation.takeRecord_run]
    generalize (Operation.saveRecord (p.2.session p.1).record).run p.2 = q at hsave ⊢
    rcases q with ⟨_ | _, b'⟩
    · exact hsave
    · exact hsave.trans rfl

theorem restoreRecords (h : Restorable P) (records : List SessionRecord) (hb : P b) :
    P ((Operation.restoreRecords records).run b).2 := by
  induction records generalizing b with
  | nil => exact hb
  | cons r rest ih =>
    have hr := h.restoreRecord r hb
    simp only [Operation.restoreRecords, Task.run_bind]
    generalize (Operation.restoreRecord r).run b = p at hr ⊢
    rcases p with ⟨_ | _, b'⟩
    · exact hr
    · exact ih hr

/-- Such a property of a broker without any sessions holds once it has read its store. -/
theorem boot (h : Restorable P) (setup : Setup) (hb : P setup.fresh) : P setup.boot := by
  unfold Setup.boot Operation.restore
  simp only [Task.run_bind, Task.run_read]
  cases setup.fresh.store with
  | none => exact hb
  | some store =>
    dsimp only
    cases store.load setup.fresh.outside.refusal with
    | error e => exact hb
    | ok records =>
      have hr := h.restoreRecords records hb
      simp only [Task.run_bind]
      generalize (Operation.restoreRecords records).run setup.fresh = p at hr ⊢
      rcases p with ⟨_ | _, b'⟩ <;> exact hr

end Restorable

/-- A stable property of a broker without any sessions holds after all events. -/
theorem Stable.boot_after {P : Broker → Prop} (h : Stable P) (setup : Setup) (events : List Event)
    (hb : P setup.fresh) : P (setup.boot.after events) := h.after events (h.restorable.boot setup hb)

/-! ## What stays -/

theorem Stable.length_le (n : Nat) : Stable fun b => n ≤ b.sessions.length where
  move hm h := Nat.le_trans h hm.length_le
  outside _ h := h
  connections _ h := h
  listeners _ h := h

theorem Broker.session_step (e : Event) (hj : j < b.sessions.length) (h : ∀ c, e = .command c → c.session? ≠ some j) :
    (b.step e).session j = b.session j := by
  cases e with
  | outside o => rfl
  | arrival c => rfl
  | settling => rfl
  | command c =>
    rw [step_command]
    split
    · refine c.session_ne ?_
      cases c with
      -- A start is about a session that is not there yet.
      | start => exact fun hs => Nat.ne_of_gt hj (Option.some.inj hs)
      | _ => exact h _ rfl
    · rfl

/-- A session changes only by the commands that are given for it. -/
theorem Broker.session_after (events : List Event) (hj : j < b.sessions.length)
    (h : ∀ c, .command c ∈ events → c.session? ≠ some j) : (b.after events).session j = b.session j := by
  induction events generalizing b with
  | nil => rfl
  | cons e rest ih =>
    have hstep : (b.step e).session j = b.session j :=
      session_step e hj fun c hc => h c (by rw [hc]; exact List.mem_cons_self ..)
    refine Eq.trans (ih ?_ fun c hc => h c (List.mem_cons_of_mem _ hc)) hstep
    exact (Stable.length_le (j + 1)).step e hj

end TunnelBroker
