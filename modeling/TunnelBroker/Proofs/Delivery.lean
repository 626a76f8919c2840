/-
  TunnelBroker.Proofs.Delivery — what a batch that went well has opened, forward by forward.

  A batch goes through its forwards with the allocator, the numbers of its session, the pending tunnels and the listeners
  in its hands. A forward that names its local port is opened as it stands; the others each get a port that was free
  when the batch had refreshed, and none gets the port of another. So the ports that are leased after the batch are those
  before it and those of the tunnels that were given one.

  - `Tunnel.Serves`: the tunnel that is opened for a forward.
  - `Numbered`: one tunnel for each forward, in their order and with consecutive numbers.
  - `Filled.numbered`: a batch that is filled to its end has started such tunnels.
  - `opened_batch_delivers`: what has become of the session and the allocator then.
-/

import TunnelBroker.Proofs.Atomicity

namespace TunnelBroker

open TunnelBroker.Net (Port)
open TunnelBroker.Ports (Allocator)
open scoped List

/-! ## One tunnel for each forward -/

/-- The tunnel is the one for a forward: with the local side that the forward names, or with one on all interfaces and a
port of the pool on which it alone holds a lease, and that was not known to be busy. -/
inductive Tunnel.Serves (a : Allocator) (f : Forward) (t : Tunnel) : Prop
  | given : f.isLocalGiven = true → t.forward = f → t.autoAssigned = false → t.leasedPort? = none → Serves a f t
  | assigned {port : Port} : f.isLocalGiven = false → t.forward = f.withLocal Forward.allInterfaces port →
      t.autoAssigned = true → t.leasedPort? = some port → port ∈ a.pool.toList → port ∉ a.leased → port ∉ a.busy →
      Serves a f t

/-- One tunnel for each forward, in the same order. The first has the number `n`, each other one the next. -/
inductive Numbered (a : Allocator) (acl : Acl) : UInt64 → List Forward → List Tunnel → Prop
  | nil {n : UInt64} : Numbered a acl n [] []
  | cons {n : UInt64} {f : Forward} {forwards : List Forward} {t : Tunnel} {ts : List Tunnel} :
      t.id = String.ofList (Text.digitsOf n.toNat) → t.acl = acl → t.Serves a f → Numbered a acl (n + 1) forwards ts →
      Numbered a acl n (f :: forwards) (t :: ts)

section

variable {a a' : Allocator} {acl : Acl} {n : UInt64} {f : Forward} {forwards : List Forward} {t : Tunnel}
  {ts : List Tunnel}

/-- A port that could be leased later could be leased before. -/
theorem Tunnel.Serves.mono (h : t.Serves a f) (hpool : a.pool = a'.pool) (hbusy : a.busy = a'.busy)
    (hleased : a'.leased ⊆ a.leased) : t.Serves a' f := by
  cases h with
  | given hgiven hforward hauto hlease => exact .given hgiven hforward hauto hlease
  | assigned hgiven hforward hauto hlease hport hfree hquiet =>
    exact .assigned hgiven hforward hauto hlease (hpool ▸ hport) (fun h => hfree (hleased h)) (hbusy ▸ hquiet)

theorem Numbered.mono (h : Numbered a acl n forwards ts) (hpool : a.pool = a'.pool) (hbusy : a.busy = a'.busy)
    (hleased : a'.leased ⊆ a.leased) : Numbered a' acl n forwards ts := by
  induction h with
  | nil => exact .nil
  | cons hid hacl hserves _ ih => exact .cons hid hacl (hserves.mono hpool hbusy hleased) ih

theorem Numbered.length_eq (h : Numbered a acl n forwards ts) : ts.length = forwards.length := by
  induction h with
  | nil => rfl
  | cons _ _ _ _ ih => rw [List.length_cons, List.length_cons, ih]

end

/-! ## Batches -/

section

variable {b b' : Broker} {i : SessionRef} {acl : Acl} {f : Forward} {forwards : List Forward} {g : Growth}
  {ts : List Tunnel}

/-- The number of the next tunnel, when some were started in addition. -/
theorem Broker.nextId_grown (hi : i < b.sessions.length) (g : Growth) :
    ((b.grown i g).session i).nextId = (b.session i).nextId + UInt64.ofNat g.tunnels.length := by
  rw [session_grown_self hi]
  unfold Session.nextId
  simp only [List.length_append, UInt64.ofNat_add]
  ac_rfl

/-- What an attempt that went well has opened. -/
theorem Attempted.serves (h : Attempted b i acl f (.ok ()) g) : ∃ t, g.tunnels = [t] ∧
    t.id = String.ofList (Text.digitsOf (b.session i).nextId.toNat) ∧ t.acl = acl ∧ t.Serves b.allocator f := by
  obtain ⟨f', port, e, t, hresolved, -, -, -, -, ht, rfl⟩ := h.opened
  subst ht
  refine ⟨_, rfl, rfl, rfl, ?_⟩
  cases hresolved with
  | given hgiven => exact .given hgiven rfl rfl rfl
  | leased hgiven hfree =>
    obtain ⟨hpool, hbusy, hleased⟩ := Ports.Allocator.mem_free.mp hfree
    exact .assigned hgiven rfl rfl rfl hpool hleased hbusy

/-- A batch that went well has started one tunnel for each forward. -/
theorem Filled.numbered (h : Filled i acl b forwards (.ok ()) g) (hi : i < b.sessions.length) :
    Numbered b.allocator acl (b.session i).nextId forwards g.tunnels := by
  generalize hr : Except.ok () = r at h
  induction h with
  | nil => exact .nil
  | failed _ => cases hr
  | @step b f rest r g g' ha _ ih =>
    obtain ⟨t, hg, hid, hacl, hserves⟩ := ha.serves
    have hrest := ih (by rw [Broker.length_grown]; exact hi) hr
    rw [Broker.nextId_grown hi, hg] at hrest
    rw [Growth.tunnels_append, hg]
    -- what is free for the rest of the batch was free before it
    refine .cons hid hacl hserves (hrest.mono rfl rfl ?_)
    exact List.subset_append_right g.leased.reverse b.allocator.leased

/-- A batch that went well has opened one tunnel for each forward, in their order, with the numbers after the session's
last one and for the callers of `acl`. No two of them hold a lease on the same port. Its session has these tunnels in
addition, and the allocator has leased the ports of these tunnels in addition; what it knows to be busy is the answer to
the batch's own refresh. -/
theorem opened_batch_delivers (b : Broker) (i : SessionRef) (forwards : List Forward) (acl : Acl) (ts : List Tunnel)
    (b' : Broker) (hp : (b.session i).pending = [])
    (h : (Operation.startTunnels i forwards acl).run b = (.ok ts, b')) :
    let s := b.session i
    let s' := b'.session i
    Operation.refresh.run b = (.ok (), b.withBusy b'.allocator.busy) ∧ ts.length = forwards.length ∧
      Numbered { b.allocator with busy := b'.allocator.busy } acl (s.lastId + 1) forwards ts ∧
      (ts.filterMap Tunnel.leasedPort?).Nodup ∧
      s'.tunnels = s.tunnels ++ ts ∧ s'.lastId = s.lastId + UInt64.ofNat ts.length ∧
      b'.allocator.leased ~ b.allocator.leased ++ ts.filterMap Tunnel.leasedPort? := by
  intro s s'
  have hend := Operation.startTunnels_run i forwards acl b
  rw [h] at hend
  cases hend with
  | @opened busy g hconnected hrefresh hfilled =>
    have hi : i < (b.withBusy busy).sessions.length := Broker.lt_of_connection hconnected
    have hnext : ((b.withBusy busy).session i).nextId = (b.session i).lastId + 1 := by
      show (b.session i).nextId = _
      rw [Session.nextId, hp]
      simp
    have hnumbered := hfilled.numbered hi
    rw [hnext] at hnumbered
    obtain ⟨hleases, -, -⟩ := hfilled.tunnels
    have hsession : s' = s.joined g.tunnels := by
      have hjoined := Broker.session_committed hi g
      rw [show ((b.withBusy busy).session i).pending = [] from hp, List.nil_append] at hjoined
      exact hjoined
    rw [hp, List.nil_append]
    refine ⟨hrefresh, hnumbered.length_eq, hnumbered, ?_, ?_, ?_, ?_⟩
    · rw [hleases]
      exact hfilled.free.1
    · rw [hsession]
      rfl
    · rw [hsession]
      rfl
    · rw [hleases]
      show g.leased.reverse ++ b.allocator.leased ~ _
      exact List.perm_append_comm.trans ((List.reverse_perm _).append_left _)

/-- Of three forwards, the second names its local port. -/
theorem mixed_batch_delivers :
    let b := ({ pool := ⟨#[20000, 20001]⟩ } : Setup).boot.after
      [.arrival default, .command (.start "a" 0 { forwards := [⟨none, some 8080, "web", 80⟩] } none false)]
    let named : Forward := ⟨none, some 9090, "web", 82⟩
    let forwards : List Forward := [⟨none, none, "web", 81⟩, named, ⟨none, none, "web", 83⟩]
    let run := (Operation.startTunnels 0 forwards {}).run b
    ∃ ts, run.1 = .ok ts ∧ ts.map (·.id) = ["2", "3", "4"] ∧ ts.map (·.localPort) = [20000, 9090, 20001] ∧
      ts.map (·.autoAssigned) = [true, false, true] ∧ (run.2.session 0).tunnels = (b.session 0).tunnels ++ ts ∧
      run.2.allocator.leased ~ b.allocator.leased ++ [20000, 20001] := by
  intro b named forwards run
  have hpending : (b.session 0).pending = [] := by decide +kernel
  have hok : run.1.toOption.isSome := by decide +kernel
  have hids : (run.1.toOption.getD []).map (·.id) = ["2", "3", "4"] := by decide +kernel
  have hports : (run.1.toOption.getD []).map (·.localPort) = [20000, 9090, 20001] := by decide +kernel
  have hautos : (run.1.toOption.getD []).map (·.autoAssigned) = [true, false, true] := by decide +kernel
  have hleases : (run.1.toOption.getD []).filterMap Tunnel.leasedPort? = [20000, 20001] := by decide +kernel
  clear_value b
  obtain ⟨ts, hts⟩ : ∃ ts, run.1 = .ok ts := by
    cases hresult : run.1 with
    | error e => rw [hresult] at hok; cases hok
    | ok ts => exact ⟨ts, rfl⟩
  rw [hts] at hids hports hautos hleases
  have hrun : (Operation.startTunnels 0 forwards {}).run b = (.ok ts, run.2) := Prod.ext hts rfl
  obtain ⟨-, -, -, -, htunnels, -, hleased⟩ := opened_batch_delivers b 0 forwards {} ts run.2 hpending hrun
  refine ⟨ts, hts, hids, hports, hautos, htunnels, ?_⟩
  rw [show ts.filterMap Tunnel.leasedPort? = [20000, 20001] from hleases] at hleased
  exact hleased

end

end TunnelBroker
