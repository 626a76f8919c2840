/-
  TunnelBroker.Proofs.OneByOne — tunnels that are started in one batch, or each in a batch of its own.

  A start in a batch looks at the tunnels that the batch has pending as it looks at those of the session, and counts
  their numbers in. So whether a tunnel is still pending or part of the session already makes no difference to the next
  start: what a batch answers and leaves is what starts one by one answer and leave. The moments at which tunnels were
  created differ, and show nowhere else.

  - `Session.inOneBatch`, `Session.oneByOne`: the two ways; a request that is refused ends neither.
  - `startAlone_commit`: one start, before and after the batch is committed.
  - `Session.undated`: a session without the moments at which its tunnels were created; `startPending_undated`: a start with
    them or without.
  - `batching_is_invisible`: both ways come to the same.
-/

import TunnelBroker.Proofs.Steps

namespace TunnelBroker

open TunnelBroker.Time (Timestamp)

/-- What is answered to a request for a tunnel. -/
abbrev StartAnswer := Except SessionError Tunnel

/-- A tunnel that is asked for, with its local side decided, and the moment at which it is. -/
structure StartRequest where
  forward : Forward
  acl : Acl
  moment : Timestamp

namespace Session

variable {s : Session} {r : StartRequest} {requests : List StartRequest}

/-! ## The two ways -/

/-- Requests, one after the other. -/
def startEach (start : Session → StartRequest → StartAnswer × Session) (s : Session) :
    List StartRequest → List StartAnswer × Session
  | [] => ([], s)
  | r :: rest =>
    let (answer, s') := start s r
    let (answers, s'') := startEach start s' rest
    (answer :: answers, s'')

/-- In the batch that is under way. -/
def startPending (s : Session) (r : StartRequest) : StartAnswer × Session := s.start r.forward r.acl false r.moment

/-- In a batch of its own. -/
def startCommitted (s : Session) (r : StartRequest) : StartAnswer × Session := s.startAlone r.forward r.acl r.moment

/-- All requests in one batch, which is committed. -/
def inOneBatch (s : Session) (requests : List StartRequest) : List StartAnswer × Session :=
  let (answers, s') := s.startEach startPending requests
  (answers, s'.commit.2)

/-- Each request in a batch of its own. -/
def oneByOne (s : Session) (requests : List StartRequest) : List StartAnswer × Session :=
  s.startEach startCommitted requests

/-! ## Pending or committed -/

theorem commit_of_nil (h : s.pending = []) : s.commit.2 = s := by
  have hlast : s.lastId + UInt64.ofNat s.pending.length = s.lastId := by rw [h]; exact UInt64.add_zero s.lastId
  unfold commit
  rw [hlast, h, List.append_nil]
  rw [← h]

theorem nextId_commit (s : Session) : s.commit.2.nextId = s.nextId := by
  show s.lastId + UInt64.ofNat s.pending.length + 0 + 1 = _
  rw [UInt64.add_zero]
  rfl

theorem collision?_commit (s : Session) (f : Forward) : s.commit.2.collision? f = s.collision? f := by
  show List.find? _ (s.tunnels ++ s.pending ++ []) = _
  rw [List.append_nil]
  rfl

/-- There is nothing to discard when the batch was committed. -/
theorem discard_commit (s : Session) : s.commit.2.discard = s.commit.2 := by
  show { s.commit.2 with pending := [], retired := s.retired ++ [] } = s.commit.2
  rw [List.append_nil]
  rfl

/-- One more pending tunnel, committed with the others or after them. -/
theorem commit_commit (s : Session) (t : Tunnel) :
    commit { s.commit.2 with pending := s.commit.2.pending ++ [t] } = ([t], (commit { s with pending := s.pending ++ [t] }).2) := by
  have htunnels : s.tunnels ++ s.pending ++ [t] = s.tunnels ++ (s.pending ++ [t]) := List.append_assoc ..
  have hlast : s.lastId + UInt64.ofNat s.pending.length + UInt64.ofNat 1 =
      s.lastId + UInt64.ofNat (s.pending ++ [t]).length := by
    rw [List.length_append, List.length_singleton, UInt64.ofNat_add, UInt64.add_assoc]
  show ([t], { s with tunnels := s.tunnels ++ s.pending ++ [t], pending := [],
                      lastId := s.lastId + UInt64.ofNat s.pending.length + UInt64.ofNat 1 }) = _
  rw [htunnels, hlast]
  rfl

/-- A start alone, after the batch was committed, answers what a start in the batch answers, and leaves what the batch
leaves when it is committed. -/
theorem startAlone_commit (s : Session) (r : StartRequest) :
    s.commit.2.startCommitted r = ((s.startPending r).1, (s.startPending r).2.commit.2) := by
  have hnext : s.commit.2.nextTunnel r.forward r.acl false r.moment = s.nextTunnel r.forward r.acl false r.moment := by
    unfold nextTunnel
    rw [nextId_commit]
  unfold startCommitted startPending startAlone start
  rw [collision?_commit]
  cases r.forward.validate with
  | error e =>
    dsimp only
    rw [discard_commit]
  | ok _ =>
    cases s.collision? r.forward with
    | some t =>
      dsimp only
      rw [discard_commit]
    | none =>
      dsimp only
      rw [hnext, commit_commit]

/-- Starts alone, after the batch was committed, come to what the same starts in the batch come to. -/
theorem oneByOne_commit (s : Session) (requests : List StartRequest) : s.commit.2.oneByOne requests = s.inOneBatch requests := by
  unfold oneByOne inOneBatch
  induction requests generalizing s with
  | nil => rfl
  | cons r rest ih =>
    simp only [startEach]
    rw [startAlone_commit, ih]

/-- What has been answered is pending, behind what was pending before. -/
theorem startEach_pending (s : Session) (requests : List StartRequest) :
    let (answers, s') := s.startEach startPending requests
    s' = { s with pending := s.pending ++ answers.filterMap Except.toOption } := by
  induction requests generalizing s with
  | nil =>
    show s = { s with pending := s.pending ++ [] }
    rw [List.append_nil]
  | cons r rest ih =>
    simp only [startEach]
    rcases s.start_cases r.forward r.acl false r.moment with ⟨e, he⟩ | ⟨-, hok⟩
    · have hstart : s.startPending r = (.error e, s) := he
      rw [hstart]
      exact ih s
    · have hstart : s.startPending r = _ := hok
      rw [hstart]
      dsimp only
      rw [ih]
      simp [Except.toOption]

/-! ## Moments -/

end Session

/-- The tunnel without the moment at which it was created. -/
def Tunnel.undated (t : Tunnel) : Tunnel := { t with createdAt := .epoch }

def StartRequest.undated (r : StartRequest) : StartRequest := { r with moment := .epoch }

namespace Session

/-- The session without the moments at which its tunnels were created. -/
def undated (s : Session) : Session :=
  { s with tunnels := s.tunnels.map Tunnel.undated, pending := s.pending.map Tunnel.undated,
           retired := s.retired.map Tunnel.undated }

theorem collision?_undated (s : Session) (f : Forward) : s.undated.collision? f = (s.collision? f).map Tunnel.undated := by
  unfold collision?
  show (List.map _ s.tunnels ++ List.map _ s.pending).find? _ = _
  rw [← List.map_append, List.find?_map]
  rfl

theorem nextTunnel_undated (s : Session) (f : Forward) (acl : Acl) (autoAssigned : Bool) (now : Timestamp) :
    s.undated.nextTunnel f acl autoAssigned .epoch = (s.nextTunnel f acl autoAssigned now).undated := by
  have hnext : s.undated.nextId = s.nextId := by
    unfold nextId undated
    rw [List.length_map]
  unfold nextTunnel
  rw [hnext]
  rfl

/-- A start does not look at moments. -/
theorem startPending_undated (s : Session) (r : StartRequest) :
    s.undated.startPending r.undated = ((s.startPending r).1.map Tunnel.undated, (s.startPending r).2.undated) := by
  have hepoch : s.undated.startPending r.undated = s.undated.start r.forward r.acl false .epoch := rfl
  rw [hepoch]
  unfold startPending start
  rw [collision?_undated]
  cases r.forward.validate with
  | error e => rfl
  | ok _ =>
    cases s.collision? r.forward with
    | some t => rfl
    | none =>
      dsimp only [Option.map_none]
      rw [nextTunnel_undated s r.forward r.acl false r.moment]
      simp [undated, Except.map]

theorem commit_undated (s : Session) : s.undated.commit.2 = s.commit.2.undated := by
  unfold commit undated
  rw [List.map_append, List.length_map]
  rfl

/-- Neither does a batch. -/
theorem inOneBatch_undated (s : Session) (requests : List StartRequest) :
    s.undated.inOneBatch (requests.map StartRequest.undated) =
      ((s.inOneBatch requests).1.map (Except.map Tunnel.undated), (s.inOneBatch requests).2.undated) := by
  unfold inOneBatch
  induction requests generalizing s with
  | nil =>
    simp only [List.map_nil, startEach]
    rw [commit_undated]
  | cons r rest ih =>
    have hrest := ih (s.startPending r).2
    simp only [Prod.mk.injEq] at hrest
    simp only [List.map_cons, startEach, startPending_undated, hrest.1, hrest.2]

end Session

/-- To start tunnels in one batch, and to go on with it where one is refused, comes to the same as to start each in a batch
of its own. At the same moments the answers are the same, request by request, and so is the session in the end, with
its tunnels, which of them are open, and the number of the next one; at other moments they are the same but for the
moments at which the tunnels were created. The tunnels that were answered are the session's last ones. -/
theorem batching_is_invisible (s : Session) (hp : s.pending = []) (requests : List StartRequest) :
    s.oneByOne requests = s.inOneBatch requests ∧
      (∀ later : List StartRequest, later.map StartRequest.undated = requests.map StartRequest.undated →
        (s.oneByOne later).1.map (Except.map Tunnel.undated) = (s.inOneBatch requests).1.map (Except.map Tunnel.undated) ∧
          (s.oneByOne later).2.undated = (s.inOneBatch requests).2.undated) ∧
      (s.inOneBatch requests).2.tunnels = s.tunnels ++ (s.inOneBatch requests).1.filterMap Except.toOption := by
  have hsame (rs : List StartRequest) : s.oneByOne rs = s.inOneBatch rs := by
    have hcommit := s.oneByOne_commit rs
    rwa [Session.commit_of_nil hp] at hcommit
  refine ⟨hsame requests, ?_, ?_⟩
  · intro later hlater
    rw [hsame later]
    have hdates := s.inOneBatch_undated later
    rw [hlater, s.inOneBatch_undated requests] at hdates
    exact ⟨(congrArg Prod.fst hdates).symm, (congrArg Prod.snd hdates).symm⟩
  · have hpending := s.startEach_pending requests
    unfold Session.inOneBatch
    dsimp only at hpending ⊢
    rw [hpending, hp]
    rfl

/-- The second request is refused because of the first one, which is still pending or part of the session already. -/
theorem refused_request_ends_no_batch :
    let request (host : String) (port : Net.Port) (moment : Timestamp) : StartRequest :=
      ⟨⟨some host, some port, "web", 80⟩, {}, moment⟩
    let requests (moment : Timestamp) : List StartRequest :=
      [request "127.0.0.1" 8080 moment, request "0.0.0.0" 8080 moment, request "nowhere" 8081 moment,
        request "0.0.0.0" 8080 moment, request "127.0.0.2" 8080 moment]
    let s := Session.connect "a" 0 "198.51.100.4:40000" {} none false
    let later : Timestamp := ⟨60, 0, by decide, by decide⟩
    let answers (r : List StartAnswer × Session) : List (Except String String) :=
      r.1.map fun answer => (answer.map (·.id)).mapError SessionError.message
    s.pending = [] ∧ (requests later).map StartRequest.undated = (requests .epoch).map StartRequest.undated ∧
      answers (s.inOneBatch (requests .epoch)) = [.ok "1",
        .error "Local endpoint 0.0.0.0:8080 is already used by tunnel 1",
        .error "Invalid tunnel specification 'nowhere:8081:web:80': Local host must be an IP address, got 'nowhere'",
        .error "Local endpoint 0.0.0.0:8080 is already used by tunnel 1", .ok "2"] ∧
      (s.oneByOne (requests later)).2.undated = (s.inOneBatch (requests .epoch)).2.undated := by
  intro request requests s later answers
  have hp : s.pending = [] := rfl
  have hlater : (requests later).map StartRequest.undated = (requests .epoch).map StartRequest.undated := rfl
  refine ⟨hp, hlater, by decide +kernel, ?_⟩
  exact ((batching_is_invisible s hp (requests .epoch)).2.1 (requests later) hlater).2

end TunnelBroker
