import NixGovernance.Paths
import NixGovernance.ProposalList

/-!
# `NixGovernance.Client`: the shared client `g_governance` under interleaving

All governance entry points talk to the service through one process-wide client,
`g_governance`. `SendRequests` hands a request to the transport and returns; the caller then
spins on `isReady()` and reads `statusOK` and the `proposals` or `votes` buffer. An answer, to
whichever request it belongs, sets the status, replaces the buffer of its kind and sets the
ready flag.

Each entry point is a program over these steps and over its mutexes (`Instr`). A `Process`
runs threads of such programs against the client, in any order of thread steps and service
answers (`Event`). The GUI's slots share one thread, so a thread runs a queue of entry points.
Every read records the request whose answer filled what it read (a ghost tag on the status
and the buffers) and the reader's own last request (`Read`).

* `shared_client_reads_foreign_answers`: `postoffchainproposals` and `getoffchainproposals`,
  which takes no lock, interleave so that the cast reads the `GET_PROPOSALS` answer's status;
  and `updateProposalList` reads the proposal buffer right after sending, before any answer;
* `casts_read_own_responses`: when every thread runs the casts, which hold `cs_main` from
  before their request until after their reads, every read after a request is of that
  request's answer.
-/

set_option autoImplicit false

namespace NixGovernance

/-- The mutexes the governance entry points take. `LOCK2(cs_main, pwallet->cs_wallet)` takes
`cs_main` first, so `cs_main` alone orders the casts. -/
inductive Mutex where
  | csMain
  | csMnlist
  deriving DecidableEq, Repr

/-- A step of an entry point on a mutex or on `g_governance`. `readVotes voteId` is the weight
loop of a cast over `g_governance.votes`. -/
inductive Instr where
  | lock (m : Mutex)
  | tryLock (m : Mutex)
  | send (kind : RequestTypes)
  | awaitReady
  | readStatus
  | readProposals
  | readVotes (voteId : String)
  | unlock (m : Mutex)
  deriving DecidableEq, Repr

/-- Modelled from the spec: the state of `g_governance` that callers see. -/
structure GovernanceClient where
  ready : Bool
  statusOK : Bool
  proposals : List Proposals
  votes : List Votes

/-- Modelled from the spec: the service's answer to one request. -/
structure ServiceReply where
  statusOK : Bool
  proposals : List Proposals
  votes : List Votes

/-- Modelled from the spec: an answer sets the status, replaces the buffer of its request's kind
and makes the client ready; a later answer replaces an earlier one. -/
def GovernanceClient.receive (c : GovernanceClient) (kind : RequestTypes)
    (reply : ServiceReply) : GovernanceClient :=
  match kind with
  | .getProposals => { c with ready := true, statusOK := reply.statusOK, proposals := reply.proposals }
  | .castVote => { c with ready := true, statusOK := reply.statusOK, votes := reply.votes }

/-- A thread: the rest of its current entry point, the entry points it runs after it, and
(ghost) the id and kind of the last request the current entry point sent. -/
structure Thread where
  prog : List Instr
  next : List (List Instr)
  sent : Option (Nat × RequestTypes)

/-- What a read looks at. -/
inductive Buffer where
  | status
  | proposals
  | votes
  deriving DecidableEq, Repr

/-- A read by `thread` of `buffer`: `source` is the request whose answer the buffer holds, and
`request` the reader's own last request. -/
structure Read where
  thread : Nat
  buffer : Buffer
  source : Option Nat
  request : Option Nat
  deriving DecidableEq, Repr

/-- A read after a request is of that request's answer. -/
def Read.OfOwnRequest (r : Read) : Prop :=
  ∀ n, r.request = some n → r.source = some n

/-- The process: the client with its ghost tags, the requests in flight, the mutex owners and
the threads. -/
structure Process where
  client : GovernanceClient
  statusFrom : Option Nat
  proposalsFrom : Option Nat
  votesFrom : Option Nat
  inFlight : List (Nat × RequestTypes)
  nextId : Nat
  owner : Mutex → Option Nat
  threads : Nat → Thread

/-- A step of thread `t`, or the service's answer to request `n`. -/
inductive Event where
  | thread (t : Nat)
  | respond (n : Nat) (reply : ServiceReply)

namespace Process

/-- Thread `t` goes on with `prog`. -/
def continueWith (s : Process) (t : Nat) (prog : List Instr) : Process :=
  { s with threads := Function.update s.threads t { s.threads t with prog := prog } }

/-- Thread `t` returns from its entry point: the scoped locks it holds are released. -/
def returnEarly (s : Process) (t : Nat) : Process :=
  { s with owner := fun m => if s.owner m = some t then none else s.owner m,
           threads := Function.update s.threads t { s.threads t with prog := [] } }

/-- The read of `buffer`, tagged `source`, by thread `t`. -/
def readBy (s : Process) (t : Nat) (buffer : Buffer) (source : Option Nat) : Read :=
  ⟨t, buffer, source, (s.threads t).sent.map Prod.fst⟩

/-- Thread `t` runs `i`, with `rest` after it. A thread blocked on a mutex or spinning on
`isReady()` leaves the process as it is. -/
def exec (s : Process) (t : Nat) : Instr → List Instr → Process × Option Read
  | .lock m, rest =>
    if s.owner m = none then
      ({ s with owner := Function.update s.owner m (some t) }.continueWith t rest, none)
    else (s, none)
  | .tryLock m, rest =>
    if s.owner m = none then
      ({ s with owner := Function.update s.owner m (some t) }.continueWith t rest, none)
    else (s.continueWith t [], none)
  | .send kind, rest =>
    ({ s with client := { s.client with ready := false },
              inFlight := s.inFlight ++ [(s.nextId, kind)],
              nextId := s.nextId + 1,
              threads := Function.update s.threads t
                ⟨rest, (s.threads t).next, some (s.nextId, kind)⟩ }, none)
  | .awaitReady, rest => if s.client.ready then (s.continueWith t rest, none) else (s, none)
  | .readStatus, rest =>
    (if s.client.statusOK then s.continueWith t rest else s.returnEarly t,
      some (s.readBy t .status s.statusFrom))
  | .readProposals, rest => (s.continueWith t rest, some (s.readBy t .proposals s.proposalsFrom))
  | .readVotes voteId, rest =>
    (if (tallyVotes voteId s.client.votes).toBool then s.continueWith t rest else s.returnEarly t,
      some (s.readBy t .votes s.votesFrom))
  | .unlock m, rest => ({ s with owner := Function.update s.owner m none }.continueWith t rest, none)

/-- The service answers request `n`, if it is in flight. -/
def respond (s : Process) (n : Nat) (reply : ServiceReply) : Process :=
  match s.inFlight.find? (·.1 == n) with
  | none => s
  | some (_, kind) =>
    { s with client := s.client.receive kind reply,
             inFlight := s.inFlight.filter (·.1 != n),
             statusFrom := some n,
             proposalsFrom := if kind = .getProposals then some n else s.proposalsFrom,
             votesFrom := if kind = .castVote then some n else s.votesFrom }

/-- One event. A thread between entry points starts its next one. -/
def step (s : Process) : Event → Process × Option Read
  | .thread t =>
    match (s.threads t).prog, (s.threads t).next with
    | [], [] => (s, none)
    | [], p :: ps => ({ s with threads := Function.update s.threads t ⟨p, ps, none⟩ }, none)
    | i :: rest, _ => s.exec t i rest
  | .respond n reply => (s.respond n reply, none)

/-- A run: the process after the events, and the reads made in order. -/
def run (s : Process) : List Event → Process × List Read
  | [] => (s, [])
  | e :: es =>
    let r := s.step e
    let r' := r.1.run es
    (r'.1, r.2.toList ++ r'.2)

/-- The process at start-up: thread `t` runs the entry points `threads[t]`. -/
def init (threads : List (List (List Instr))) : Process :=
  ⟨⟨false, false, [], []⟩, none, none, none, [], 0, fun _ => none,
    fun t => ⟨[], threads.getD t [], none⟩⟩

end Process

/-! ### The entry points -/

/-- `getoffchainproposals`: no lock. -/
def getoffchainproposals.program (request : JSONRPCRequest) : List Instr :=
  if request.fHelp || !request.params.isEmpty then []
  else [.send .getProposals, .awaitReady, .readStatus, .readProposals]

/-- What a cast runs after its weight loop: the GUI's `GET_PROPOSALS` for the results when
`refetch`, and the end of the `LOCK2` scope. -/
def afterVotes (refetch : Bool) : List Instr :=
  if refetch then [.send .getProposals, .awaitReady, .unlock .csMain] else [.unlock .csMain]

/-- A cast's exchange on `voteId`, still under `cs_main`. -/
def castExchange (voteId : String) (refetch : Bool) : List Instr :=
  .send .castVote :: .awaitReady :: .readStatus :: .readVotes voteId :: afterVotes refetch

/-- `postoffchainproposals`: it takes `LOCK2` after the help check, and sends when the signing
part succeeds. -/
def postoffchainproposals.program (P : Primitives) (w : CWallet) (now : Int)
    (request : JSONRPCRequest) (db : List CGovernanceEntry) : List Instr :=
  match request.fHelp, request.params with
  | false, [_, _] =>
    .lock .csMain ::
      match postoffchainproposals.prepare P w now request db with
      | .ok (voteId, _) => castExchange voteId false
      | .error _ => [.unlock .csMain]
  | _, _ => []

/-- `OffChainGovernance::vote`: it returns before `LOCK2` without a selection or during the
initial block download. Under the lock it looks the selected name up in
`g_governance.proposals`, and sends when the signing part succeeds. -/
def OffChainGovernance.vote.program (P : Primitives) (w : CWallet) (ctx : VoteContext)
    (decision : String) (db : List CGovernanceEntry) : List Instr :=
  match ctx.selectedName with
  | none => []
  | some _ =>
    if ctx.isInitialBlockDownload then []
    else if !ctx.unlockValid then [.lock .csMain, .unlock .csMain]
    else
      .lock .csMain :: .readProposals ::
        match OffChainGovernance.vote.prepare P w ctx decision db with
        | .ok (voteId, _) => castExchange voteId true
        | .error _ => [.unlock .csMain]

/-- `updateProposalList` at clock `now` from the view `v`: `TRY_LOCK(cs_mnlist)`, and, once the
wait is over, `GET_PROPOSALS` and the row loop over the buffer, with no wait between them. -/
def OffChainGovernance.updateProposalList.program (T : ListTimings) (now : Int)
    (v : ProposalListView) : List Instr :=
  .tryLock .csMnlist ::
    ((if updateProposalList.secondsToWait T now v (v.nTimeListUpdated.getD now) ≤ 0
      then [.send .getProposals, .readProposals] else []) ++ [.unlock .csMnlist])

/-- `on_refreshListButton_clicked`: no lock, then `updateProposalList`. -/
def OffChainGovernance.onRefreshListButtonClicked.program (T : ListTimings) (now : Int)
    (v : ProposalListView) : List Instr :=
  [.send .getProposals, .awaitReady] ++ OffChainGovernance.updateProposalList.program T now v

/-- A call of one of the two casts, with its inputs. -/
inductive CastCall where
  | post (P : Primitives) (w : CWallet) (now : Int) (request : JSONRPCRequest)
      (db : List CGovernanceEntry)
  | vote (P : Primitives) (w : CWallet) (ctx : VoteContext) (decision : String)
      (db : List CGovernanceEntry)

/-- The program of a cast call. -/
def CastCall.program : CastCall → List Instr
  | .post P w now request db => postoffchainproposals.program P w now request db
  | .vote P w ctx decision db => OffChainGovernance.vote.program P w ctx decision db

/-! ### Reads of another request's answer -/

/-- Two runs. An RPC thread runs `getoffchainproposals` and sends `GET_PROPOSALS` (request `0`);
another runs `postoffchainproposals` on a wallet without stake and sends `CAST_VOTE`
(request `1`); the service answers request `0`. The cast's wait ends, and it reads the status of
the `GET_PROPOSALS` answer and a vote buffer no answer filled. And the GUI thread, after a
filter edit at `0`, runs `updateProposalList` at `3`: it sends `GET_PROPOSALS` and reads the
proposal buffer before any answer. -/
theorem shared_client_reads_foreign_answers :
    (Process.run
      (Process.init [[getoffchainproposals.program ⟨false, []⟩],
        [postoffchainproposals.program demoPrimitives emptyWallet 0 ⟨false, ["prop-7", "1"]⟩ []]])
      [.thread 0, .thread 0, .thread 1, .thread 1, .thread 1, .respond 0 ⟨true, [], []⟩,
        .thread 1, .thread 1, .thread 1]).2
      = [⟨1, .status, some 0, some 1⟩, ⟨1, .votes, none, some 1⟩] ∧
    (Process.run
      (Process.init [[OffChainGovernance.updateProposalList.program demoTimings 3
        (OffChainGovernance.onFilterLineEditTextChanged demoTimings 0 "x"
          (OffChainGovernance.construct 0))]])
      [.thread 0, .thread 0, .thread 0, .thread 0]).2
      = [⟨0, .proposals, none, some 0⟩] :=
  ⟨rfl, rfl⟩

/-! ### Casts alone -/

/-- What a cast runs after `LOCK2`. -/
def AfterLock (rest : List Instr) : Prop :=
  rest = [.unlock .csMain] ∨ rest = [.readProposals, .unlock .csMain] ∨
    (∃ v, rest = .readProposals :: castExchange v true) ∨ ∃ v, rest = castExchange v false

/-- A cast's program: it returns before `LOCK2`, or takes it and runs `AfterLock`. -/
def CastProgram (p : List Instr) : Prop :=
  p = [] ∨ ∃ rest, p = .lock .csMain :: rest ∧ AfterLock rest

theorem castCall_program (c : CastCall) : CastProgram c.program := by
  cases c with
  | post P w now request db =>
    simp only [CastCall.program, postoffchainproposals.program]
    split
    · right
      refine ⟨_, rfl, ?_⟩
      split
      · exact .inr (.inr (.inr ⟨_, rfl⟩))
      · exact .inl rfl
    · exact .inl rfl
  | vote P w ctx decision db =>
    simp only [CastCall.program, OffChainGovernance.vote.program]
    split
    · exact .inl rfl
    · split
      · exact .inl rfl
      · split
        · exact .inr ⟨_, rfl, .inl rfl⟩
        · refine .inr ⟨_, rfl, ?_⟩
          split
          · exact .inr (.inr (.inl ⟨_, rfl⟩))
          · exact .inr (.inl rfl)

/-- What a cast's request of `kind` is followed by: the status and the weight loop after a
`CAST_VOTE`, the end of the lock after the GUI's `GET_PROPOSALS`. -/
def AfterSend (kind : RequestTypes) (rest : List Instr) : Prop :=
  (kind = .castVote ∧ ∃ v refetch, rest = .readStatus :: .readVotes v :: afterVotes refetch) ∨
    (kind = .getProposals ∧ rest = [.unlock .csMain])

/-- The thread holding `cs_main`: where it stands in its cast, and what the client holds
there. Nothing else is in flight; once its request is answered, the status and, for a
`CAST_VOTE`, the vote buffer carry that answer. -/
inductive Holding (s : Process) (th : Thread) : Prop where
  | lookup (rest : List Instr) (hprog : th.prog = .readProposals :: rest)
      (hrest : rest = [.unlock .csMain] ∨ ∃ v, rest = castExchange v true)
      (hsent : th.sent = none) (hfree : s.inFlight = [])
  | send (kind : RequestTypes) (rest : List Instr)
      (hprog : th.prog = .send kind :: .awaitReady :: rest) (hrest : AfterSend kind rest)
      (hfree : s.inFlight = [])
  | await (n : Nat) (kind : RequestTypes) (rest : List Instr)
      (hprog : th.prog = .awaitReady :: rest) (hrest : AfterSend kind rest)
      (hsent : th.sent = some (n, kind))
      (hreply : s.inFlight = [(n, kind)] ∧ s.client.ready = false ∨
        s.inFlight = [] ∧ s.statusFrom = some n ∧ (kind = .castVote → s.votesFrom = some n))
  | readStatus (n : Nat) (v : String) (refetch : Bool)
      (hprog : th.prog = .readStatus :: .readVotes v :: afterVotes refetch)
      (hsent : th.sent = some (n, .castVote)) (hfree : s.inFlight = [])
      (hstatus : s.statusFrom = some n) (hvotes : s.votesFrom = some n)
  | readVotes (n : Nat) (v : String) (refetch : Bool)
      (hprog : th.prog = .readVotes v :: afterVotes refetch)
      (hsent : th.sent = some (n, .castVote)) (hfree : s.inFlight = [])
      (hvotes : s.votesFrom = some n)
  | unlock (hprog : th.prog = [.unlock .csMain]) (hfree : s.inFlight = [])

/-- `Holding` reads of the process only the requests in flight, the ready flag and the tags of
the status and the vote buffer. -/
theorem Holding.of_shared {s s' : Process} {th : Thread} (h : Holding s th)
    (hin : s'.inFlight = s.inFlight) (hready : s'.client.ready = s.client.ready)
    (hstatus : s'.statusFrom = s.statusFrom) (hvotes : s'.votesFrom = s.votesFrom) :
    Holding s' th := by
  cases h with
  | lookup rest hprog hrest hsent hfree => exact .lookup rest hprog hrest hsent (hin ▸ hfree)
  | send kind rest hprog hrest hfree => exact .send kind rest hprog hrest (hin ▸ hfree)
  | await n kind rest hprog hrest hsent hreply =>
    exact .await n kind rest hprog hrest hsent (by rw [hin, hready, hstatus, hvotes]; exact hreply)
  | readStatus n v refetch hprog hsent hfree hst hv =>
    exact .readStatus n v refetch hprog hsent (hin ▸ hfree) (hstatus ▸ hst) (hvotes ▸ hv)
  | readVotes n v refetch hprog hsent hfree hv =>
    exact .readVotes n v refetch hprog hsent (hin ▸ hfree) (hvotes ▸ hv)
  | unlock hprog hfree => exact .unlock hprog (hin ▸ hfree)

/-- The invariant of a process whose threads run casts: every thread's queue holds casts; a
thread that does not hold `cs_main` is between casts or at the `LOCK2` of a cast that has sent
nothing; the holder is `Holding`; and with `cs_main` free nothing is in flight. -/
structure CastInv (s : Process) : Prop where
  queued : ∀ t, ∀ p ∈ (s.threads t).next, CastProgram p
  outside : ∀ t, s.owner .csMain ≠ some t →
    CastProgram (s.threads t).prog ∧ ((s.threads t).prog ≠ [] → (s.threads t).sent = none)
  holding : ∀ t, s.owner .csMain = some t → Holding s (s.threads t)
  free : s.owner .csMain = none → s.inFlight = []

namespace Process

@[simp] theorem continueWith_threads_self (s : Process) (t : Nat) (prog : List Instr) :
    (s.continueWith t prog).threads t = { s.threads t with prog := prog } := by
  simp [continueWith]

theorem continueWith_threads_ne (s : Process) {t t' : Nat} (prog : List Instr) (h : t' ≠ t) :
    (s.continueWith t prog).threads t' = s.threads t' := by
  simp [continueWith, Function.update_noteq h]

@[simp] theorem returnEarly_threads_self (s : Process) (t : Nat) :
    (s.returnEarly t).threads t = { s.threads t with prog := [] } := by
  simp [returnEarly]

theorem returnEarly_threads_ne (s : Process) {t t' : Nat} (h : t' ≠ t) :
    (s.returnEarly t).threads t' = s.threads t' := by
  simp [returnEarly, Function.update_noteq h]

theorem step_thread_cons {s : Process} {t : Nat} {i : Instr} {rest : List Instr}
    (h : (s.threads t).prog = i :: rest) : s.step (.thread t) = s.exec t i rest := by
  simp only [step, h]

/-- A read by a thread whose last request is `n`, of what the answer to `n` filled. -/
theorem readBy_ofOwnRequest {s : Process} {t n : Nat} {kind : RequestTypes} (buffer : Buffer)
    {source : Option Nat} (hsent : (s.threads t).sent = some (n, kind))
    (hsource : source = some n) : (s.readBy t buffer source).OfOwnRequest := by
  intro m hm
  simp only [readBy, hsent, Option.map_some', Option.some.injEq] at hm
  subst hm
  exact hsource

/-- A read by a thread that has sent nothing yet. -/
theorem readBy_fresh {s : Process} {t : Nat} (buffer : Buffer) (source : Option Nat)
    (hsent : (s.threads t).sent = none) : (s.readBy t buffer source).OfOwnRequest := by
  intro m hm
  simp [readBy, hsent] at hm

/-- An answer to a request that is not in flight changes nothing. -/
theorem respond_of_not_mem {s : Process} {n : Nat} (hn : ∀ p ∈ s.inFlight, p.1 ≠ n)
    (reply : ServiceReply) : s.respond n reply = s := by
  have hfind : s.inFlight.find? (·.1 == n) = none :=
    List.find?_eq_none.2 fun p hp => by simpa using hn p hp
  simp only [respond, hfind]

/-- The answer to the one request in flight. -/
theorem respond_single {s : Process} {n : Nat} {kind : RequestTypes}
    (hin : s.inFlight = [(n, kind)]) (reply : ServiceReply) :
    s.respond n reply =
      { s with client := s.client.receive kind reply, inFlight := [], statusFrom := some n,
               proposalsFrom := if kind = .getProposals then some n else s.proposalsFrom,
               votesFrom := if kind = .castVote then some n else s.votesFrom } := by
  simp [respond, hin]

end Process

section CastRuns
variable {s : Process}

/-- A step of the holder `h` that keeps `cs_main`, the other threads and `h`'s queue. -/
theorem CastInv.of_holder_step {s' : Process} {h : Nat} (hs : CastInv s)
    (hown : s.owner .csMain = some h) (howner : s'.owner .csMain = some h)
    (hothers : ∀ t, t ≠ h → s'.threads t = s.threads t)
    (hnext : (s'.threads h).next = (s.threads h).next) (hhold : Holding s' (s'.threads h)) :
    CastInv s' where
  queued t := by
    by_cases ht : t = h
    · subst ht; rw [hnext]; exact hs.queued t
    · rw [hothers t ht]; exact hs.queued t
  outside t hne := by
    have ht : t ≠ h := fun e => hne (e ▸ howner)
    rw [hothers t ht]
    exact hs.outside t (by rw [hown]; exact fun e => ht (Option.some.inj e).symm)
  holding t ht := by
    rw [howner, Option.some.injEq] at ht
    subst ht
    exact hhold
  free hnone := by rw [howner] at hnone; cases hnone

/-- A step in which the holder `h` ends its cast and frees `cs_main`, with nothing in
flight. -/
theorem CastInv.of_release {s' : Process} {h : Nat} (hs : CastInv s)
    (hown : s.owner .csMain = some h) (howner : s'.owner .csMain = none)
    (hothers : ∀ t, t ≠ h → s'.threads t = s.threads t)
    (hnext : (s'.threads h).next = (s.threads h).next) (hprog : (s'.threads h).prog = [])
    (hfree : s'.inFlight = []) : CastInv s' where
  queued t := by
    by_cases ht : t = h
    · subst ht; rw [hnext]; exact hs.queued t
    · rw [hothers t ht]; exact hs.queued t
  outside t _ := by
    by_cases ht : t = h
    · subst ht; rw [hprog]; exact ⟨.inl rfl, fun e => absurd rfl e⟩
    · rw [hothers t ht]
      exact hs.outside t (by rw [hown]; exact fun e => ht (Option.some.inj e).symm)
  holding t ht := by rw [howner] at ht; cases ht
  free _ := hfree

/-- A step that changes only a thread `t` that does not hold `cs_main`. -/
theorem CastInv.of_thread_update {t : Nat} (th' : Thread) (hs : CastInv s)
    (hnot : s.owner .csMain ≠ some t) (hprog : CastProgram th'.prog)
    (hsent : th'.prog ≠ [] → th'.sent = none) (hnext : ∀ p ∈ th'.next, CastProgram p) :
    CastInv { s with threads := Function.update s.threads t th' } where
  queued t' := by
    by_cases ht : t' = t
    · subst ht; simpa using hnext
    · simpa [Function.update_noteq ht] using hs.queued t'
  outside t' hne := by
    by_cases ht : t' = t
    · subst ht; simpa using And.intro hprog hsent
    · simpa [Function.update_noteq ht] using hs.outside t' hne
  holding t' ht' := by
    have ht : t' ≠ t := fun e => hnot (e ▸ ht')
    show Holding _ (Function.update s.threads t th' t')
    rw [Function.update_noteq ht]
    exact (hs.holding t' ht').of_shared rfl rfl rfl rfl
  free := hs.free

/-- A thread at `LOCK2` with `cs_main` free takes it, and holds it as `Holding` says. -/
theorem CastInv.of_acquire {t : Nat} {rest : List Instr} (hs : CastInv s)
    (hfree : s.owner .csMain = none) (hprog : (s.threads t).prog = .lock .csMain :: rest) :
    CastInv ({ s with owner := Function.update s.owner .csMain (some t) }.continueWith t rest) := by
  have hnot : s.owner .csMain ≠ some t := by rw [hfree]; exact nofun
  obtain ⟨hcast, hsent⟩ := hs.outside t hnot
  have hafter : AfterLock rest := by
    rcases hcast with h | ⟨rest', h', hafter⟩
    · rw [h] at hprog; cases hprog
    · rw [h'] at hprog; cases hprog; exact hafter
  have hsent : (s.threads t).sent = none := hsent (by rw [hprog]; exact nofun)
  have hin : s.inFlight = [] := hs.free hfree
  refine ⟨fun t' => ?_, fun t' hne => ?_, fun t' ht' => ?_, fun h => ?_⟩
  · by_cases ht : t' = t
    · subst ht; simpa using hs.queued t'
    · rw [Process.continueWith_threads_ne _ _ ht]; exact hs.queued t'
  · have ht : t' ≠ t := fun e => hne (by subst e; simp [Process.continueWith])
    rw [Process.continueWith_threads_ne _ _ ht]
    exact hs.outside t' (by rw [hfree]; exact nofun)
  · have ht : t' = t := by simpa [Process.continueWith] using ht'.symm
    subst ht
    simp only [Process.continueWith_threads_self]
    rcases hafter with rfl | rfl | ⟨v, rfl⟩ | ⟨v, rfl⟩
    · exact .unlock rfl hin
    · exact .lookup _ rfl (.inl rfl) hsent hin
    · exact .lookup _ rfl (.inr ⟨v, rfl⟩) hsent hin
    · exact .send _ _ rfl (.inl ⟨rfl, v, false, rfl⟩) hin
  · simp [Process.continueWith] at h

/-- The holder goes on with `prog`. -/
theorem CastInv.of_continue {h : Nat} {prog : List Instr} (hs : CastInv s)
    (hown : s.owner .csMain = some h) (hhold : Holding s { s.threads h with prog := prog }) :
    CastInv (s.continueWith h prog) :=
  hs.of_holder_step hown hown (fun _ ht => Process.continueWith_threads_ne s prog ht) (by simp)
    (by rw [Process.continueWith_threads_self]; exact hhold.of_shared rfl rfl rfl rfl)

/-- The holder returns early, with nothing in flight. -/
theorem CastInv.of_returnEarly {h : Nat} (hs : CastInv s) (hown : s.owner .csMain = some h)
    (hfree : s.inFlight = []) : CastInv (s.returnEarly h) :=
  hs.of_release hown (by simp [Process.returnEarly, hown])
    (fun _ ht => Process.returnEarly_threads_ne s ht) (by simp) (by simp) hfree

/-- The holder spinning on `isReady()` stays where it is, or goes on once the client is
ready. -/
theorem CastInv.of_await {h : Nat} {rest : List Instr} (hs : CastInv s)
    (hown : s.owner .csMain = some h) (hprog : (s.threads h).prog = .awaitReady :: rest)
    (hready : s.client.ready = true → Holding s { s.threads h with prog := rest }) :
    CastInv (s.step (.thread h)).1 ∧ ∀ r ∈ (s.step (.thread h)).2, r.OfOwnRequest := by
  simp only [Process.step_thread_cons hprog, Process.exec]
  split
  · exact ⟨hs.of_continue hown (hready ‹_›), by simp⟩
  · exact ⟨hs, by simp⟩

/-- A step of the holder keeps the invariant, and a read it makes after its request is of that
request's answer. -/
theorem castInv_holder_step {h : Nat} (hs : CastInv s) (hown : s.owner .csMain = some h) :
    CastInv (s.step (.thread h)).1 ∧ ∀ r ∈ (s.step (.thread h)).2, r.OfOwnRequest := by
  cases hs.holding h hown with
  | lookup rest hprog hrest hsent hfree =>
    simp only [Process.step_thread_cons hprog, Process.exec]
    refine ⟨hs.of_continue hown ?_, by rintro r ⟨⟩; exact Process.readBy_fresh _ _ hsent⟩
    rcases hrest with rfl | ⟨v, rfl⟩
    · exact .unlock rfl hfree
    · exact .send _ _ rfl (.inl ⟨rfl, v, true, rfl⟩) hfree
  | send kind rest hprog hrest hfree =>
    simp only [Process.step_thread_cons hprog, Process.exec]
    refine ⟨hs.of_holder_step hown hown (fun t ht => Function.update_noteq ht _ _) (by simp) ?_,
      by simp⟩
    simp only [Function.update_same, hfree, List.nil_append]
    exact .await _ kind rest rfl hrest rfl (.inl ⟨rfl, rfl⟩)
  | await n kind rest hprog hrest hsent hreply =>
    refine hs.of_await hown hprog fun hready => ?_
    obtain ⟨hfree, hstatus, hvotes⟩ := hreply.resolve_left (by simp [hready])
    rcases hrest with ⟨rfl, v, refetch, rfl⟩ | ⟨-, rfl⟩
    · exact .readStatus n v refetch rfl hsent hfree hstatus (hvotes rfl)
    · exact .unlock rfl hfree
  | readStatus n v refetch hprog hsent hfree hstatus hvotes =>
    simp only [Process.step_thread_cons hprog, Process.exec]
    refine ⟨?_, by rintro r ⟨⟩; exact Process.readBy_ofOwnRequest _ hsent hstatus⟩
    split
    · exact hs.of_continue hown (.readVotes n v refetch rfl hsent hfree hvotes)
    · exact hs.of_returnEarly hown hfree
  | readVotes n v refetch hprog hsent hfree hvotes =>
    simp only [Process.step_thread_cons hprog, Process.exec]
    refine ⟨?_, by rintro r ⟨⟩; exact Process.readBy_ofOwnRequest _ hsent hvotes⟩
    split
    · refine hs.of_continue hown ?_
      cases refetch
      · exact .unlock rfl hfree
      · exact .send _ _ rfl (.inr ⟨rfl, rfl⟩) hfree
    · exact hs.of_returnEarly hown hfree
  | unlock hprog hfree =>
    simp only [Process.step_thread_cons hprog, Process.exec]
    refine ⟨hs.of_release hown (by simp [Process.continueWith])
      (fun _ ht => Process.continueWith_threads_ne _ _ ht) (by simp) (by simp) hfree, by simp⟩

/-- A step of a thread that does not hold `cs_main`: it starts its next cast, takes `cs_main`,
or waits for it. -/
theorem castInv_outside_step {t : Nat} (hs : CastInv s) (hnot : s.owner .csMain ≠ some t) :
    CastInv (s.step (.thread t)).1 ∧ ∀ r ∈ (s.step (.thread t)).2, r.OfOwnRequest := by
  obtain ⟨hcast, -⟩ := hs.outside t hnot
  rcases hcast with hnil | ⟨rest, hprog, -⟩
  · have hq := hs.queued t
    cases hnext : (s.threads t).next with
    | nil => simp only [Process.step, hnil, hnext]; exact ⟨hs, by simp⟩
    | cons p ps =>
      rw [hnext] at hq
      simp only [Process.step, hnil, hnext]
      exact ⟨hs.of_thread_update _ hnot (hq p (List.mem_cons_self _ _)) (fun _ => rfl)
        (fun q hq' => hq q (List.mem_cons_of_mem _ hq')), by simp⟩
  · simp only [Process.step_thread_cons hprog, Process.exec]
    split
    · exact ⟨hs.of_acquire ‹_› hprog, by simp⟩
    · exact ⟨hs, by simp⟩

/-- An answer reaches the holder's request, the only one in flight. -/
theorem castInv_respond (hs : CastInv s) (n : Nat) (reply : ServiceReply) :
    CastInv (s.respond n reply) := by
  have hidle : s.inFlight = [] → CastInv (s.respond n reply) := fun hfree => by
    rw [Process.respond_of_not_mem (by simp [hfree])]; exact hs
  cases hown : s.owner .csMain with
  | none => exact hidle (hs.free hown)
  | some h =>
    cases hs.holding h hown with
    | lookup _ _ _ _ hfree | send _ _ _ _ hfree | readStatus _ _ _ _ _ hfree _ _
    | readVotes _ _ _ _ _ hfree _ | unlock _ hfree => exact hidle hfree
    | await m kind rest hprog hrest hsent hreply =>
      rcases hreply with ⟨hin, -⟩ | ⟨hfree, -⟩
      · by_cases hm : m = n
        · subst hm
          rw [Process.respond_single hin]
          exact hs.of_holder_step hown hown (fun _ _ => rfl) rfl
            (.await m kind rest hprog hrest hsent (.inr ⟨rfl, rfl, fun hk => by simp [hk]⟩))
        · rw [Process.respond_of_not_mem (by simp [hin, hm])]; exact hs
      · exact hidle hfree

theorem castInv_step (hs : CastInv s) :
    ∀ e, CastInv (s.step e).1 ∧ ∀ r ∈ (s.step e).2, r.OfOwnRequest
  | .thread t => by
    by_cases hown : s.owner .csMain = some t
    · exact castInv_holder_step hs hown
    · exact castInv_outside_step hs hown
  | .respond n reply => ⟨castInv_respond hs n reply, by simp [Process.step]⟩

end CastRuns

/-- Every run from a process that satisfies `CastInv` keeps it, and each of its reads after a
request is of that request's answer. -/
theorem castInv_run : ∀ (s : Process) (events : List Event), CastInv s →
    CastInv (s.run events).1 ∧ ∀ r ∈ (s.run events).2, r.OfOwnRequest
  | _, [], hs => ⟨hs, by simp [Process.run]⟩
  | s, e :: es, hs => by
    obtain ⟨hs', hr⟩ := castInv_step hs e
    obtain ⟨hrun, hrs⟩ := castInv_run _ es hs'
    refine ⟨hrun, fun r hmem => ?_⟩
    rcases List.mem_append.1 hmem with h | h
    · exact hr r (Option.mem_toList.1 h)
    · exact hrs r h

theorem castInv_init (threads : List (List CastCall)) :
    CastInv (Process.init (threads.map (·.map CastCall.program))) where
  queued t p hp := by
    simp only [Process.init, List.getD_eq_getElem?_getD, List.getElem?_map] at hp
    cases hq : threads[t]? with
    | none => simp [hq] at hp
    | some cs =>
      simp only [hq, Option.map_some', Option.getD_some, List.mem_map] at hp
      obtain ⟨c, -, rfl⟩ := hp
      exact castCall_program c
  outside _ _ := ⟨.inl rfl, fun h => absurd rfl h⟩
  holding _ h := by cases h
  free _ := rfl

/-- With the casts alone, on any number of threads (the GUI's votes one after another on one of
them) and under any order of thread steps and service answers, every read a cast makes after
its request is of that request's answer: the status and the vote buffer it reads come from its
own `CAST_VOTE`. -/
theorem casts_read_own_responses (threads : List (List CastCall)) (events : List Event) :
    ∀ r ∈ ((Process.init (threads.map (·.map CastCall.program))).run events).2,
      r.OfOwnRequest :=
  (castInv_run _ events (castInv_init threads)).2

/-- Two `postoffchainproposals` on two threads, interleaved: thread 1 waits for `cs_main` while
thread 0 sends, is answered and reads; then thread 1 sends, is answered and reads. Every read is
of its own thread's `CAST_VOTE`. -/
theorem casts_read_own_responses_two :
    ((Process.init ([[CastCall.post demoPrimitives emptyWallet 0 ⟨false, ["prop-7", "1"]⟩ []],
        [CastCall.post demoPrimitives emptyWallet 0 ⟨false, ["prop-8", "0"]⟩ []]].map
        (·.map CastCall.program))).run
        [.thread 0, .thread 1, .thread 0, .thread 1, .thread 0, .thread 1,
          .respond 0 ⟨true, [], []⟩, .thread 0, .thread 0, .thread 0, .thread 0, .thread 1,
          .thread 1, .respond 1 ⟨true, [], []⟩, .thread 1, .thread 1, .thread 1]).2
      = [⟨0, .status, some 0, some 0⟩, ⟨0, .votes, some 0, some 0⟩,
          ⟨1, .status, some 1, some 1⟩, ⟨1, .votes, some 1, some 1⟩] ∧
    ∀ r ∈ ([⟨0, .status, some 0, some 0⟩, ⟨0, .votes, some 0, some 0⟩,
        ⟨1, .status, some 1, some 1⟩, ⟨1, .votes, some 1, some 1⟩] : List Read),
      r.OfOwnRequest :=
  have hreads : ((Process.init
      ([[CastCall.post demoPrimitives emptyWallet 0 ⟨false, ["prop-7", "1"]⟩ []],
        [CastCall.post demoPrimitives emptyWallet 0 ⟨false, ["prop-8", "0"]⟩ []]].map
        (·.map CastCall.program))).run
        [.thread 0, .thread 1, .thread 0, .thread 1, .thread 0, .thread 1,
          .respond 0 ⟨true, [], []⟩, .thread 0, .thread 0, .thread 0, .thread 0, .thread 1,
          .thread 1, .respond 1 ⟨true, [], []⟩, .thread 1, .thread 1, .thread 1]).2
      = [⟨0, .status, some 0, some 0⟩, ⟨0, .votes, some 0, some 0⟩,
          ⟨1, .status, some 1, some 1⟩, ⟨1, .votes, some 1, some 1⟩] := by
    decide
  ⟨hreads, fun r hr => casts_read_own_responses _ _ r (hreads ▸ hr)⟩

end NixGovernance
