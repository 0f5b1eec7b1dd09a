import NixGovernance.Ballot
import NixGovernance.Weight

/-!
# `NixGovernance.Cast`: the two cast entry points and the erase-all call

`postoffchainproposals` (RPC) and `OffChainGovernance::vote` (GUI) hold `cs_main` and
`cs_wallet` for their whole run. Each one reads the wallet database's governance records.
It stops when one of them carries the cast's vote id, and then collects the voting
addresses and signs one ballot per address. It sends the `CAST_VOTE` payload to
`g_governance` and waits for the answer. On a success status it adds up the weight of the
returned records on the vote id and writes a record when that weight is not zero.
`erasegoventries` erases the records one by one.

Each cast splits at its one exchange with the service. `prepare` is everything before
`SendRequests`, and its result is the vote id and the payload. `finish` is everything after
the wait, given the service's answer (`CastResponse`) and whether the unchecked
`WriteGovernanceEntry` reached the database. A run (`CastRun`) records the result, the
requests sent, and the governance records afterwards.

The spec lemmas `postoffchainproposals_cases` and `vote_cases` state everything a cast
can do to the records and the requests. The later modules use only these.
-/

set_option autoImplicit false

namespace NixGovernance

/-- A JSON-RPC request to a governance call: the help flag and the string parameters. -/
structure JSONRPCRequest where
  fHelp : Bool
  params : List String
  deriving DecidableEq, Repr

/-- The value a governance RPC returns. -/
inductive RpcReply where
  | str (s : String)
  | votes (entries : List (String × Votes))
  | entriesErased (i : Nat)
  deriving DecidableEq, Repr

/-- The style of a message box: `MSG_ERROR`, or
`MSG_INFORMATION | BTN_OK | MODAL`. -/
inductive MessageStyle where
  | error
  | information
  deriving DecidableEq, Repr

/-- A message the GUI emits (`Q_EMIT message(title, text, style)`). -/
structure Message where
  title : String
  text : String
  style : MessageStyle
  deriving DecidableEq, Repr

/-- A cast's run: its result, the requests it sent to `g_governance` in order, and the
governance records of the wallet database after it. -/
structure CastRun (α : Type) where
  result : α
  requests : List Request
  db : List CGovernanceEntry

/-- The record loop of both casts: the first governance record on `voteId`. -/
def findVotedEntry (voteId : String) (db : List CGovernanceEntry) : Option CGovernanceEntry :=
  db.find? (·.voteID == voteId)

/-- `if (voteWeight != 0) walletdb.WriteGovernanceEntry(govVote)`. The write's result is
not checked; `persisted` says whether it reached the database. -/
def recordVote (voteId : String) (voteWeight : Int) (persisted : Bool)
    (db : List CGovernanceEntry) : List CGovernanceEntry :=
  if voteWeight != 0 && persisted then db ++ [⟨voteId, voteWeight⟩] else db

/-! ### `postoffchainproposals` -/

/-- The help text `postoffchainproposals` throws. -/
def postHelp (w : CWallet) : String :=
  "getoffchainproposals vote_id decision(0/1)\n" ++ helpRequiringPassphrase w ++ "\n" ++
    "\nArguments:\n" ++
    "1. \"vote_id\"         (string, required) The vote ID of the proposal this wallet is voting for \"\".\n" ++
    "2. \"decision\"        (string, required) The decision of this wallet's vote. Binary value, 0 = against, 1 = in favor.\n"

/-- The error `postoffchainproposals` throws on a vote id it has a record for. -/
def postAlreadyVoted (entry : CGovernanceEntry) : RPCError :=
  .jsonrpc .typeError
    ("You have already voted for this proposal!\nYour vote weight: " ++ toString entry.voteWeight)

/-- The signing failures of `postoffchainproposals`. -/
def postSignErrors : SignErrors RPCError :=
  ⟨.jsonrpc .typeError "Invalid address", .jsonrpc .typeError "Address does not refer to key",
    .jsonrpc .walletError "Private key not available", .jsonrpc .invalidAddressOrKey "Sign failed"⟩

/-- `postoffchainproposals` up to `SendRequests(CAST_VOTE, postMessage)`, at the clock value
`now`: the vote id and the payload, or what it throws. -/
def postoffchainproposals.prepare (P : Primitives) (w : CWallet) (now : Int)
    (request : JSONRPCRequest) (db : List CGovernanceEntry) : Except RPCError (String × String) :=
  match request.fHelp, request.params with
  | false, [voteId, decision] =>
    match ensureWalletIsUnlocked w with
    | .error e => .error e
    | .ok () =>
      match findVotedEntry voteId db with
      | some entry => .error (postAlreadyVoted entry)
      | none =>
        (buildPostMessage P w postSignErrors voteId decision (postVotingAddresses P w now)).map
          (voteId, ·)
  | _, _ => .error (.runtime (postHelp w))

/-- `postoffchainproposals` after `while(!g_governance.isReady()){}`. -/
def postoffchainproposals.finish (voteId : String) (resp : CastResponse) (persisted : Bool)
    (db : List CGovernanceEntry) : Except RPCError RpcReply × List CGovernanceEntry :=
  if !resp.statusOK then (.ok (.str "error, vote not casted"), db)
  else match tallyVotes voteId resp.votes with
    | .error e => (.error (.std e), db)
    | .ok (voteWeight, entries) => (.ok (.votes entries), recordVote voteId voteWeight persisted db)

/-- `postoffchainproposals`: `resp` is the service's answer to its `CAST_VOTE`, and
`persisted` the fate of its record write. -/
def postoffchainproposals (P : Primitives) (w : CWallet) (now : Int) (request : JSONRPCRequest)
    (db : List CGovernanceEntry) (resp : CastResponse) (persisted : Bool) :
    CastRun (Except RPCError RpcReply) :=
  match postoffchainproposals.prepare P w now request db with
  | .error e => ⟨.error e, [], db⟩
  | .ok (voteId, payload) =>
    let r := postoffchainproposals.finish voteId resp persisted db
    ⟨r.1, [⟨.castVote, payload⟩], r.2⟩

/-! ### `OffChainGovernance::vote` -/

/-- What `OffChainGovernance::vote` reads of the GUI and the user. `selectedName` is the
name in the first column of the selected row (`none` when `selectedRow()` is invalid),
`proposals` is `g_governance.proposals`, `unlockValid` is the validity of the unlock context
after `requestUnlock()`, and `confirmed` is whether the confirmation dialog returned
`Yes`. -/
structure VoteContext where
  selectedName : Option String
  proposals : List Proposals
  isInitialBlockDownload : Bool
  unlockValid : Bool
  confirmed : Bool

/-- A `Cast Vote` error message. -/
def castVoteError (text : String) : Message :=
  ⟨"Cast Vote", text, .error⟩

/-- The message `vote` emits on a vote id it has a record for. -/
def guiAlreadyVoted (entry : CGovernanceEntry) : Message :=
  castVoteError
    ("You have already voted for this proposal!\nYour vote weight: " ++ toString entry.voteWeight)

/-- The signing failures of `vote`. -/
def guiSignErrors : SignErrors Message :=
  ⟨castVoteError "Address decoding issue.", castVoteError "Cannot extract address key ID's.",
    castVoteError "Cannot get wallet key.", castVoteError "Cannot create signature."⟩

/-- The name lookup of `vote`: the first proposal of the buffer with the selected name, or the
empty `Proposals selectedProp` when none has it. -/
def selectProposal (name : String) (proposals : List Proposals) : Proposals :=
  (proposals.find? (·.name == name)).getD default

/-- `OffChainGovernance::vote(decision)` up to `SendRequests(CAST_VOTE, postMessage)`: the
vote id and the payload, or the message it returns with (`none`: it returns silently). -/
def OffChainGovernance.vote.prepare (P : Primitives) (w : CWallet) (ctx : VoteContext)
    (decision : String) (db : List CGovernanceEntry) : Except (Option Message) (String × String) :=
  match ctx.selectedName with
  | none => .error none
  | some name =>
    if ctx.isInitialBlockDownload then
      .error (some (castVoteError "You cannot cast a vote until you are fully sycned!"))
    else if !ctx.unlockValid then .error none
    else
      let voteId := (selectProposal name ctx.proposals).voteId
      match findVotedEntry voteId db with
      | some entry => .error (some (guiAlreadyVoted entry))
      | none =>
        if !ctx.confirmed then .error none
        else ((buildPostMessage P w guiSignErrors voteId decision (guiVotingAddresses P w)).mapError
          some).map (voteId, ·)

/-- `vote` after the wait: its messages, or the exception `std::stoi` throws out of it. -/
def OffChainGovernance.vote.finish (voteId : String) (resp : CastResponse) (persisted : Bool)
    (db : List CGovernanceEntry) : Except StdException (List Message) × List CGovernanceEntry :=
  if !resp.statusOK then
    (.ok [castVoteError "Vote not successful. Please try again at a later time."], db)
  else match tallyVotes voteId resp.votes with
    | .error e => (.error e, db)
    | .ok (voteWeight, _) =>
      (.ok [⟨"Cast Vote", "Successfully casted vote. Vote weight added: " ++ toString voteWeight,
        .information⟩], recordVote voteId voteWeight persisted db)

/-- `OffChainGovernance::vote(decision)`. After a counted vote it sends `GET_PROPOSALS` to
display the results. -/
def OffChainGovernance.vote (P : Primitives) (w : CWallet) (ctx : VoteContext)
    (decision : String) (db : List CGovernanceEntry) (resp : CastResponse) (persisted : Bool) :
    CastRun (Except StdException (List Message)) :=
  match OffChainGovernance.vote.prepare P w ctx decision db with
  | .error m => ⟨.ok m.toList, [], db⟩
  | .ok (voteId, payload) =>
    let r := OffChainGovernance.vote.finish voteId resp persisted db
    ⟨r.1, if resp.statusOK && r.1.toBool then [⟨.castVote, payload⟩, ⟨.getProposals, ""⟩]
      else [⟨.castVote, payload⟩], r.2⟩

/-- `on_voteForButton_clicked`: `vote("1")`. -/
def OffChainGovernance.onVoteForButtonClicked (P : Primitives) (w : CWallet) (ctx : VoteContext)
    (db : List CGovernanceEntry) (resp : CastResponse) (persisted : Bool) :
    CastRun (Except StdException (List Message)) :=
  OffChainGovernance.vote P w ctx "1" db resp persisted

/-- `on_voteAgainstButton_clicked`: `vote("0")`. -/
def OffChainGovernance.onVoteAgainstButtonClicked (P : Primitives) (w : CWallet)
    (ctx : VoteContext) (db : List CGovernanceEntry) (resp : CastResponse) (persisted : Bool) :
    CastRun (Except StdException (List Message)) :=
  OffChainGovernance.vote P w ctx "0" db resp persisted

/-! ### `erasegoventries` -/

/-- The help text `erasegoventries` throws. -/
def eraseHelp (w : CWallet) : String :=
  "eraseallgoventires \n" ++
    "Erase all wallet database voting entries for the current local wallet. \n" ++
    helpRequiringPassphrase w

/-- The erase loop over the listed records, counting in `i`. `eraseOk i` is whether the
`i`-th `EraseGovernanceEntry` succeeds; a failure throws and leaves the records erased so
far erased. -/
def erasegoventries.loop (eraseOk : Nat → Bool) :
    List CGovernanceEntry → Nat → List CGovernanceEntry → Except RPCError Nat × List CGovernanceEntry
  | [], i, db => (.ok i, db)
  | entry :: rest, i, db =>
    if eraseOk i then erasegoventries.loop eraseOk rest (i + 1) (db.erase entry)
    else (.error (.jsonrpc .typeError "WalletDB::EraseGovernanceEntry failed!"), db)

/-- `erasegoventries`: the reply `{"entries_erased": i}`, or what it throws, and the records
afterwards. -/
def erasegoventries (w : CWallet) (request : JSONRPCRequest) (eraseOk : Nat → Bool)
    (db : List CGovernanceEntry) : Except RPCError RpcReply × List CGovernanceEntry :=
  if request.fHelp || request.params.length > 0 then (.error (.runtime (eraseHelp w)), db)
  else match ensureWalletIsUnlocked w with
    | .error e => (.error e, db)
    | .ok () =>
      let r := erasegoventries.loop eraseOk db 0 db
      (r.1.map .entriesErased, r.2)

/-! ### What a cast does -/

section Spec
variable (P : Primitives) (w : CWallet)

/-- A record write adds one record on `voteId`, with a nonzero weight, or nothing. -/
theorem recordVote_cases (voteId : String) (voteWeight : Int) (persisted : Bool)
    (db : List CGovernanceEntry) :
    recordVote voteId voteWeight persisted db = db ∨
      (voteWeight ≠ 0 ∧ recordVote voteId voteWeight persisted db = db ++ [⟨voteId, voteWeight⟩]) := by
  unfold recordVote
  split
  · rename_i h
    simp only [Bool.and_eq_true, bne_iff_ne, ne_eq] at h
    exact .inr ⟨h.1, rfl⟩
  · exact .inl rfl

/-- A signing loop with a failing address fails. -/
theorem buildPostMessage_error {ε : Type} (errs : SignErrors ε) (voteId decision : String)
    (addrs : List CScript) (s : CScript) (e : ε) (hs : s ∈ addrs)
    (he : signBallot P w errs voteId decision s = .error e) :
    ∃ e', buildPostMessage P w errs voteId decision addrs = .error e' := by
  rw [buildPostMessage_eq]
  cases hm : addrs.mapM (signBallot P w errs voteId decision) with
  | error e' => exact ⟨e', rfl⟩
  | ok bs =>
    obtain ⟨b, hb⟩ := forall₂_exists_of_mem_left ((mapM_eq_ok_iff _ addrs bs).1 hm) hs
    rw [he] at hb
    cases hb

/-- A successful signing loop signed every address, one ballot each, in order. -/
theorem buildPostMessage_ok {ε : Type} (errs : SignErrors ε) (voteId decision : String)
    (addrs : List CScript) (payload : String)
    (h : buildPostMessage P w errs voteId decision addrs = .ok payload) :
    ∃ bs, List.Forall₂ (fun s b => signBallot P w errs voteId decision s = .ok b) addrs bs ∧
      payload = postMessage voteId decision bs := by
  rw [buildPostMessage_eq] at h
  cases hm : addrs.mapM (signBallot P w errs voteId decision) with
  | error e => rw [hm] at h; cases h
  | ok bs =>
    rw [hm] at h
    exact ⟨bs, (mapM_eq_ok_iff _ addrs bs).1 hm, (Except.ok.inj h).symm⟩

/-- What `prepare` of `postoffchainproposals` needs to reach `SendRequests`: no help flag,
two parameters, an unlocked wallet, no record on the vote id, and a successful signing
loop. -/
theorem postoffchainproposals.prepare_eq_ok {now : Int} {request : JSONRPCRequest}
    {db : List CGovernanceEntry} {voteId payload : String}
    (h : postoffchainproposals.prepare P w now request db = .ok (voteId, payload)) :
    ∃ decision, request.fHelp = false ∧ request.params = [voteId, decision] ∧
      ensureWalletIsUnlocked w = .ok () ∧ findVotedEntry voteId db = none ∧
      buildPostMessage P w postSignErrors voteId decision (postVotingAddresses P w now)
        = .ok payload := by
  unfold postoffchainproposals.prepare at h
  split at h
  · rename_i v d hf hp
    split at h
    · cases h
    · rename_i hu
      split at h
      · cases h
      · rename_i hn
        cases hb : buildPostMessage P w postSignErrors v d (postVotingAddresses P w now) with
        | error e => rw [hb] at h; cases h
        | ok p =>
          rw [hb] at h
          cases h
          exact ⟨d, hf, hp, hu, hn, hb⟩
  · cases h

/-- What `prepare` of `vote` needs to reach `SendRequests`: a selected row, a synced node, a
valid unlock context, no record on the vote id of the selected name, the user's
confirmation, and a successful signing loop. -/
theorem OffChainGovernance.vote.prepare_eq_ok {ctx : VoteContext} {decision : String}
    {db : List CGovernanceEntry} {voteId payload : String}
    (h : OffChainGovernance.vote.prepare P w ctx decision db = .ok (voteId, payload)) :
    ∃ name, ctx.selectedName = some name ∧ ctx.isInitialBlockDownload = false ∧
      ctx.unlockValid = true ∧ voteId = (selectProposal name ctx.proposals).voteId ∧
      findVotedEntry voteId db = none ∧ ctx.confirmed = true ∧
      buildPostMessage P w guiSignErrors voteId decision (guiVotingAddresses P w) = .ok payload := by
  unfold OffChainGovernance.vote.prepare at h
  split at h
  · cases h
  rename_i name hname
  split at h
  · cases h
  split at h
  · cases h
  rename_i hibd hunlock
  dsimp only at h
  split at h
  · cases h
  rename_i hn
  split at h
  · cases h
  rename_i hconf
  cases hb : buildPostMessage P w guiSignErrors (selectProposal name ctx.proposals).voteId
      decision (guiVotingAddresses P w) with
  | error e => rw [hb] at h; cases h
  | ok p =>
    rw [hb] at h
    cases h
    exact ⟨name, hname, by simpa using hibd, by simpa using hunlock, rfl, hn,
      by simpa using hconf, hb⟩

theorem postoffchainproposals.finish_db (voteId : String) (resp : CastResponse) (persisted : Bool)
    (db : List CGovernanceEntry) :
    (postoffchainproposals.finish voteId resp persisted db).2 = db ∨
      ∃ weight, weight ≠ 0 ∧
        (postoffchainproposals.finish voteId resp persisted db).2 = db ++ [⟨voteId, weight⟩] := by
  unfold postoffchainproposals.finish
  split
  · exact .inl rfl
  · split
    · exact .inl rfl
    · rename_i weight _ _
      rcases recordVote_cases voteId weight persisted db with h | ⟨hw, h⟩
      · exact .inl h
      · exact .inr ⟨weight, hw, h⟩

/-- After the same answer, both casts leave the same records. -/
theorem vote_finish_db_eq (voteId : String) (resp : CastResponse) (persisted : Bool)
    (db : List CGovernanceEntry) :
    (OffChainGovernance.vote.finish voteId resp persisted db).2
      = (postoffchainproposals.finish voteId resp persisted db).2 := by
  unfold OffChainGovernance.vote.finish postoffchainproposals.finish
  split
  · rfl
  · cases tallyVotes voteId resp.votes <;> rfl

theorem OffChainGovernance.vote.finish_db (voteId : String) (resp : CastResponse)
    (persisted : Bool) (db : List CGovernanceEntry) :
    (OffChainGovernance.vote.finish voteId resp persisted db).2 = db ∨
      ∃ weight, weight ≠ 0 ∧
        (OffChainGovernance.vote.finish voteId resp persisted db).2 = db ++ [⟨voteId, weight⟩] := by
  rw [vote_finish_db_eq]
  exact postoffchainproposals.finish_db voteId resp persisted db

/-- Everything `postoffchainproposals` can do. It stops before `SendRequests`, sending
nothing and leaving the records. Or `prepare` succeeds, it sends its one `CAST_VOTE`, and
then it leaves the records or adds one record, with a nonzero weight, on its vote id. -/
theorem postoffchainproposals_cases (now : Int) (request : JSONRPCRequest)
    (db : List CGovernanceEntry) (resp : CastResponse) (persisted : Bool) :
    ((postoffchainproposals P w now request db resp persisted).requests = [] ∧
      (postoffchainproposals P w now request db resp persisted).db = db) ∨
    ∃ voteId payload, postoffchainproposals.prepare P w now request db = .ok (voteId, payload) ∧
      (postoffchainproposals P w now request db resp persisted).requests
        = [⟨.castVote, payload⟩] ∧
      ((postoffchainproposals P w now request db resp persisted).db = db ∨
        ∃ weight, weight ≠ 0 ∧
          (postoffchainproposals P w now request db resp persisted).db
            = db ++ [⟨voteId, weight⟩]) := by
  unfold postoffchainproposals
  split
  · exact .inl ⟨rfl, rfl⟩
  · rename_i voteId payload hp
    exact .inr ⟨voteId, payload, hp, rfl, postoffchainproposals.finish_db voteId resp persisted db⟩

/-- Everything `vote` can do: as `postoffchainproposals_cases`, with a `GET_PROPOSALS` after
a counted `CAST_VOTE`. -/
theorem vote_cases (ctx : VoteContext) (decision : String) (db : List CGovernanceEntry)
    (resp : CastResponse) (persisted : Bool) :
    ((OffChainGovernance.vote P w ctx decision db resp persisted).requests = [] ∧
      (OffChainGovernance.vote P w ctx decision db resp persisted).db = db) ∨
    ∃ voteId payload, OffChainGovernance.vote.prepare P w ctx decision db = .ok (voteId, payload) ∧
      ((OffChainGovernance.vote P w ctx decision db resp persisted).requests
          = [⟨.castVote, payload⟩] ∨
        (OffChainGovernance.vote P w ctx decision db resp persisted).requests
          = [⟨.castVote, payload⟩, ⟨.getProposals, ""⟩]) ∧
      ((OffChainGovernance.vote P w ctx decision db resp persisted).db = db ∨
        ∃ weight, weight ≠ 0 ∧
          (OffChainGovernance.vote P w ctx decision db resp persisted).db
            = db ++ [⟨voteId, weight⟩]) := by
  unfold OffChainGovernance.vote
  split
  · exact .inl ⟨rfl, rfl⟩
  · rename_i voteId payload hp
    refine .inr ⟨voteId, payload, hp, ?_, OffChainGovernance.vote.finish_db voteId resp persisted db⟩
    dsimp only
    split
    · exact .inr rfl
    · exact .inl rfl

/-- A `postoffchainproposals` on a vote id with a record sends nothing and leaves the
records. Past the help and unlock checks, it throws the already-voted error with the
recorded weight. -/
theorem postoffchainproposals_of_voted (now : Int) (fHelp : Bool) (voteId decision : String)
    (db : List CGovernanceEntry) (resp : CastResponse) (persisted : Bool)
    (entry : CGovernanceEntry) (he : findVotedEntry voteId db = some entry) :
    (postoffchainproposals P w now ⟨fHelp, [voteId, decision]⟩ db resp persisted).requests = [] ∧
    (postoffchainproposals P w now ⟨fHelp, [voteId, decision]⟩ db resp persisted).db = db ∧
    (fHelp = false → ensureWalletIsUnlocked w = .ok () →
      (postoffchainproposals P w now ⟨fHelp, [voteId, decision]⟩ db resp persisted).result
        = .error (postAlreadyVoted entry)) := by
  rcases postoffchainproposals_cases P w now ⟨fHelp, [voteId, decision]⟩ db resp persisted with
    h | ⟨v, p, hp, -⟩
  · refine ⟨h.1, h.2, fun hf hu => ?_⟩
    subst hf
    simp [postoffchainproposals, postoffchainproposals.prepare, hu, he]
  · obtain ⟨d, -, hparams, -, hn, -⟩ := postoffchainproposals.prepare_eq_ok P w hp
    simp only [List.cons.injEq, and_true] at hparams
    obtain ⟨rfl, rfl⟩ := hparams
    rw [he] at hn
    cases hn

/-- A `vote` on a selected name whose vote id has a record sends nothing and leaves the
records. Past the sync and unlock checks, it shows the already-voted message with the
recorded weight. -/
theorem vote_of_voted (ctx : VoteContext) (decision : String) (db : List CGovernanceEntry)
    (resp : CastResponse) (persisted : Bool) (name : String) (entry : CGovernanceEntry)
    (hname : ctx.selectedName = some name)
    (he : findVotedEntry (selectProposal name ctx.proposals).voteId db = some entry) :
    (OffChainGovernance.vote P w ctx decision db resp persisted).requests = [] ∧
    (OffChainGovernance.vote P w ctx decision db resp persisted).db = db ∧
    (ctx.isInitialBlockDownload = false → ctx.unlockValid = true →
      (OffChainGovernance.vote P w ctx decision db resp persisted).result
        = .ok [guiAlreadyVoted entry]) := by
  rcases vote_cases P w ctx decision db resp persisted with h | ⟨v, p, hp, -⟩
  · refine ⟨h.1, h.2, fun hibd hu => ?_⟩
    simp [OffChainGovernance.vote, OffChainGovernance.vote.prepare, hname, hibd, hu, he]
  · obtain ⟨n, hn, -, -, rfl, hnone, -⟩ := OffChainGovernance.vote.prepare_eq_ok P w hp
    rw [hname, Option.some.injEq] at hn
    subst hn
    rw [he] at hnone
    cases hnone

end Spec

end NixGovernance
