import NixGovernance.Cast

/-!
# `NixGovernance.Paths`: what reaches the service, on each cast path

The casts send `CAST_VOTE` only after the whole signing loop has run. A single failing
address stops the loop before `SendRequests`, so the service never sees a partial ballot
set. The loop has no guard for an empty address list, though, and an empty list is sent as
the payload `[]`.

* `postoffchainproposals_castVote`, `vote_castVote`: every request a cast sends carries one
  ballot per collected address, in collection order, each signed;
* `postoffchainproposals_of_sign_error`, `vote_of_sign_error`: a failing address means no
  request and no record change;
* `castVote_sent_only_when_all_signed` assembles the four;
* `castVote_sent_only_when_all_signed_two`: a wallet with two voting scripts sends one
  `CAST_VOTE` with a ballot for each;
* `postoffchainproposals_empty_wallet`: a wallet without stake still sends `CAST_VOTE`;
* `cast_paths_diverge_on_old_stake`: the two paths send different payloads for a coinstake
  older than the 46-day window, which only the RPC path applies.
-/

set_option autoImplicit false

namespace NixGovernance

section Signing
variable (P : Primitives) (w : CWallet)

/-- Every request `postoffchainproposals` sends is the `CAST_VOTE` of one signed ballot per
collected address, in collection order. -/
theorem postoffchainproposals_castVote (now : Int) (request : JSONRPCRequest)
    (db : List CGovernanceEntry) (resp : CastResponse) (persisted : Bool) :
    ∀ r ∈ (postoffchainproposals P w now request db resp persisted).requests,
      ∃ voteId decision bs, request.params = [voteId, decision] ∧
        List.Forall₂ (fun s b => signBallot P w postSignErrors voteId decision s = .ok b)
          (postVotingAddresses P w now) bs ∧
        r = ⟨.castVote, postMessage voteId decision bs⟩ := by
  intro r hr
  rcases postoffchainproposals_cases P w now request db resp persisted with h | ⟨v, p, hp, hreq, -⟩
  · rw [h.1] at hr
    cases hr
  · rw [hreq, List.mem_singleton] at hr
    obtain ⟨d, -, hparams, -, -, hb⟩ := postoffchainproposals.prepare_eq_ok P w hp
    obtain ⟨bs, hbs, rfl⟩ := buildPostMessage_ok P w _ _ _ _ _ hb
    exact ⟨v, d, bs, hparams, hbs, hr⟩

/-- A failing address stops `postoffchainproposals` before any request, with the records
unchanged. -/
theorem postoffchainproposals_of_sign_error (now : Int) (request : JSONRPCRequest)
    (db : List CGovernanceEntry) (resp : CastResponse) (persisted : Bool)
    (voteId decision : String) (s : CScript) (e : RPCError)
    (hparams : request.params = [voteId, decision]) (hs : s ∈ postVotingAddresses P w now)
    (he : signBallot P w postSignErrors voteId decision s = .error e) :
    (postoffchainproposals P w now request db resp persisted).requests = [] ∧
    (postoffchainproposals P w now request db resp persisted).db = db := by
  rcases postoffchainproposals_cases P w now request db resp persisted with h | ⟨v, p, hp, -⟩
  · exact h
  · obtain ⟨d, -, hparams', -, -, hb⟩ := postoffchainproposals.prepare_eq_ok P w hp
    rw [hparams, List.cons.injEq, List.cons.injEq] at hparams'
    obtain ⟨rfl, rfl, -⟩ := hparams'
    obtain ⟨e', he'⟩ := buildPostMessage_error P w _ _ _ _ s e hs he
    rw [he'] at hb
    cases hb

/-- Every `CAST_VOTE` that `vote` sends carries one signed ballot per collected address, in
collection order, on the vote id of the selected name. -/
theorem vote_castVote (ctx : VoteContext) (decision : String) (db : List CGovernanceEntry)
    (resp : CastResponse) (persisted : Bool) :
    ∀ r ∈ (OffChainGovernance.vote P w ctx decision db resp persisted).requests,
      r.kind = .castVote →
      ∃ name bs, ctx.selectedName = some name ∧
        List.Forall₂ (fun s b =>
          signBallot P w guiSignErrors (selectProposal name ctx.proposals).voteId decision s = .ok b)
          (guiVotingAddresses P w) bs ∧
        r = ⟨.castVote, postMessage (selectProposal name ctx.proposals).voteId decision bs⟩ := by
  intro r hr hk
  rcases vote_cases P w ctx decision db resp persisted with h | ⟨v, p, hp, hreq, -⟩
  · rw [h.1] at hr
    cases hr
  · have hr' : r = ⟨.castVote, p⟩ := by
      rcases hreq with hreq | hreq <;> rw [hreq] at hr <;> simp at hr
      · exact hr
      · rcases hr with hr | hr
        · exact hr
        · rw [hr] at hk; cases hk
    obtain ⟨name, hname, -, -, rfl, -, -, hb⟩ := OffChainGovernance.vote.prepare_eq_ok P w hp
    obtain ⟨bs, hbs, rfl⟩ := buildPostMessage_ok P w _ _ _ _ _ hb
    exact ⟨name, bs, hname, hbs, hr'⟩

/-- A failing address stops `vote` before any request, with the records unchanged. -/
theorem vote_of_sign_error (ctx : VoteContext) (decision : String) (db : List CGovernanceEntry)
    (resp : CastResponse) (persisted : Bool) (name : String) (s : CScript) (e : Message)
    (hname : ctx.selectedName = some name) (hs : s ∈ guiVotingAddresses P w)
    (he : signBallot P w guiSignErrors (selectProposal name ctx.proposals).voteId decision s
      = .error e) :
    (OffChainGovernance.vote P w ctx decision db resp persisted).requests = [] ∧
    (OffChainGovernance.vote P w ctx decision db resp persisted).db = db := by
  rcases vote_cases P w ctx decision db resp persisted with h | ⟨v, p, hp, -⟩
  · exact h
  · obtain ⟨name', hname', -, -, rfl, -, -, hb⟩ := OffChainGovernance.vote.prepare_eq_ok P w hp
    rw [hname, Option.some.injEq] at hname'
    subst hname'
    obtain ⟨e', he'⟩ := buildPostMessage_error P w _ _ _ _ s e hs he
    rw [he'] at hb
    cases hb

/-- On both cast paths, a `CAST_VOTE` goes out only after every collected address has been
signed, and then it carries exactly one ballot per address, in collection order. A failing
address ends the cast with no request and the records unchanged. -/
theorem castVote_sent_only_when_all_signed (now : Int) (request : JSONRPCRequest)
    (ctx : VoteContext) (decision : String) (db : List CGovernanceEntry) (resp : CastResponse)
    (persisted : Bool) :
    (∀ r ∈ (postoffchainproposals P w now request db resp persisted).requests,
      ∃ voteId decision bs, request.params = [voteId, decision] ∧
        List.Forall₂ (fun s b => signBallot P w postSignErrors voteId decision s = .ok b)
          (postVotingAddresses P w now) bs ∧
        r = ⟨.castVote, postMessage voteId decision bs⟩) ∧
    (∀ voteId decision s e, request.params = [voteId, decision] →
      s ∈ postVotingAddresses P w now →
      signBallot P w postSignErrors voteId decision s = .error e →
      (postoffchainproposals P w now request db resp persisted).requests = [] ∧
      (postoffchainproposals P w now request db resp persisted).db = db) ∧
    (∀ r ∈ (OffChainGovernance.vote P w ctx decision db resp persisted).requests,
      r.kind = .castVote →
      ∃ name bs, ctx.selectedName = some name ∧
        List.Forall₂ (fun s b =>
          signBallot P w guiSignErrors (selectProposal name ctx.proposals).voteId decision s = .ok b)
          (guiVotingAddresses P w) bs ∧
        r = ⟨.castVote, postMessage (selectProposal name ctx.proposals).voteId decision bs⟩) ∧
    (∀ name s e, ctx.selectedName = some name → s ∈ guiVotingAddresses P w →
      signBallot P w guiSignErrors (selectProposal name ctx.proposals).voteId decision s
        = .error e →
      (OffChainGovernance.vote P w ctx decision db resp persisted).requests = [] ∧
      (OffChainGovernance.vote P w ctx decision db resp persisted).db = db) :=
  ⟨postoffchainproposals_castVote P w now request db resp persisted,
    fun v d s e hp hs he =>
      postoffchainproposals_of_sign_error P w now request db resp persisted v d s e hp hs he,
    vote_castVote P w ctx decision db resp persisted,
    fun name s e hn hs he => vote_of_sign_error P w ctx decision db resp persisted name s e hn hs he⟩

end Signing

/-! ### Concrete nodes -/

/-- A node on which a script that starts with `0xa9` is a script hash, every script decodes to
the key hash of its first byte, encoded `A` for `0x76` and `B` otherwise, and every signature is
the byte `1`. -/
def keyPrimitives : Primitives :=
  ⟨fun s => s.bytes.head? == some 0xa9, fun s => .keyID (s.bytes.headD 0).toNat,
    fun d => if d = .keyID 0x76 then "A" else "B", fun _ => 0, fun _ _ => some [1]⟩

/-- An unlocked wallet that owns every script: a payment at time `0` to `0x51`, a coinstake at
time `0` paying `0x76` and `0x00`, and a coinstake at time `5` paying `0x76` again and the script
hash `0xa9`. -/
def twoStakeWallet : CWallet :=
  ⟨[(1, ⟨false, 0, [⟨⟨[0x51]⟩⟩]⟩), (2, ⟨true, 0, [⟨⟨[0x76]⟩⟩, ⟨⟨[0x00]⟩⟩]⟩),
      (3, ⟨true, 5, [⟨⟨[0x76]⟩⟩, ⟨⟨[0xa9]⟩⟩]⟩)],
    fun _ => true, fun _ => 1, fun _ => some 1, false, false, false, false⟩

/-- The `CAST_VOTE` payload of a vote `1` on `prop-7` with a ballot from `A` and one from `B`,
each signed with the byte `1` (`AQ==` in base64). -/
def twoBallotPayload : String :=
  "[\x7b\"voteid\":\"prop-7\",\"address\":\"A\",\"signature\":\"AQ==\"," ++
    "\"ballot\":\"1\"\x7d,\x7b\"voteid\":\"prop-7\",\"address\":\"B\"," ++
    "\"signature\":\"AQ==\",\"ballot\":\"1\"\x7d]"

/-- At time `0`, `postoffchainproposals` on `twoStakeWallet` collects `0x76` and `0x00`, signs
for both, and sends one `CAST_VOTE` with a ballot from `A` and one from `B`, in that order. -/
theorem castVote_sent_only_when_all_signed_two :
    (postoffchainproposals keyPrimitives twoStakeWallet 0 ⟨false, ["prop-7", "1"]⟩ []
        ⟨true, []⟩ true).requests = [⟨.castVote, twoBallotPayload⟩] ∧
    ∃ voteId decision bs, ["prop-7", "1"] = [voteId, decision] ∧
      List.Forall₂ (fun s b =>
          signBallot keyPrimitives twoStakeWallet postSignErrors voteId decision s = .ok b)
        (postVotingAddresses keyPrimitives twoStakeWallet 0) bs ∧
      (⟨.castVote, twoBallotPayload⟩ : Request) = ⟨.castVote, postMessage voteId decision bs⟩ :=
  have hreq : (postoffchainproposals keyPrimitives twoStakeWallet 0 ⟨false, ["prop-7", "1"]⟩ []
      ⟨true, []⟩ true).requests = [⟨.castVote, twoBallotPayload⟩] := by
    decide
  ⟨hreq, (castVote_sent_only_when_all_signed keyPrimitives twoStakeWallet 0
    ⟨false, ["prop-7", "1"]⟩ ⟨none, [], false, true, true⟩ "1" [] ⟨true, []⟩ true).1 _
      (hreq ▸ List.mem_singleton_self _)⟩

/-- A node on which every script decodes to the key-hash address `A`, and every signature is
the empty byte string. -/
def demoPrimitives : Primitives :=
  ⟨fun _ => false, fun _ => .keyID 1, fun _ => "A", fun _ => 0, fun _ _ => some []⟩

/-- An unlocked wallet without transactions. -/
def emptyWallet : CWallet :=
  ⟨[], fun _ => true, fun _ => 1, fun _ => some 1, false, false, false, false⟩

/-- With no stake at all, `postoffchainproposals` still sends `CAST_VOTE`, with the payload
`[]`. -/
theorem postoffchainproposals_empty_wallet :
    (postoffchainproposals demoPrimitives emptyWallet 0 ⟨false, ["prop-7", "1"]⟩ []
      ⟨true, []⟩ true).requests = [⟨.castVote, "[]"⟩] :=
  rfl

/-- An unlocked wallet with one coinstake, at time `0`, paying an owned script. -/
def oldStakeWallet : CWallet :=
  ⟨[(1, ⟨true, 0, [⟨⟨[0x76]⟩⟩]⟩)], fun _ => true, fun _ => 1, fun _ => some 1, false, false,
    false, false⟩

/-- At time `0` both coinstakes of `twoStakeWallet` lie in the window, and both paths collect
the same list: they skip the payment and the script hash and keep `0x76` once, before `0x00`. -/
theorem guiVotingAddresses_eq_post_in_window :
    (∀ mapping ∈ twoStakeWallet.mapWallet, mapping.2.isCoinStake = true →
      0 - voteTimeframe ≤ mapping.2.txTime) ∧
    guiVotingAddresses keyPrimitives twoStakeWallet
      = postVotingAddresses keyPrimitives twoStakeWallet 0 ∧
    postVotingAddresses keyPrimitives twoStakeWallet 0 = [⟨[0x76]⟩, ⟨[0x00]⟩] :=
  have h : ∀ mapping ∈ twoStakeWallet.mapWallet, mapping.2.isCoinStake = true →
      0 - voteTimeframe ≤ mapping.2.txTime := by decide
  ⟨h, guiVotingAddresses_eq_post keyPrimitives twoStakeWallet 0 h, by decide⟩

/-- The GUI with the row of the proposal `P7`, vote id `prop-7`, selected on a synced node,
unlocked, and the cast confirmed. -/
def prop7Context : VoteContext :=
  ⟨some "P7", [⟨"P7", "", "", "", "", "", "", "", "prop-7"⟩], false, true, true⟩

/-- One second past the 46-day window of the coinstake of `oldStakeWallet`, the RPC sends
the empty payload and the GUI a ballot for it, whatever the service answers. -/
theorem cast_paths_diverge_on_old_stake :
    (postoffchainproposals demoPrimitives oldStakeWallet (46 * 86400 + 1)
      ⟨false, ["prop-7", "1"]⟩ [] ⟨true, []⟩ true).requests = [⟨.castVote, "[]"⟩] ∧
    (OffChainGovernance.vote demoPrimitives oldStakeWallet prop7Context "1" []
      ⟨true, []⟩ true).requests
      = [⟨.castVote,
          "[\x7b\"voteid\":\"prop-7\",\"address\":\"A\",\"signature\":\"\",\"ballot\":\"1\"\x7d]"⟩,
        ⟨.getProposals, ""⟩] :=
  ⟨rfl, rfl⟩

end NixGovernance
