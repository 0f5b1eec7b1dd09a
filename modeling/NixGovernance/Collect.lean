import Mathlib.Data.List.Nodup
import NixGovernance.Wallet

/-!
# `NixGovernance.Collect`: the voting addresses of a cast

Both cast entry points walk `mapWallet`, and for each transaction they keep its outputs
`vout`, and collect the owned, non-script-hash output scripts into `votingAddresses`,
skipping a script already collected (`std::find`). They differ in the transactions they
visit. `postoffchainproposals` skips a transaction that is not a coinstake or whose
`GetTxTime()` lies before `current_time - vote_timeframe`, 46 days back. The GUI's
`OffChainGovernance::vote` skips only the transactions that are not coinstakes, so it
has no time window.

`postVotingAddresses` and `guiVotingAddresses` are the two loops, with one output step
`addVotingAddress`. The theorems:

* `foldl_addVotingAddresses_eq`: a nested loop is the push-if-new loop `pushVoting` over
  the scripts it visits, in visiting order (`visitedScripts`);
* `FirstOccurrences`, `firstOccurrences_foldl_pushVoting`: that loop keeps exactly the
  first occurrence of each eligible script;
* `postVotingAddresses_spec`: the collected list has no duplicate, holds exactly the owned
  non-script-hash outputs of coinstakes inside the window, in first-occurrence order;
* `guiVotingAddresses_eq_post`: the GUI collects the same list when no coinstake lies
  outside the window.
-/

set_option autoImplicit false

namespace NixGovernance

variable (P : Primitives) (w : CWallet)

/-- `vote_timeframe`: 46 days in seconds (30 days of eligibility, 15 of voting, 1 of
slack). -/
def voteTimeframe : Int := 46 * 60 * 60 * 24

/-- The body of the output loop of both casts: skip a script the wallet does not own, a
script-hash script, and a script already collected; push any other. -/
def addVotingAddress (votingAddresses : List CScript) (vout : CTxOut) : List CScript :=
  if !w.isMine vout.scriptPubKey then votingAddresses
  else if P.isPayToScriptHashAny vout.scriptPubKey then votingAddresses
  else if vout.scriptPubKey ∈ votingAddresses then votingAddresses
  else votingAddresses ++ [vout.scriptPubKey]

/-- The transactions `postoffchainproposals` visits: coinstakes from the last
`vote_timeframe` seconds. It skips `wtx` when
`!wtx.IsCoinStake() || wtx.GetTxTime() < (current_time - vote_timeframe)`. -/
def postVisitsTx (now : Int) (wtx : CWalletTx) : Bool :=
  !(!wtx.isCoinStake || decide (wtx.txTime < now - voteTimeframe))

/-- The address loop of `postoffchainproposals` at the clock value `now`. -/
def postVotingAddresses (now : Int) : List CScript :=
  w.mapWallet.foldl (fun votingAddresses mapping =>
    if !mapping.2.isCoinStake || decide (mapping.2.txTime < now - voteTimeframe) then
      votingAddresses
    else mapping.2.vout.foldl (addVotingAddress P w) votingAddresses) []

/-- The address loop of `OffChainGovernance::vote`: it skips only the transactions that are
not coinstakes. -/
def guiVotingAddresses : List CScript :=
  w.mapWallet.foldl (fun votingAddresses mapping =>
    if !mapping.2.isCoinStake then votingAddresses
    else mapping.2.vout.foldl (addVotingAddress P w) votingAddresses) []

/-- A script a cast may vote with: owned by the wallet and not of a script-hash kind. -/
def isVotingScript (s : CScript) : Bool :=
  w.isMine s && !P.isPayToScriptHashAny s

/-- The output step on a script: push it when it may vote and is not collected yet. -/
def pushVoting (votingAddresses : List CScript) (s : CScript) : List CScript :=
  if isVotingScript P w s && !decide (s ∈ votingAddresses) then votingAddresses ++ [s]
  else votingAddresses

/-- The output scripts a loop visits, in visiting order: the outputs of each visited
transaction, in `mapWallet` order. -/
def visitedScripts (visits : CWalletTx → Bool) : List CScript :=
  w.mapWallet.flatMap fun mapping =>
    if visits mapping.2 then mapping.2.vout.map (·.scriptPubKey) else []

theorem addVotingAddress_eq (acc : List CScript) (vout : CTxOut) :
    addVotingAddress P w acc vout = pushVoting P w acc vout.scriptPubKey := by
  unfold addVotingAddress pushVoting isVotingScript
  cases w.isMine vout.scriptPubKey <;> cases P.isPayToScriptHashAny vout.scriptPubKey <;>
    by_cases h : vout.scriptPubKey ∈ acc <;> simp [h]

/-- A nested loop over the visited transactions and their outputs is the single
`pushVoting` loop over `visitedScripts`. -/
theorem foldl_addVotingAddresses_eq (visits : CWalletTx → Bool)
    (txs : List (Uint256 × CWalletTx)) (acc : List CScript) :
    txs.foldl (fun acc mapping =>
        if !visits mapping.2 then acc else mapping.2.vout.foldl (addVotingAddress P w) acc) acc
      = (txs.flatMap fun mapping =>
          if visits mapping.2 then mapping.2.vout.map (·.scriptPubKey) else []).foldl
          (pushVoting P w) acc := by
  induction txs generalizing acc with
  | nil => rfl
  | cons m txs ih =>
    rw [List.foldl_cons, ih, List.flatMap_cons, List.foldl_append]
    have hstep : addVotingAddress P w = fun acc vout => pushVoting P w acc vout.scriptPubKey :=
      funext fun acc => funext (addVotingAddress_eq P w acc)
    cases visits m.2
    · rfl
    · simp only [Bool.not_true, ite_true, Bool.false_eq_true, ite_false, List.foldl_map, hstep]

theorem postVotingAddresses_eq (now : Int) :
    postVotingAddresses P w now = (visitedScripts w (postVisitsTx now)).foldl (pushVoting P w) [] := by
  rw [postVotingAddresses, visitedScripts, ← foldl_addVotingAddresses_eq]
  simp only [postVisitsTx, Bool.not_not]

theorem guiVotingAddresses_eq :
    guiVotingAddresses P w = (visitedScripts w (·.isCoinStake)).foldl (pushVoting P w) [] := by
  rw [guiVotingAddresses, visitedScripts, ← foldl_addVotingAddresses_eq]

/-- `acc` keeps exactly the first occurrence of each voting script of `seen`: no duplicate,
the voting scripts of `seen` and nothing else, in the order of their first occurrence in
`seen`. -/
structure FirstOccurrences (seen acc : List CScript) : Prop where
  nodup : acc.Nodup
  mem : ∀ s, s ∈ acc ↔ s ∈ seen ∧ isVotingScript P w s = true
  order : acc.Pairwise fun a b => seen.indexOf a < seen.indexOf b

theorem firstOccurrences_nil : FirstOccurrences P w [] [] :=
  ⟨List.nodup_nil, by simp, List.Pairwise.nil⟩

/-- One output step keeps `FirstOccurrences`. A pushed script is new to `seen`, so its first
occurrence is the last position of `seen ++ [s]`. -/
theorem firstOccurrences_pushVoting {seen acc : List CScript} (s : CScript)
    (h : FirstOccurrences P w seen acc) :
    FirstOccurrences P w (seen ++ [s]) (pushVoting P w acc s) := by
  have hidx : ∀ a ∈ acc, (seen ++ [s]).indexOf a = seen.indexOf a := fun a ha =>
    List.indexOf_append_of_mem ((h.mem a).1 ha).1
  have order : acc.Pairwise fun a b => (seen ++ [s]).indexOf a < (seen ++ [s]).indexOf b :=
    h.order.imp_of_mem fun ha hb hab => by rwa [hidx _ ha, hidx _ hb]
  unfold pushVoting
  split
  · rename_i hpush
    simp only [Bool.and_eq_true, Bool.not_eq_true', decide_eq_false_iff_not] at hpush
    obtain ⟨hv, hnew⟩ := hpush
    have hseen : s ∉ seen := fun hs => hnew ((h.mem s).2 ⟨hs, hv⟩)
    refine ⟨List.nodup_append.2 ⟨h.nodup, List.nodup_singleton s, fun a ha hs =>
      hnew (List.mem_singleton.1 hs ▸ ha)⟩, fun t => ?_, ?_⟩
    · by_cases hts : t = s
      · subst hts; simpa using hv
      · simp [h.mem t, hts]
    · refine List.pairwise_append.2 ⟨order, List.pairwise_singleton _ _, ?_⟩
      intro a ha b hb
      rw [List.mem_singleton.1 hb, hidx a ha, List.indexOf_append_of_not_mem hseen]
      simpa using List.indexOf_lt_length.2 ((h.mem a).1 ha).1
  · rename_i hkeep
    refine ⟨h.nodup, fun t => ?_, order⟩
    by_cases hts : t = s
    · subst hts
      cases hv : isVotingScript P w t
      · simp [h.mem t, hv]
      · have : t ∈ acc := by simpa [hv] using hkeep
        simpa [hv] using this
    · simp [h.mem t, hts]

theorem firstOccurrences_foldl_pushVoting (l : List CScript) {seen acc : List CScript}
    (h : FirstOccurrences P w seen acc) :
    FirstOccurrences P w (seen ++ l) (l.foldl (pushVoting P w) acc) := by
  induction l generalizing seen acc with
  | nil => simpa using h
  | cons s l ih =>
    simpa using ih (firstOccurrences_pushVoting P w s h)

/-- The address list of `postoffchainproposals`: no duplicate; exactly the scripts `s`
that some coinstake from the last 46 days pays to, that the wallet owns and that are not
of a script-hash kind; in the order of their first occurrence over `mapWallet` and each
visited transaction's outputs. -/
theorem postVotingAddresses_spec (now : Int) :
    (postVotingAddresses P w now).Nodup ∧
    (∀ s, s ∈ postVotingAddresses P w now ↔
      ∃ mapping ∈ w.mapWallet, mapping.2.isCoinStake = true ∧
        now - 46 * 86400 ≤ mapping.2.txTime ∧
        (∃ vout ∈ mapping.2.vout, vout.scriptPubKey = s) ∧
        w.isMine s = true ∧ P.isPayToScriptHashAny s = false) ∧
    (postVotingAddresses P w now).Pairwise fun a b =>
      (visitedScripts w (postVisitsTx now)).indexOf a <
        (visitedScripts w (postVisitsTx now)).indexOf b := by
  have h := firstOccurrences_foldl_pushVoting P w (visitedScripts w (postVisitsTx now))
    (firstOccurrences_nil P w)
  rw [List.nil_append, ← postVotingAddresses_eq] at h
  refine ⟨h.nodup, fun s => ?_, h.order⟩
  rw [h.mem s]
  simp only [visitedScripts, List.mem_flatMap, postVisitsTx, isVotingScript, voteTimeframe]
  constructor
  · rintro ⟨⟨m, hm, hs⟩, hv⟩
    split at hs
    · rename_i hvis
      simp only [Bool.not_or, Bool.not_not, Bool.and_eq_true, decide_eq_true_eq,
        Bool.not_eq_true', decide_eq_false_iff_not, not_lt] at hvis
      simp only [Bool.and_eq_true, Bool.not_eq_true'] at hv
      exact ⟨m, hm, hvis.1, by omega, by simpa using hs, hv⟩
    · simp at hs
  · rintro ⟨m, hm, hcs, htime, ⟨o, ho, rfl⟩, hmine, hp2sh⟩
    refine ⟨⟨m, hm, ?_⟩, by simp [hmine, hp2sh]⟩
    rw [if_pos (by simp [hcs]; omega)]
    exact List.mem_map_of_mem _ ho

/-- When no coinstake of the wallet lies before the window, the GUI's loop visits the same
transactions as the RPC's and collects the same list. -/
theorem guiVotingAddresses_eq_post (now : Int)
    (hwindow : ∀ mapping ∈ w.mapWallet, mapping.2.isCoinStake = true →
      now - voteTimeframe ≤ mapping.2.txTime) :
    guiVotingAddresses P w = postVotingAddresses P w now := by
  rw [guiVotingAddresses_eq, postVotingAddresses_eq, visitedScripts, visitedScripts]
  congr 1
  refine List.flatMap_congr fun m hm => ?_
  cases hcs : m.2.isCoinStake
  · simp [postVisitsTx, hcs]
  · simp [postVisitsTx, hcs, (hwindow m hm hcs).not_lt]

end NixGovernance
