import Mathlib.Algebra.BigOperators.Group.List
import Mathlib.Tactic.Ring
import NixGovernance.Paths

/-!
# `NixGovernance.VoteWeight`: the weight `getvoteweight` reports

`getvoteweight start_time end_time` (`rpcwallet.cpp` 6205-6258) walks `mapWallet` as the casts
do, but visits only the coinstakes in the active chain whose `GetTxTime()` lies in
`[start_time, end_time]`. For each owned output that is not of a script-hash kind it adds the
stake reward at the transaction's height when the output pays a witness key hash (cold-staking
or plain), and the output's value otherwise.

It reads more of each transaction than the casts: `StakeTx` is what it reads, and
`StakeTx.toCWalletTx` the part of the same transaction the casts read. The reply divides the
weight by `COIN` as a `double`; the model stops at the integer `nVoteWeight`.

* `voteWeight_eq_sum`: the weight is the sum, over the transactions in the window, of what
  each one's outputs add;
* `voteWeight_split`: the weights of two adjacent windows add up to the weight of their union;
* `voteWeight_of_signed_scripts`: over a window inside the last 46 days, the weight is what the
  wallet would report if it owned only the scripts `postoffchainproposals` signs ballots for.
-/

set_option autoImplicit false

namespace NixGovernance

/-- An output as `getvoteweight` reads it: its script and its value `nValue`. -/
structure StakeTxOut where
  scriptPubKey : CScript
  nValue : Int
  deriving DecidableEq, Repr

/-- A wallet transaction as `getvoteweight` reads it: `IsCoinStake()`, `IsInMainChain()`,
`GetTxTime()`, the cached height (`nCachedHeight` when `fHeightCached`, else `none`) and the
outputs. -/
structure StakeTx where
  isCoinStake : Bool
  isInMainChain : Bool
  txTime : Int
  cachedHeight : Option Int
  vout : List StakeTxOut
  deriving DecidableEq, Repr

/-- The part of the transaction the casts read. -/
def StakeTx.toCWalletTx (wtx : StakeTx) : CWalletTx :=
  ⟨wtx.isCoinStake, wtx.txTime, wtx.vout.map fun vout => ⟨vout.scriptPubKey⟩⟩

/-- The chain's side of `getvoteweight`: `IsPayToWitnessKeyHash_CS()`,
`IsPayToWitnessKeyHash()`, `chainActive.Height()`, and
`Params().GetProofOfStakeReward(chainActive[height], 0)` by height. -/
structure ChainView where
  isPayToWitnessKeyHashCS : CScript → Bool
  isPayToWitnessKeyHash : CScript → Bool
  height : Int
  proofOfStakeReward : Int → Int

section Weight
variable (P : Primitives) (w : CWallet) (C : ChainView)

/-- The body of the output loop: skip a script the wallet does not own and a script-hash
script; add the stake reward at the transaction's height for a witness key hash output, and
the output's value for any other. -/
def addVoteWeight (wtx : StakeTx) (nVoteWeight : Int) (vout : StakeTxOut) : Int :=
  if !w.isMine vout.scriptPubKey then nVoteWeight
  else if P.isPayToScriptHashAny vout.scriptPubKey then nVoteWeight
  else if C.isPayToWitnessKeyHashCS vout.scriptPubKey || C.isPayToWitnessKeyHash vout.scriptPubKey
  then nVoteWeight + C.proofOfStakeReward (wtx.cachedHeight.getD C.height)
  else nVoteWeight + vout.nValue

/-- `nVoteWeight` of `getvoteweight start_time end_time` over the wallet's transactions. -/
def getvoteweight.voteWeight (mapWallet : List (Uint256 × StakeTx)) (start_time end_time : Int) :
    Int :=
  mapWallet.foldl (fun nVoteWeight mapping =>
    if !(mapping.2.isCoinStake && mapping.2.isInMainChain &&
        decide (mapping.2.txTime ≥ start_time) && decide (mapping.2.txTime ≤ end_time)) then
      nVoteWeight
    else mapping.2.vout.foldl (addVoteWeight P w C mapping.2) nVoteWeight) 0

/-- The help text `getvoteweight` throws. -/
def getvoteweightHelp : String :=
  "getvoteweight start_time end_time\n" ++ helpRequiringPassphrase w ++ "\n" ++
    "\nArguments:\n" ++
    "1. \"start_time\"         (int, required) The starting time (unix) for the weight calculation.\n" ++
    "2. \"end_time\"        (int, required) The ending time (unix) for the weight calculation.\n"

/-- `getvoteweight` on the help flag and the integer parameters: `nVoteWeight`, or the help
text it throws. -/
def getvoteweight (mapWallet : List (Uint256 × StakeTx)) (fHelp : Bool) (params : List Int) :
    Except RPCError Int :=
  match fHelp, params with
  | false, [start_time, end_time] => .ok (getvoteweight.voteWeight P w C mapWallet start_time end_time)
  | _, _ => .error (.runtime (getvoteweightHelp w))

/-- The transactions the loop visits. -/
def inWeightWindow (start_time end_time : Int) (wtx : StakeTx) : Bool :=
  wtx.isCoinStake && wtx.isInMainChain && decide (start_time ≤ wtx.txTime) &&
    decide (wtx.txTime ≤ end_time)

/-- What the outputs of one visited transaction add. -/
def txVoteWeight (wtx : StakeTx) : Int :=
  (wtx.vout.map (addVoteWeight P w C wtx 0)).sum

theorem addVoteWeight_eq (wtx : StakeTx) (nVoteWeight : Int) (vout : StakeTxOut) :
    addVoteWeight P w C wtx nVoteWeight vout = nVoteWeight + addVoteWeight P w C wtx 0 vout := by
  unfold addVoteWeight
  split_ifs <;> ring

/-- A left fold that adds `g a` for each element is the sum of the `g a`. -/
theorem foldl_add_eq_sum {α : Type} (f : Int → α → Int) (g : α → Int)
    (hf : ∀ n a, f n a = n + g a) : ∀ (l : List α) (n : Int), l.foldl f n = n + (l.map g).sum
  | [], n => by simp
  | a :: l, n => by
    rw [List.foldl_cons, foldl_add_eq_sum f g hf l, hf, List.map_cons, List.sum_cons, add_assoc]

/-- The weight is the sum, over the transactions the loop visits, of what each one's outputs
add. -/
theorem voteWeight_eq_sum (mapWallet : List (Uint256 × StakeTx)) (start_time end_time : Int) :
    getvoteweight.voteWeight P w C mapWallet start_time end_time
      = (mapWallet.map fun mapping =>
          if inWeightWindow start_time end_time mapping.2 then txVoteWeight P w C mapping.2
          else 0).sum := by
  rw [getvoteweight.voteWeight, foldl_add_eq_sum _ _ (fun n mapping => ?_), zero_add]
  show (if !inWeightWindow start_time end_time mapping.2 then n else _) = _
  rw [foldl_add_eq_sum _ _ (addVoteWeight_eq P w C mapping.2), txVoteWeight]
  cases inWeightWindow start_time end_time mapping.2 <;> simp

/-- Splitting a window after `m`: the weight over `[start_time, end_time]` is the weight over
`[start_time, m]` plus the weight over `[m + 1, end_time]`. -/
theorem voteWeight_split (mapWallet : List (Uint256 × StakeTx)) (start_time m end_time : Int)
    (hs : start_time ≤ m + 1) (he : m ≤ end_time) :
    getvoteweight.voteWeight P w C mapWallet start_time end_time
      = getvoteweight.voteWeight P w C mapWallet start_time m +
        getvoteweight.voteWeight P w C mapWallet (m + 1) end_time := by
  simp only [voteWeight_eq_sum, ← List.sum_map_add]
  congr 1
  refine List.map_congr_left fun mapping _ => ?_
  simp only [inWeightWindow, Bool.and_eq_true, decide_eq_true_eq]
  split_ifs <;> simp_all <;> omega

/-- A script `postoffchainproposals` signs a ballot for: one the wallet may vote with, paid by a
transaction its loop visits. -/
theorem mem_postVotingAddresses (now : Int) (s : CScript) :
    s ∈ postVotingAddresses P w now ↔
      s ∈ visitedScripts w (postVisitsTx now) ∧ isVotingScript P w s = true := by
  have h := firstOccurrences_foldl_pushVoting P w (visitedScripts w (postVisitsTx now))
    (firstOccurrences_nil P w)
  rw [List.nil_append, ← postVotingAddresses_eq] at h
  exact h.mem s

/-- A stake in a window that starts inside the last `vote_timeframe` seconds pays only scripts
the casts' address loop at `now` visits. -/
theorem mem_visitedScripts_of_inWeightWindow (stakes : List (Uint256 × StakeTx))
    (hw : w.mapWallet = stakes.map fun mapping => (mapping.1, mapping.2.toCWalletTx))
    {now start_time end_time : Int} (hs : now - voteTimeframe ≤ start_time)
    {mapping : Uint256 × StakeTx} (hm : mapping ∈ stakes)
    (hwin : inWeightWindow start_time end_time mapping.2 = true) {o : StakeTxOut}
    (ho : o ∈ mapping.2.vout) :
    o.scriptPubKey ∈ visitedScripts w (postVisitsTx now) := by
  simp only [inWeightWindow, Bool.and_eq_true, decide_eq_true_eq] at hwin
  have hvisit : postVisitsTx now mapping.2.toCWalletTx = true := by
    simp only [postVisitsTx, StakeTx.toCWalletTx, hwin.1.1.1, Bool.not_true, Bool.false_or,
      Bool.not_eq_true', decide_eq_false_iff_not, not_lt]
    omega
  simp only [visitedScripts, hw, List.mem_flatMap, List.mem_map]
  refine ⟨_, ⟨mapping, hm, rfl⟩, ?_⟩
  rw [if_pos hvisit]
  exact List.mem_map.2 ⟨⟨o.scriptPubKey⟩, List.mem_map_of_mem _ ho, rfl⟩

/-- Over a window that starts inside the last `vote_timeframe` seconds, every output
`getvoteweight` counts pays a script `postoffchainproposals` at `now` signs a ballot for: the
weight is the one the wallet would report if it owned exactly those scripts. -/
theorem voteWeight_of_signed_scripts (stakes : List (Uint256 × StakeTx))
    (hw : w.mapWallet = stakes.map fun mapping => (mapping.1, mapping.2.toCWalletTx))
    (now start_time end_time : Int) (hs : now - voteTimeframe ≤ start_time) :
    getvoteweight.voteWeight P w C stakes start_time end_time
      = getvoteweight.voteWeight P
          { w with isMine := fun s => decide (s ∈ postVotingAddresses P w now) } C stakes
          start_time end_time := by
  simp only [voteWeight_eq_sum]
  congr 1
  refine List.map_congr_left fun mapping hm => ?_
  split
  · refine congrArg List.sum (List.map_congr_left fun o ho => ?_)
    have hseen := mem_visitedScripts_of_inWeightWindow w stakes hw hs hm ‹_› ho
    have hpost := mem_postVotingAddresses P w now o.scriptPubKey
    cases hmine : w.isMine o.scriptPubKey <;> cases hp2sh : P.isPayToScriptHashAny o.scriptPubKey <;>
      simp [addVoteWeight, hpost, hseen, isVotingScript, hmine, hp2sh]
  · rfl

end Weight

/-! ### A wallet with two coinstakes -/

/-- Two coinstakes in the active chain, at times `10` and `20`: the first pays `7` to a key
hash script, the second `11` to a witness key hash script. -/
def demoStakes : List (Uint256 × StakeTx) :=
  [(1, ⟨true, true, 10, none, [⟨⟨[0x76]⟩, 7⟩]⟩), (2, ⟨true, true, 20, some 90, [⟨⟨[0x00]⟩, 11⟩]⟩)]

/-- A chain at height `100` whose witness key hash scripts start with the byte `0`, and whose
stake reward is `5` at every height. -/
def demoChain : ChainView :=
  ⟨fun _ => false, fun s => s.bytes.head? == some 0x00, 100, fun _ => 5⟩

/-- An unlocked wallet holding `demoStakes` and owning every script. -/
def stakeWallet : CWallet :=
  ⟨demoStakes.map fun mapping => (mapping.1, mapping.2.toCWalletTx), fun _ => true, fun _ => 1,
    fun _ => some 1, false, false, false, false⟩

/-- The window `[0, 30]` split after `15`: `7` before, the reward `5` after. -/
theorem voteWeight_split_demo :
    getvoteweight.voteWeight demoPrimitives stakeWallet demoChain demoStakes 0 30 = 12 ∧
    getvoteweight.voteWeight demoPrimitives stakeWallet demoChain demoStakes 0 30
      = getvoteweight.voteWeight demoPrimitives stakeWallet demoChain demoStakes 0 15 +
        getvoteweight.voteWeight demoPrimitives stakeWallet demoChain demoStakes (15 + 1) 30 :=
  ⟨by decide, voteWeight_split demoPrimitives stakeWallet demoChain demoStakes 0 15 30
    (by decide) (by decide)⟩

/-- At `now = vote_timeframe`, the window `[0, 30]` starts at the cast's window. -/
theorem voteWeight_of_signed_scripts_demo :
    getvoteweight.voteWeight demoPrimitives stakeWallet demoChain demoStakes 0 30
      = getvoteweight.voteWeight demoPrimitives
          { stakeWallet with
            isMine := fun s => decide (s ∈ postVotingAddresses demoPrimitives stakeWallet voteTimeframe) }
          demoChain demoStakes 0 30 :=
  voteWeight_of_signed_scripts demoPrimitives stakeWallet demoChain demoStakes rfl voteTimeframe 0 30
    (sub_self voteTimeframe).le

end NixGovernance
