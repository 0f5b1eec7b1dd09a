import Mathlib.Data.List.Basic

/-!
# `NixGovernance.Wallet`: what the governance calls read

The off-chain governance calls of `rpcwallet.cpp` (`postoffchainproposals`,
`erasegoventries`, `getoffchainproposals`) and of `qt/offchaingovernance.cpp`
(`OffChainGovernance::vote`, `updateProposalList`) read four kinds of data:

* the wallet: `mapWallet` in its iteration order, ownership (`::IsMine`), the key store
  (`GetKeyForDestination`, `GetKey`) and the lock state that `EnsureWalletIsUnlocked`
  checks;
* the script, address and signature functions of the node (`ExtractDestination`,
  `EncodeDestination`, `IsPayToScriptHashAny`, the `strMessageMagic` hash and
  `CKey::SignCompact`). They are defined outside this source tree and enter as the fields
  of `Primitives`: the governance code calls them and never looks inside;
* the wallet database's governance records, `CGovernanceEntry`, listed, written and erased
  through `CWalletDB`;
* the records the coordination service returns into the process-wide client
  `g_governance`: `Proposals` and `Votes`, all of whose fields are strings.

Amounts (`CAmount`) and times (`int64_t`, `time_t`) are `Int`. No sum the code forms comes
near the 64-bit bounds: a vote weight is an `int` from `std::stoi`
(`NixGovernance.Weight`), and the time arithmetic subtracts 46 days from the clock.
-/

set_option autoImplicit false

namespace NixGovernance

/-- An output script (`CScript`), by its bytes. -/
structure CScript where
  bytes : List UInt8
  deriving DecidableEq, Repr

/-- A transaction output (`CTxOut`). The governance calls read only its script. -/
structure CTxOut where
  scriptPubKey : CScript
  deriving DecidableEq, Repr

/-- A wallet transaction (`CWalletTx`), with what the collection loops read:
`IsCoinStake()`, `GetTxTime()` and the outputs `tx->vout`. -/
structure CWalletTx where
  isCoinStake : Bool
  txTime : Int
  vout : List CTxOut
  deriving DecidableEq, Repr

/-- A 256-bit hash (`uint256`), by its value. -/
abbrev Uint256 := Nat

/-- A key id (`CKeyID`, a `uint160`), by its value. `IsNull()` is the value `0`. -/
abbrev CKeyID := Nat

/-- A private key (`CKey`), by its secret. -/
abbrev CKey := Nat

/-- `CTxDestination`. `CNoDestination` is what `ExtractDestination` leaves when it cannot
read the script; the other alternatives carry the hash they pay to. -/
inductive CTxDestination where
  | noDestination
  | keyID (id : Nat)
  | scriptID (id : Nat)
  | witnessV0KeyHash (id : Nat)
  | witnessV0ScriptHash (id : Nat)
  deriving DecidableEq, Repr

/-- `IsValidDestination`: every alternative but `CNoDestination`. -/
def isValidDestination : CTxDestination → Bool
  | .noDestination => false
  | _ => true

/-- The node's script, address and signature functions the cast calls use.

`messageHash m` is `ss.GetHash()` after `ss << strMessageMagic; ss << m`, and `signCompact`
is `CKey::SignCompact`, `none` when it returns `false`. -/
structure Primitives where
  isPayToScriptHashAny : CScript → Bool
  extractDestination : CScript → CTxDestination
  encodeDestination : CTxDestination → String
  messageHash : String → Uint256
  signCompact : CKey → Uint256 → Option (List UInt8)

/-- The wallet (`CWallet`) as the governance calls see it.

`mapWallet` is the wallet's transaction map in its iteration order. `isMine s` is
`::IsMine(*pwallet, s) != ISMINE_NO`. `getKeyForDestination` returns the null key id `0`
when the destination names no key of the wallet, and `getKey` is `CWallet::GetKey`. The
last four fields are the state `EnsureWalletIsUnlocked` and `HelpRequiringPassphrase`
read. -/
structure CWallet where
  mapWallet : List (Uint256 × CWalletTx)
  isMine : CScript → Bool
  getKeyForDestination : CTxDestination → CKeyID
  getKey : CKeyID → Option CKey
  isCrypted : Bool
  isLocked : Bool
  isHDEnabled : Bool
  fUnlockForStakingOnly : Bool

/-- A governance record of the wallet database (`CGovernanceEntry`): the vote id voted on
and the weight the service counted for this wallet. -/
structure CGovernanceEntry where
  voteID : String
  voteWeight : Int
  deriving DecidableEq, Repr

/-- A proposal as the service returns it into `g_governance.proposals`. -/
structure Proposals where
  name : String
  details : String
  address : String
  amount : String
  txid : String
  endTime : String
  votesAffirm : String
  votesOppose : String
  voteId : String
  deriving DecidableEq, Repr

/-- The default proposal `Proposals selectedProp;` that the GUI's name lookup keeps when no
proposal has the selected name: every field empty. -/
instance : Inhabited Proposals :=
  ⟨⟨"", "", "", "", "", "", "", "", ""⟩⟩

/-- A vote record as the service returns it into `g_governance.votes`. -/
structure Votes where
  voteId : String
  address : String
  weight : String
  deriving DecidableEq, Repr

/-- The two request kinds of `g_governance.SendRequests`. -/
inductive RequestTypes where
  | getProposals
  | castVote
  deriving DecidableEq, Repr

/-- A request as `SendRequests(kind, payload)` issues it. `GET_PROPOSALS` goes without a
payload, which is the empty string. -/
structure Request where
  kind : RequestTypes
  payload : String
  deriving DecidableEq, Repr

/-- What the service answers to a `CAST_VOTE` exchange, as the cast reads it after
`isReady()`: the status flag `statusOK` and the buffer `votes`. -/
structure CastResponse where
  statusOK : Bool
  votes : List Votes
  deriving DecidableEq, Repr

/-- The JSON-RPC error codes the governance calls throw with (`rpc/protocol.h`). -/
inductive RPCErrorCode where
  | typeError
  | walletError
  | invalidAddressOrKey
  | walletUnlockNeeded
  deriving DecidableEq, Repr

/-- The exceptions `std::stoi` throws. -/
inductive StdException where
  | invalidArgument
  | outOfRange
  deriving DecidableEq, Repr

/-- What an RPC call throws: `JSONRPCError(code, message)`, the help text as a
`std::runtime_error`, or an exception of the standard library. -/
inductive RPCError where
  | jsonrpc (code : RPCErrorCode) (message : String)
  | runtime (message : String)
  | std (e : StdException)
  deriving DecidableEq, Repr

/-- `EnsureWalletIsUnlocked`. -/
def ensureWalletIsUnlocked (w : CWallet) : Except RPCError Unit :=
  if w.isLocked then
    .error (.jsonrpc .walletUnlockNeeded
      "Error: Please enter the wallet passphrase with walletpassphrase first.")
  else if w.isHDEnabled && w.fUnlockForStakingOnly then
    .error (.jsonrpc .walletUnlockNeeded "Error: Wallet is unlocked for staking only.")
  else .ok ()

/-- `HelpRequiringPassphrase`. -/
def helpRequiringPassphrase (w : CWallet) : String :=
  if w.isCrypted then "\nRequires wallet passphrase to be set with walletpassphrase call."
  else ""

/-- The wallet is unlocked for spending: `EnsureWalletIsUnlocked` passes. -/
theorem ensureWalletIsUnlocked_ok {w : CWallet} (hl : w.isLocked = false)
    (hs : w.fUnlockForStakingOnly = false) : ensureWalletIsUnlocked w = .ok () := by
  simp [ensureWalletIsUnlocked, hl, hs]

end NixGovernance
