import Mathlib.Data.List.GetD
import NixGovernance.Collect

/-!
# `NixGovernance.Ballot`: signing the ballots and building the `CAST_VOTE` payload

After collecting `votingAddresses`, both casts run the same loop over them. For each
script it extracts the destination, encodes the address, and forms the message
`vote_id + "_" + decision` (`ballotMessage`). It checks the destination and looks up the key
id and the key, then signs the message hash compactly and appends one JSON object to
`postMessage`, with a comma before every object but the first. The first failure leaves the
loop. `postoffchainproposals` throws a `JSONRPCError` there, and `OffChainGovernance::vote`
shows a message and returns. `SignErrors` holds the four failures of an entry point, and
`signBallot` and `buildPostMessage` take them as a parameter.

* `buildPostMessage_eq`: the loop signs every address (`List.mapM`), and then the payload is
  `postMessage` of the ballots; a failure at any position is the loop's failure;
* `mapM_eq_ok_iff`: a successful `mapM` holds exactly one ballot per address, in order;
* `ballotMessage_inj_of_binary`: over the GUI's decisions `"0"` and `"1"`, the message
  determines the vote id and the decision;
* `signBallot_underscore_collision`: over the RPC's free strings it does not, and one signed
  ballot serves two (vote id, decision) pairs.
-/

set_option autoImplicit false

namespace NixGovernance

variable {ε : Type} (P : Primitives) (w : CWallet)

/-- `strMessage`, the message a ballot signs: `vote_id + "_" + decision`. -/
def ballotMessage (voteId decision : String) : String :=
  voteId ++ "_" ++ decision

/-- The base64 alphabet of `EncodeBase64`. -/
def base64Alphabet : List Char :=
  "ABCDEFGHIJKLMNOPQRSTUVWXYZabcdefghijklmnopqrstuvwxyz0123456789+/".toList

/-- The base64 digit of a 6-bit value. -/
def base64Digit (n : Nat) : Char :=
  base64Alphabet.getD n '='

/-- Modelled from the spec: `EncodeBase64` (`utilstrencodings.cpp`, not in this source tree)
renders the signature bytes as base64, three bytes to four digits, with `=` padding. -/
def encodeBase64Chars : List UInt8 → List Char
  | [] => []
  | [a] => [base64Digit (a.toNat / 4), base64Digit (a.toNat % 4 * 16), '=', '=']
  | [a, b] =>
    [base64Digit (a.toNat / 4), base64Digit (a.toNat % 4 * 16 + b.toNat / 16),
      base64Digit (b.toNat % 16 * 4), '=']
  | a :: b :: c :: rest =>
    base64Digit (a.toNat / 4) :: base64Digit (a.toNat % 4 * 16 + b.toNat / 16) ::
      base64Digit (b.toNat % 16 * 4 + c.toNat / 64) :: base64Digit (c.toNat % 64) ::
      encodeBase64Chars rest

/-- `EncodeBase64(vchSig.data(), vchSig.size())`. -/
def encodeBase64 (vch : List UInt8) : String :=
  ⟨encodeBase64Chars vch⟩

/-- Every character of `EncodeBase64` is a base64 digit or the padding `=`. -/
theorem mem_encodeBase64Chars (vch : List UInt8) :
    ∀ c ∈ encodeBase64Chars vch, c ∈ base64Alphabet ∨ c = '=' := by
  have hdigit : ∀ n, base64Digit n ∈ base64Alphabet ∨ base64Digit n = '=' := fun n => by
    unfold base64Digit
    rcases Nat.lt_or_ge n base64Alphabet.length with h | h
    · rw [List.getD_eq_getElem _ _ h]; exact .inl (List.getElem_mem h)
    · exact .inr (List.getD_eq_default _ _ h)
  induction vch using encodeBase64Chars.induct <;> simp_all [encodeBase64Chars]

/-- What the loop keeps of one address: `strAddress` and `vchSig`. -/
structure Ballot where
  address : String
  signature : List UInt8
  deriving DecidableEq, Repr

/-- How an entry point reports the four failures of the signing loop, in loop order: an
invalid destination, a null key id, a missing key, a failed signature. -/
structure SignErrors (ε : Type) where
  invalidAddress : ε
  noKeyID : ε
  noKey : ε
  signFailed : ε

/-- The signing steps of one loop turn on `addrScript`. -/
def signBallot (errs : SignErrors ε) (voteId decision : String) (addrScript : CScript) :
    Except ε Ballot :=
  let dest := P.extractDestination addrScript
  let strAddress := P.encodeDestination dest
  let strMessage := ballotMessage voteId decision
  if !isValidDestination dest then .error errs.invalidAddress
  else
    let keyID := w.getKeyForDestination dest
    if keyID = 0 then .error errs.noKeyID
    else match w.getKey keyID with
      | none => .error errs.noKey
      | some key => match P.signCompact key (P.messageHash strMessage) with
        | none => .error errs.signFailed
        | some vchSig => .ok ⟨strAddress, vchSig⟩

/-- The JSON object one ballot appends to `postMessage`. -/
def ballotObject (voteId decision : String) (b : Ballot) : String :=
  "\x7b\"voteid\":\"" ++ voteId ++
    "\",\"address\":\"" ++ b.address ++
    "\",\"signature\":\"" ++ encodeBase64 b.signature ++
    "\",\"ballot\":\"" ++ decision ++ "\"\x7d"

/-- The string half of one loop turn, on `(postMessage, id)`: a comma unless `id = 0`, the
ballot's object, and `id++`. -/
def appendBallot (voteId decision : String) (acc : String × Nat) (b : Ballot) :
    String × Nat :=
  let postMessage := if acc.2 != 0 then acc.1 ++ "," else acc.1
  (postMessage ++ ballotObject voteId decision b, acc.2 + 1)

/-- The signing loop of both casts, from `postMessage = "["` and `id = 0` to the closing
`"]"`. -/
def buildPostMessage (errs : SignErrors ε) (voteId decision : String)
    (votingAddresses : List CScript) : Except ε String := do
  let acc ← votingAddresses.foldlM (fun acc addrScript => do
    let b ← signBallot P w errs voteId decision addrScript
    pure (appendBallot voteId decision acc b)) ("[", 0)
  pure (acc.1 ++ "]")

/-- The payload the loop builds from the ballots `bs`, by string concatenation. -/
def postMessage (voteId decision : String) (bs : List Ballot) : String :=
  (bs.foldl (appendBallot voteId decision) ("[", 0)).1 ++ "]"

theorem foldlM_appendBallot (errs : SignErrors ε) (voteId decision : String)
    (addrs : List CScript) (acc : String × Nat) :
    addrs.foldlM (fun acc addrScript => do
        let b ← signBallot P w errs voteId decision addrScript
        pure (appendBallot voteId decision acc b)) acc
      = (addrs.mapM (signBallot P w errs voteId decision)).map
          fun bs => bs.foldl (appendBallot voteId decision) acc := by
  induction addrs generalizing acc with
  | nil => rfl
  | cons a addrs ih =>
    simp only [List.foldlM_cons, List.mapM_cons]
    cases signBallot P w errs voteId decision a with
    | error e => rfl
    | ok b =>
      show addrs.foldlM _ (appendBallot voteId decision acc b) = _
      rw [ih]
      cases addrs.mapM (signBallot P w errs voteId decision) <;> rfl

/-- The signing loop signs every address, and its payload is `postMessage` of the ballots;
the first failing address is the loop's failure. -/
theorem buildPostMessage_eq (errs : SignErrors ε) (voteId decision : String)
    (addrs : List CScript) :
    buildPostMessage P w errs voteId decision addrs
      = (addrs.mapM (signBallot P w errs voteId decision)).map (postMessage voteId decision) := by
  unfold buildPostMessage postMessage
  rw [foldlM_appendBallot]
  cases addrs.mapM (signBallot P w errs voteId decision) <;> rfl

/-- A `mapM` in `Except` succeeds exactly when every element succeeds, with one result per
element in order. -/
theorem mapM_eq_ok_iff {α β : Type} (f : α → Except ε β) (l : List α) (bs : List β) :
    l.mapM f = .ok bs ↔ List.Forall₂ (fun a b => f a = .ok b) l bs := by
  induction l generalizing bs with
  | nil => rw [List.mapM_nil]; cases bs <;> simp [pure, Except.pure]
  | cons a l ih =>
    rw [List.mapM_cons]
    cases hfa : f a with
    | error e => cases bs <;> simp [bind, Except.bind, hfa]
    | ok b =>
      cases bs with
      | nil => cases l.mapM f <;> simp [bind, Except.bind, pure, Except.pure]
      | cons b' bs =>
        rw [List.forall₂_cons, hfa, ← ih]
        cases l.mapM f <;> simp [bind, Except.bind, pure, Except.pure, eq_comm]

theorem forall₂_exists_of_mem_left {α β : Type} {R : α → β → Prop} {l : List α} {bs : List β}
    (h : List.Forall₂ R l bs) {a : α} (ha : a ∈ l) : ∃ b, R a b := by
  induction h with
  | nil => cases ha
  | cons hab _ ih =>
    rcases List.mem_cons.1 ha with rfl | ha
    · exact ⟨_, hab⟩
    · exact ih ha

/-- Over the decisions `"0"` and `"1"` that the GUI's vote buttons pass, the message
`vote_id + "_" + decision` determines the vote id and the decision. -/
theorem ballotMessage_inj_of_binary {v v' d d' : String} (hd : d = "0" ∨ d = "1")
    (hd' : d' = "0" ∨ d' = "1") (h : ballotMessage v d = ballotMessage v' d') :
    v = v' ∧ d = d' := by
  have hdata := congrArg String.data h
  simp only [ballotMessage, String.data_append, List.append_assoc] at hdata
  have hlen : ∀ e : String, (e = "0" ∨ e = "1") → ("_".data ++ e.data).length = 2 := by
    rintro e (rfl | rfl) <;> rfl
  obtain ⟨hv, htail⟩ := List.append_inj' hdata ((hlen d hd).trans (hlen d' hd').symm)
  refine ⟨String.ext hv, String.ext ?_⟩
  simpa using htail

/-- Two GUI ballots on `prop-7`, both for `1`, frame the same message, and they agree on vote id
and decision. -/
theorem ballotMessage_inj_of_binary_prop7 :
    ("1" = "0" ∨ "1" = "1") ∧ ballotMessage "prop-7" "1" = ballotMessage "prop-7" "1" ∧
      ("prop-7" = "prop-7" ∧ "1" = "1") :=
  have hd : "1" = "0" ∨ "1" = "1" := .inr rfl
  ⟨hd, rfl, ballotMessage_inj_of_binary hd hd rfl⟩

/-- Over free strings the framing is ambiguous: `("a_b", "c")` and `("a", "b_c")` frame to
the same message `a_b_c`, so `signBallot` returns the same address and signature bytes for
both, whatever the wallet and its keys. -/
theorem signBallot_underscore_collision (errs : SignErrors ε) (addrScript : CScript) :
    ballotMessage "a_b" "c" = ballotMessage "a" "b_c" ∧
    signBallot P w errs "a_b" "c" addrScript = signBallot P w errs "a" "b_c" addrScript := by
  have h : ballotMessage "a_b" "c" = ballotMessage "a" "b_c" := by decide
  exact ⟨h, by simp only [signBallot, h]⟩

end NixGovernance
