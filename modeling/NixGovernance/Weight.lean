import Mathlib.Data.Nat.Digits
import Mathlib.Tactic.Ring
import NixGovernance.Wallet

/-!
# `NixGovernance.Weight`: the vote weight a cast records

After a `CAST_VOTE` exchange that reports success, both casts walk `g_governance.votes`.
They skip every record whose `vote_id` differs from the cast's and add
`std::stoi(votes[i].weight)` to the `CAmount` `voteWeight` for the others.
`postoffchainproposals` also lists each matching record in its reply under the key
`"Vote " + std::to_string(i)`. `tallyVotes` is this loop.

`std::stoi` converts through `strtol` and then to `int`. It skips leading white space, reads
an optional sign and the decimal digits, and throws `std::invalid_argument` when it finds no
digit. It throws `std::out_of_range` when the value lies outside the 32-bit `int` range.
`stoi` models it over the mathematical integers.

* `stoi_toString`: the canonical decimal rendering of `n` converts to `n` exactly when
  `n < 2^31`, and throws `out_of_range` otherwise;
* `tallyVotes_eq_sum`: when every matching weight renders a value below `2^31`, the loop
  returns the sum of the matching weights, and other records contribute nothing;
* `tallyVotes_outOfRange`: a matching weight of `2^31` or more throws, although such amounts
  are far below `MAX_MONEY`.
-/

set_option autoImplicit false

namespace NixGovernance

/-- `isspace` in the C locale. -/
def isCSpace (c : Char) : Bool :=
  c == ' ' || c == '\t' || c == '\n' || c == Char.ofNat 11 || c == Char.ofNat 12 || c == '\r'

/-- One digit more: `n * 10 + (c - '0')`, with `'0'` the code point 48. -/
def decimalStep (n : Nat) (c : Char) : Nat :=
  10 * n + (c.toNat - 48)

/-- The value of a run of decimal digits. -/
def decimalValue (ds : List Char) : Nat :=
  ds.foldl decimalStep 0

/-- The bounds of `int`. -/
def intMin : Int := -2147483648
def intMax : Int := 2147483647

/-- `std::stoi(str)` in base 10. -/
def stoi (str : String) : Except StdException Int :=
  let cs := str.data.dropWhile isCSpace
  let (neg, cs) : Bool × List Char :=
    match cs with
    | '-' :: r => (true, r)
    | '+' :: r => (false, r)
    | r => (false, r)
  let digits := cs.takeWhile Char.isDigit
  if digits.isEmpty then .error .invalidArgument
  else
    let v : Int := if neg then -(decimalValue digits : Int) else decimalValue digits
    if v < intMin ∨ intMax < v then .error .outOfRange else .ok v

/-- One turn of the weight loop on `votes[i]`: skip another vote id; otherwise add
`std::stoi(weight)` to `voteWeight` and, for the RPC's reply, the record under
`"Vote " + std::to_string(i)`. -/
def tallyStep (voteId : String) (acc : Int × List (String × Votes)) (iv : Nat × Votes) :
    Except StdException (Int × List (String × Votes)) :=
  if iv.2.voteId != voteId then pure acc
  else do
    let w ← stoi iv.2.weight
    pure (acc.1 + w, acc.2 ++ [("Vote " ++ toString iv.1, iv.2)])

/-- The weight loop of both casts over `g_governance.votes`, from `voteWeight = 0`. -/
def tallyVotes (voteId : String) (votes : List Votes) :
    Except StdException (Int × List (String × Votes)) :=
  votes.enum.foldlM (tallyStep voteId) (0, [])

/-- The sum of the weights `weightOf` of the records on `voteId`. -/
def matchingWeight (voteId : String) (weightOf : Votes → Nat) (votes : List Votes) : Int :=
  ((votes.filter (·.voteId == voteId)).map fun v => (weightOf v : Int)).sum

/-! ### `std::stoi` on canonical renderings -/

theorem decimalValue_append (ds es : List Char) :
    decimalValue (ds ++ es) = decimalValue ds * 10 ^ es.length + decimalValue es := by
  have key : ∀ (es : List Char) (a : Nat),
      es.foldl decimalStep a = a * 10 ^ es.length + decimalValue es := by
    intro es
    induction es with
    | nil => intro a; simp [decimalValue]
    | cons e es ih =>
      intro a
      have h : decimalValue (e :: es) = es.foldl decimalStep (decimalStep 0 e) := rfl
      rw [List.foldl_cons, ih, h, ih, List.length_cons, pow_succ, decimalStep, decimalStep]
      ring
  rw [decimalValue, List.foldl_append, key]
  rfl

theorem digitChar_facts : ∀ d, d < 10 →
    (Nat.digitChar d).isDigit = true ∧ (Nat.digitChar d).toNat - 48 = d ∧
    isCSpace (Nat.digitChar d) = false ∧ Nat.digitChar d ≠ '-' ∧ Nat.digitChar d ≠ '+' := by
  decide

/-- `Nat.toDigitsCore` with enough fuel puts the digits of `n` in front of `ds`. -/
theorem toDigitsCore_spec (f n : Nat) (ds : List Char) (hf : n < f) :
    ∃ d es, Nat.toDigitsCore 10 f n ds = d :: es ++ ds ∧
      (d :: es).all Char.isDigit = true ∧ d.isDigit = true ∧ isCSpace d = false ∧
      d ≠ '-' ∧ d ≠ '+' ∧ decimalValue (d :: es) = n := by
  induction f generalizing n ds with
  | zero => omega
  | succ f ih =>
    obtain ⟨hdig, hval, hsp, hm, hp⟩ := digitChar_facts (n % 10) (Nat.mod_lt _ (by omega))
    rw [Nat.toDigitsCore]
    split
    · rename_i h0
      refine ⟨_, [], rfl, by simpa using hdig, hdig, hsp, hm, hp, ?_⟩
      simp [decimalValue, decimalStep, hval]
      omega
    · rename_i h0
      obtain ⟨d, es, heq, hall, hd, hdsp, hdm, hdp, hv⟩ :=
        ih (n / 10) (Nat.digitChar (n % 10) :: ds) (by omega)
      refine ⟨d, es ++ [Nat.digitChar (n % 10)], by simp [heq], ?_, hd, hdsp, hdm, hdp, ?_⟩
      · simpa [hdig] using hall
      · rw [← List.cons_append, decimalValue_append, hv]
        simp [decimalValue, decimalStep, hval]
        omega

/-- `std::stoi` of the canonical decimal rendering of `n`: the value when it fits in an
`int`, `out_of_range` otherwise. -/
theorem stoi_toString (n : Nat) :
    stoi (toString n) = if n ≤ 2147483647 then .ok n else .error .outOfRange := by
  obtain ⟨d, es, heq, hall, hd, hsp, hm, hp, hv⟩ := toDigitsCore_spec (n + 1) n [] (by omega)
  have hdata : (toString n).data = d :: es := by
    simpa using heq
  have htake : (d :: es).takeWhile Char.isDigit = d :: es :=
    List.takeWhile_eq_self_iff.2 (by simpa using hall)
  simp only [stoi, hdata, List.dropWhile_cons, hsp, Bool.false_eq_true, ite_false]
  rw [show (match d :: es with
      | '-' :: r => (true, r)
      | '+' :: r => (false, r)
      | r => (false, r)) = (false, d :: es) by split <;> simp_all]
  simp only [htake, List.isEmpty_cons, Bool.false_eq_true, ite_false, hv, intMin, intMax]
  split <;> split <;> first | rfl | omega

/-! ### The weight loop -/

theorem foldlM_tallyStep_fst (voteId : String) (votes : List Votes) (k : Nat)
    (acc : Int × List (String × Votes)) :
    ((votes.enumFrom k).foldlM (tallyStep voteId) acc).map (·.1)
      = ((votes.filter (·.voteId == voteId)).mapM (fun v => stoi v.weight)).map
          fun ws => acc.1 + ws.sum := by
  induction votes generalizing k acc with
  | nil =>
    show Except.ok acc.1 = Except.ok (acc.1 + ([] : List Int).sum)
    simp
  | cons v votes ih =>
    rw [List.enumFrom_cons, List.foldlM_cons]
    by_cases hv : v.voteId = voteId
    · rw [List.filter_cons_of_pos (by simpa using hv), List.mapM_cons]
      simp only [tallyStep, hv, bne_self_eq_false, Bool.false_eq_true, ite_false]
      cases stoi v.weight with
      | error e => rfl
      | ok w =>
        show ((votes.enumFrom (k + 1)).foldlM (tallyStep voteId) _).map _ = _
        rw [ih]
        cases (votes.filter (·.voteId == voteId)).mapM (fun v => stoi v.weight) with
        | error e => rfl
        | ok ws =>
          show Except.ok _ = Except.ok _
          simp only [List.sum_cons, add_assoc]
    · rw [List.filter_cons_of_neg (by simpa using hv)]
      simp only [tallyStep, bne_iff_ne, ne_eq, hv, not_false_eq_true, ite_true]
      exact ih (k + 1) acc

/-- The weight the loop returns: the sum of `std::stoi` over the weights of the records on
the cast's vote id, or the first exception `std::stoi` throws on one of them. -/
theorem tallyVotes_fst (voteId : String) (votes : List Votes) :
    (tallyVotes voteId votes).map (·.1)
      = ((votes.filter (·.voteId == voteId)).mapM (fun v => stoi v.weight)).map List.sum := by
  rw [tallyVotes, List.enum, foldlM_tallyStep_fst]
  simp

theorem mapM_eq_ok_map {α β ε : Type} (f : α → Except ε β) (g : α → β) (l : List α)
    (h : ∀ a ∈ l, f a = .ok (g a)) : l.mapM f = .ok (l.map g) := by
  induction l with
  | nil => rfl
  | cons a l ih =>
    rw [List.mapM_cons, h a (List.mem_cons_self _ _),
      ih fun a' ha' => h a' (List.mem_cons_of_mem _ ha')]
    rfl

/-- When every record on the cast's vote id carries the canonical rendering of a value that
fits in an `int`, the loop returns the sum of those values. Records on other vote ids
contribute nothing. -/
theorem tallyVotes_eq_sum (voteId : String) (votes : List Votes) (weightOf : Votes → Nat)
    (h : ∀ v ∈ votes, v.voteId = voteId →
      v.weight = toString (weightOf v) ∧ weightOf v ≤ 2147483647) :
    (tallyVotes voteId votes).map (·.1) = .ok (matchingWeight voteId weightOf votes) := by
  rw [tallyVotes_fst, mapM_eq_ok_map _ (fun v => (weightOf v : Int))]
  · rfl
  · intro v hv
    obtain ⟨hw, hle⟩ := h v (List.mem_filter.1 hv).1 (by simpa using (List.mem_filter.1 hv).2)
    rw [hw, stoi_toString, if_pos hle]

/-- A record on `prop-7` with weight `5` and one on another vote id: the loop returns `5`. -/
theorem tallyVotes_eq_sum_prop7 :
    (∀ v ∈ [(⟨"prop-7", "A", "5"⟩ : Votes), ⟨"x", "B", "9"⟩], v.voteId = "prop-7" →
      v.weight = toString ((fun _ => 5 : Votes → Nat) v) ∧
        (fun _ => 5 : Votes → Nat) v ≤ 2147483647) ∧
    (tallyVotes "prop-7" [⟨"prop-7", "A", "5"⟩, ⟨"x", "B", "9"⟩]).map (·.1)
      = .ok (matchingWeight "prop-7" (fun _ => 5) [⟨"prop-7", "A", "5"⟩, ⟨"x", "B", "9"⟩]) :=
  have h : ∀ v ∈ [(⟨"prop-7", "A", "5"⟩ : Votes), ⟨"x", "B", "9"⟩], v.voteId = "prop-7" →
      v.weight = toString ((fun _ => 5 : Votes → Nat) v) ∧
        (fun _ => 5 : Votes → Nat) v ≤ 2147483647 := by decide
  ⟨h, tallyVotes_eq_sum "prop-7" _ (fun _ => 5) h⟩

/-- A first record on the cast's vote id whose weight renders a value past `2^31 - 1` makes
the loop throw `out_of_range`. -/
theorem tallyVotes_outOfRange (voteId address : String) (n : Nat) (hn : 2147483647 < n)
    (rest : List Votes) :
    tallyVotes voteId (⟨voteId, address, toString n⟩ :: rest) = .error .outOfRange := by
  rw [tallyVotes, List.enum, List.enumFrom_cons, List.foldlM_cons]
  simp only [tallyStep, bne_self_eq_false, Bool.false_eq_true, ite_false, stoi_toString,
    if_neg (Nat.not_le.2 hn)]
  rfl

/-- The weight `2147483648`, 21.47483648 coins in the wallet's amount unit, makes the loop
throw. -/
theorem tallyVotes_weight_2147483648 :
    tallyVotes "prop-7" [⟨"prop-7", "A", "2147483648"⟩] = .error .outOfRange :=
  tallyVotes_outOfRange "prop-7" "A" 2147483648 (by decide) []

end NixGovernance
