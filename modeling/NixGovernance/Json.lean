import NixGovernance.Ballot

/-!
# `NixGovernance.Json`: what the `CAST_VOTE` payload decodes to

The casts build the `CAST_VOTE` payload by string concatenation (`postMessage`). The vote
id, the decision, the address and the base64 signature go between quotes, unescaped. The
coordination service reads the payload as JSON. This module states what it reads.

`decodeJson` is a JSON decoder for the values of RFC 8259 that the payload can contain:
strings with all their escapes, arrays, objects, and the literals `true`, `false` and
`null`. Numbers never occur in a payload, and the decoder refuses them. It keeps an
object's members in text order, duplicates included. Its recursion runs on fuel, and
`decodeJson` gives it twice the text's length, which is enough for any text.

* `parseStringBody_append`: a string with no quote, backslash or control character reads
  back as itself up to the closing quote;
* `decodeJson_postMessage`: when the vote id, the decision and the addresses are such
  strings, the payload decodes to the array of the ballots' four-member objects, in ballot
  order (`ballotJson`). The base64 signature is always such a string;
* `decodeJson_postMessage_forged`: a vote id with a quote breaks out of its string literal.
  The RPC takes the vote id from its caller, and such a vote id adds a forged `ballot`
  member to every ballot object.
-/

set_option autoImplicit false

namespace NixGovernance

/-- A JSON value. -/
inductive JsonValue where
  | null
  | bool (b : Bool)
  | str (s : String)
  | arr (elems : List JsonValue)
  | obj (members : List (String × JsonValue))
  deriving Repr

/-- JSON whitespace: space, tab, line feed, carriage return. -/
def isJsonWs (c : Char) : Bool :=
  c == ' ' || c == '\t' || c == '\n' || c == '\r'

/-- Skip the whitespace in front of a token. -/
def skipWs (cs : List Char) : List Char :=
  cs.dropWhile isJsonWs

/-- The character a two-character escape `\e` stands for. -/
def escapeChar : Char → Option Char
  | '"' => some '"'
  | '\\' => some '\\'
  | '/' => some '/'
  | 'b' => some (Char.ofNat 8)
  | 'f' => some (Char.ofNat 12)
  | 'n' => some '\n'
  | 'r' => some '\r'
  | 't' => some '\t'
  | _ => none

/-- The value of a hexadecimal digit. -/
def hexDigitVal (c : Char) : Option Nat :=
  if '0' ≤ c ∧ c ≤ '9' then some (c.toNat - '0'.toNat)
  else if 'a' ≤ c ∧ c ≤ 'f' then some (c.toNat - 'a'.toNat + 10)
  else if 'A' ≤ c ∧ c ≤ 'F' then some (c.toNat - 'A'.toNat + 10)
  else none

/-- The code unit of a `\uXXXX` escape. -/
def hex4 (a b c d : Char) : Option Nat := do
  let a ← hexDigitVal a
  let b ← hexDigitVal b
  let c ← hexDigitVal c
  let d ← hexDigitVal d
  pure (((a * 16 + b) * 16 + c) * 16 + d)

/-- The characters of a string literal after its opening quote, up to the closing quote,
and the rest of the text. A control character or a lone backslash is an error. -/
def parseStringBody : List Char → Option (List Char × List Char)
  | [] => none
  | '"' :: r => some ([], r)
  | '\\' :: 'u' :: h1 :: h2 :: h3 :: h4 :: r =>
    match hex4 h1 h2 h3 h4, parseStringBody r with
    | some n, some (s, r') => some (Char.ofNat n :: s, r')
    | _, _ => none
  | '\\' :: e :: r =>
    match escapeChar e, parseStringBody r with
    | some c, some (s, r') => some (c :: s, r')
    | _, _ => none
  | c :: r =>
    if c.toNat < 32 || c == '\\' then none
    else (parseStringBody r).map fun p => (c :: p.1, p.2)

mutual
/-- A value after optional whitespace, and the rest of the text. -/
def parseValue : Nat → List Char → Option (JsonValue × List Char)
  | 0, _ => none
  | n + 1, cs =>
    match skipWs cs with
    | '"' :: r => (parseStringBody r).map fun p => (.str ⟨p.1⟩, p.2)
    | '[' :: r =>
      match skipWs r with
      | ']' :: r' => some (.arr [], r')
      | _ => parseElements n r []
    | '{' :: r =>
      match skipWs r with
      | '}' :: r' => some (.obj [], r')
      | _ => parseMembers n r []
    | 't' :: 'r' :: 'u' :: 'e' :: r => some (.bool true, r)
    | 'f' :: 'a' :: 'l' :: 's' :: 'e' :: r => some (.bool false, r)
    | 'n' :: 'u' :: 'l' :: 'l' :: r => some (.null, r)
    | _ => none

/-- The elements of a non-empty array after `[`, the ones read so far in `acc`. -/
def parseElements : Nat → List Char → List JsonValue → Option (JsonValue × List Char)
  | 0, _, _ => none
  | n + 1, cs, acc =>
    match parseValue n cs with
    | some (v, r) =>
      match skipWs r with
      | ',' :: r' => parseElements n r' (acc ++ [v])
      | ']' :: r' => some (.arr (acc ++ [v]), r')
      | _ => none
    | none => none

/-- The members of a non-empty object after `{`, the ones read so far in `acc`. -/
def parseMembers : Nat → List Char → List (String × JsonValue) →
    Option (JsonValue × List Char)
  | 0, _, _ => none
  | n + 1, cs, acc =>
    match skipWs cs with
    | '"' :: r =>
      match parseStringBody r with
      | some (k, r1) =>
        match skipWs r1 with
        | ':' :: r2 =>
          match parseValue n r2 with
          | some (v, r3) =>
            match skipWs r3 with
            | ',' :: r4 => parseMembers n r4 (acc ++ [(⟨k⟩, v)])
            | '}' :: r4 => some (.obj (acc ++ [(⟨k⟩, v)]), r4)
            | _ => none
          | none => none
        | _ => none
      | none => none
    | _ => none
end

/-- A JSON text: one value between optional whitespace. -/
def decodeJson (s : String) : Option JsonValue :=
  match parseValue (2 * s.length + 2) s.data with
  | some (v, r) => if skipWs r = [] then some v else none
  | none => none

/-- A character that stands for itself inside a string literal: not a quote, not a
backslash, not a control character. -/
def isJsonSafeChar (c : Char) : Bool :=
  c != '"' && c != '\\' && 32 ≤ c.toNat

/-- A string every character of which stands for itself inside a string literal. -/
def isJsonSafe (s : String) : Bool :=
  s.data.all isJsonSafeChar

/-- The object `ballotObject` is meant to denote. -/
def ballotJson (voteId decision : String) (b : Ballot) : JsonValue :=
  .obj [("voteid", .str voteId), ("address", .str b.address),
    ("signature", .str (encodeBase64 b.signature)), ("ballot", .str decision)]

/-! ### Reading the payload back -/

theorem parseStringBody_append (s r : List Char) (hs : s.all isJsonSafeChar = true) :
    parseStringBody (s ++ '"' :: r) = some (s, r) := by
  induction s with
  | nil => simp [parseStringBody]
  | cons c s ih =>
    simp only [List.all_cons, Bool.and_eq_true] at hs
    obtain ⟨hc, hs⟩ := hs
    simp only [isJsonSafeChar, Bool.and_eq_true, bne_iff_ne, ne_eq, decide_eq_true_eq] at hc
    obtain ⟨⟨hq, hb⟩, hctl⟩ := hc
    rw [List.cons_append, parseStringBody.eq_5 _ _ hq (fun _ _ _ _ _ h _ => hb h)
      (fun _ _ h _ => hb h)]
    simp [ih hs, hb, Nat.not_lt.2 hctl]

/-- The text of one member `"k":"x"` followed by the separator `sep`. -/
def memberChars (k x : String) (sep : Char) : List Char :=
  '"' :: (k.data ++ '"' :: ':' :: '"' :: (x.data ++ ['"', sep]))

/-- The text of a ballot object, member by member. -/
def objectChars (voteId address signature decision : String) : List Char :=
  '{' :: (memberChars "voteid" voteId ',' ++ memberChars "address" address ',' ++
    memberChars "signature" signature ',' ++ memberChars "ballot" decision '}')


theorem ballotObject_data (voteId decision : String) (b : Ballot) :
    (ballotObject voteId decision b).data
      = objectChars voteId b.address (encodeBase64 b.signature) decision := by
  simp [ballotObject, objectChars, memberChars]

/-- The base64 signature needs no escaping. -/
theorem isJsonSafe_encodeBase64 (vch : List UInt8) : isJsonSafe (encodeBase64 vch) = true := by
  have halpha : ∀ c ∈ base64Alphabet, isJsonSafeChar c = true := by decide
  simp only [isJsonSafe, encodeBase64, List.all_eq_true]
  intro c hc
  rcases mem_encodeBase64Chars vch c hc with h | rfl
  · exact halpha c h
  · decide

theorem skipWs_cons {c : Char} (cs : List Char) (hc : isJsonWs c = false) :
    skipWs (c :: cs) = c :: cs := by
  simp [skipWs, List.dropWhile_cons, hc]

theorem parseValue_quote (n : Nat) (t : List Char) :
    parseValue (n + 1) ('"' :: t) = (parseStringBody t).map fun p => (.str ⟨p.1⟩, p.2) := by
  rw [parseValue.eq_2, skipWs_cons _ (by decide)]
  rfl

section Members
variable (n : Nat) (k x : String) (rest : List Char) (acc : List (String × JsonValue))
  (hk : isJsonSafe k = true) (hx : isJsonSafe x = true)
include hk hx

private theorem parseMembers_member (sep : Char) (hsep : isJsonWs sep = false) :
    parseMembers (n + 2) (memberChars k x sep ++ rest) acc =
      match sep :: rest with
      | ',' :: r => parseMembers (n + 1) r (acc ++ [(k, .str x)])
      | '}' :: r => some (.obj (acc ++ [(k, .str x)]), r)
      | _ => none := by
  simp only [memberChars, List.cons_append, List.append_assoc]
  rw [parseMembers.eq_2, skipWs_cons _ (by decide)]
  simp only [parseStringBody_append _ _ hk]
  rw [skipWs_cons _ (by decide)]
  simp only [parseValue_quote, parseStringBody_append _ _ hx, Option.map_some',
    skipWs_cons _ hsep]
  rfl

/-- A member followed by a comma: the object goes on with the next member. -/
theorem parseMembers_comma :
    parseMembers (n + 2) (memberChars k x ',' ++ rest) acc
      = parseMembers (n + 1) rest (acc ++ [(k, .str x)]) :=
  parseMembers_member n k x rest acc hk hx ',' (by decide)

/-- A member followed by the closing brace: the object ends. -/
theorem parseMembers_close :
    parseMembers (n + 2) (memberChars k x '}' ++ rest) acc
      = some (.obj (acc ++ [(k, .str x)]), rest) :=
  parseMembers_member n k x rest acc hk hx '}' (by decide)

end Members

theorem parseValue_bracket_objectChars (n : Nat) (v a s d : String) (t : List Char) :
    parseValue (n + 1) ('[' :: (objectChars v a s d ++ t))
      = parseElements n (objectChars v a s d ++ t) [] := by
  rw [parseValue.eq_2, skipWs_cons _ (by decide)]
  rfl

theorem parseValue_brace_member (n : Nat) (k x : String) (sep : Char) (rest : List Char) :
    parseValue (n + 1) ('{' :: (memberChars k x sep ++ rest))
      = parseMembers n (memberChars k x sep ++ rest) [] := by
  have h : memberChars k x sep ++ rest
      = '"' :: (k.data ++ '"' :: ':' :: '"' :: (x.data ++ '"' :: sep :: rest)) := by
    simp [memberChars]
  rw [h, parseValue.eq_2, skipWs_cons _ (by decide)]
  rfl

/-- A ballot object reads back as its four members, in text order. -/
theorem parseValue_objectChars (n : Nat) (v a s d : String) (rest : List Char)
    (hv : isJsonSafe v = true) (ha : isJsonSafe a = true) (hs : isJsonSafe s = true)
    (hd : isJsonSafe d = true) :
    parseValue (n + 6) (objectChars v a s d ++ rest) = some (.obj [("voteid", .str v),
      ("address", .str a), ("signature", .str s), ("ballot", .str d)], rest) := by
  simp only [objectChars, List.cons_append, List.append_assoc]
  rw [parseValue_brace_member, parseMembers_comma _ _ _ _ _ (by decide) hv,
    parseMembers_comma _ _ _ _ _ (by decide) ha, parseMembers_comma _ _ _ _ _ (by decide) hs,
    parseMembers_close _ _ _ _ _ (by decide) hd]
  rfl

/-- The text after the first ballot object: a comma and an object for each further
ballot. -/
def ballotsTail (voteId decision : String) (bs : List Ballot) : List Char :=
  bs.flatMap fun b => ',' :: objectChars voteId b.address (encodeBase64 b.signature) decision

theorem length_le_ballotsTail (voteId decision : String) (bs : List Ballot) :
    bs.length ≤ (ballotsTail voteId decision bs).length := by
  induction bs with
  | nil => simp
  | cons b bs ih => simp only [ballotsTail, List.flatMap_cons, List.length_append,
      List.length_cons] at *; omega

/-- The loop's text from the second ballot on: each turn with `id ≠ 0` appends a comma and
the ballot's object. -/
theorem foldl_appendBallot_data (voteId decision : String) (bs : List Ballot) (s : String)
    (i : Nat) :
    (bs.foldl (appendBallot voteId decision) (s, i + 1)).1.data
      = s.data ++ ballotsTail voteId decision bs := by
  induction bs generalizing s i with
  | nil => simp [ballotsTail]
  | cons b bs ih =>
    rw [List.foldl_cons, show appendBallot voteId decision (s, i + 1) b
      = (s ++ "," ++ ballotObject voteId decision b, i + 1 + 1) by simp [appendBallot], ih]
    simp [ballotsTail, ballotObject_data]

theorem postMessage_cons_data (voteId decision : String) (b : Ballot) (bs : List Ballot) :
    (postMessage voteId decision (b :: bs)).data
      = '[' :: (objectChars voteId b.address (encodeBase64 b.signature) decision ++
          (ballotsTail voteId decision bs ++ [']'])) := by
  rw [postMessage, List.foldl_cons, show appendBallot voteId decision ("[", 0) b
    = ("[" ++ ballotObject voteId decision b, 0 + 1) by simp [appendBallot],
    String.data_append, foldl_appendBallot_data]
  simp [ballotObject_data]

section Ballots
variable (voteId decision : String) (hv : isJsonSafe voteId = true)
  (hd : isJsonSafe decision = true)
include hv hd

/-- The object of a ballot whose address needs no escaping parses to its four members. -/
theorem parseValue_ballot (m : Nat) (b : Ballot) (hb : isJsonSafe b.address = true)
    (r : List Char) :
    parseValue (m + 6) (objectChars voteId b.address (encodeBase64 b.signature) decision ++ r)
      = some (ballotJson voteId decision b, r) :=
  parseValue_objectChars m voteId b.address _ decision r hv hb (isJsonSafe_encodeBase64 _) hd

theorem parseElements_ballots (rest : List Char) (b : Ballot) (bs : List Ballot)
    (acc : List JsonValue) (m : Nat) (hm : bs.length + 6 ≤ m)
    (hb : ∀ b' ∈ b :: bs, isJsonSafe b'.address = true) :
    parseElements (m + 1)
        (objectChars voteId b.address (encodeBase64 b.signature) decision ++
          (ballotsTail voteId decision bs ++ ']' :: rest)) acc
      = some (.arr (acc ++ (b :: bs).map (ballotJson voteId decision)), rest) := by
  obtain ⟨n, rfl⟩ : ∃ n, m = n + 6 := ⟨m - 6, by omega⟩
  induction bs generalizing b acc n with
  | nil =>
    rw [parseElements.eq_2, ballotsTail, List.flatMap_nil, List.nil_append,
      parseValue_ballot voteId decision hv hd _ b (hb b (List.mem_cons_self _ _))]
    rfl
  | cons b' bs ih =>
    obtain ⟨n, rfl⟩ : ∃ n', n = n' + 1 := ⟨n - 1, by simp at hm; omega⟩
    have hstep : parseElements (n + 1 + 6 + 1)
        (objectChars voteId b.address (encodeBase64 b.signature) decision ++
          (ballotsTail voteId decision (b' :: bs) ++ ']' :: rest)) acc
        = parseElements (n + 6 + 1)
          (objectChars voteId b'.address (encodeBase64 b'.signature) decision ++
            (ballotsTail voteId decision bs ++ ']' :: rest))
          (acc ++ [ballotJson voteId decision b]) := by
      simp only [ballotsTail, List.flatMap_cons, List.cons_append, List.append_assoc]
      rw [parseElements.eq_2,
        parseValue_ballot voteId decision hv hd _ b (hb b (List.mem_cons_self _ _))]
      rfl
    rw [hstep, ih b' _ (fun b'' hb'' => hb b'' (List.mem_cons_of_mem _ hb'')) n
      (by simp at hm ⊢; omega)]
    simp

/-- The `CAST_VOTE` payload of the ballots `bs` decodes to one four-member object per
ballot, in ballot order, when the vote id, the decision and the addresses need no escaping.
The base64 signatures never do. -/
theorem decodeJson_postMessage (bs : List Ballot)
    (hbs : ∀ b ∈ bs, isJsonSafe b.address = true) :
    decodeJson (postMessage voteId decision bs) = some (.arr (bs.map (ballotJson voteId decision))) := by
  cases bs with
  | nil => rfl
  | cons b bs =>
    have hlen := length_le_ballotsTail voteId decision bs
    unfold decodeJson
    rw [show (postMessage voteId decision (b :: bs)).length
      = (postMessage voteId decision (b :: bs)).data.length from rfl, postMessage_cons_data,
      parseValue_bracket_objectChars, parseElements_ballots voteId decision hv hd [] b bs [] _
      (by simp [objectChars, memberChars]; omega) hbs]
    simp [skipWs]

end Ballots

/-- Two ballots on the vote id `prop-7`, for the decision `1`, read back as their
objects. -/
theorem decodeJson_postMessage_prop7 :
    isJsonSafe "prop-7" = true ∧ isJsonSafe "1" = true ∧
    decodeJson (postMessage "prop-7" "1" [⟨"A", [1, 2, 3]⟩, ⟨"B", [4]⟩])
      = some (.arr [ballotJson "prop-7" "1" ⟨"A", [1, 2, 3]⟩,
          ballotJson "prop-7" "1" ⟨"B", [4]⟩]) :=
  ⟨by decide, by decide, decodeJson_postMessage "prop-7" "1" (by decide) (by decide) _ (by decide)⟩

/-- A vote id with a quote ends the `voteid` literal early. The RPC takes the vote id from
its caller unchecked. The payload still decodes, but its object carries a forged `ballot`
member in front of the four real ones. -/
theorem decodeJson_postMessage_forged :
    decodeJson (postMessage "x\",\"ballot\":\"1" "0" [⟨"A", []⟩]) = some (.arr [.obj
      [("voteid", .str "x"), ("ballot", .str "1"), ("address", .str "A"),
        ("signature", .str ""), ("ballot", .str "0")]]) ∧
    decodeJson (postMessage "x\",\"ballot\":\"1" "0" [⟨"A", []⟩])
      ≠ some (.arr ([⟨"A", []⟩].map (ballotJson "x\",\"ballot\":\"1" "0"))) := by
  have h : decodeJson (postMessage "x\",\"ballot\":\"1" "0" [⟨"A", []⟩]) = some (.arr [.obj
      [("voteid", .str "x"), ("ballot", .str "1"), ("address", .str "A"),
        ("signature", .str ""), ("ballot", .str "0")]]) := rfl
  refine ⟨h, ?_⟩
  rw [h]
  simp [ballotJson]

end NixGovernance
