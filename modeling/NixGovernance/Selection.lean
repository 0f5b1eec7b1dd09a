import NixGovernance.Paths
import NixGovernance.ProposalList

/-!
# `NixGovernance.Selection`: which proposal a selected row votes on

The row loop of `updateProposalList` renders each proposal of `g_governance.proposals` that
passes the filter and inserts its row at the top, so it leaves the kept proposals last first
(`Renders`); `setSortingEnabled(true)` then sorts those rows by the header. A row shows five
cells and no vote id. `OffChainGovernance::vote` reads the
first cell of the selected row, the name, and walks the buffer as it is at the time of the vote:
it takes the first proposal with that name, or keeps the empty `Proposals selectedProp` when none
has it (`selectProposal`). The vote id of that proposal is the one it checks against the
records, signs, sends and records (`VoteCastsOn`).

* `updateProposalList_renders`: a call that fetches leaves the rows it rendered from the buffer
  it read, sorted, and any other call leaves the rows as they were;
* `vote_targets_displayed_proposal`: while the buffer is the one the table was rendered from
  and its names are distinct, a vote on a row casts on the vote id of the proposal that row
  displays, which the buffer carries;
* `vote_on_fetched_row`: the same for every row of the sorted table a fetching call leaves;
* `vote_casts_on_first_named`: on any buffer, a vote casts on the first proposal with the row's
  name, and on the empty vote id when no proposal has it;
* `vote_resolves_row_by_name`: two proposals named `Grant` render as two rows, and both rows
  vote under the vote id of the first; once the buffer no longer holds the name, both vote under
  the empty vote id.
-/

set_option autoImplicit false

namespace NixGovernance

/-! ### The rendered table -/

/-- Row `r` is the row the loop renders for the proposal `p`. -/
def Displays (dateTimeStrFormat : Int → String) (r : ProposalRow) (p : Proposals) : Prop :=
  proposalRow dateTimeStrFormat p = .ok r

/-- The table `rows` was rendered from the buffer `proposals`: row `i` displays `shown[i]`, and
the displayed proposals are proposals of the buffer, in the buffer's order read from the last
row up. -/
structure Renders (dateTimeStrFormat : Int → String) (proposals : List Proposals)
    (rows : List ProposalRow) (shown : List Proposals) : Prop where
  shown_sublist : shown.reverse.Sublist proposals
  displays : List.Forall₂ (Displays dateTimeStrFormat) rows shown

instance (dateTimeStrFormat : Int → String) (r : ProposalRow) (p : Proposals) :
    Decidable (Displays dateTimeStrFormat r p) :=
  match h : proposalRow dateTimeStrFormat p with
  | .ok r' => decidable_of_iff (r' = r) (by rw [Displays, h, Except.ok.injEq])
  | .error _ => isFalse fun h' => by rw [Displays, h] at h'; cases h'

instance (dateTimeStrFormat : Int → String) (proposals : List Proposals)
    (rows : List ProposalRow) (shown : List Proposals) :
    Decidable (Renders dateTimeStrFormat proposals rows shown) :=
  decidable_of_iff
    (shown.reverse.Sublist proposals ∧ List.Forall₂ (Displays dateTimeStrFormat) rows shown)
    ⟨fun h => ⟨h.1, h.2⟩, fun h => ⟨h.1, h.2⟩⟩

/-- A row shows the name of the proposal it displays. -/
theorem Displays.name_eq {dateTimeStrFormat : Int → String} {r : ProposalRow} {p : Proposals}
    (h : Displays dateTimeStrFormat r p) : r.name = p.name := by
  unfold Displays proposalRow at h
  cases he : stoi p.endTime with
  | error e => rw [he] at h; cases h
  | ok endTime => rw [he] at h; cases h; rfl

/-- One turn of the row loop renders the proposal, and keeps the rows or puts its row on top. -/
theorem insertProposalRow_ok {dateTimeStrFormat : Int → String} {strCurrentFilter : String}
    {rows rows' : List ProposalRow} {p : Proposals}
    (h : insertProposalRow dateTimeStrFormat strCurrentFilter rows p = .ok rows') :
    ∃ row, Displays dateTimeStrFormat row p ∧ (rows' = rows ∨ rows' = row :: rows) := by
  unfold insertProposalRow at h
  cases hr : proposalRow dateTimeStrFormat p with
  | error e => rw [hr] at h; cases h
  | ok row =>
    rw [hr] at h
    refine ⟨row, hr, ?_⟩
    dsimp only [bind, Except.bind] at h
    split at h
    · exact .inl (Except.ok.inj h).symm
    · exact .inr (Except.ok.inj h).symm

/-- The row loop from the rows `acc`, which display `accShown`: every row it leaves displays a
proposal of the buffer, the proposals it kept last first and above the rows it started from. -/
theorem foldlM_insertProposalRow (dateTimeStrFormat : Int → String) (strCurrentFilter : String) :
    ∀ (proposals : List Proposals) (acc rows : List ProposalRow) (accShown : List Proposals),
      List.Forall₂ (Displays dateTimeStrFormat) acc accShown →
      proposals.foldlM (insertProposalRow dateTimeStrFormat strCurrentFilter) acc = .ok rows →
      ∃ kept : List Proposals, kept.Sublist proposals ∧
        List.Forall₂ (Displays dateTimeStrFormat) rows (kept.reverse ++ accShown)
  | [], acc, rows, accShown, hacc, h => by
    cases h
    exact ⟨[], .slnil, hacc⟩
  | p :: ps, acc, rows, accShown, hacc, h => by
    rw [List.foldlM_cons] at h
    cases hstep : insertProposalRow dateTimeStrFormat strCurrentFilter acc p with
    | error e => rw [hstep] at h; cases h
    | ok acc' =>
      rw [hstep] at h
      obtain ⟨row, hrow, rfl | rfl⟩ := insertProposalRow_ok hstep
      · obtain ⟨kept, hsub, hrows⟩ :=
          foldlM_insertProposalRow dateTimeStrFormat strCurrentFilter ps _ rows accShown hacc h
        exact ⟨kept, hsub.cons p, hrows⟩
      · obtain ⟨kept, hsub, hrows⟩ := foldlM_insertProposalRow dateTimeStrFormat strCurrentFilter
          ps (row :: acc) rows (p :: accShown) (.cons hrow hacc) h
        exact ⟨p :: kept, hsub.cons₂ p, by simpa using hrows⟩

/-- The rows a call of `updateProposalList` leaves: when it fetched, those it rendered from the
buffer it read, sorted by the header; otherwise the rows it found. -/
theorem updateProposalList_renders (T : ListTimings) (S : TableSort)
    (dateTimeStrFormat : Int → String) (now : Int) (fLockAcquired : Bool)
    (proposals : List Proposals) (v v' : ProposalListView)
    (h : (OffChainGovernance.updateProposalList T S dateTimeStrFormat now fLockAcquired proposals
      v).2 = .ok v') :
    ((OffChainGovernance.updateProposalList T S dateTimeStrFormat now fLockAcquired proposals
      v).1 = [] ∧ v'.rows = v.rows) ∨
    ∃ rows shown, Renders dateTimeStrFormat proposals rows shown ∧ v'.rows = S.sortRows rows := by
  cases fLockAcquired with
  | false => cases h; exact .inl ⟨rfl, rfl⟩
  | true =>
    rcases updateProposalList_ok_cases T S dateTimeStrFormat h with ⟨hw, rfl⟩ | ⟨-, rows, hr, rfl⟩
    · exact .inl ⟨by simp [updateProposalList_requests, not_le.2 hw], rfl⟩
    · obtain ⟨kept, hsub, hrows⟩ :=
        foldlM_insertProposalRow dateTimeStrFormat _ proposals [] rows [] .nil hr
      exact .inr ⟨rows, kept.reverse, ⟨by simpa using hsub, by simpa using hrows⟩, rfl⟩

theorem forall₂_exists_mem_of_mem_right {α β : Type} {R : α → β → Prop} {l : List α}
    {bs : List β} (h : List.Forall₂ R l bs) {b : β} (hb : b ∈ bs) : ∃ a ∈ l, R a b := by
  induction h with
  | nil => cases hb
  | cons hab _ ih =>
    rcases List.mem_cons.1 hb with rfl | hb
    · exact ⟨_, List.mem_cons_self _ _, hab⟩
    · obtain ⟨a, ha, hr⟩ := ih hb
      exact ⟨a, List.mem_cons_of_mem _ ha, hr⟩

/-- A row of a table rendered from a buffer displays a proposal of the buffer. -/
theorem Renders.exists_displays {dateTimeStrFormat : Int → String} {proposals : List Proposals}
    {rows : List ProposalRow} {shown : List Proposals}
    (hr : Renders dateTimeStrFormat proposals rows shown) {row : ProposalRow} (hrow : row ∈ rows) :
    ∃ p ∈ proposals, Displays dateTimeStrFormat row p := by
  obtain ⟨p, hp, hdisp⟩ := forall₂_exists_mem_of_mem_right
    (List.Forall₂.flip (R := flip (Displays dateTimeStrFormat)) hr.displays) hrow
  exact ⟨p, hr.shown_sublist.subset (List.mem_reverse.2 hp), hdisp⟩

/-! ### The name lookup of `vote` -/

section Lookup
variable {name : String} {proposals : List Proposals}

/-- The lookup returns the first proposal with the name. -/
theorem selectProposal_of_first {pre post : List Proposals} {q : Proposals}
    (hbuf : proposals = pre ++ q :: post) (hq : q.name = name) (hpre : ∀ p ∈ pre, p.name ≠ name) :
    selectProposal name proposals = q := by
  have hfind : proposals.find? (·.name == name) = some q :=
    List.find?_eq_some.2 ⟨by simpa using hq, pre, post, hbuf, by simpa using hpre⟩
  rw [selectProposal, hfind, Option.getD_some]

/-- The lookup keeps the empty proposal when no proposal has the name. -/
theorem selectProposal_of_forall_ne (h : ∀ p ∈ proposals, p.name ≠ name) :
    selectProposal name proposals = default := by
  have hfind : proposals.find? (·.name == name) = none :=
    List.find?_eq_none.2 fun p hp => by simpa using h p hp
  rw [selectProposal, hfind, Option.getD_none]

/-- On a buffer whose names are distinct, the lookup of a proposal's name returns it. -/
theorem selectProposal_name_of_nodup {p : Proposals} (hp : p ∈ proposals)
    (hnames : (proposals.map Proposals.name).Nodup) : selectProposal p.name proposals = p := by
  obtain ⟨pre, post, rfl⟩ := List.append_of_mem hp
  refine selectProposal_of_first rfl rfl fun q hq hname => ?_
  rw [List.map_append, List.map_cons] at hnames
  exact List.disjoint_of_nodup_append hnames (List.mem_map_of_mem _ hq)
    (hname ▸ List.mem_cons_self _ _)

end Lookup

/-! ### What a vote casts on -/

section Casts
variable (P : Primitives) (w : CWallet) (ctx : VoteContext) (decision : String)
  (db : List CGovernanceEntry) (resp : CastResponse) (persisted : Bool)

/-- `vote` casts on `voteId`: it sends nothing and keeps the records when they hold `voteId`,
every `CAST_VOTE` it sends carries one ballot signed for `voteId` per collected address, and
the only record it adds is one on `voteId`. -/
structure VoteCastsOn (voteId : String) : Prop where
  checks : ∀ entry, findVotedEntry voteId db = some entry →
    (OffChainGovernance.vote P w ctx decision db resp persisted).requests = [] ∧
    (OffChainGovernance.vote P w ctx decision db resp persisted).db = db
  signs : ∀ r ∈ (OffChainGovernance.vote P w ctx decision db resp persisted).requests,
    r.kind = .castVote →
    ∃ bs, List.Forall₂ (fun s b => signBallot P w guiSignErrors voteId decision s = .ok b)
        (guiVotingAddresses P w) bs ∧
      r = ⟨.castVote, postMessage voteId decision bs⟩
  records : (OffChainGovernance.vote P w ctx decision db resp persisted).db = db ∨
    ∃ weight, weight ≠ 0 ∧
      (OffChainGovernance.vote P w ctx decision db resp persisted).db = db ++ [⟨voteId, weight⟩]

/-- A vote on the selected name casts on the vote id of the proposal the lookup returns. -/
theorem voteCastsOn_selectProposal {name : String} (hname : ctx.selectedName = some name) :
    VoteCastsOn P w ctx decision db resp persisted (selectProposal name ctx.proposals).voteId := by
  refine ⟨fun entry he => ?_, fun r hr hk => ?_, ?_⟩
  · obtain ⟨hreq, hdb, -⟩ := vote_of_voted P w ctx decision db resp persisted name entry hname he
    exact ⟨hreq, hdb⟩
  · obtain ⟨name', bs, hname', hbs, hr⟩ := vote_castVote P w ctx decision db resp persisted r hr hk
    obtain rfl := Option.some.inj (hname'.symm.trans hname)
    exact ⟨bs, hbs, hr⟩
  · rcases vote_cases P w ctx decision db resp persisted with h | ⟨v, p, hp, -, hdb⟩
    · exact .inl h.2
    · obtain ⟨name', hname', -, -, rfl, -⟩ := OffChainGovernance.vote.prepare_eq_ok P w hp
      obtain rfl := Option.some.inj (hname'.symm.trans hname)
      exact hdb

/-- On a buffer whose names are distinct, a vote on a row that displays a proposal of the
buffer casts on that proposal's vote id. -/
theorem voteCastsOn_of_displays {dateTimeStrFormat : Int → String} {row : ProposalRow}
    {p : Proposals} (hdisp : Displays dateTimeStrFormat row p) (hp : p ∈ ctx.proposals)
    (hnames : (ctx.proposals.map Proposals.name).Nodup) (hsel : ctx.selectedName = some row.name) :
    VoteCastsOn P w ctx decision db resp persisted p.voteId := by
  have h := voteCastsOn_selectProposal P w ctx decision db resp persisted hsel
  rwa [hdisp.name_eq, selectProposal_name_of_nodup hp hnames] at h

/-- While the buffer is the one the table was rendered from and its names are distinct, a vote
on a row casts on the vote id of the proposal the row displays, a proposal of the buffer. -/
theorem vote_targets_displayed_proposal (dateTimeStrFormat : Int → String)
    (rows : List ProposalRow) (shown : List Proposals)
    (hr : Renders dateTimeStrFormat ctx.proposals rows shown)
    (hnames : (ctx.proposals.map Proposals.name).Nodup) (row : ProposalRow) (p : Proposals)
    (hrow : (row, p) ∈ rows.zip shown) (hsel : ctx.selectedName = some row.name) :
    p ∈ ctx.proposals ∧ VoteCastsOn P w ctx decision db resp persisted p.voteId := by
  have hdisp : Displays dateTimeStrFormat row p := (List.forall₂_iff_zip.1 hr.displays).2 hrow
  have hp : p ∈ ctx.proposals :=
    hr.shown_sublist.subset (List.mem_reverse.2 (List.of_mem_zip hrow).2)
  exact ⟨hp, voteCastsOn_of_displays P w ctx decision db resp persisted hdisp hp hnames hsel⟩

/-- Right after a call of `updateProposalList` that fetched, while the buffer is still the one
it read and its names are distinct, a vote on any row of the sorted table casts on the vote id
of the buffer's proposal that row displays. -/
theorem vote_on_fetched_row (T : ListTimings) (S : TableSort) (dateTimeStrFormat : Int → String)
    (now : Int) (v v' : ProposalListView)
    (hw : updateProposalList.secondsToWait T now v (v.nTimeListUpdated.getD now) ≤ 0)
    (h : (OffChainGovernance.updateProposalList T S dateTimeStrFormat now true ctx.proposals
      v).2 = .ok v')
    (hnames : (ctx.proposals.map Proposals.name).Nodup) (row : ProposalRow) (hrow : row ∈ v'.rows)
    (hsel : ctx.selectedName = some row.name) :
    ∃ p ∈ ctx.proposals, Displays dateTimeStrFormat row p ∧
      VoteCastsOn P w ctx decision db resp persisted p.voteId := by
  rcases updateProposalList_renders T S dateTimeStrFormat now true ctx.proposals v v' h with
    ⟨hreq, -⟩ | ⟨rows, shown, hr, hrows⟩
  · simp [updateProposalList_requests, hw] at hreq
  · rw [hrows, TableSort.mem_sortRows] at hrow
    obtain ⟨p, hp, hdisp⟩ := hr.exists_displays hrow
    exact ⟨p, hp, hdisp, voteCastsOn_of_displays P w ctx decision db resp persisted hdisp hp
      hnames hsel⟩

/-- On any buffer, a vote on the selected name casts on the first proposal with that name, and
on the empty vote id when no proposal has it. -/
theorem vote_casts_on_first_named {name : String} (hsel : ctx.selectedName = some name) :
    (∀ pre q post, ctx.proposals = pre ++ q :: post → q.name = name →
      (∀ p ∈ pre, p.name ≠ name) → VoteCastsOn P w ctx decision db resp persisted q.voteId) ∧
    ((∀ p ∈ ctx.proposals, p.name ≠ name) → VoteCastsOn P w ctx decision db resp persisted "") := by
  have h := voteCastsOn_selectProposal P w ctx decision db resp persisted hsel
  refine ⟨fun pre q post hbuf hq hpre => ?_, fun hnone => ?_⟩
  · rwa [selectProposal_of_first hbuf hq hpre] at h
  · rwa [selectProposal_of_forall_ne hnone] at h

end Casts

/-! ### Proposals that share a name, and a buffer that changed -/

/-- Two proposals named `Grant`, with vote ids `grant-1` and `grant-2` and different amounts,
both ending at time `0`. -/
def grantProposals : List Proposals :=
  [⟨"Grant", "", "", "100", "", "0", "", "", "grant-1"⟩,
    ⟨"Grant", "", "", "250", "", "0", "", "", "grant-2"⟩]

/-- The table the row loop renders from `grantProposals` with no filter: `grant-2`'s row on
top. -/
def grantRows : List ProposalRow :=
  [⟨"Grant", "250", "", "", ""⟩, ⟨"Grant", "100", "", "", ""⟩]

/-- A later buffer that no longer lists `Grant`. -/
def auditProposals : List Proposals :=
  [⟨"Audit", "", "", "40", "", "0", "", "", "audit-1"⟩]

/-- Two proposals with distinct names, `Audit` before `Grant`. -/
def auditGrantProposals : List Proposals :=
  [⟨"Audit", "", "", "40", "", "0", "", "", "audit-1"⟩,
    ⟨"Grant", "", "", "100", "", "0", "", "", "grant-1"⟩]

/-- The table the row loop renders from `auditGrantProposals` with no filter. -/
def auditGrantRows : List ProposalRow :=
  [⟨"Grant", "100", "", "", ""⟩, ⟨"Audit", "40", "", "", ""⟩]

/-- The GUI with a row named `name` selected over the buffer `proposals`, on a synced node,
unlocked, and the cast confirmed. -/
def rowContext (name : String) (proposals : List Proposals) : VoteContext :=
  ⟨some name, proposals, false, true, true⟩

/-- The top row of `auditGrantProposals`' table displays `grant-1`, which the lookup reaches past
`Audit`; a vote on it casts on `grant-1`. -/
theorem vote_targets_displayed_proposal_two :
    Renders (fun _ => "") auditGrantProposals auditGrantRows auditGrantProposals.reverse ∧
    ((⟨"Grant", "", "", "100", "", "0", "", "", "grant-1"⟩ : Proposals) ∈ auditGrantProposals ∧
      VoteCastsOn demoPrimitives oldStakeWallet (rowContext "Grant" auditGrantProposals) "1" []
        ⟨true, []⟩ true "grant-1") :=
  have hr : Renders (fun _ => "") auditGrantProposals auditGrantRows
      auditGrantProposals.reverse := by
    decide
  ⟨hr, vote_targets_displayed_proposal demoPrimitives oldStakeWallet
    (rowContext "Grant" auditGrantProposals) "1" [] ⟨true, []⟩ true (fun _ => "") _ _ hr
    (by decide) ⟨"Grant", "100", "", "", ""⟩ _ (by decide) rfl⟩

/-- Right after a fetch of `auditGrantProposals` sorted by name, a vote on the row `Audit`
casts on `audit-1`. -/
theorem vote_on_fetched_row_audit :
    updateProposalList.secondsToWait demoTimings 15 ⟨false, 0, "", some 0, "", []⟩ 0 ≤ 0 ∧
    (OffChainGovernance.updateProposalList demoTimings nameSort (fun _ => "") 15 true
        (rowContext "Audit" auditGrantProposals).proposals ⟨false, 0, "", some 0, "", []⟩).2
      = .ok ⟨false, 0, "", some 15, "2", auditGrantRows⟩ ∧
    ∃ p ∈ (rowContext "Audit" auditGrantProposals).proposals,
      Displays (fun _ => "") ⟨"Audit", "40", "", "", ""⟩ p ∧
      VoteCastsOn demoPrimitives oldStakeWallet (rowContext "Audit" auditGrantProposals) "1" []
        ⟨true, []⟩ true p.voteId :=
  have hw : updateProposalList.secondsToWait demoTimings 15 ⟨false, 0, "", some 0, "", []⟩ 0
      ≤ 0 := by decide
  have h : (OffChainGovernance.updateProposalList demoTimings nameSort (fun _ => "") 15 true
      (rowContext "Audit" auditGrantProposals).proposals ⟨false, 0, "", some 0, "", []⟩).2
      = .ok ⟨false, 0, "", some 15, "2", auditGrantRows⟩ := rfl
  ⟨hw, h, vote_on_fetched_row demoPrimitives oldStakeWallet (rowContext "Audit" auditGrantProposals)
    "1" [] ⟨true, []⟩ true demoTimings nameSort (fun _ => "") 15 _ _ hw h (by decide) _
    (by decide) rfl⟩

/-- A vote on `Grant` casts on `grant-1` over `grantProposals`, and on the empty vote id over
`auditProposals`. -/
theorem vote_casts_on_first_named_grant :
    VoteCastsOn demoPrimitives oldStakeWallet (rowContext "Grant" grantProposals) "1" []
      ⟨true, []⟩ true "grant-1" ∧
    VoteCastsOn demoPrimitives oldStakeWallet (rowContext "Grant" auditProposals) "1" []
      ⟨true, []⟩ true "" :=
  ⟨(vote_casts_on_first_named demoPrimitives oldStakeWallet (rowContext "Grant" grantProposals)
      "1" [] ⟨true, []⟩ true rfl).1 [] _ _ rfl rfl (by simp),
    (vote_casts_on_first_named demoPrimitives oldStakeWallet (rowContext "Grant" auditProposals)
      "1" [] ⟨true, []⟩ true rfl).2 (by decide)⟩

/-- A call at the end of the refresh interval, sorting by name, renders the two `Grant`
proposals as two rows, the top one displaying `grant-2`. A vote on either row sends a ballot
under `grant-1`. Once the buffer holds only `Audit`, a vote on either row sends a ballot under
the empty vote id, which no proposal of the buffer carries. -/
theorem vote_resolves_row_by_name :
    (OffChainGovernance.updateProposalList demoTimings nameSort (fun _ => "") 15 true
        grantProposals ⟨false, 0, "", some 0, "", []⟩).2.map ProposalListView.rows
      = .ok grantRows ∧
    Renders (fun _ => "") grantProposals grantRows grantProposals.reverse ∧
    grantRows.map (fun row => (OffChainGovernance.vote demoPrimitives oldStakeWallet
        (rowContext row.name grantProposals) "1" [] ⟨true, []⟩ true).requests)
      = List.replicate 2 [⟨.castVote,
          "[\x7b\"voteid\":\"grant-1\",\"address\":\"A\",\"signature\":\"\",\"ballot\":\"1\"\x7d]"⟩,
        ⟨.getProposals, ""⟩] ∧
    grantRows.map (fun row => (OffChainGovernance.vote demoPrimitives oldStakeWallet
        (rowContext row.name auditProposals) "1" [] ⟨true, []⟩ true).requests)
      = List.replicate 2 [⟨.castVote,
          "[\x7b\"voteid\":\"\",\"address\":\"A\",\"signature\":\"\",\"ballot\":\"1\"\x7d]"⟩,
        ⟨.getProposals, ""⟩] ∧
    "" ∉ auditProposals.map Proposals.voteId :=
  ⟨rfl, by decide, rfl, rfl, by decide⟩

end NixGovernance
