import NixGovernance.Selection

/-!
# `NixGovernance.Table`: what the proposal table, its label and its dialog show

The row loop of `updateProposalList` (`offchaingovernance.cpp` 108-135) renders every proposal
of the buffer, `std::stoi` of its end time included, before it looks at the filter. So the loop
throws the first `std::stoi` exception of the buffer, or keeps exactly the rows whose text
contains the filter, the last one on top. `setSortingEnabled(true)` (138) then sorts them by the
header's sort indicator (`TableSort.sortRows`), keeping the loop's order among rows that compare
equal.

Over a run of filter edits and calls (`listRun`) under one sort indicator, the table and the
count label keep one invariant, `ProposalListView.Shows`: the rows are what the loop rendered
from some buffer, sorted, under the current filter unless an edit is pending; the label reads
`Please wait... k` exactly while an edit is pending, and counts the rows otherwise.

`on_tableWidgetProposals_doubleClicked` (149-180) looks the selected row's name up in the
buffer as `vote` does, and renders the end time of what it found with `std::stoi` again.
`on_expandProposalButton_clicked` (182-193) calls it once per selected row, and each call reads
the first selected row.

* `updateProposalList_of_fetch`: a call whose wait is over throws the buffer's first
  `std::stoi` exception or shows exactly the rows that pass the filter, sorted;
* `listRun_shows`: every view a run from the constructor reaches keeps `Shows`;
* `detailsDialog_of_fetched`: right after a fetch, the dialog of any row of the table describes
  the proposal `vote` casts on, with the expiration of its own end time, and never throws.
-/

set_option autoImplicit false

namespace NixGovernance

/-! ### The row loop -/

/-- The row loop's `continue`: a filter is set and the row's text does not contain it. -/
def rowFiltered (strCurrentFilter : String) (row : ProposalRow) : Bool :=
  strCurrentFilter != "" && !qstringContains row.filterText strCurrentFilter

section Rows
variable (dateTimeStrFormat : Int → String) (strCurrentFilter : String)

theorem insertProposalRow_eq (rows : List ProposalRow) (p : Proposals) :
    insertProposalRow dateTimeStrFormat strCurrentFilter rows p
      = (proposalRow dateTimeStrFormat p).map fun row =>
          if rowFiltered strCurrentFilter row then rows else row :: rows := by
  unfold insertProposalRow rowFiltered
  cases proposalRow dateTimeStrFormat p with
  | error e => rfl
  | ok row => show (if _ then _ else _) = Except.ok (if _ then _ else _); split <;> rfl

/-- The row loop from the rows `acc`: the first exception `std::stoi` throws on the buffer, or
the rows of the buffer that the filter keeps, the last one on top of `acc`. -/
theorem foldlM_insertProposalRow_eq :
    ∀ (proposals : List Proposals) (acc : List ProposalRow),
      proposals.foldlM (insertProposalRow dateTimeStrFormat strCurrentFilter) acc
        = (proposals.mapM (proposalRow dateTimeStrFormat)).map fun rows =>
            (rows.filter fun row => !rowFiltered strCurrentFilter row).reverse ++ acc
  | [], acc => rfl
  | p :: ps, acc => by
    rw [List.foldlM_cons, List.mapM_cons, insertProposalRow_eq]
    cases proposalRow dateTimeStrFormat p with
    | error e => rfl
    | ok row =>
      simp only [Except.map, bind, Except.bind]
      rw [foldlM_insertProposalRow_eq ps]
      cases ps.mapM (proposalRow dateTimeStrFormat) with
      | error e => rfl
      | ok rows =>
        cases h : rowFiltered strCurrentFilter row <;>
          simp [Except.map, pure, Except.pure, List.filter_cons, h]

/-- A table the loop rendered from a buffer: every proposal of the buffer has a row, and every
row displays a proposal of the buffer. -/
theorem foldlM_insertProposalRow_ok {proposals : List Proposals} {rows : List ProposalRow}
    (h : proposals.foldlM (insertProposalRow dateTimeStrFormat strCurrentFilter) [] = .ok rows) :
    (∀ p ∈ proposals, ∃ row, Displays dateTimeStrFormat row p) ∧
    ∀ row ∈ rows, ∃ p ∈ proposals, Displays dateTimeStrFormat row p := by
  rw [foldlM_insertProposalRow_eq] at h
  cases hm : proposals.mapM (proposalRow dateTimeStrFormat) with
  | error e => rw [hm] at h; cases h
  | ok rendered =>
    rw [hm] at h
    cases h
    have h2 := (mapM_eq_ok_iff _ proposals rendered).1 hm
    refine ⟨fun p hp => forall₂_exists_of_mem_left h2 hp, fun row hrow => ?_⟩
    simp only [List.append_nil, List.mem_reverse] at hrow
    exact forall₂_exists_mem_of_mem_right h2 (List.mem_of_mem_filter hrow)

end Rows

/-- A call whose wait is over sends `GET_PROPOSALS`, resets both timers, and either throws the
first exception `std::stoi` raises on the buffer or shows exactly the buffer's rows whose text
contains the filter (all of them when it is empty), the last proposal on top before the sort,
sorted by the header, and their number. -/
theorem updateProposalList_of_fetch (T : ListTimings) (S : TableSort)
    (dateTimeStrFormat : Int → String) (now : Int) (proposals : List Proposals)
    (v : ProposalListView)
    (hw : updateProposalList.secondsToWait T now v (v.nTimeListUpdated.getD now) ≤ 0) :
    OffChainGovernance.updateProposalList T S dateTimeStrFormat now true proposals v
      = ([⟨.getProposals, ""⟩],
        (proposals.mapM (proposalRow dateTimeStrFormat)).map fun rendered =>
          let rows := (rendered.filter fun row => !rowFiltered v.strCurrentFilter row).reverse
          { v with
            nTimeListUpdated := some now, fFilterUpdated := false
            countLabel := toString rows.length, rows := S.sortRows rows }) := by
  unfold OffChainGovernance.updateProposalList
  simp only [Bool.not_true, Bool.false_eq_true, ite_false, not_lt.2 hw,
    foldlM_insertProposalRow_eq, List.append_nil]
  cases proposals.mapM (proposalRow dateTimeStrFormat) <;> rfl

/-- The table sorted by its amount column in ascending order, texts in code point order. -/
def amountSort : TableSort :=
  ⟨some 1, .ascendingOrder, codePointLess⟩

/-- At the end of the refresh interval, sorted by amount, the call on `grantProposals` shows
`grant-1`'s row (`100`) above `grant-2`'s (`250`), the reverse of the loop's order. -/
theorem updateProposalList_of_fetch_grant :
    updateProposalList.secondsToWait demoTimings 15 ⟨false, 0, "", some 0, "", []⟩ 0 ≤ 0 ∧
    OffChainGovernance.updateProposalList demoTimings amountSort (fun _ => "") 15 true
        grantProposals ⟨false, 0, "", some 0, "", []⟩
      = ([⟨.getProposals, ""⟩],
        (grantProposals.mapM (proposalRow (fun _ => ""))).map fun rendered =>
          let rows := (rendered.filter fun row => !rowFiltered "" row).reverse
          ({ fFilterUpdated := false, nTimeFilterUpdated := 0, strCurrentFilter := ""
             nTimeListUpdated := some 15, countLabel := toString rows.length
             rows := amountSort.sortRows rows } : ProposalListView)) ∧
    (OffChainGovernance.updateProposalList demoTimings amountSort (fun _ => "") 15 true
        grantProposals ⟨false, 0, "", some 0, "", []⟩).2.map ProposalListView.rows
      = .ok [⟨"Grant", "100", "", "", ""⟩, ⟨"Grant", "250", "", "", ""⟩] :=
  have hw : updateProposalList.secondsToWait demoTimings 15 ⟨false, 0, "", some 0, "", []⟩ 0
      ≤ 0 := by decide
  ⟨hw, updateProposalList_of_fetch demoTimings amountSort (fun _ => "") 15 grantProposals _ hw,
    rfl⟩

/-! ### The table and its label over runs -/

/-- The view after a run, or the exception that ended it. -/
def listRun (T : ListTimings) (S : TableSort) (dateTimeStrFormat : Int → String) :
    ProposalListView → List (Int × ListEvent) → Except StdException ProposalListView
  | v, [] => .ok v
  | v, e :: es =>
    match (listStep T S dateTimeStrFormat v e).2 with
    | .ok v' => listRun T S dateTimeStrFormat v' es
    | .error ex => .error ex

/-- What the table and the count label show. The rows are what the row loop rendered from some
buffer under some filter, the current filter unless an edit is pending, sorted by `S`. While an
edit is pending the label reads `Please wait... k`; otherwise it counts the rows, or still
holds the form's first text over an empty table. -/
structure ProposalListView.Shows (S : TableSort) (dateTimeStrFormat : Int → String)
    (v : ProposalListView) : Prop where
  rendered : ∃ (proposals : List Proposals) (strFilter : String) (rows : List ProposalRow),
    proposals.foldlM (insertProposalRow dateTimeStrFormat strFilter) [] = .ok rows ∧
      v.rows = S.sortRows rows ∧ (v.fFilterUpdated = false → strFilter = v.strCurrentFilter)
  pending : v.fFilterUpdated = true → ∃ k : Int, v.countLabel = "Please wait... " ++ toString k
  settled : v.fFilterUpdated = false →
    v.countLabel = toString v.rows.length ∨ (v.countLabel = "" ∧ v.rows = [])

section Run
variable (T : ListTimings) (S : TableSort) (dateTimeStrFormat : Int → String)

theorem shows_construct (now : Int) :
    (OffChainGovernance.construct now).Shows S dateTimeStrFormat where
  rendered := ⟨[], "", [], rfl, (S.sortRows_nil).symm, fun _ => rfl⟩
  pending := nofun
  settled _ := .inr ⟨rfl, rfl⟩

/-- A filter edit leaves the rows and marks the edit pending. -/
theorem ProposalListView.Shows.onFilterLineEditTextChanged {v : ProposalListView}
    (hv : v.Shows S dateTimeStrFormat) (now : Int) (s : String) :
    (OffChainGovernance.onFilterLineEditTextChanged T now s v).Shows S dateTimeStrFormat := by
  obtain ⟨proposals, strFilter, rows, hr, hrows, -⟩ := hv.rendered
  exact ⟨⟨proposals, strFilter, rows, hr, hrows, nofun⟩, fun _ => ⟨T.filterCooldownSeconds, rfl⟩,
    nofun⟩

/-- A call that gets the lock either waits, leaving the rows and showing the wait while an
edit is pending, or renders the buffer it read under the current filter, sorts the rows and
counts them. -/
theorem ProposalListView.Shows.updateProposalList {v v' : ProposalListView}
    (hv : v.Shows S dateTimeStrFormat) (now : Int) (proposals : List Proposals)
    (h : (OffChainGovernance.updateProposalList T S dateTimeStrFormat now true proposals v).2
      = .ok v') :
    v'.Shows S dateTimeStrFormat := by
  rcases updateProposalList_ok_cases T S dateTimeStrFormat h with ⟨-, rfl⟩ | ⟨-, rows, hr, rfl⟩
  · refine ⟨hv.rendered, fun hf => ⟨_, if_pos hf⟩, fun hf => ?_⟩
    simpa only [if_neg (Bool.eq_false_iff.1 hf)] using hv.settled hf
  · exact ⟨⟨proposals, _, rows, hr, rfl, fun _ => rfl⟩, nofun, fun _ => .inl (by simp)⟩

theorem ProposalListView.Shows.listStep {v v' : ProposalListView}
    (hv : v.Shows S dateTimeStrFormat) (e : Int × ListEvent)
    (h : (listStep T S dateTimeStrFormat v e).2 = .ok v') : v'.Shows S dateTimeStrFormat := by
  obtain ⟨now, e⟩ := e
  cases e with
  | filterChanged s => cases h; exact hv.onFilterLineEditTextChanged T S dateTimeStrFormat now s
  | update fLockAcquired proposals =>
    cases fLockAcquired with
    | false => cases h; exact hv
    | true => exact hv.updateProposalList T S dateTimeStrFormat now proposals h

theorem ProposalListView.Shows.listRun :
    ∀ {v v' : ProposalListView} (events : List (Int × ListEvent)),
      v.Shows S dateTimeStrFormat →
      listRun T S dateTimeStrFormat v events = .ok v' → v'.Shows S dateTimeStrFormat
  | _, _, [], hv, h => by cases h; exact hv
  | v, _, e :: es, hv, h => by
    rw [NixGovernance.listRun] at h
    split at h
    · exact Shows.listRun es (hv.listStep T S dateTimeStrFormat e ‹_›) h
    · cases h

/-- Every view a run of filter edits and calls reaches from the constructor shows what the row
loop rendered from a buffer, sorted by the header. Unless a filter edit is pending, that
rendering is under the current filter and the label counts its rows; while an edit is pending,
the label reads `Please wait... k`. -/
theorem listRun_shows (t0 : Int) (events : List (Int × ListEvent)) (v : ProposalListView)
    (h : listRun T S dateTimeStrFormat (OffChainGovernance.construct t0) events = .ok v) :
    v.Shows S dateTimeStrFormat :=
  (shows_construct S dateTimeStrFormat t0).listRun T S dateTimeStrFormat events h

end Run

/-- An edit to `250` at `0`, and a call at `3` on `grantProposals`, the end of the cooldown,
sorted by amount. -/
theorem listRun_shows_grant :
    listRun demoTimings amountSort (fun _ => "") (OffChainGovernance.construct 0)
        [(0, .filterChanged "250"), (3, .update true grantProposals)]
      = .ok ⟨false, 0, "250", some 3, "1", [⟨"Grant", "250", "", "", ""⟩]⟩ ∧
    ProposalListView.Shows amountSort (fun _ => "")
      ⟨false, 0, "250", some 3, "1", [⟨"Grant", "250", "", "", ""⟩]⟩ :=
  have h : listRun demoTimings amountSort (fun _ => "") (OffChainGovernance.construct 0)
      [(0, .filterChanged "250"), (3, .update true grantProposals)]
      = .ok ⟨false, 0, "250", some 3, "1", [⟨"Grant", "250", "", "", ""⟩]⟩ := rfl
  ⟨h, listRun_shows demoTimings amountSort (fun _ => "") 0 _ _ h⟩

/-! ### The details dialog -/

/-- The text of the details dialog on `selectedProp`, whose end time renders as
`expiration`. `tr` leaves the texts as they are. -/
def proposalDescription (selectedProp : Proposals) (expiration : String) : String :=
  "Name: " ++ selectedProp.name ++ "\n\n" ++
  "Details: " ++ selectedProp.details ++ "\n\n" ++
  "Address: " ++ selectedProp.address ++ "\n\n" ++
  "Amount: " ++ selectedProp.amount ++ "\n\n" ++
  "TxID: " ++ selectedProp.txid ++ "\n\n" ++
  "Expiration: " ++ expiration ++ "\n\n" ++
  "Votes Affirm: " ++ selectedProp.votesAffirm ++ "\n\n" ++
  "Votes Oppose: " ++ selectedProp.votesOppose ++ "\n"

/-- `on_tableWidgetProposals_doubleClicked` on the name in the first column of the first
selected row (`none` when nothing is selected): the dialog's window title and text, or the
exception `std::stoi` throws on the end time of the proposal the name lookup returns. -/
def OffChainGovernance.onTableWidgetProposalsDoubleClicked (dateTimeStrFormat : Int → String)
    (selectedName : Option String) (proposals : List Proposals) :
    Except StdException (Option (String × String)) :=
  match selectedName with
  | none => .ok none
  | some name =>
    let selectedProp := selectProposal name proposals
    (stoi selectedProp.endTime).map fun endTime =>
      some (name, proposalDescription selectedProp (dateTimeStrFormat endTime))

/-- Over a buffer without the row's name, the lookup keeps the empty proposal and `std::stoi`
of its empty end time throws `std::invalid_argument`, which the slot does not catch. -/
example :
    OffChainGovernance.onTableWidgetProposalsDoubleClicked (fun _ => "") (some "Grant")
      auditProposals = .error .invalidArgument :=
  rfl

/-- The lookup of a name some proposal has returns a proposal of the buffer with that name. -/
theorem selectProposal_mem {name : String} {proposals : List Proposals}
    (h : ∃ p ∈ proposals, p.name = name) :
    selectProposal name proposals ∈ proposals ∧ (selectProposal name proposals).name = name := by
  obtain ⟨p, hp, hpn⟩ := h
  obtain ⟨q, hq⟩ := Option.isSome_iff_exists.1
    (List.find?_isSome.2 ⟨p, hp, by simpa using hpn⟩ : (proposals.find? (·.name == name)).isSome)
  rw [selectProposal, hq, Option.getD_some]
  exact ⟨List.mem_of_find?_eq_some hq, by simpa using List.find?_some hq⟩

/-- Right after a call of `updateProposalList` that fetched, while the buffer is still the one
it read, the details dialog of any row of the sorted table describes the proposal of the buffer
that `vote` casts on, which has the row's name, with the expiration of that proposal's own end
time, and never throws: the loop has rendered every end time of the buffer already. -/
theorem detailsDialog_of_fetched (T : ListTimings) (S : TableSort)
    (dateTimeStrFormat : Int → String) (now : Int) (proposals : List Proposals)
    (v v' : ProposalListView)
    (hw : updateProposalList.secondsToWait T now v (v.nTimeListUpdated.getD now) ≤ 0)
    (h : (OffChainGovernance.updateProposalList T S dateTimeStrFormat now true proposals v).2
      = .ok v')
    (row : ProposalRow) (hrow : row ∈ v'.rows) :
    selectProposal row.name proposals ∈ proposals ∧
    (selectProposal row.name proposals).name = row.name ∧
    ∃ endTime, stoi (selectProposal row.name proposals).endTime = .ok endTime ∧
      OffChainGovernance.onTableWidgetProposalsDoubleClicked dateTimeStrFormat (some row.name)
          proposals
        = .ok (some (row.name, proposalDescription (selectProposal row.name proposals)
            (dateTimeStrFormat endTime))) := by
  rcases updateProposalList_ok_cases T S dateTimeStrFormat h with ⟨hwait, -⟩ | ⟨-, rows, hr, rfl⟩
  · exact absurd hw (not_le.2 hwait)
  obtain ⟨hall, hrows⟩ := foldlM_insertProposalRow_ok dateTimeStrFormat _ hr
  obtain ⟨p, hp, hdisp⟩ := hrows row ((S.mem_sortRows).1 hrow)
  obtain ⟨hmem, hname⟩ := selectProposal_mem ⟨p, hp, hdisp.name_eq.symm⟩
  obtain ⟨row', hrow'⟩ := hall _ hmem
  refine ⟨hmem, hname, ?_⟩
  unfold Displays proposalRow at hrow'
  cases he : stoi (selectProposal row.name proposals).endTime with
  | error e => rw [he] at hrow'; cases hrow'
  | ok endTime =>
    exact ⟨endTime, rfl, by
      simp only [OffChainGovernance.onTableWidgetProposalsDoubleClicked, he]; rfl⟩

/-- Right after the fetch of `grantProposals` sorted by amount, the top row (`100`) opens the
dialog on `grant-1`, the first proposal named `Grant`, whose end time `0` it formats. -/
theorem detailsDialog_of_fetched_grant :
    updateProposalList.secondsToWait demoTimings 15 ⟨false, 0, "", some 0, "", []⟩ 0 ≤ 0 ∧
    (OffChainGovernance.updateProposalList demoTimings amountSort toString 15 true grantProposals
        ⟨false, 0, "", some 0, "", []⟩).2
      = .ok ⟨false, 0, "", some 15, "2",
          [⟨"Grant", "100", "0", "", ""⟩, ⟨"Grant", "250", "0", "", ""⟩]⟩ ∧
    (selectProposal "Grant" grantProposals ∈ grantProposals ∧
      (selectProposal "Grant" grantProposals).name = "Grant" ∧
      ∃ endTime, stoi (selectProposal "Grant" grantProposals).endTime = .ok endTime ∧
        OffChainGovernance.onTableWidgetProposalsDoubleClicked toString (some "Grant")
            grantProposals
          = .ok (some ("Grant",
              proposalDescription (selectProposal "Grant" grantProposals) (toString endTime)))) :=
  have hw : updateProposalList.secondsToWait demoTimings 15 ⟨false, 0, "", some 0, "", []⟩ 0
      ≤ 0 := by decide
  have h : (OffChainGovernance.updateProposalList demoTimings amountSort toString 15 true
      grantProposals ⟨false, 0, "", some 0, "", []⟩).2
      = .ok ⟨false, 0, "", some 15, "2",
          [⟨"Grant", "100", "0", "", ""⟩, ⟨"Grant", "250", "0", "", ""⟩]⟩ := rfl
  ⟨hw, h, detailsDialog_of_fetched demoTimings amountSort toString 15 grantProposals _ _ hw h
    ⟨"Grant", "100", "0", "", ""⟩ (List.mem_cons_self _ _)⟩

/-! ### The expand button -/

/-- `on_expandProposalButton_clicked`: nothing unless the wallet model, its recent-requests
table model and the table's selection model are all set (`modelsSet`); otherwise
`on_tableWidgetProposals_doubleClicked` once per selected row, in selection order. The slot
ignores the index it is passed and reads the first selected row each time. -/
def OffChainGovernance.onExpandProposalButtonClicked (dateTimeStrFormat : Int → String)
    (modelsSet : Bool) (selection : List String) (proposals : List Proposals) :
    Except StdException (List (Option (String × String))) :=
  if modelsSet then
    selection.mapM fun _ =>
      OffChainGovernance.onTableWidgetProposalsDoubleClicked dateTimeStrFormat selection.head?
        proposals
  else .ok []

/-- With the rows `Audit` and `Grant` selected, the button opens the dialog of `Audit` twice. -/
example :
    OffChainGovernance.onExpandProposalButtonClicked (fun _ => "") true ["Audit", "Grant"]
        auditGrantProposals
      = (OffChainGovernance.onTableWidgetProposalsDoubleClicked (fun _ => "") (some "Audit")
          auditGrantProposals).map (List.replicate 2) :=
  rfl

end NixGovernance
