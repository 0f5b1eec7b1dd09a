import Mathlib.Data.List.Infix
import Mathlib.Data.List.Sort
import NixGovernance.Weight

/-!
# `NixGovernance.ProposalList`: when the GUI list fetches the proposals

`OffChainGovernance::updateProposalList` runs on `strGhostnodesChanged` and after the refresh
button. It returns at once unless `TRY_LOCK(cs_mnlist)` succeeds. Otherwise it computes
`nSecondsToWait` from one of two timers and returns while that is positive. The filter timer
counts from `nTimeFilterUpdated`, the last edit of the filter text, and applies while
`fFilterUpdated` is set. The refresh timer counts from the function-static
`nTimeListUpdated`, which is the clock of the first call that got the lock until the first
fetch, and the clock of the last fetch after it. Once the wait is over, the call resets both
timers, sends `GET_PROPOSALS` and renders the rows from `g_governance.proposals`, which
`setSortingEnabled(true)` then sorts by the header's sort indicator (`TableSort.sortRows`).

`listTrace` runs the widget over timed events (filter edits and calls) and records what it did:
`ListObs.filterChanged t` for an edit at `t`, and `ListObs.updated t fetched` for a call at `t`
that got the lock. The deadlines are read off this trace (`lastFetch`, `firstCall`,
`filterSinceFetch`, `listDeadline`): the filter deadline is the cooldown after the latest edit
since the last fetch, if there was one; the refresh deadline is the refresh interval after the
last fetch, or after the first call when nothing was fetched yet.

* `updateProposalList_fetches_at_deadline`: a call fetches exactly when `listDeadline` has
  passed. The filter deadline replaces the refresh deadline, it does not add to it;
* `filter_edit_fetches_at_first_call`: whatever the two periods, an edit before the first call
  makes that call fetch at once, before the refresh interval from it has passed;
  `filter_edit_fetches_before_refresh_interval` is the same run with periods of 15 s and 3 s.

`GetTime()` is read up to three times in one call; the model takes one clock value per call.
-/

set_option autoImplicit false

namespace NixGovernance

/-- `UPDATE_SECONDS` and `FILTER_COOLDOWN_SECONDS`, from the widget's header. Both are
periods in seconds. -/
structure ListTimings where
  updateSeconds : Int
  filterCooldownSeconds : Int
  updateSeconds_pos : 0 < updateSeconds
  filterCooldownSeconds_nonneg : 0 ≤ filterCooldownSeconds

/-- The five cells of a row of `tableWidgetProposals`. -/
structure ProposalRow where
  name : String
  amount : String
  expiration : String
  votesAffirm : String
  votesOppose : String
  deriving DecidableEq, Repr

/-- What `updateProposalList` and `on_filterLineEdit_textChanged` read and write: the members
`fFilterUpdated`, `nTimeFilterUpdated` and `strCurrentFilter`, the function-static
`nTimeListUpdated` (`none` until its initialisation), the count label and the table rows. -/
structure ProposalListView where
  fFilterUpdated : Bool
  nTimeFilterUpdated : Int
  strCurrentFilter : String
  nTimeListUpdated : Option Int
  countLabel : String
  rows : List ProposalRow

/-- The constructor at clock `now`. The label's first text comes from the form, which the
source does not include; it is empty here. -/
def OffChainGovernance.construct (now : Int) : ProposalListView :=
  ⟨false, now, "", none, "", []⟩

/-- `on_filterLineEdit_textChanged(strFilterIn)` at clock `now`. -/
def OffChainGovernance.onFilterLineEditTextChanged (T : ListTimings) (now : Int)
    (strFilterIn : String) (v : ProposalListView) : ProposalListView :=
  { v with strCurrentFilter := strFilterIn, nTimeFilterUpdated := now, fFilterUpdated := true,
           countLabel := "Please wait... " ++ toString T.filterCooldownSeconds }

/-- The row of `prop`: its expiration cell is
`DateTimeStrFormat("%Y-%m-%d %H:%M", std::stoi(prop.end_time))`. -/
def proposalRow (dateTimeStrFormat : Int → String) (prop : Proposals) :
    Except StdException ProposalRow := do
  let endTime ← stoi prop.endTime
  pure ⟨prop.name, prop.amount, dateTimeStrFormat endTime, prop.votesAffirm, prop.votesOppose⟩

/-- `strToFilter`: the five cells joined by spaces. -/
def ProposalRow.filterText (r : ProposalRow) : String :=
  r.name ++ " " ++ r.amount ++ " " ++ r.expiration ++ " " ++ r.votesAffirm ++ " " ++ r.votesOppose

/-- `QString::contains`, case-sensitive. -/
def qstringContains (s sub : String) : Bool :=
  decide (sub.data <:+: s.data)

/-- One turn of the row loop: render the proposal, skip it when a filter is set and its text
does not contain the filter, and otherwise `insertRow(0)`. -/
def insertProposalRow (dateTimeStrFormat : Int → String) (strCurrentFilter : String)
    (rows : List ProposalRow) (prop : Proposals) : Except StdException (List ProposalRow) := do
  let row ← proposalRow dateTimeStrFormat prop
  if strCurrentFilter != "" && !qstringContains row.filterText strCurrentFilter then pure rows
  else pure (row :: rows)

/-- `Qt::SortOrder`. -/
inductive SortOrder where
  | ascendingOrder
  | descendingOrder
  deriving DecidableEq, Repr

/-- How `setSortingEnabled(true)` sorts the table: by the header's sort indicator, a column
(`none` when no column has it) and an order, comparing the column's items with
`QTableWidgetItem::operator<`. On text that is `QString::localeAwareCompare`, whose order
depends on the locale (`lessThan`). -/
structure TableSort where
  sortIndicatorSection : Option (Fin 5)
  sortIndicatorOrder : SortOrder
  lessThan : String → String → Bool

/-- The items of a row, column by column. -/
def ProposalRow.items (r : ProposalRow) : List String :=
  [r.name, r.amount, r.expiration, r.votesAffirm, r.votesOppose]

/-- The comparison `QTableModel::sort` hands `std::stable_sort`: `itemLessThan` on the items in
`column` for ascending order, `itemGreaterThan` for descending. -/
def TableSort.itemLess (S : TableSort) (column : Fin 5) (a b : ProposalRow) : Bool :=
  match S.sortIndicatorOrder with
  | .ascendingOrder => S.lessThan (a.items.getD column "") (b.items.getD column "")
  | .descendingOrder => S.lessThan (b.items.getD column "") (a.items.getD column "")

/-- `setSortingEnabled(true)`: `sortByColumn` on the header's indicator, which sorts the rows
with `std::stable_sort` by `itemLess`. Inserting each row, from the last up, before the first
row that is not `itemLess` than it keeps rows that compare equal in their order: for a strict
weak order, as `localeAwareCompare` is, it is the same stable sort. With no indicated column
the rows stay as they are. -/
def TableSort.sortRows (S : TableSort) (rows : List ProposalRow) : List ProposalRow :=
  match S.sortIndicatorSection with
  | none => rows
  | some column => rows.insertionSort fun a b => S.itemLess column b a = false

/-- The sort only reorders the rows. -/
theorem TableSort.sortRows_perm (S : TableSort) (rows : List ProposalRow) :
    List.Perm (S.sortRows rows) rows := by
  unfold TableSort.sortRows
  split
  · exact List.Perm.refl rows
  · exact List.perm_insertionSort _ rows

@[simp] theorem TableSort.length_sortRows (S : TableSort) (rows : List ProposalRow) :
    (S.sortRows rows).length = rows.length :=
  (S.sortRows_perm rows).length_eq

@[simp] theorem TableSort.mem_sortRows (S : TableSort) {rows : List ProposalRow}
    {row : ProposalRow} : row ∈ S.sortRows rows ↔ row ∈ rows :=
  (S.sortRows_perm rows).mem_iff

@[simp] theorem TableSort.sortRows_nil (S : TableSort) : S.sortRows [] = [] :=
  List.eq_nil_of_length_eq_zero (S.length_sortRows [])

/-- `nSecondsToWait`, with `nTimeListUpdated` already initialised. -/
def updateProposalList.secondsToWait (T : ListTimings) (now : Int) (v : ProposalListView)
    (nTimeListUpdated : Int) : Int :=
  if v.fFilterUpdated then v.nTimeFilterUpdated - now + T.filterCooldownSeconds
  else nTimeListUpdated - now + T.updateSeconds

/-- `updateProposalList` at clock `now`: the requests it sends and the view it leaves, or the
exception `std::stoi` throws while rendering. `fLockAcquired` is the outcome of
`TRY_LOCK(cs_mnlist)`, `proposals` is `g_governance.proposals` when the loop reads it, and `S`
is how the closing `setSortingEnabled(true)` sorts the rows. -/
def OffChainGovernance.updateProposalList (T : ListTimings) (S : TableSort)
    (dateTimeStrFormat : Int → String) (now : Int) (fLockAcquired : Bool)
    (proposals : List Proposals) (v : ProposalListView) :
    List Request × Except StdException ProposalListView :=
  if !fLockAcquired then ([], .ok v)
  else
    let nTimeListUpdated := v.nTimeListUpdated.getD now
    let nSecondsToWait := updateProposalList.secondsToWait T now v nTimeListUpdated
    let v := { v with
      nTimeListUpdated := some nTimeListUpdated
      countLabel := if v.fFilterUpdated then "Please wait... " ++ toString nSecondsToWait
        else v.countLabel }
    if 0 < nSecondsToWait then ([], .ok v)
    else
      let v := { v with nTimeListUpdated := some now, fFilterUpdated := false,
                        countLabel := "Updating...", rows := [] }
      ([⟨.getProposals, ""⟩],
        (proposals.foldlM (insertProposalRow dateTimeStrFormat v.strCurrentFilter) []).map
          fun rows => { v with rows := S.sortRows rows, countLabel := toString rows.length })

/-! ### Runs and their traces -/

/-- An event the widget reacts to. -/
inductive ListEvent where
  | filterChanged (strFilterIn : String)
  | update (fLockAcquired : Bool) (proposals : List Proposals)

/-- What a run shows: a filter edit at `t`, or a call at `t` that got `cs_mnlist`, and whether
it sent `GET_PROPOSALS`. -/
inductive ListObs where
  | filterChanged (t : Int)
  | updated (t : Int) (fetched : Bool)
  deriving DecidableEq, Repr

/-- One event at clock `now`: what it shows, and the view after it. -/
def listStep (T : ListTimings) (S : TableSort) (dateTimeStrFormat : Int → String)
    (v : ProposalListView) :
    Int × ListEvent → List ListObs × Except StdException ProposalListView
  | (now, .filterChanged s) =>
    ([.filterChanged now], .ok (OffChainGovernance.onFilterLineEditTextChanged T now s v))
  | (now, .update fLockAcquired proposals) =>
    let r := OffChainGovernance.updateProposalList T S dateTimeStrFormat now fLockAcquired
      proposals v
    (if fLockAcquired then [.updated now !r.1.isEmpty] else [], r.2)

/-- The trace of a run. An exception out of the slot ends the process, and the run. -/
def listTrace (T : ListTimings) (S : TableSort) (dateTimeStrFormat : Int → String) :
    ProposalListView → List (Int × ListEvent) → List ListObs
  | _, [] => []
  | v, e :: es =>
    let r := listStep T S dateTimeStrFormat v e
    r.1 ++ match r.2 with
      | .ok v' => listTrace T S dateTimeStrFormat v' es
      | .error _ => []

/-! ### The two deadlines, read off a trace -/

namespace ListObs

/-- The time of a fetch. -/
def fetchTime? : ListObs → Option Int
  | .updated t true => some t
  | _ => none

/-- The time of a call. -/
def callTime? : ListObs → Option Int
  | .updated t _ => some t
  | .filterChanged _ => none

/-- The time of a filter edit. -/
def filterTime? : ListObs → Option Int
  | .filterChanged t => some t
  | .updated _ _ => none

end ListObs

/-- The last fetch of `hist`. -/
def lastFetch (hist : List ListObs) : Option Int :=
  (hist.filterMap ListObs.fetchTime?).getLast?

/-- The first call of `hist`. -/
def firstCall (hist : List ListObs) : Option Int :=
  (hist.filterMap ListObs.callTime?).head?

/-- The latest filter edit of `hist` after its last fetch. -/
def filterSinceFetch (hist : List ListObs) : Option Int :=
  ((hist.reverse.takeWhile fun o => o.fetchTime?.isNone).filterMap ListObs.filterTime?).head?

/-- What the refresh timer of a call at `t` counts from: the last fetch, else the first call
(this one, when `hist` has none). -/
def refreshBase (hist : List ListObs) (t : Int) : Int :=
  ((lastFetch hist).or (firstCall hist)).getD t

/-- The deadline of a call at `t` after `hist`: the filter cooldown after the latest edit since
the last fetch, if there is one, and the refresh interval otherwise. -/
def listDeadline (T : ListTimings) (hist : List ListObs) (t : Int) : Int :=
  match filterSinceFetch hist with
  | some tf => tf + T.filterCooldownSeconds
  | none => refreshBase hist t + T.updateSeconds

section Deadlines
variable (hist : List ListObs) (t : Int)

@[simp] theorem lastFetch_nil : lastFetch [] = none := rfl
@[simp] theorem firstCall_nil : firstCall [] = none := rfl
@[simp] theorem filterSinceFetch_nil : filterSinceFetch [] = none := rfl

@[simp] theorem lastFetch_filterChanged :
    lastFetch (hist ++ [.filterChanged t]) = lastFetch hist := by
  simp [lastFetch, ListObs.fetchTime?]

@[simp] theorem lastFetch_updated (f : Bool) :
    lastFetch (hist ++ [.updated t f]) = if f then some t else lastFetch hist := by
  cases f <;> simp [lastFetch, ListObs.fetchTime?]

@[simp] theorem firstCall_filterChanged :
    firstCall (hist ++ [.filterChanged t]) = firstCall hist := by
  simp [firstCall, ListObs.callTime?]

@[simp] theorem firstCall_updated (f : Bool) :
    firstCall (hist ++ [.updated t f]) = (firstCall hist).or (some t) := by
  simp [firstCall, ListObs.callTime?, List.head?_append]

@[simp] theorem filterSinceFetch_filterChanged :
    filterSinceFetch (hist ++ [.filterChanged t]) = some t := by
  simp [filterSinceFetch, ListObs.fetchTime?, ListObs.filterTime?]

@[simp] theorem filterSinceFetch_updated (f : Bool) :
    filterSinceFetch (hist ++ [.updated t f]) = if f then none else filterSinceFetch hist := by
  cases f <;> simp [filterSinceFetch, ListObs.fetchTime?, ListObs.filterTime?]

end Deadlines

/-! ### The view agrees with the trace -/

/-- The widget's timer fields are the trace's: `nTimeListUpdated` is the last fetch or the first
call, `fFilterUpdated` says the filter was edited since the last fetch, and then
`nTimeFilterUpdated` is the latest edit. -/
structure ProposalListView.Agrees (v : ProposalListView) (hist : List ListObs) : Prop where
  listUpdated : v.nTimeListUpdated = (lastFetch hist).or (firstCall hist)
  filterUpdated : v.fFilterUpdated = (filterSinceFetch hist).isSome
  filterTime : ∀ tf, filterSinceFetch hist = some tf → v.nTimeFilterUpdated = tf

theorem agrees_construct (now : Int) : (OffChainGovernance.construct now).Agrees [] :=
  ⟨rfl, rfl, fun _ h => by cases h⟩

section Step
variable (T : ListTimings) (S : TableSort) (dateTimeStrFormat : Int → String)

/-- The wait `updateProposalList` computes is the time left to `listDeadline`. -/
theorem secondsToWait_eq {v : ProposalListView} {hist : List ListObs}
    (hv : v.Agrees hist) (now : Int) :
    updateProposalList.secondsToWait T now v (v.nTimeListUpdated.getD now)
      = listDeadline T hist now - now := by
  rw [updateProposalList.secondsToWait, listDeadline, hv.filterUpdated, refreshBase,
    ← hv.listUpdated]
  cases hf : filterSinceFetch hist with
  | none => simp only [Option.isSome_none, Bool.false_eq_true, ite_false]; ring
  | some tf => simp only [Option.isSome_some, ite_true, hv.filterTime tf hf]; ring

/-- A call that gets the lock sends `GET_PROPOSALS` exactly when its wait is over, whatever
the rendering then does. -/
theorem updateProposalList_requests (now : Int) (proposals : List Proposals)
    (v : ProposalListView) :
    (OffChainGovernance.updateProposalList T S dateTimeStrFormat now true proposals v).1
      = if updateProposalList.secondsToWait T now v (v.nTimeListUpdated.getD now) ≤ 0
        then [⟨.getProposals, ""⟩] else [] := by
  unfold OffChainGovernance.updateProposalList
  simp only [Bool.not_true, Bool.false_eq_true, ite_false]
  by_cases h : updateProposalList.secondsToWait T now v (v.nTimeListUpdated.getD now) ≤ 0
  · rw [if_neg (not_lt.2 h), if_pos h]
  · rw [if_pos (not_le.1 h), if_neg h]

/-- Everything a call that gets the lock and does not throw leaves: before its wait is over,
the view with the static set and, while a filter edit is pending, the wait shown; once it is
over, the rows rendered from the buffer, with both timers reset. -/
theorem updateProposalList_ok_cases {now : Int} {proposals : List Proposals}
    {v v' : ProposalListView}
    (h : (OffChainGovernance.updateProposalList T S dateTimeStrFormat now true proposals v).2
      = .ok v') :
    let wait := updateProposalList.secondsToWait T now v (v.nTimeListUpdated.getD now)
    (0 < wait ∧
      v' = { v with
        nTimeListUpdated := some (v.nTimeListUpdated.getD now)
        countLabel := if v.fFilterUpdated then "Please wait... " ++ toString wait
          else v.countLabel }) ∨
    (wait ≤ 0 ∧ ∃ rows,
      proposals.foldlM (insertProposalRow dateTimeStrFormat v.strCurrentFilter) [] = .ok rows ∧
      v' = { v with
        nTimeListUpdated := some now, fFilterUpdated := false
        countLabel := toString rows.length, rows := S.sortRows rows }) := by
  unfold OffChainGovernance.updateProposalList at h
  simp only [Bool.not_true, Bool.false_eq_true, ite_false] at h
  split at h
  · cases h
    exact .inl ⟨‹_›, rfl⟩
  · cases hr : List.foldlM (insertProposalRow dateTimeStrFormat v.strCurrentFilter) [] proposals
      with
    | error e => simp only [hr, Except.map] at h; cases h
    | ok rows =>
      simp only [hr, Except.map, Except.ok.injEq] at h
      exact .inr ⟨not_lt.1 ‹_›, rows, rfl, h.symm⟩

/-- The timer fields a call that gets the lock leaves: the static is the clock of this fetch,
or keeps its value (set now if unset); a fetch clears `fFilterUpdated`. -/
theorem updateProposalList_timers (now : Int) (proposals : List Proposals)
    (v v' : ProposalListView)
    (h : (OffChainGovernance.updateProposalList T S dateTimeStrFormat now true proposals v).2
      = .ok v') :
    let fetched := decide (updateProposalList.secondsToWait T now v (v.nTimeListUpdated.getD now)
      ≤ 0)
    v'.nTimeListUpdated = some (if fetched then now else v.nTimeListUpdated.getD now) ∧
    v'.fFilterUpdated = (v.fFilterUpdated && !fetched) ∧
    v'.nTimeFilterUpdated = v.nTimeFilterUpdated := by
  rcases updateProposalList_ok_cases T S dateTimeStrFormat h with ⟨hw, rfl⟩ | ⟨hw, rows, -, rfl⟩
  · simp [not_le.2 hw]
  · simp [hw]

end Step

/-- Each call of `tr`, read after the history `hist`, fetched exactly when its deadline had
passed. -/
def FetchesAtDeadline (T : ListTimings) : List ListObs → List ListObs → Prop
  | _, [] => True
  | hist, o :: tr =>
    (∀ t f, o = .updated t f → (f = true ↔ listDeadline T hist t ≤ t)) ∧
      FetchesAtDeadline T (hist ++ [o]) tr

theorem fetchesAtDeadline_append (T : ListTimings) :
    ∀ (hist a b : List ListObs), FetchesAtDeadline T hist (a ++ b) ↔
      FetchesAtDeadline T hist a ∧ FetchesAtDeadline T (hist ++ a) b
  | hist, [], b => by simp [FetchesAtDeadline]
  | hist, o :: a, b => by
    simp only [List.append_eq, List.cons_append, FetchesAtDeadline,
      fetchesAtDeadline_append T (hist ++ [o]) a b, List.append_assoc, List.singleton_append,
      List.nil_append, and_assoc]

/-- `FetchesAtDeadline` says, of every call in the trace, that it fetched exactly when its
deadline after the trace before it had passed. -/
theorem fetchesAtDeadline_iff (T : ListTimings) :
    ∀ (hist tr : List ListObs), FetchesAtDeadline T hist tr ↔
      ∀ pre t f post, tr = pre ++ .updated t f :: post →
        (f = true ↔ listDeadline T (hist ++ pre) t ≤ t)
  | hist, [] => by simp [FetchesAtDeadline]
  | hist, o :: tr => by
    rw [FetchesAtDeadline, fetchesAtDeadline_iff T (hist ++ [o]) tr]
    constructor
    · rintro ⟨ho, htr⟩ pre t f post h
      cases pre with
      | nil =>
        obtain ⟨rfl, rfl⟩ := List.cons_eq_cons.1 h
        simpa using ho t f rfl
      | cons p pre =>
        obtain ⟨rfl, rfl⟩ := List.cons_eq_cons.1 h
        simpa using htr pre t f post rfl
    · intro h
      refine ⟨fun t f ho => ?_, fun pre t f post htr => ?_⟩
      · simpa using h [] t f tr (by rw [ho]; rfl)
      · simpa using h (o :: pre) t f post (by rw [htr]; rfl)

section Run
variable (T : ListTimings) (S : TableSort) (dateTimeStrFormat : Int → String)

/-- A filter edit at `now` becomes the latest edit since the last fetch. -/
theorem ProposalListView.Agrees.onFilterLineEditTextChanged {v : ProposalListView}
    {hist : List ListObs} (hv : v.Agrees hist) (now : Int) (s : String) :
    (OffChainGovernance.onFilterLineEditTextChanged T now s v).Agrees
      (hist ++ [.filterChanged now]) :=
  ⟨by simpa [OffChainGovernance.onFilterLineEditTextChanged] using hv.listUpdated,
    by simp [OffChainGovernance.onFilterLineEditTextChanged],
    by simp [OffChainGovernance.onFilterLineEditTextChanged]⟩

/-- A call at `now` that gets the lock leaves a view that agrees with the trace recording it,
with a fetch exactly when its deadline has passed. -/
theorem ProposalListView.Agrees.updateProposalList {v : ProposalListView}
    {hist : List ListObs} (hv : v.Agrees hist) (now : Int) (proposals : List Proposals)
    (v' : ProposalListView)
    (h : (OffChainGovernance.updateProposalList T S dateTimeStrFormat now true proposals v).2
      = .ok v') :
    v'.Agrees (hist ++ [.updated now (decide (listDeadline T hist now ≤ now))]) := by
  obtain ⟨h1, h2, h3⟩ := updateProposalList_timers T S dateTimeStrFormat now proposals v v' h
  simp only [secondsToWait_eq T hv, sub_nonpos] at h1 h2
  by_cases hd : listDeadline T hist now ≤ now
  · simp only [hd, decide_True, ite_true, Bool.not_true, Bool.and_false] at h1 h2 ⊢
    exact ⟨by simp [h1], by simp [h2], by simp⟩
  · simp only [hd, decide_False, ite_false, Bool.not_false, Bool.and_true] at h1 h2 ⊢
    refine ⟨?_, by simpa [h2] using hv.filterUpdated, fun tf htf => ?_⟩
    · rw [h1, hv.listUpdated, lastFetch_updated, firstCall_updated]
      cases lastFetch hist <;> cases firstCall hist <;> rfl
    · rw [h3]; exact hv.filterTime tf (by simpa using htf)

/-- One event keeps the view in agreement with the trace, and a call in it fetches exactly at
its deadline. -/
theorem listStep_agrees {v : ProposalListView} {hist : List ListObs} (hv : v.Agrees hist)
    (e : Int × ListEvent) :
    FetchesAtDeadline T hist (listStep T S dateTimeStrFormat v e).1 ∧
    ∀ v', (listStep T S dateTimeStrFormat v e).2 = .ok v' →
      v'.Agrees (hist ++ (listStep T S dateTimeStrFormat v e).1) := by
  obtain ⟨now, e⟩ := e
  cases e with
  | filterChanged s =>
    exact ⟨by simp [listStep, FetchesAtDeadline],
      by rintro v' ⟨⟩; exact hv.onFilterLineEditTextChanged T now s⟩
  | update fLockAcquired proposals =>
    cases fLockAcquired with
    | false => exact ⟨trivial, by rintro v' ⟨⟩; simpa [listStep] using hv⟩
    | true =>
      have hobs : (listStep T S dateTimeStrFormat v (now, .update true proposals)).1
          = [.updated now (decide (listDeadline T hist now ≤ now))] := by
        by_cases hd : listDeadline T hist now ≤ now <;>
          simp [listStep, updateProposalList_requests, secondsToWait_eq T hv, hd]
      rw [hobs]
      exact ⟨by simp [FetchesAtDeadline], hv.updateProposalList T S dateTimeStrFormat now proposals⟩

/-- A run from a view that agrees with its history fetches at every call exactly when the
call's deadline has passed. -/
theorem listTrace_fetchesAtDeadline :
    ∀ (v : ProposalListView) (hist : List ListObs) (events : List (Int × ListEvent)),
      v.Agrees hist → FetchesAtDeadline T hist (listTrace T S dateTimeStrFormat v events)
  | _, _, [], _ => trivial
  | v, hist, e :: es, hv => by
    obtain ⟨hobs, hnext⟩ := listStep_agrees T S dateTimeStrFormat hv e
    rw [listTrace, fetchesAtDeadline_append]
    refine ⟨hobs, ?_⟩
    cases h : (listStep T S dateTimeStrFormat v e).2 with
    | error _ => trivial
    | ok v' => exact listTrace_fetchesAtDeadline v' _ es (hnext v' h)

/-- Every call of `updateProposalList` that gets `cs_mnlist`, in any run from the constructor,
sends `GET_PROPOSALS` exactly when its deadline has passed: the filter cooldown after the
latest edit since the last fetch if the filter was edited since, and otherwise the refresh
interval after the last fetch, or after the first call. -/
theorem updateProposalList_fetches_at_deadline (t0 : Int) (events : List (Int × ListEvent))
    (pre : List ListObs) (t : Int) (fetched : Bool) (post : List ListObs)
    (htrace : listTrace T S dateTimeStrFormat (OffChainGovernance.construct t0) events
      = pre ++ .updated t fetched :: post) :
    fetched = true ↔ listDeadline T pre t ≤ t := by
  have h := (fetchesAtDeadline_iff T [] _).1
    (listTrace_fetchesAtDeadline T S dateTimeStrFormat _ [] events (agrees_construct t0))
  simpa using h pre t fetched post htrace

/-- Periods of 15 s and 3 s. -/
def demoTimings : ListTimings :=
  ⟨15, 3, by decide, by decide⟩

/-- Core's order on strings, code point by code point (`String.decLt`), named with its
instances so that no other order on `String` takes its place. -/
def codePointLess (a b : String) : Bool :=
  @decide (@LT.lt String String.instLT a b) (String.decLt a b)

/-- The table sorted by its name column in descending order, texts in code point order. -/
def nameSort : TableSort :=
  ⟨some 0, .descendingOrder, codePointLess⟩

/-- An edit at `0` and calls at `1` and `3`: the first waits, the second fetches at the end of
the cooldown. -/
theorem updateProposalList_fetches_after_cooldown :
    listTrace demoTimings nameSort (fun _ => "") (OffChainGovernance.construct 0)
        [(0, .filterChanged "x"), (1, .update true []), (3, .update true [])]
      = [.filterChanged 0, .updated 1 false] ++ .updated 3 true :: [] ∧
    (true = true ↔ listDeadline demoTimings [.filterChanged 0, .updated 1 false] 3 ≤ 3) :=
  have htrace : listTrace demoTimings nameSort (fun _ => "") (OffChainGovernance.construct 0)
      [(0, .filterChanged "x"), (1, .update true []), (3, .update true [])]
      = [.filterChanged 0, .updated 1 false] ++ .updated 3 true :: [] := by decide
  ⟨htrace, updateProposalList_fetches_at_deadline demoTimings nameSort (fun _ => "") 0 _ _ 3 true []
    htrace⟩

end Run

/-- An edit at `0` and a first call at the end of its cooldown: whatever the two periods, the
call fetches, although the refresh interval from the first call has not passed. -/
theorem filter_edit_fetches_at_first_call (T : ListTimings) (S : TableSort)
    (dateTimeStrFormat : Int → String) :
    listTrace T S dateTimeStrFormat (OffChainGovernance.construct 0)
        [(0, .filterChanged "x"), (T.filterCooldownSeconds, .update true [])]
      = [.filterChanged 0, .updated T.filterCooldownSeconds true] ∧
    T.filterCooldownSeconds
      < refreshBase [.filterChanged 0] T.filterCooldownSeconds + T.updateSeconds := by
  refine ⟨?_, by simpa [refreshBase, lastFetch, firstCall, ListObs.fetchTime?,
    ListObs.callTime?] using T.updateSeconds_pos⟩
  simp [listTrace, listStep, OffChainGovernance.updateProposalList,
    OffChainGovernance.onFilterLineEditTextChanged, OffChainGovernance.construct,
    updateProposalList.secondsToWait, pure, Except.pure, Except.map]

/-- With periods of 15 s and 3 s: the first call fetches at 3, before the refresh deadline 18 of
the first call. -/
theorem filter_edit_fetches_before_refresh_interval :
    listTrace demoTimings nameSort (fun _ => "") (OffChainGovernance.construct 0)
        [(0, .filterChanged "x"), (3, .update true [])]
      = [.filterChanged 0, .updated 3 true] ∧
    3 < refreshBase [.filterChanged 0] 3 + demoTimings.updateSeconds :=
  filter_edit_fetches_at_first_call demoTimings nameSort (fun _ => "")

end NixGovernance
