import Mathlib.Data.List.Forall2
import Mathlib.Data.List.Perm.Basic
import PageCheck.Proofs.Report.RoundTrip

/-!
# Filters, views and counts

What a list of filters leaves of a summary does not depend on their order, on their being applied at
once or one after the other, nor on how lists of filters are nested. The groups stay, with fewer
reports in them. The lists of successes and of failures are what the filters for either leave, and
they are counted by the counts of a written summary.
-/

namespace PageCheck

/-! ### Filters -/

namespace Filter

/-- A list of filters selects what each of them selects. -/
theorem selectedByAll_eq_all (filters : List Filter) (report : Report) :
    selectedByAll filters report = filters.all (·.selects report) := by
  induction filters with
  | nil => rfl
  | cons filter rest ih => rw [selectedByAll, ih, List.all_cons]

/-- A filter that is a list selects what each of its filters selects. -/
theorem selects_all (filters : List Filter) (report : Report) :
    (all filters).selects report = filters.all (·.selects report) :=
  selectedByAll_eq_all filters report

mutual

/-- The filters in a filter that are no lists themselves, from left to right. -/
def leaves : Filter → List Filter
  | all filters => leavesOfAll filters
  | other => [other]

/-- The filters in some filters that are no lists themselves, from left to right. -/
def leavesOfAll : List Filter → List Filter
  | [] => []
  | filter :: rest => leaves filter ++ leavesOfAll rest

end

mutual

/-- A filter selects what all of its leaves select. -/
theorem all_leaves : ∀ (filter : Filter) (report : Report),
    filter.leaves.all (·.selects report) = filter.selects report
  | all filters, report => by rw [leaves, all_leavesOfAll filters report, selects]
  | browser _, _ | validationType _, _ | state _, _ | target _, _ | success _, _ | critical, _ =>
    Bool.and_true _

/-- `all_leaves` for the filters of a list. -/
theorem all_leavesOfAll : ∀ (filters : List Filter) (report : Report),
    (leavesOfAll filters).all (·.selects report) = selectedByAll filters report
  | [], _ => rfl
  | filter :: rest, report => by
    rw [leavesOfAll, List.all_append, all_leaves filter report, all_leavesOfAll rest report,
      selectedByAll]

end

/-- Whether a filter is a list of filters. -/
def isList : Filter → Bool
  | all _ => true
  | _ => false

mutual

/-- No leaf is a list. -/
theorem isList_of_mem_leaves : ∀ (filter : Filter), ∀ leaf ∈ filter.leaves, leaf.isList = false
  | all filters => by
    rw [leaves]
    exact isList_of_mem_leavesOfAll filters
  | browser _ | validationType _ | state _ | target _ | success _ | critical =>
    List.forall_mem_singleton.mpr rfl

/-- `isList_of_mem_leaves` for the filters of a list. -/
theorem isList_of_mem_leavesOfAll : ∀ (filters : List Filter),
    ∀ leaf ∈ leavesOfAll filters, leaf.isList = false
  | [] => List.forall_mem_nil _
  | filter :: rest => by
    rw [leavesOfAll]
    exact List.forall_mem_append.mpr
      ⟨isList_of_mem_leaves filter, isList_of_mem_leavesOfAll rest⟩

end

/-- Filters with the same leaves, in any order, select the same reports. -/
theorem selects_of_perm_leaves {filter other : Filter} (same : filter.leaves.Perm other.leaves) :
    filter.selects = other.selects := by
  funext report
  rw [← all_leaves filter, ← all_leaves other, same.all_eq]

/-- A filter is as good as the list of its leaves. -/
theorem selects_all_leaves (filter : Filter) : (all filter.leaves).selects = filter.selects := by
  funext report
  rw [selects_all, all_leaves]

end Filter

/-! ### Groups -/

/-- What ended a pass is no success. -/
theorem Report.not_success_of_critical {report : Report} (critical : report.critical = true) :
    report.success = false := by
  cases report with
  | validation _ => cases critical
  | stepFailure _ => rfl

/-- A group that some reports of another one may be missing from. -/
structure BrowserReports.Thins (left group : BrowserReports) : Prop where
  /-- It has the same label. -/
  browser : left.browser = group.browser
  /-- The reports that are left are in the same order. -/
  reports : left.reports.Sublist group.reports

namespace ReportSummary

variable (summary : ReportSummary)

/-- Filtering leaves each group in its place, with some of its reports. -/
theorem thins_filterBy (property : Report → Bool) :
    List.Forall₂ BrowserReports.Thins (summary.filterBy property).groups summary.groups := by
  rw [filterBy, List.forall₂_map_left_iff]
  exact List.forall₂_same.mpr fun group _ => ⟨rfl, List.filter_sublist⟩

/-- The reports that filtering leaves are those with the property. -/
theorem reports_filterBy (property : Report → Bool) :
    (summary.filterBy property).reports = summary.reports.filter property := by
  rw [reports, reports, filterBy, List.filter_flatMap, List.flatMap_map]

/-- Filtering by what every report has changes nothing. -/
theorem filterBy_of_forall {property : Report → Bool}
    (holds : ∀ report, property report = true) : summary.filterBy property = summary := by
  have hfilter : ∀ group : BrowserReports,
      { group with reports := group.reports.filter property } = group := fun group => by
    rw [List.filter_eq_self.mpr fun report _ => holds report]
  rw [filterBy, List.map_congr_left fun group _ => hfilter group, List.map_id']

/-- What filtering leaves of a summary in words is in words. -/
theorem InWords.filterBy {summary : ReportSummary} (words : summary.InWords)
    (property : Report → Bool) : (summary.filterBy property).InWords := by
  constructor
  · rw [reports_filterBy]
    exact fun report hmem => words.indices report (List.mem_of_mem_filter hmem)
  · rw [reports_filterBy]
    exact Nat.lt_of_le_of_lt (List.length_filter_le property _) words.counts

/-- Filtering twice leaves the reports with both properties. -/
theorem filterBy_filterBy (first second : Report → Bool) :
    (summary.filterBy first).filterBy second =
      summary.filterBy fun report => first report && second report := by
  rw [filterBy, filterBy, filterBy, List.map_map]
  congr 1
  apply List.map_congr_left
  intro group _
  simp only [Function.comp, List.filter_filter, Bool.and_comm]

/-- Applying filters one after the other is filtering by all of them. -/
theorem foldl_filterBy (filters : List Filter) :
    filters.foldl (fun left filter => left.filterBy filter.selects) summary =
      summary.filterBy (Filter.all filters).selects := by
  induction filters generalizing summary with
  | nil => exact (summary.filterBy_of_forall fun _ => rfl).symm
  | cons filter rest ih =>
    rw [List.foldl_cons, ih, filterBy_filterBy]
    rfl

/-- Filtering a summary by a list of filters depends neither on their order nor on how they are
nested, leaves every group in its place, and changes nothing a second time. -/
structure FiltersAgree (filters : List Filter) : Prop where
  /-- The filters can be applied one after the other, in any order. -/
  one_by_one : ∀ order : List Filter, order.Perm filters →
    order.foldl (fun left filter => left.filterBy filter.selects) summary =
      summary.filterBy (Filter.all filters).selects
  /-- Nested lists can be written out. -/
  flattened : summary.filterBy (Filter.all (Filter.all filters).leaves).selects =
    summary.filterBy (Filter.all filters).selects
  /-- What is written out then nests no lists. -/
  flat : ∀ leaf ∈ (Filter.all filters).leaves, leaf.isList = false
  /-- It does not matter how the same filters are nested, nor in which order. -/
  regrouped : ∀ other : Filter, other.leaves.Perm (Filter.all filters).leaves →
    summary.filterBy other.selects = summary.filterBy (Filter.all filters).selects
  /-- Filtering once more changes nothing. -/
  twice : (summary.filterBy (Filter.all filters).selects).filterBy (Filter.all filters).selects =
    summary.filterBy (Filter.all filters).selects
  /-- Each group stays in its place, with some of its reports. -/
  groups : List.Forall₂ BrowserReports.Thins
    (summary.filterBy (Filter.all filters).selects).groups summary.groups

/-- Filters agree, however they are ordered, nested and repeated. -/
theorem filters_agree (filters : List Filter) : summary.FiltersAgree filters where
  one_by_one order same := by
    rw [foldl_filterBy]
    congr 1
    funext report
    rw [Filter.selects_all, Filter.selects_all, same.all_eq]
  flattened := by rw [Filter.selects_all_leaves]
  flat := Filter.isList_of_mem_leaves _
  regrouped other same := by rw [Filter.selects_of_perm_leaves same]
  twice := by simp only [filterBy_filterBy, Bool.and_self]
  groups := summary.thins_filterBy _

/-! ### Views -/

/-- The successes and the failures of a summary are what the filters for them leave, and together
they are all its reports. -/
structure ViewsAgree : Prop where
  /-- The filter for successes leaves the successes. -/
  passed : (summary.filterBy (Filter.success true).selects).reports = summary.successes
  /-- The filter for failures leaves the failures. -/
  failed : (summary.filterBy (Filter.success false).selects).reports = summary.fails
  /-- Together they are all reports. -/
  complete : (summary.successes ++ summary.fails).Perm summary.reports

/-- The views are what the filters leave, and nothing is missing. -/
theorem views_agree : summary.ViewsAgree where
  passed := by
    rw [reports_filterBy, successes]
    congr 1
    funext report
    exact beq_true _
  failed := by
    rw [reports_filterBy, fails]
    congr 1
    funext report
    exact beq_false _
  complete := List.filter_append_perm _ _

/-! ### Counts -/

/-- The counts of a written summary under their keys. -/
def counts : List (String × Nat) :=
  [("totalReports", summary.tally.total), ("successes", summary.tally.successes),
    ("failures", summary.tally.failures), ("criticalFailures", summary.tally.criticalFailures)]

/-- The counts of a summary are the lengths of its lists, add up, are written as they are and are
read back. -/
structure CountsAgree : Prop where
  /-- Each count is the length of the list that it is about. -/
  lengths : summary.tally = ⟨summary.reports.length, summary.successes.length,
    summary.fails.length, summary.criticalFailures.length⟩
  /-- Each report is a success or a failure. -/
  total : summary.tally.total = summary.tally.successes + summary.tally.failures
  /-- Step failures are failures. -/
  critical : summary.tally.criticalFailures ≤ summary.tally.failures
  /-- The counts are written as they are. -/
  written : ∀ count ∈ summary.counts,
    (summary.toJson.get? bodyKey).bind (Json.get? count.1) = some (Json.ofNat count.2)
  /-- Both texts say what the value does, and the summary is read back from them. -/
  texts : summary.InWords → ∀ text ∈ [summary.text, summary.prettyText],
    Json.parse text = .ok summary.toJson ∧ ofText text = .ok summary
  /-- There are failures if any are counted. -/
  failures : summary.hasFailures = true ↔ 0 < summary.tally.failures

/-- The counts agree with the lists, with each other and with what is written. -/
theorem counts_agree : summary.CountsAgree where
  lengths := summary.tally_eq
  total := by
    have hlength := (views_agree summary).complete.length_eq
    rw [List.length_append] at hlength
    rw [tally_eq]
    exact hlength.symm
  critical := by
    rw [tally_eq]
    exact (List.monotone_filter_right _ fun report hcritical => by
      rw [Report.not_success_of_critical hcritical, Bool.not_false]).length_le
  written := by
    simp only [counts, List.forall_mem_cons]
    exact ⟨rfl, rfl, rfl, rfl, List.forall_mem_nil _⟩
  texts words text htext :=
    ⟨(words.portable_toJson.mono (by decide)).parse_of_mem htext, read_back words htext⟩
  failures := by
    rw [tally_eq, hasFailures, List.any_eq_true]
    exact List.length_filter_pos_iff.symm

end ReportSummary

end PageCheck
