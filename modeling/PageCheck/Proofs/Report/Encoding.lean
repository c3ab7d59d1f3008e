import PageCheck.Proofs.Json.Portable
import PageCheck.Report.Summary

/-!
# Encoded reports

What reports and summaries are in JSON survives being written and parsed, provided that the numbers
in them are words. The only numbers are the indices of failed steps and the counts of a summary,
and no count exceeds the number of reports.
-/

namespace PageCheck

open Json (Portable)
open Decimal (wordLimit)

/-! ### Counting -/

namespace ReportSummary

/-- Counting adds to each count the number of reports that it is about. -/
theorem foldl_add (reports : List Report) (tally : Tally) :
    reports.foldl Tally.add tally =
      ⟨tally.total + reports.length, tally.successes + (reports.filter (·.success)).length,
        tally.failures + (reports.filter (!·.success)).length,
        tally.criticalFailures + (reports.filter (·.critical)).length⟩ := by
  induction reports generalizing tally with
  | nil => rfl
  | cons report rest ih =>
    rw [List.foldl_cons, ih]
    cases hsuccess : report.success <;> cases hcritical : report.critical <;>
      simp [Tally.add, hsuccess, hcritical] <;> omega

/-- The counts are the lengths of the lists of reports that they are about. -/
theorem tally_eq (summary : ReportSummary) :
    summary.tally = ⟨summary.reports.length, summary.successes.length, summary.fails.length,
      summary.criticalFailures.length⟩ := by
  rw [tally, foldl_add]
  simp [successes, fails, criticalFailures]

end ReportSummary

/-! ### Numbers that are words -/

/-- The index of a failed step is a word. -/
def Report.InWords (report : Report) : Prop :=
  ∀ failure, report.stepFailure? = some failure → failure.index < wordLimit

/-- Every index and every count of a summary is a word. -/
structure ReportSummary.InWords (summary : ReportSummary) : Prop where
  /-- The index of every failed step. -/
  indices : ∀ report ∈ summary.reports, report.InWords
  /-- The number of all reports, and with it every count. -/
  counts : summary.reports.length < wordLimit

/-! ### Encodings -/

/-- The record of a validation's report opens one container. -/
theorem ValidationReport.portable_record (report : ValidationReport) :
    Portable 1 report.record := by
  obtain ⟨browser, validationType, target, state, success, msg⟩ := report
  apply Portable.object
  · cases msg <;> simp [Members.keys, Members.optional]
  · cases msg <;> simp [Members.optional, Portable.string, Portable.bool]

/-- The record of a step failure's report opens one container. -/
theorem StepFailureReport.portable_record {report : StepFailureReport}
    (small : report.index < wordLimit) : Portable 1 report.record := by
  apply Portable.object
  · simp [Members.keys]
  · simp [Portable.string, Portable.ofNat 0 small]

/-- A report opens two containers. -/
theorem Report.portable_toJson {report : Report} (words : report.InWords) :
    Portable 2 report.toJson := by
  cases report with
  | validation report =>
    exact Portable.object (List.nodup_singleton _)
      (List.forall_mem_singleton.mpr report.portable_record)
  | stepFailure report =>
    exact Portable.object (List.nodup_singleton _)
      (List.forall_mem_singleton.mpr (StepFailureReport.portable_record (words report rfl)))

/-- A group opens two containers around its reports. -/
theorem BrowserReports.portable_toJson {group : BrowserReports}
    (words : ∀ report ∈ group.reports, report.InWords) : Portable 4 group.toJson := by
  have hreports : Portable 3 (.array (group.reports.map Report.toJson)) :=
    Portable.array (List.forall_mem_map.mpr fun report hmem =>
      Report.portable_toJson (words report hmem))
  apply Portable.object
  · simp [Members.keys]
  · simp [Portable.string, hreports]

namespace ReportSummary

variable {summary : ReportSummary}

/-- No count of a summary exceeds the number of its reports. -/
theorem InWords.counts_lt (words : summary.InWords) :
    summary.tally.total < wordLimit ∧ summary.tally.successes < wordLimit ∧
      summary.tally.failures < wordLimit ∧ summary.tally.criticalFailures < wordLimit := by
  have hfiltered : ∀ property : Report → Bool,
      (summary.reports.filter property).length < wordLimit := fun property =>
    Nat.lt_of_le_of_lt (List.length_filter_le property _) words.counts
  rw [tally_eq]
  exact ⟨words.counts, hfiltered _, hfiltered _, hfiltered _⟩

/-- What stands under the key of a written summary opens two containers around its groups. -/
theorem InWords.portable_body (words : summary.InWords) : Portable 6 summary.body := by
  obtain ⟨htotal, hsuccesses, hfailures, hcritical⟩ := words.counts_lt
  have hgroups : Portable 5 (.array (summary.groups.map BrowserReports.toJson)) := by
    refine Portable.array (List.forall_mem_map.mpr fun group hgroup => ?_)
    exact BrowserReports.portable_toJson fun report hreport =>
      words.indices report (List.mem_flatMap.mpr ⟨group, hgroup, hreport⟩)
  apply Portable.object
  · simp [Members.keys]
  · simp [Portable.ofNat 5 htotal, Portable.ofNat 5 hsuccesses, Portable.ofNat 5 hfailures,
      Portable.ofNat 5 hcritical, hgroups]

/-- A summary opens one container around its body. -/
theorem InWords.portable_toJson (words : summary.InWords) : Portable 7 summary.toJson :=
  Portable.object (List.nodup_singleton _) (List.forall_mem_singleton.mpr words.portable_body)

end ReportSummary

end PageCheck
