import PageCheck.Proofs.Json.Ranges
import PageCheck.Proofs.Report.RoundTrip

/-!
# Words in what is read

The index of a failed step is decoded from an integer, and no integer beyond the exact range is read
of a text. So the indices of a summary that is read are words, and they are written as such again.
-/

namespace PageCheck

open Decimal (wordLimit)
open Json (Draft)

/-- Whichever field is taken into the report of a step failure, its index stays a word. -/
theorem StepFailureReport.index_lt_takeField {report next : StepFailureReport} {key : String}
    {draft : Draft} (small : report.index < wordLimit) (ranged : draft.Ranged)
    (taken : takeField report key draft = .ok next) : next.index < wordLimit := by
  rw [takeField] at taken
  split_ifs at taken
  all_goals
    obtain ⟨value, hvalue, hnext⟩ := ok_of_bind taken
    cases hnext
  · exact small
  · exact Json.decodeWord_lt ranged hvalue
  · exact small
  · exact small

/-- The index in a step failure's report that is decoded is a word. -/
theorem StepFailureReport.index_lt_decode {draft : Draft} {report : StepFailureReport}
    (ranged : draft.Ranged)
    (decoded : Json.decodeRecord shape ⟨"", 0, "", ""⟩ takeField draft = .ok report) :
    report.index < wordLimit :=
  Json.kept_decodeRecord index_lt_takeField ranged.parts decoded (by decide)

namespace Report

/-- So is the index in a report whose kind is named, if there is one. -/
theorem inWords_decodeKind {key : String} {contents : Option Draft} {report : Report}
    (ranged : ∀ draft, contents = some draft → draft.Ranged)
    (decoded : decodeKind key contents = .ok report) : report.InWords := by
  rw [decodeKind.eq_def] at decoded
  cases contents with
  | none => split_ifs at decoded
  | some draft =>
    split_ifs at decoded
    · obtain ⟨validation, _, rfl⟩ := ok_of_map decoded
      exact nofun
    · obtain ⟨failure, hfailure, rfl⟩ := ok_of_map decoded
      rintro _ ⟨⟩
      exact StepFailureReport.index_lt_decode (ranged draft rfl) hfailure

/-- So is the index in any report. -/
theorem inWords_decode {draft : Draft} {report : Report} (ranged : draft.Ranged)
    (decoded : decode draft = .ok report) : report.InWords := by
  rw [decode.eq_def] at decoded
  split at decoded
  · refine inWords_decodeKind ?_ decoded
    exact nofun
  next key contents ending =>
    refine inWords_decodeKind ?_ decoded
    rintro _ ⟨⟩
    exact ranged.parts contents List.mem_cons_self
  · cases decoded
  · cases decoded

end Report

/-- The indices in the reports of a group that is decoded are words. -/
theorem BrowserReports.inWords_decode {draft : Draft} {group : BrowserReports}
    (ranged : draft.Ranged) (decoded : decode draft = .ok group) :
    ∀ report ∈ group.reports, report.InWords := by
  have hfield : ∀ {state next : BrowserReports} {key : String} {value : Draft},
      (∀ report ∈ state.reports, report.InWords) → value.Ranged →
      takeField state key value = .ok next → ∀ report ∈ next.reports, report.InWords := by
    intro state next key value held hvalue taken
    rw [takeField] at taken
    split_ifs at taken
    all_goals
      obtain ⟨field, hfield, hnext⟩ := ok_of_bind taken
      cases hnext
    · exact held
    · exact Json.kept_decodeList Report.inWords_decode hvalue.parts hfield
  exact Json.kept_decodeRecord hfield ranged.parts decoded (List.forall_mem_nil _)

namespace ReportSummary

/-- The index of every report is a word. -/
def IndicesInWords (summary : ReportSummary) : Prop :=
  ∀ group ∈ summary.groups, ∀ report ∈ group.reports, report.InWords

/-- The indices in the groups that are taken into a summary are words. -/
theorem indices_takeBrowsers {summary next : ReportSummary} {key : String} {draft : Draft}
    (ranged : draft.Ranged)
    (taken : takeBrowsers summary key draft = .ok next) : next.IndicesInWords := by
  obtain ⟨groups, hgroups, hnext⟩ := ok_of_bind taken
  cases hnext
  exact Json.kept_decodeList BrowserReports.inWords_decode ranged.parts hgroups

/-- The indices in a summary that is decoded are words. -/
theorem indices_decode {draft : Draft} {summary : ReportSummary} (ranged : draft.Ranged)
    (decoded : decode draft = .ok summary) : summary.IndicesInWords := by
  have hbody : ∀ {state next : ReportSummary} {key : String} {value : Draft},
      state.IndicesInWords → value.Ranged → takeBody state key value = .ok next →
      next.IndicesInWords := by
    intro _ _ _ _ _ hvalue taken
    exact Json.kept_decodeRecord (fun _ => indices_takeBrowsers) hvalue.parts taken
      (List.forall_mem_nil _)
  exact Json.kept_decodeRecord hbody ranged.parts decoded (List.forall_mem_nil _)

/-- The indices in a summary that is read are words. -/
theorem indices_of_ofText {text : String} {summary : ReportSummary}
    (read : ofText text = .ok summary) : ∀ report ∈ summary.reports, report.InWords := by
  obtain ⟨value, hparse, hvalue⟩ := ok_of_bind read
  have hdecoded := indices_decode (Json.ranged_parse (ok_of_mapError hparse))
    (ok_of_mapError hvalue)
  intro report hmem
  obtain ⟨group, hgroup, hreport⟩ := List.mem_flatMap.mp hmem
  exact hdecoded group hgroup report hreport

end ReportSummary

end PageCheck
