import PageCheck.Proofs.Report.Decoding
import PageCheck.Proofs.Report.Encoding

/-!
# Reading reports back

The texts of a report and of a summary, compact or indented, are read as what they were written
from, and a report of one kind is refused where the other kind is wanted. A summary is read from
its groups alone: it stays the same when the counts in the text change, as long as the text can be
parsed. A number too large for a double cannot, wherever it stands.
-/

namespace PageCheck

open Json (Portable depthLimit parse)
open Decimal (wordLimit)
open ReportSummary (Recounted)

/-! ### Reading a parsed text -/

/-- A text that is parsed is read as what its value is decoded as. -/
theorem Report.ofText_of_parse {text : String} {value : Json} (parsed : parse text = .ok value) :
    Report.ofText text = (Report.decode value.draft).mapError .json := by
  rw [Report.ofText, Report.parseText, parsed]
  rfl

/-- A text that is parsed as a report is read as the report. -/
theorem Report.ofText_of_parse_toJson {text : String} {report : Report}
    (parsed : parse text = .ok report.toJson) : Report.ofText text = .ok report := by
  rw [Report.ofText_of_parse parsed, report.decode_toJson]
  rfl

namespace ReportSummary

/-- A text that is parsed is read as what its value is decoded as. -/
theorem ofText_of_parse {text : String} {value : Json} (parsed : parse text = .ok value) :
    ofText text = (decode value.draft).mapError .json := by
  rw [ofText, Report.parseText, parsed]
  rfl

/-- A text that cannot be parsed is refused. -/
theorem ofText_of_parse_error {text : String} {error : Json.DecodeError}
    (refused : parse text = .error error) : ofText text = .error (.json error) := by
  rw [ofText, Report.parseText, refused]
  rfl

end ReportSummary

/-! ### Round trip -/

/-- A report is read back from both of its texts. -/
theorem Report.read_back {report : Report} (words : report.InWords) {text : String}
    (written : text ∈ [report.text, report.prettyText]) : Report.ofText text = .ok report :=
  ofText_of_parse_toJson (((portable_toJson words).mono (by decide)).parse_of_mem written)

/-- A validation's report is read back as one and refused as a step failure's. -/
theorem ValidationReport.read_back (report : ValidationReport) {text : String}
    (written : text ∈ [(Report.validation report).text, (Report.validation report).prettyText]) :
    ValidationReport.ofText text = .ok report ∧ StepFailureReport.ofText text = .error
      (.invalidFile "expected a stepFailureReport, found a validationReport") := by
  have hwords : (Report.validation report).InWords := nofun
  rw [ValidationReport.ofText, StepFailureReport.ofText, Report.read_back hwords written]
  exact ⟨rfl, rfl⟩

/-- A step failure's report is read back as one and refused as a validation's. -/
theorem StepFailureReport.read_back {report : StepFailureReport} (small : report.index < wordLimit)
    {text : String}
    (written : text ∈ [(Report.stepFailure report).text, (Report.stepFailure report).prettyText]) :
    StepFailureReport.ofText text = .ok report ∧ ValidationReport.ofText text = .error
      (.invalidFile "expected a validationReport, found a stepFailureReport") := by
  have hwords : (Report.stepFailure report).InWords := by
    rintro failure ⟨⟩
    exact small
  rw [ValidationReport.ofText, StepFailureReport.ofText, Report.read_back hwords written]
  exact ⟨rfl, rfl⟩

/-- A summary is read back from both of its texts. -/
theorem ReportSummary.read_back {summary : ReportSummary} (words : summary.InWords) {text : String}
    (written : text ∈ [summary.text, summary.prettyText]) : ofText text = .ok summary := by
  have hparse := (words.portable_toJson.mono (by decide)).parse_of_mem written
  rw [ofText_of_parse hparse, summary.decode_toJson]
  rfl

/-- Texts of values that differ at most in the counts are read alike. -/
theorem ReportSummary.Recounted.ofText_eq {value changed : Json}
    (recounted : Recounted value changed) {text other : String} (parsed : parse text = .ok value)
    (changes : parse other = .ok changed) : ofText other = ofText text := by
  rw [ofText_of_parse changes, ← recounted.decode_eq, ← ofText_of_parse parsed]

/-- **Round trip.** Reports, reports of either kind and summaries are read back from both of their
texts, reports of one kind are refused as the other, and counts in a text do not matter to the
summary that is read from it. -/
theorem Report.texts_read_back :
    (∀ report : Report, report.InWords → ∀ text ∈ [report.text, report.prettyText],
      Report.ofText text = .ok report) ∧
    (∀ report : ValidationReport,
      ∀ text ∈ [(Report.validation report).text, (Report.validation report).prettyText],
        ValidationReport.ofText text = .ok report ∧
        StepFailureReport.ofText text = .error
          (.invalidFile "expected a stepFailureReport, found a validationReport")) ∧
    (∀ report : StepFailureReport, report.index < wordLimit →
      ∀ text ∈ [(Report.stepFailure report).text, (Report.stepFailure report).prettyText],
        StepFailureReport.ofText text = .ok report ∧
        ValidationReport.ofText text = .error
          (.invalidFile "expected a validationReport, found a stepFailureReport")) ∧
    (∀ summary : ReportSummary, summary.InWords → ∀ text ∈ [summary.text, summary.prettyText],
      ReportSummary.ofText text = .ok summary) ∧
    (∀ (text : String) (value changed : Json) (summary : ReportSummary),
      parse text = .ok value → Recounted value changed → ReportSummary.ofText text = .ok summary →
        (∀ other, parse other = .ok changed → ReportSummary.ofText other = .ok summary) ∧
        (Portable depthLimit changed → ∀ other ∈ [changed.text, changed.prettyText],
          ReportSummary.ofText other = .ok summary)) := by
  refine ⟨fun _ words _ => read_back words, fun report _ => report.read_back,
    fun _ small _ => StepFailureReport.read_back small,
    fun _ words _ => ReportSummary.read_back words, ?_⟩
  intro text value changed summary hparse hrecounted hread
  have hother : ∀ other, parse other = .ok changed →
      ReportSummary.ofText other = .ok summary := by
    intro other hchanged
    rw [hrecounted.ofText_eq hparse hchanged, hread]
  exact ⟨hother, fun portable other written => hother other (portable.parse_of_mem written)⟩

namespace Report

/-- A step that failed. -/
def clicking : StepFailureReport := ⟨"Firefox", 3, "Click", "no such element"⟩

/-- A value that a summary without groups is read from. -/
def uncounted : Json :=
  .object [(ReportSummary.bodyKey, .object [("browsers", .array [])])]

/-- The same value with a count that is none. -/
def miscounted : Json :=
  .object [(ReportSummary.bodyKey, .object [("browsers", .array []), ("failures", .string "few")])]

/-- A report, a summary and a text with a wrong count are read back. -/
theorem texts_read_back_clicking :
    Report.ofText (Report.stepFailure clicking).prettyText = .ok (.stepFailure clicking) ∧
    StepFailureReport.ofText (Report.stepFailure clicking).text = .ok clicking ∧
    ReportSummary.ofText (ReportSummary.text ⟨[⟨"Firefox", [.stepFailure clicking]⟩]⟩) =
      .ok ⟨[⟨"Firefox", [.stepFailure clicking]⟩]⟩ ∧
    ReportSummary.ofText miscounted.text = .ok .empty := by
  have hwords : (Report.stepFailure clicking).InWords := by
    rintro failure ⟨⟩
    decide
  have hempty : Portable 1 (.array []) := Portable.array (List.forall_mem_nil _)
  have huncounted : Portable depthLimit uncounted := by
    have hbody : Portable 2 (.object [("browsers", .array [])]) :=
      Portable.object (by decide) (by simp [hempty])
    have hvalue : Portable 3 uncounted := Portable.object (by decide) (by simp [hbody])
    exact hvalue.mono (by decide)
  have hmiscounted : Portable depthLimit miscounted := by
    have hbody : Portable 2 (.object [("browsers", .array []), ("failures", .string "few")]) :=
      Portable.object (by decide) (by simp [hempty, Portable.string])
    have hvalue : Portable 3 miscounted := Portable.object (by decide) (by simp [hbody])
    exact hvalue.mono (by decide)
  refine ⟨?_, ?_, ?_, ?_⟩
  · exact texts_read_back.1 _ hwords _ (by simp)
  · exact (texts_read_back.2.2.1 clicking (by decide) _ (by simp)).1
  · refine texts_read_back.2.2.2.1 _ ⟨?_, by decide⟩ _ (by simp)
    intro report hmem
    obtain rfl := List.mem_singleton.mp hmem
    exact hwords
  · refine (texts_read_back.2.2.2.2 uncounted.text uncounted miscounted .empty
      huncounted.parse_text (.keyed [] [] rfl) ?_).2 hmiscounted _ (by simp)
    rw [ReportSummary.ofText_of_parse huncounted.parse_text]
    rfl

/-- The text of a summary without groups whose number of reports is written as `total`. -/
def counting (total : List Char) : List Char :=
  "\x7b\"reportSummary\":\x7b\"totalReports\":".toList ++ total ++
    ",\"browsers\":[]\x7d\x7d".toList

/-- A count is not passed over when it is written as an integer beyond the range of doubles: the
text is accepted with one zero less and refused with it. -/
theorem count_out_of_range :
    ReportSummary.ofText (String.ofList (counting ('1' :: List.replicate 308 '0'))) = .ok .empty ∧
    ReportSummary.ofText (String.ofList (counting ('1' :: List.replicate 309 '0'))) =
      .error (.json (.malformed .numberOutOfRange)) := by
  rw [ReportSummary.ofText, ReportSummary.ofText, Report.parseText, Report.parseText,
    Json.parse_ofList, Json.parse_ofList]
  constructor <;> decide +kernel

end Report

end PageCheck
