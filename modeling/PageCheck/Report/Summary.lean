import PageCheck.Report.Filter

/-!
# Summaries

A summary groups the reports of a run by browser, in the order in which the browsers ran; a browser
that ran twice has two groups. The counts that a written summary carries are computed from its
reports and passed over when it is read.
-/

namespace PageCheck

open Json (Draft Decoded Shape)
open Unicode (eqIgnoringAsciiCase)

/-- The reports of one pass. -/
structure BrowserReports where
  /-- The browser of the pass. -/
  browser : String
  /-- The reports in the order in which they were made. -/
  reports : List Report
deriving Repr, DecidableEq

/-- The reports of a run. -/
structure ReportSummary where
  /-- One group for each pass, in order. -/
  groups : List BrowserReports
deriving Repr, DecidableEq

/-- How many reports there are of each kind. -/
structure Tally where
  /-- All reports. -/
  total : Nat
  /-- The reports of validations that hold. -/
  successes : Nat
  /-- All other reports. -/
  failures : Nat
  /-- The reports of step failures. -/
  criticalFailures : Nat
deriving Repr, DecidableEq

/-- Count one more report. -/
def Tally.add (tally : Tally) (report : Report) : Tally where
  total := tally.total + 1
  successes := tally.successes + (if report.success then 1 else 0)
  failures := tally.failures + (if report.success then 0 else 1)
  criticalFailures := tally.criticalFailures + (if report.critical then 1 else 0)

namespace BrowserReports

/-- The record form. -/
def shape : Shape := ⟨"BrowserReports", [("browser", true), ("reports", true)], false⟩

/-- Take one field of the record. -/
def takeField (group : BrowserReports) (key : String) (draft : Draft) : Decoded BrowserReports :=
  if key = "browser" then do
    return { group with browser := ← Json.decodeString draft }
  else do
    return { group with reports := ← Json.decodeList Report.decode draft }

/-- A group. -/
def decode : Json.Decoder BrowserReports := Json.decodeRecord shape ⟨"", []⟩ takeField

/-- A group in JSON. -/
def toJson (group : BrowserReports) : Json :=
  .object [("browser", .string group.browser),
    ("reports", .array (group.reports.map Report.toJson))]

end BrowserReports

namespace ReportSummary

/-- A summary without groups. -/
def empty : ReportSummary := ⟨[]⟩

/-- Add the reports of one pass as a new group. -/
def push (summary : ReportSummary) (browser : String) (reports : List Report) : ReportSummary :=
  ⟨summary.groups ++ [⟨browser, reports⟩]⟩

/-- The browsers of the groups. -/
def browsers (summary : ReportSummary) : List String := summary.groups.map (·.browser)

/-- The reports of the first group of a browser, whatever the case of its ASCII letters. -/
def reportsFor (summary : ReportSummary) (browser : String) : Option (List Report) :=
  (summary.groups.find? fun group => eqIgnoringAsciiCase group.browser browser).map (·.reports)

/-- Every report, group by group. -/
def reports (summary : ReportSummary) : List Report := summary.groups.flatMap (·.reports)

/-- Keep the reports with a property. Groups stay even when they become empty. -/
def filterBy (summary : ReportSummary) (property : Report → Bool) : ReportSummary :=
  ⟨summary.groups.map fun group => { group with reports := group.reports.filter property }⟩

/-- The reports of validations that hold. -/
def successes (summary : ReportSummary) : List Report := summary.reports.filter (·.success)

/-- All other reports. -/
def fails (summary : ReportSummary) : List Report := summary.reports.filter (!·.success)

/-- The reports of step failures. -/
def criticalFailures (summary : ReportSummary) : List Report := summary.reports.filter (·.critical)

/-- Count the reports. -/
def tally (summary : ReportSummary) : Tally := summary.reports.foldl Tally.add ⟨0, 0, 0, 0⟩

/-- Whether a report is no success. -/
def hasFailures (summary : ReportSummary) : Bool := summary.reports.any (!·.success)

/-- The key of a written summary. -/
def bodyKey : String := "reportSummary"

/-- What stands under the key of a written summary. -/
def body (summary : ReportSummary) : Json :=
  let tally := summary.tally
  .object [("totalReports", Json.ofNat tally.total), ("successes", Json.ofNat tally.successes),
    ("failures", Json.ofNat tally.failures),
    ("criticalFailures", Json.ofNat tally.criticalFailures),
    ("browsers", .array (summary.groups.map BrowserReports.toJson))]

/-- The members of a written summary. -/
def members (summary : ReportSummary) : Members := [(bodyKey, summary.body)]

/-- A summary in JSON. -/
def toJson (summary : ReportSummary) : Json := .object summary.members

/-- The record under the key of a written summary. -/
def bodyShape : Shape := ⟨"SummaryBodyIn", [("browsers", false)], false⟩

/-- The whole record of a written summary. -/
def shape : Shape := ⟨"SummaryIn", [(bodyKey, true)], false⟩

/-- Take a field of the record under the key. -/
def takeBrowsers (_ : ReportSummary) (_ : String) (draft : Draft) : Decoded ReportSummary := do
  return ⟨← Json.decodeList BrowserReports.decode draft⟩

/-- Take a field of the whole record. -/
def takeBody (_ : ReportSummary) (_ : String) (draft : Draft) : Decoded ReportSummary :=
  Json.decodeRecord bodyShape empty takeBrowsers draft

/-- A summary. -/
def decode : Json.Decoder ReportSummary := Json.decodeRecord shape empty takeBody

/-- Read a JSON value as a summary. -/
def ofJson (value : Json) : Result ReportSummary := (decode value.draft).mapError .json

/-- Read a text as a summary. -/
def ofText (text : String) : Result ReportSummary := do
  ofJson (← Report.parseText text)

/-- The text of a summary. -/
def text (summary : ReportSummary) : String := summary.toJson.text

/-- The indented text of a summary. -/
def prettyText (summary : ReportSummary) : String := summary.toJson.prettyText

end ReportSummary

end PageCheck
