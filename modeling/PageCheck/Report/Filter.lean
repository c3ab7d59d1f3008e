import PageCheck.Report.Basic
import PageCheck.Unicode.Casing

/-!
# Filters

Filters select reports. They compare texts without regard to the case of ASCII letters; those that
ask about a validation never select a step failure.
-/

namespace PageCheck

open Unicode (eqIgnoringAsciiCase)

/-- A way to select reports. -/
inductive Filter
  | browser (name : String)
  | validationType (name : String)
  | state (name : String)
  | target (text : String)
  | success (wanted : Bool)
  | critical
  /-- Every one of the filters; without any, all reports. -/
  | all (filters : List Filter)
deriving Repr, Inhabited

namespace Filter

/-- Whether a validation's report has a property; step failures have none. -/
def ofValidation (property : ValidationReport → Bool) (report : Report) : Bool :=
  match report.validation? with
  | some validation => property validation
  | none => false

mutual

/-- Whether a filter selects a report. -/
def selects : Filter → Report → Bool
  | browser name, report => eqIgnoringAsciiCase report.browser name
  | validationType name, report =>
    ofValidation (fun r => eqIgnoringAsciiCase r.validationType name) report
  | state name, report => ofValidation (fun r => eqIgnoringAsciiCase r.state name) report
  | target text, report => ofValidation (fun r => eqIgnoringAsciiCase r.target text) report
  | success wanted, report => report.success == wanted
  | critical, report => report.critical
  | all filters, report => selectedByAll filters report

/-- Whether each of some filters selects a report. -/
def selectedByAll : List Filter → Report → Bool
  | [], _ => true
  | filter :: rest, report => selects filter report && selectedByAll rest report

end

end Filter

end PageCheck
