import PageCheck.Expression.Resolver
import PageCheck.Report.Summary

/-!
# Console text

What people read on a terminal: the reports of a summary by browser with a closing line of counts,
and the findings of a check. Colours can be left out; then the text is plain.
-/

namespace PageCheck.Console

/-- A look of text: the codes that switch it on, as a terminal reads them. -/
structure Style where
  /-- The codes. -/
  codes : String
deriving Repr, DecidableEq

namespace Style

/-- Of something that holds. -/
def green : Style := ⟨"32"⟩

/-- Of something that does not. -/
def red : Style := ⟨"31"⟩

/-- Of a validation type. -/
def cyan : Style := ⟨"36"⟩

/-- Of what stands back. -/
def dimmed : Style := ⟨"2"⟩

/-- Of what stands out. -/
def bold : Style := ⟨"1"⟩

/-- Of a good result. -/
def boldGreen : Style := ⟨"1;32"⟩

/-- Of a bad result. -/
def boldRed : Style := ⟨"1;31"⟩

/-- Of a heading. -/
def boldWhite : Style := ⟨"1;37"⟩

/-- What switches a style on. -/
def opening (style : Style) : List Char := '\x1b' :: '[' :: style.codes.toList ++ ['m']

/-- What switches every style off. -/
def closing : List Char := ['\x1b', '[', '0', 'm']

/-- A text in which styles that end inside it do not end the one around it. -/
def reopened (opening : List Char) : List Char → List Char
  | '\x1b' :: '[' :: '0' :: 'm' :: rest => closing ++ opening ++ reopened opening rest
  | c :: rest => c :: reopened opening rest
  | [] => []

/-- A text in a style, if there are colours. -/
def apply (style : Style) (colored : Bool) (text : String) : String :=
  if colored then
    String.ofList (style.opening ++ reopened style.opening text.toList ++ closing)
  else text

end Style

/-- Whether people read in colour: as the environment says, or else if they read on a terminal. -/
def wantsColor (environment : Expression.Environment) (onTerminal : Bool) : Bool :=
  let setting (name : String) : Option Bool := (environment.get? name).map (· != "0")
  if setting "CLICOLOR_FORCE" = some true then true
  else if (setting "NO_COLOR").isSome then false
  else (setting "CLICOLOR").getD true && onTerminal

/-- What stands in front of something that holds. -/
def tick : String := "✓"

/-- What stands in front of something that does not. -/
def cross : String := "✗"

/-- The line of a validation, with one more on what is wrong if it does not hold. -/
def validationText (colored : Bool) (report : ValidationReport) : String :=
  let mark :=
    if report.success then Style.green.apply colored tick else Style.red.apply colored cross
  let target := if report.target.isEmpty then "<url>" else report.target
  let line := "  " ++ mark ++ " " ++ Style.cyan.apply colored report.validationType ++ " " ++
    report.state ++ " " ++ Style.dimmed.apply colored target ++ "\n"
  match report.success, report.msg with
  | false, some msg => line ++ "      " ++ Style.dimmed.apply colored msg ++ "\n"
  | _, _ => line

/-- The line of a step that did not complete. -/
def stepFailureText (colored : Bool) (report : StepFailureReport) : String :=
  "  " ++ Style.boldRed.apply colored cross ++ " " ++
    Style.red.apply colored ("step " ++ toString report.index) ++ " " ++
    Style.bold.apply colored report.action ++ ": " ++ report.msg ++ "\n"

/-- The lines of a report. -/
def reportText (colored : Bool) : Report → String
  | .validation report => validationText colored report
  | .stepFailure report => stepFailureText colored report

/-- The lines of one pass. -/
def groupText (colored : Bool) (group : BrowserReports) : String :=
  "\n" ++ Style.boldWhite.apply colored group.browser ++ "\n" ++
    (if group.reports.isEmpty then "  " ++ Style.dimmed.apply colored "no reports" ++ "\n"
      else String.join (group.reports.map (reportText colored)))

/-- The counts of a summary. -/
def countsText (tally : Tally) : String :=
  "(" ++ toString tally.total ++ " reports, " ++ toString tally.successes ++ " passed, " ++
    toString tally.criticalFailures ++ " critical)"

/-- The last line of a summary. -/
def totalsText (colored : Bool) (tally : Tally) : String :=
  let headline :=
    if tally.failures = 0 then
      Style.boldGreen.apply colored (tick ++ " " ++ toString tally.successes ++ " passed")
    else Style.boldRed.apply colored (cross ++ " " ++ toString tally.failures ++ " failed")
  "\n" ++ headline ++ " " ++ Style.dimmed.apply colored (countsText tally) ++ "\n"

/-- A summary: its groups and its totals. -/
def summaryText (colored : Bool) (summary : ReportSummary) : String :=
  String.join (summary.groups.map (groupText colored)) ++ totalsText colored summary.tally

/-- The line of a finding. -/
def findingText (colored passed : Bool) (label detail : String) : String :=
  if passed then
    "  " ++ Style.green.apply colored tick ++ " " ++ label ++ " " ++
      Style.dimmed.apply colored detail ++ "\n"
  else
    "  " ++ Style.red.apply colored cross ++ " " ++ label ++ " " ++
      Style.red.apply colored detail ++ "\n"

end PageCheck.Console
