import PageCheck.Error

/-!
# Reports

A report says how one validation of a pass went, or which step ended the pass. In JSON a report is
an object whose single key names its kind.
-/

namespace PageCheck

open Json (Draft Decoded DecodeError Shape)

/-- How a validation went. -/
structure ValidationReport where
  /-- The browser of the pass. -/
  browser : String
  /-- The type of the validation. -/
  validationType : String
  /-- What was looked at, as the file writes it. -/
  target : String
  /-- The state that should hold. -/
  state : String
  /-- Whether it holds. -/
  success : Bool
  /-- Why it does not. -/
  msg : Option String
deriving Repr, DecidableEq

/-- What ended a pass. -/
structure StepFailureReport where
  /-- The browser of the pass. -/
  browser : String
  /-- The position in the list of steps followed by validations. -/
  index : Nat
  /-- What was being done. -/
  action : String
  /-- What went wrong. -/
  msg : String
deriving Repr, DecidableEq

/-- A report of either kind. -/
inductive Report
  | validation (report : ValidationReport)
  | stepFailure (report : StepFailureReport)
deriving Repr, DecidableEq

namespace ValidationReport

/-- The record form. -/
def shape : Shape :=
  ⟨"ValidationReport", [("targetBrowser", true), ("type", true), ("target", true),
    ("state", true), ("passed", true), ("msg", false)], false⟩

/-- Take one field of the record. -/
def takeField (report : ValidationReport) (key : String) (draft : Draft) :
    Decoded ValidationReport :=
  if key = "targetBrowser" then do
    return { report with browser := ← Json.decodeString draft }
  else if key = "type" then do
    return { report with validationType := ← Json.decodeString draft }
  else if key = "target" then do
    return { report with target := ← Json.decodeString draft }
  else if key = "state" then do
    return { report with state := ← Json.decodeString draft }
  else if key = "passed" then do
    return { report with success := ← Json.decodeBool draft }
  else do
    return { report with msg := ← Json.decodeOptional Json.decodeString draft }

/-- The record of a report. -/
def record (report : ValidationReport) : Json :=
  .object ([("targetBrowser", .string report.browser), ("type", .string report.validationType),
    ("target", .string report.target), ("state", .string report.state),
    ("passed", .bool report.success)] ++
    Members.optional "msg" (report.msg.map .string))

end ValidationReport

namespace StepFailureReport

/-- The record form. -/
def shape : Shape :=
  ⟨"StepFailureReport", [("targetBrowser", true), ("stepIndex", true), ("action", true),
    ("msg", true)], false⟩

/-- Take one field of the record. -/
def takeField (report : StepFailureReport) (key : String) (draft : Draft) :
    Decoded StepFailureReport :=
  if key = "targetBrowser" then do
    return { report with browser := ← Json.decodeString draft }
  else if key = "stepIndex" then do
    return { report with index := ← Json.decodeWord "usize" draft }
  else if key = "action" then do
    return { report with action := ← Json.decodeString draft }
  else do
    return { report with msg := ← Json.decodeString draft }

/-- The record of a report. -/
def record (report : StepFailureReport) : Json :=
  .object [("targetBrowser", .string report.browser), ("stepIndex", Json.ofNat report.index),
    ("action", .string report.action), ("msg", .string report.msg)]

end StepFailureReport

namespace Report

/-- The browser of the pass. -/
def browser : Report → String
  | validation report => report.browser
  | stepFailure report => report.browser

/-- Whether all is well; what ends a pass never is. -/
def success : Report → Bool
  | validation report => report.success
  | stepFailure _ => false

/-- Whether the report says what ended a pass. -/
def critical : Report → Bool
  | validation _ => false
  | stepFailure _ => true

/-- What went wrong. -/
def msg : Report → Option String
  | validation report => report.msg
  | stepFailure report => some report.msg

/-- The report of a validation. -/
def validation? : Report → Option ValidationReport
  | validation report => some report
  | stepFailure _ => none

/-- The report of a step failure. -/
def stepFailure? : Report → Option StepFailureReport
  | validation _ => none
  | stepFailure report => some report

/-- The key of a validation's report. -/
def validationKey : String := "validationReport"

/-- The key of a step failure's report. -/
def stepFailureKey : String := "stepFailureReport"

/-- A report in JSON. -/
def toJson : Report → Json
  | validation report => .object [(validationKey, report.record)]
  | stepFailure report => .object [(stepFailureKey, report.record)]

/-- Decode the contents of a report whose kind is named by `key`. -/
def decodeKind (key : String) (contents : Option Draft) : Decoded Report :=
  if key = validationKey then
    match contents with
    | none => .error (.invalidType .bareVariant "newtype variant")
    | some draft => (Json.decodeRecord ValidationReport.shape ⟨"", "", "", "", false, none⟩
        ValidationReport.takeField draft).map .validation
  else if key = stepFailureKey then
    match contents with
    | none => .error (.invalidType .bareVariant "newtype variant")
    | some draft => (Json.decodeRecord StepFailureReport.shape ⟨"", 0, "", ""⟩
        StepFailureReport.takeField draft).map .stepFailure
  else .error (.unknownVariant key [validationKey, stepFailureKey])

/-- Decode a report that is in memory. -/
def decode : Draft → Decoded Report
  | .string key => decodeKind key none
  | .object [(key, contents)] _ => decodeKind key (some contents)
  | .object _ _ => .error (.invalidValue .map "map with a single key")
  | other => .error (Json.refuse "string or map" other)

/-- Read a JSON value as a report. -/
def ofJson (value : Json) : Result Report :=
  (decode value.draft).mapError .json

/-- Read a text as a JSON value, for conversion. -/
def parseText (text : String) : Result Json := (Json.parse text).mapError .json

/-- Read a text as a report. -/
def ofText (text : String) : Result Report := do
  ofJson (← parseText text)

/-- The text of a report. -/
def text (report : Report) : String := report.toJson.text

/-- The indented text of a report. -/
def prettyText (report : Report) : String := report.toJson.prettyText

end Report

namespace ValidationReport

/-- Read a text as the report of a validation. -/
def ofText (text : String) : Result ValidationReport := do
  match ← Report.ofText text with
  | .validation report => return report
  | .stepFailure _ =>
    .error (.invalidFile "expected a validationReport, found a stepFailureReport")

end ValidationReport

namespace StepFailureReport

/-- Read a text as the report of a step failure. -/
def ofText (text : String) : Result StepFailureReport := do
  match ← Report.ofText text with
  | .stepFailure report => return report
  | .validation _ =>
    .error (.invalidFile "expected a stepFailureReport, found a validationReport")

end StepFailureReport

end PageCheck
