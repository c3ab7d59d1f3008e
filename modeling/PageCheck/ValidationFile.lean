import PageCheck.Error
import PageCheck.Locator

/-!
# Validation files

A validation file lists browsers, definitions, setup steps and validations. Names of actions,
types, states and browsers are plain texts here; they get their meaning when a pass is planned.
The records are strict: a key that is not listed is refused. Absent optional parts and empty
metadata are left out when a file is written, everything else is written even where it is empty.
-/

namespace PageCheck

open Json (Draft Decoded Decoder Shape)

/-- A setup step as a file writes it. -/
structure StepDefinition where
  /-- The name of the action. -/
  action : String
  /-- The element or page it is about. -/
  locator : Option Locator
  /-- The parameters of the action. -/
  parameters : Members
  /-- The name under which a value it yields is kept. -/
  outputName : Option String
deriving Repr

/-- A validation as a file writes it. -/
structure ValidationDefinition where
  /-- The name of the type of validation. -/
  validationType : String
  /-- What is looked at. -/
  target : String
  /-- The name of the state that should hold. -/
  state : String
  /-- The value that the state speaks of. -/
  value : Option Json
  /-- The parameters of the validation. -/
  parameters : Members
deriving Repr

/-- A validation file. -/
structure ValidationFile where
  /-- What the file is for. -/
  description : Option String
  /-- The names of the browsers to run in. -/
  targetBrowsers : List String
  /-- The page to open before the first step. -/
  path : Option String
  /-- The definitions that expressions refer to. -/
  definitions : Members
  /-- The setup steps. -/
  steps : List StepDefinition
  /-- The validations. -/
  validations : List ValidationDefinition
  /-- Whatever else the author wants to keep with the file. -/
  metadata : Members
deriving Repr

namespace StepDefinition

/-- The record form. -/
def shape : Shape :=
  ⟨"StepDef", [("type", true), ("locator", false), ("parameters", false), ("outputName", false)],
    true⟩

/-- Take one field of the record. -/
def takeField (step : StepDefinition) (key : String) (draft : Draft) : Decoded StepDefinition :=
  if key = "type" then do
    return { step with action := ← Json.decodeString draft }
  else if key = "locator" then do
    return { step with locator := ← Json.decodeOptional Locator.decode draft }
  else if key = "parameters" then do
    return { step with parameters := ← Json.decodeMap draft }
  else do
    return { step with outputName := ← Json.decodeOptional Json.decodeString draft }

/-- A step. -/
def decode : Decoder StepDefinition := Json.decodeRecord shape ⟨"", none, [], none⟩ takeField

/-- The record of a step. -/
def toJson (step : StepDefinition) : Json :=
  .object ([("type", .string step.action)] ++
    Members.optional "locator" (step.locator.map Locator.toJson) ++
    [("parameters", .object step.parameters)] ++
    Members.optional "outputName" (step.outputName.map .string))

end StepDefinition

namespace ValidationDefinition

/-- The record form. -/
def shape : Shape :=
  ⟨"ValidationDef", [("type", true), ("target", false), ("state", true), ("value", false),
    ("parameters", false)], true⟩

/-- Take one field of the record. -/
def takeField (validation : ValidationDefinition) (key : String) (draft : Draft) :
    Decoded ValidationDefinition :=
  if key = "type" then do
    return { validation with validationType := ← Json.decodeString draft }
  else if key = "target" then do
    return { validation with target := ← Json.decodeString draft }
  else if key = "state" then do
    return { validation with state := ← Json.decodeString draft }
  else if key = "value" then do
    return { validation with value := ← Json.decodeOptional Json.decodeValue draft }
  else do
    return { validation with parameters := ← Json.decodeMap draft }

/-- A validation. -/
def decode : Decoder ValidationDefinition :=
  Json.decodeRecord shape ⟨"", "", "", none, []⟩ takeField

/-- The record of a validation. -/
def toJson (validation : ValidationDefinition) : Json :=
  .object ([("type", .string validation.validationType),
    ("target", .string validation.target), ("state", .string validation.state)] ++
    Members.optional "value" validation.value ++
    [("parameters", .object validation.parameters)])

end ValidationDefinition

namespace ValidationFile

/-- The record form. -/
def shape : Shape :=
  ⟨"ValidationFile", [("description", false), ("targetBrowsers", false), ("path", false),
    ("definitions", false), ("steps", false), ("validations", false), ("metadata", false)], true⟩

/-- Take one field of the record. -/
def takeField (file : ValidationFile) (key : String) (draft : Draft) : Decoded ValidationFile :=
  if key = "description" then do
    return { file with description := ← Json.decodeOptional Json.decodeString draft }
  else if key = "targetBrowsers" then do
    return { file with targetBrowsers := ← Json.decodeList Json.decodeString draft }
  else if key = "path" then do
    return { file with path := ← Json.decodeOptional Json.decodeString draft }
  else if key = "definitions" then do
    return { file with definitions := ← Json.decodeMap draft }
  else if key = "steps" then do
    return { file with steps := ← Json.decodeList StepDefinition.decode draft }
  else if key = "validations" then do
    return { file with validations := ← Json.decodeList ValidationDefinition.decode draft }
  else do
    return { file with metadata := ← Json.decodeMap draft }

/-- A file with nothing in it. -/
def empty : ValidationFile := ⟨none, [], none, [], [], [], []⟩

/-- A validation file. -/
def decode : Decoder ValidationFile := Json.decodeRecord shape empty takeField

/-- The record of a file. -/
def toJson (file : ValidationFile) : Json :=
  .object (Members.optional "description" (file.description.map .string) ++
    [("targetBrowsers", .array (file.targetBrowsers.map .string))] ++
    Members.optional "path" (file.path.map .string) ++
    [("definitions", .object file.definitions),
      ("steps", .array (file.steps.map StepDefinition.toJson)),
      ("validations", .array (file.validations.map ValidationDefinition.toJson))] ++
    (if file.metadata.isEmpty then [] else [("metadata", .object file.metadata)]))

/-- Read a text as a validation file. -/
def ofText (text : String) : Result ValidationFile :=
  match Json.decodeText decode text with
  | .ok file => .ok file
  | .error error => .error (.invalidFile error.message)

/-- Read the text of the file at a path as a validation file. -/
def ofTextAt (path text : String) : Result ValidationFile :=
  match Json.decodeText decode text with
  | .ok file => .ok file
  | .error error => .error (.invalidFile (path ++ ": " ++ error.message))

/-- The number of steps and validations. -/
def size (file : ValidationFile) : Nat := file.steps.length + file.validations.length

/-- Whether there is nothing to do. -/
def isEmpty (file : ValidationFile) : Bool := file.size == 0

end ValidationFile

end PageCheck
