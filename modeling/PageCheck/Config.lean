import PageCheck.Error
import PageCheck.Options
import PageCheck.Toml.Document
import PageCheck.Unicode.Casing

/-!
# Configuration

What a configuration file can set, and how it is read. A section is a table with its settings, or a
list of them in order; what is not set has its usual value, and what is not known is passed over.
-/

namespace PageCheck

/-- Settings for runs. -/
structure Defaults where
  /-- The browsers of a file that names none. -/
  browsers : List String
  /-- Whether browsers run without a visible window. -/
  headless : Bool
  /-- Whether browsers run without their sandbox. -/
  noSandbox : Bool
  /-- Whether results are indented. -/
  pretty : Bool
deriving Repr

/-- Where browsers are reached. -/
structure Endpoints where
  /-- Where a browser without an entry is reached. -/
  defaultUrl : String
  /-- Where others are reached, in the order in which they are looked through. -/
  named : List (String × String)
deriving Repr

/-- Everything that a configuration sets. -/
structure Config where
  /-- Settings for runs. -/
  defaults : Defaults
  /-- The times that runs wait. -/
  timeouts : Timeouts
  /-- Where browsers are reached. -/
  endpoints : Endpoints
  /-- Definitions files that every run starts from. -/
  definitions : List String
deriving Repr

/-- The settings of a run without a configuration. -/
def Defaults.standard : Defaults := ⟨["Firefox"], true, false, false⟩

namespace Endpoints

/-- The endpoints of a run without a configuration. -/
def standard : Endpoints := ⟨"http://localhost:4444", []⟩

/-- Where a browser is reached: at the first entry of its name, whatever the case of its letters, or
else at the default. -/
def endpointFor (endpoints : Endpoints) (browser : String) : String :=
  match endpoints.named.find? fun entry => Unicode.eqIgnoringAsciiCase entry.1 browser with
  | some (_, url) => url
  | none => endpoints.defaultUrl

end Endpoints

namespace Config

/-- The configuration of a run without a file. -/
def standard : Config := ⟨.standard, .standard, .standard, []⟩

/-- A text. -/
def text? : Toml → Option String
  | .string text => some text
  | _ => none

/-- A truth value. -/
def bool? : Toml → Option Bool
  | .bool value => some value
  | _ => none

/-- A natural number. -/
def word? : Toml → Option Nat
  | .integer value => if 0 ≤ value then some value.toNat else none
  | _ => none

/-- A list of texts. -/
def texts? : Toml → Option (List String)
  | .array items => items.mapM text?
  | .tables [] => some []
  | _ => none

/-- The name under which a date counts as a setting. -/
def dateKey : String := "$__toml_private_datetime"

/-- The settings of a table, by name. A date counts as a table with itself as the only setting. -/
def entries? : Toml → Option Toml.Entries
  | .table _ entries => some entries
  | .braces entries => some entries
  | .date text => some [(dateKey, .string text)]
  | _ => none

/-- The settings of a section whose names are given in order. -/
def section? (names : List String) : Toml → Option Toml.Entries
  | .array items => some (names.zip items)
  | .tables elements => some (names.zip (elements.map (.table .header)))
  | value => entries? value

/-- A setting, or its usual value if it is not set. -/
def setting {α : Type} (read : Toml → Option α) (name : String) (usual : α)
    (entries : Toml.Entries) : Option α :=
  match Toml.find? name entries with
  | some value => read value
  | none => some usual

/-- The settings for runs. -/
def defaults? (value : Toml) : Option Defaults := do
  let entries ← section? ["browsers", "headless", "no_sandbox", "pretty"] value
  return ⟨← setting texts? "browsers" Defaults.standard.browsers entries,
    ← setting bool? "headless" Defaults.standard.headless entries,
    ← setting bool? "no_sandbox" Defaults.standard.noSandbox entries,
    ← setting bool? "pretty" Defaults.standard.pretty entries⟩

/-- The times that runs wait. -/
def timeouts? (value : Toml) : Option Timeouts := do
  let entries ← section? ["wait_default_secs", "poll_interval_ms", "session_start_secs"] value
  return ⟨← setting word? "wait_default_secs" Timeouts.standard.waitSeconds entries,
    ← setting word? "poll_interval_ms" Timeouts.standard.pollMilliseconds entries,
    ← setting word? "session_start_secs" Timeouts.standard.sessionStartSeconds entries⟩

/-- Where browsers are reached: every setting but the default is an entry. -/
def endpoints? (value : Toml) : Option Endpoints := do
  let entries ← entries? value
  let defaultUrl ← setting text? "default_url" Endpoints.standard.defaultUrl entries
  let named ← (entries.filter fun entry => entry.1 != "default_url").mapM fun (name, value) => do
    return (name, ← text? value)
  return ⟨defaultUrl, named⟩

/-- The configuration that a document sets. -/
def ofEntries? (entries : Toml.Entries) : Option Config := do
  return ⟨← setting defaults? "defaults" Defaults.standard entries,
    ← setting timeouts? "timeouts" Timeouts.standard entries,
    ← setting endpoints? "webdriver" Endpoints.standard entries,
    ← setting texts? "definitions" [] entries⟩

/-- Read a configuration. -/
def ofText (text : String) : Result Config :=
  match Toml.parse? text with
  | none => .error (.invalidConfig "not a TOML document")
  | some entries =>
    match ofEntries? entries with
    | none => .error (.invalidConfig "a setting has a value of the wrong kind")
    | some config => .ok config

end Config

end PageCheck
