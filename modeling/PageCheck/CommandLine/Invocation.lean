import PageCheck.CommandLine.Arguments

/-!
# Invocations

What a command line can ask for: a run, a check or the summary of a saved result. Options that every
subcommand knows may stand before or after its name; given on both sides, the one after it counts.
-/

namespace PageCheck.CommandLine

/-- Where a validation file comes from. -/
inductive Input
  /-- The file at a path. -/
  | file (path : String)
  /-- The argument itself. -/
  | inline (text : String)
deriving Repr, DecidableEq

/-- What a run is asked to do. -/
structure RunChoices where
  /-- The validation file. -/
  input : Input
  /-- The browsers, in place of those that the file or the configuration names. -/
  browsers : List String
  /-- Definitions files, in the order in which they are loaded. -/
  definitions : List String
  /-- Whether the run is for finding faults in the file. -/
  debug : Bool
  /-- Whether browsers show their windows. -/
  headed : Bool
  /-- Whether browsers run without their sandbox. -/
  noSandbox : Bool
  /-- Whether the result is indented. -/
  pretty : Bool
  /-- The file that the result is written to as well. -/
  output : Option String
  /-- Whether a browser without pages stands in for the real ones. -/
  dryRun : Bool
deriving Repr, DecidableEq

/-- What of a saved result is shown. -/
structure SummaryChoices where
  /-- The file of the result. -/
  report : String
  /-- Only the reports on this browser. -/
  browser : Option String
  /-- Only the reports on validations of this type. -/
  validationType : Option String
  /-- Only the reports on validations of this state. -/
  state : Option String
  /-- Only failures. -/
  failed : Bool
  /-- Only successes. -/
  passed : Bool
  /-- Only critical failures. -/
  critical : Bool
  /-- Whether it is shown as JSON. -/
  json : Bool
deriving Repr, DecidableEq

/-- What the program is asked to do. -/
inductive Task
  /-- Validate a file. -/
  | run (choices : RunChoices)
  /-- See whether the names in a file mean anything. -/
  | check (input : Input)
  /-- Show a saved result. -/
  | summary (choices : SummaryChoices)
deriving Repr, DecidableEq

/-- A command line that can be carried out. -/
structure Invocation where
  /-- The configuration file, in place of the usual one. -/
  config : Option String
  /-- The log file that is asked for. -/
  logFile : Option String
  /-- Whether the usual log file is asked for. -/
  log : Bool
  /-- The options of plugins with their values. -/
  pluginOptions : List (String × String)
  /-- What is to be done. -/
  task : Task
deriving Repr, DecidableEq

/-- The option that names the configuration file. -/
def configOption : OptionSpec := ⟨"config", none, .path⟩

/-- The options about the log. -/
def logOptions : List OptionSpec :=
  [⟨"verbose", some 'v', .counter⟩, ⟨"log-file", none, .path⟩, ⟨"log", none, .switch⟩]

/-- The option of a plugin. -/
def pluginOption (name : String) : OptionSpec := ⟨name, none, .text⟩

/-- The option that asks how the program is used. -/
def helpOption : OptionSpec := ⟨"help", some 'h', .help⟩

/-- The option that asks for the version of the program. -/
def versionOption : OptionSpec := ⟨"version", some 'V', .version⟩

/-- The switch that says that the operand is a validation file itself. -/
def inlineOption : OptionSpec := ⟨"json", some 'j', .switch⟩

/-- The options of a run. -/
def runOptions : List OptionSpec :=
  [inlineOption, ⟨"browser", some 'b', .texts⟩, ⟨"definitions", some 'd', .paths⟩,
    ⟨"debug", none, .switch⟩, ⟨"headed", none, .switch⟩, ⟨"no-sandbox", none, .switch⟩,
    ⟨"pretty", some 'P', .switch⟩, ⟨"output", some 'o', .path⟩, ⟨"dry-run", none, .switch⟩]

/-- The options of a summary. -/
def summaryOptions : List OptionSpec :=
  [⟨"browser", some 'b', .text⟩, ⟨"type", some 't', .text⟩, ⟨"state", some 's', .text⟩,
    ⟨"failed", none, .switch⟩, ⟨"passed", none, .switch⟩, ⟨"critical", none, .switch⟩,
    ⟨"json", none, .switch⟩]

/-- The pairs of options that exclude each other wherever both are known. -/
def exclusivePairs : List (String × String) := [("log", "log-file"), ("failed", "passed")]

/-- The name of the subcommand that tells how the program is used. -/
def helpCommand : String := "help"

/-- The subcommands that do something. -/
def taskNames : List String := ["run", "check", "summary"]

/-- The level before the name of a subcommand. -/
def topLevel (shared : List OptionSpec) : Level :=
  ⟨shared ++ [helpOption], exclusivePairs, none, taskNames ++ [helpCommand]⟩

/-- The level after the name of a subcommand. -/
def taskLevel (shared options : List OptionSpec) (operand : OptionKind) : Level :=
  ⟨options ++ shared.filter (·.kind != .version) ++ [helpOption], exclusivePairs, some operand, []⟩

/-- The level after the name of a subcommand that does something. -/
def levelOf (shared : List OptionSpec) (name : String) : Level :=
  if name = "run" then taskLevel shared runOptions .text
  else if name = "check" then taskLevel shared [inlineOption] .text
  else taskLevel shared summaryOptions .path

/-- The validation file that a level asks for. -/
def inputOf (operand : String) (reading : Reading) : Input :=
  if reading.has "json" then .inline operand else .file operand

/-- What a subcommand is asked to do. -/
def taskOf (name operand : String) (reading : Reading) : Task :=
  if name = "run" then
    .run { input := inputOf operand reading
           browsers := reading.values "browser"
           definitions := reading.values "definitions"
           debug := reading.has "debug"
           headed := reading.has "headed"
           noSandbox := reading.has "no-sandbox"
           pretty := reading.has "pretty"
           output := reading.value? "output"
           dryRun := reading.has "dry-run" }
  else if name = "check" then .check (inputOf operand reading)
  else
    .summary { report := operand
               browser := reading.value? "browser"
               validationType := reading.value? "type"
               state := reading.value? "state"
               failed := reading.has "failed"
               passed := reading.has "passed"
               critical := reading.has "critical"
               json := reading.has "json" }

/-- What the subcommand that tells how the program is used comes to. -/
def helpOn : List String → Stop
  | [] => .help
  | [name] =>
    if taskNames.contains name || name = helpCommand then .help else .fault .invalidSubcommand
  | _ => .fault .invalidSubcommand

/-- Read the level of a subcommand. -/
def readTask (shared : List OptionSpec) (name : String) (arguments : List String) :
    Halted (Reading × Task) := do
  let level := levelOf shared name
  let (reading, _) ← readLevel level arguments .start
  let reading ← closeLevel level reading
  match reading.operand with
  | some operand => return (reading, taskOf name operand reading)
  | none => throw (.fault .missingRequiredArgument)

/-- Read a command line. The options in `shared` are those that every subcommand knows besides its
own, and the one that asks for the version, which only counts before the name. -/
def readInvocation (shared : List OptionSpec) (pluginNames : List String)
    (arguments : List String) : Halted Invocation := do
  let shared := shared ++ pluginNames.map pluginOption
  let level := topLevel shared
  let (outer, found) ← readLevel level arguments .start
  match found with
  | none =>
    let _ ← outer.settle level
    throw (.fault .missingSubcommand)
  | some (name, rest) =>
    if name = helpCommand then throw (helpOn rest)
    let (inner, task) ← readTask shared name rest
    let outer ← closeLevel level outer
    let value? (name : String) : Option String := inner.value? name <|> outer.value? name
    return { config := value? configOption.long
             logFile := value? "log-file"
             log := inner.has "log" || outer.has "log"
             pluginOptions := pluginNames.filterMap fun name => (value? name).map (name, ·)
             task }

end PageCheck.CommandLine
