import PageCheck.Browser.Scripted
import PageCheck.Check
import PageCheck.CommandLine.Invocation
import PageCheck.Config
import PageCheck.Console
import PageCheck.Files
import PageCheck.Locations
import PageCheck.Run

/-!
# Carrying out an invocation

What an invocation does to the outside, in order, and how it ends. The result of a run goes to the
output before it goes to a file, and what people read comes last. An ending is an exit status or an
error; before an error that comes up in time, nothing is written at all.
-/

namespace PageCheck.CommandLine

open Expression (Environment)

/-- Something that is done to the outside. -/
inductive Effect
  /-- Write to the output. -/
  | print (text : String)
  /-- Write to where people read. -/
  | tell (text : String)
  /-- Write a file. -/
  | write (path text : String)
deriving Repr, DecidableEq

/-- What is done, and how it ends if all of it can be done. -/
structure Conduct where
  /-- What is done, in order. -/
  effects : List Effect
  /-- The exit status, or why there is none. -/
  ending : Attempt Nat

/-- What an invocation needs to know of the outside. -/
structure Host where
  /-- The files. -/
  read : FileReader
  /-- The environment variables. -/
  environment : Environment
  /-- The contributions of plugins. -/
  registry : Registry
  /-- Whether people read in colour. -/
  colored : Bool

namespace Conduct

/-- Do nothing but fail. -/
def failing (error : Error) : Conduct := ⟨[], .failed error⟩

end Conduct

/-- The configuration: the file that is named must be there, the usual one need not. -/
def loadConfig (host : Host) (path : Option String) : Result Config :=
  let load (path : String) : Result Config := do
    Config.ofText (← (host.read path).mapError (.fileRead path))
  match path with
  | some path =>
    if host.read.leadsSomewhere path then load path
    else .error (.config ("config file '" ++ path ++ "' does not exist"))
  | none =>
    match (Locations.configFile? host.environment).filter host.read.leadsSomewhere with
    | some path => load path
    | none => .ok .standard

/-- The validation file. -/
def loadInput (host : Host) : Input → Result ValidationFile
  | .inline text => ValidationFile.ofText text
  | .file path => do
    ValidationFile.ofTextAt path (← (host.read path).mapError (.fileRead path))

/-- The options of a run: those of the configuration, changed by the command line. -/
def optionsOf (defaults : Defaults) (choices : RunChoices) : RunOptions where
  debug := choices.debug
  headless := defaults.headless && !choices.headed && !choices.debug
  noSandbox := defaults.noSandbox || choices.noSandbox
  pretty := defaults.pretty || choices.pretty
  suppressExceptions := !choices.debug

/-- The context of a run, with every definitions file loaded. -/
def contextOf (host : Host) (invocation : Invocation) (config : Config) (choices : RunChoices) :
    Result Context := do
  let context := { host.registry.newContext (optionsOf config.defaults choices) with
    timeouts := config.timeouts }
  let option (name : String) : Option String := invocation.pluginOptions.lookup name
  let context := host.registry.configureContext option context
  (config.definitions ++ choices.definitions).foldlM
    (fun context path => context.loadFile host.read path) context

/-- The browsers of a run: those of the command line, or else of the file, or else of the
configuration. -/
def browsersOf (config : Config) (file : ValidationFile) (choices : RunChoices) : List String :=
  if !choices.browsers.isEmpty then choices.browsers
  else if !file.targetBrowsers.isEmpty then file.targetBrowsers
  else config.defaults.browsers

/-- What a run starts from. -/
structure Prepared where
  /-- The configuration. -/
  config : Config
  /-- The validation file. -/
  file : ValidationFile
  /-- The context. -/
  context : Context

/-- Get everything ready that a run starts from. -/
def prepare (host : Host) (invocation : Invocation) (choices : RunChoices) : Result Prepared := do
  let config ← loadConfig host invocation.config
  let file ← loadInput host choices.input
  return ⟨config, file, ← contextOf host invocation config choices⟩

/-- Validate in browsers of one kind. -/
def validateIn {World Session : Type} (host : Host) (browser : Browser World Session)
    (world : World) (prepared : Prepared) (choices : RunChoices) :
    Attempt ReportSummary × Context :=
  let done := Run.validate ⟨host.registry, host.environment, browser⟩ prepared.file
    (browsersOf prepared.config prepared.file choices) ⟨prepared.context, none, world⟩
  (done.result, done.scene.context)

/-- The text of a result. -/
def resultText (summary : ReportSummary) (context : Context) : String :=
  let result := Run.result summary context.outputs
  (if context.options.pretty then result.prettyText else result.text) ++ "\n"

/-- What is done once a run is through. -/
def present (host : Host) (choices : RunChoices) :
    Attempt ReportSummary × Context → Conduct
  | (.failed error, _) => .failing error
  | (.panicked message, _) => ⟨[], .panicked message⟩
  | (.returned summary, context) =>
    let text := resultText summary context
    ⟨[.print text] ++ (choices.output.map fun path => Effect.write path text).toList ++
        [.tell (Console.summaryText host.colored summary)],
      .returned (if summary.hasFailures then 1 else 0)⟩

/-- A run. Where the real browsers are and how they are reached comes from outside. -/
def conductRun {World Session : Type} (host : Host) (remote : Config → Browser World Session)
    (world : World) (invocation : Invocation) (choices : RunChoices) : Conduct :=
  match prepare host invocation choices with
  | .error error => .failing error
  | .ok prepared =>
    present host choices
      (if choices.dryRun then
        validateIn host (Scripted.browser .empty) .empty prepared choices
      else validateIn host (remote prepared.config) world prepared choices)

/-- A check. -/
def conductCheck (host : Host) (input : Input) : Conduct :=
  match loadInput host input with
  | .error error => .failing error
  | .ok file =>
    let findings := Check.findings host.registry file
    ⟨findings.map fun finding =>
        .tell (Console.findingText host.colored finding.passed finding.label finding.detail),
      .returned (if findings.all (·.passed) then 0 else 1)⟩

/-- The filters that a summary is asked for. -/
def filterOf (choices : SummaryChoices) : Filter :=
  .all ((choices.browser.map Filter.browser).toList ++
    (choices.validationType.map Filter.validationType).toList ++
    (choices.state.map Filter.state).toList ++
    (if choices.failed then [.success false] else []) ++
    (if choices.passed then [.success true] else []) ++
    (if choices.critical then [.critical] else []))

/-- A saved result. -/
def loadSummary (host : Host) (path : String) : Result ReportSummary := do
  ReportSummary.ofText (← (host.read path).mapError (.fileRead path))

/-- The summary of a saved result. -/
def conductSummary (host : Host) (choices : SummaryChoices) : Conduct :=
  match loadSummary host choices.report with
  | .error error => .failing error
  | .ok summary =>
    let shown := summary.filterBy (filterOf choices).selects
    ⟨[if choices.json then .print (shown.prettyText ++ "\n")
      else .tell (Console.summaryText host.colored shown)], .returned 0⟩

/-- What an invocation does. -/
def conduct {World Session : Type} (host : Host) (remote : Config → Browser World Session)
    (world : World) (invocation : Invocation) : Conduct :=
  match invocation.task with
  | .run choices => conductRun host remote world invocation choices
  | .check input => conductCheck host input
  | .summary choices => conductSummary host choices

/-- The file that an input is read from. -/
def Input.files : Input → List String
  | .inline _ => []
  | .file path => [path]

/-- The files that an invocation reads, as far as those that can be read already tell. -/
def filesRead (host : Host) (invocation : Invocation) : List String :=
  match invocation.task with
  | .run choices =>
    let configured := match loadConfig host invocation.config with
      | .ok config => config.definitions
      | .error _ => []
    (invocation.config <|> Locations.configFile? host.environment).toList ++
      choices.input.files ++ configured ++ choices.definitions
  | .check input => input.files
  | .summary choices => [choices.report]

/-- The log file that is asked for. -/
def logFile? (environment : Environment) (invocation : Invocation) : Option String :=
  let usual := if invocation.log then Locations.logFile? environment else none
  (invocation.logFile <|> usual).map Locations.logFileAt

/-- What the program says when it gives up because there can be no log file. -/
def noLog : String := "initializing rolling file appender failed"

/-- What an invocation leaves behind. -/
structure Aftermath where
  /-- The output. -/
  output : String
  /-- What people read. -/
  told : String
  /-- The files. -/
  files : Files
  /-- The exit status, or why there is none. -/
  ending : Attempt Nat

/-- Do one thing after the other up to the first one that cannot be done. -/
def Conduct.carryOut (conduct : Conduct) (files : Files) : Aftermath :=
  go conduct.effects "" "" files
where
  /-- Do what is left, after what was written so far. -/
  go : List Effect → String → String → Files → Aftermath
    | [], output, told, files => ⟨output, told, files, conduct.ending⟩
    | .print text :: rest, output, told, files => go rest (output ++ text) told files
    | .tell text :: rest, output, told, files => go rest output (told ++ text) files
    | .write path text :: rest, output, told, files =>
      match files.write path text with
      | .ok files => go rest output told files
      | .error reason => ⟨output, told, files, .failed (.io reason)⟩

/-- Have the log file that is asked for, and then do what is to be done with the files as they are
by then. Without the log file nothing is done. -/
def carryOutLogged (log : Option String) (conduct : Files → Conduct) (files : Files) : Aftermath :=
  match log.map files.provide with
  | none => (conduct files).carryOut files
  | some (some files) => (conduct files).carryOut files
  | some none => ⟨"", "", files, .panicked noLog⟩

/-- The version of the program, as it tells it. -/
def versionText : String := Locations.programName ++ " 0.1.0\n"

/-- How the program is used, as it tells it. -/
def helpText : String :=
  "Validates web pages in browsers and prints a summary of reports.\n\n" ++
    "Usage: " ++ Locations.programName ++ " [OPTIONS] <COMMAND>\n\nCommands:\n" ++
    "  run      Validate a file in its target browsers\n" ++
    "  check    See whether every name in a file means something\n" ++
    "  summary  Filter and print a saved result\n"

/-- What is told about a fault. -/
def Fault.message : Fault → String
  | missingSubcommand => "a subcommand is required"
  | invalidSubcommand => "there is no such subcommand"
  | missingRequiredArgument => "an argument is missing"
  | unknownArgument => "there is no such argument"
  | invalidValue => "an option lacks its value"
  | tooManyValues => "a switch takes no value"
  | argumentConflict => "an option is given twice, or excluded by another one"

/-- What the program prints before it stops. -/
def Stop.output : Stop → String
  | .help => helpText
  | .version => versionText
  | .fault _ => ""

/-- What the program tells before it stops. -/
def Stop.told : Stop → String
  | .help | .version => ""
  | .fault cause => "error: " ++ cause.message ++ "\n"

/-- The exit status of the program when it stops. -/
def Stop.exitStatus : Stop → Nat
  | .help | .version => 0
  | .fault _ => 2

/-- What the program tells at its end. -/
def lastWords : Attempt Nat → String
  | .returned _ => ""
  | .failed error => "Error: " ++ error.message ++ "\n"
  | .panicked message => message ++ "\n"

/-- The exit status of the program: an error has one of its own, and so has giving up. -/
def exitStatus : Attempt Nat → Nat
  | .returned status => status
  | .failed _ => 2
  | .panicked _ => 101

end PageCheck.CommandLine
