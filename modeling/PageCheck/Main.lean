import PageCheck.Browser.WebDriver
import PageCheck.CommandLine.Conduct

/-!
# The program

The command line of the program: files, environment and terminal on one side, the invocation on the
other. The program has no connection to other machines of its own, so real browsers are out of reach
and a run that needs one reports that its session did not start.
-/

namespace PageCheck.Main

open CommandLine

/-- Why something could not be done to a file. -/
def reasonOf : IO.Error → String
  | .noFileOrDirectory _ _ _ => Files.missing
  | .inappropriateType _ 20 _ => Files.notDirectory
  | .inappropriateType _ _ _ => Files.isDirectory
  | .permissionDenied _ code details =>
    details ++ " (os error " ++ toString code ++ ")"
  | error => toString error

/-- The text of a file. -/
def readText (path : String) : IO (Except String String) := do
  try
    match String.fromUTF8? (← IO.FS.readBinFile path) with
    | some text => return .ok text
    | none => return .error "stream did not contain valid UTF-8"
  catch error => return .error (reasonOf error)

/-- A reader of the files at some paths. -/
def readerOf (paths : List String) : IO FileReader := do
  let known ← paths.mapM fun path => do return (path, ← readText path)
  return fun path => (known.lookup path).getD (.error Files.missing)

/-- The environment variables. -/
def readEnvironment : IO Expression.Environment := do
  match ← readText "/proc/self/environ" with
  | .error _ => return []
  | .ok text =>
    return (Unicode.splitOnChar '\x00' text.toList).filterMap fun entry =>
      match entry.dropWhile (· != '=') with
      | [] => none
      | _ :: value => some (String.ofList (entry.takeWhile (· != '=')), String.ofList value)

/-- The directory of a file, if its path has one. -/
def directoryOf? (path : String) : Option String :=
  match path.toList.reverse.dropWhile (· != '/') with
  | [] => none
  | directory => some (String.ofList directory.reverse)

/-- Have a log file, with the directories that lead there; whether that succeeds. -/
def keepLog (path : String) : IO Bool := do
  try
    match directoryOf? path with
    | some directory => IO.FS.createDirAll directory
    | none => pure ()
  catch error =>
    IO.eprintln ("Warning: Could not create log directory: " ++ reasonOf error)
  try
    let _ ← IO.FS.Handle.mk path .append
    return true
  catch _ => return false

/-- Do one thing. -/
def performEffect : Effect → IO (Except String Unit)
  | .print text => do
    IO.print text
    return .ok ()
  | .tell text => do
    IO.eprint text
    return .ok ()
  | .write path text => do
    try
      IO.FS.writeFile path text
      return .ok ()
    catch error => return .error (reasonOf error)

/-- Do one thing after the other up to the first one that cannot be done. -/
def performAll (ending : Attempt Nat) : List Effect → IO (Attempt Nat)
  | [] => return ending
  | effect :: rest => do
    match ← performEffect effect with
    | .ok _ => performAll ending rest
    | .error reason => return .failed (.io reason)

/-- The way to real browsers, which leads nowhere. -/
def noLink : WebDriver.Link Unit :=
  ⟨fun _ world => (.error "no connection", world), fun _ world => world⟩

/-- Carry out an invocation once its log file is there. -/
def performLogged (environment : Expression.Environment) (invocation : Invocation) :
    IO (Attempt Nat) := do
  let onTerminal ← (← IO.getStdout).isTty
  let colored := Console.wantsColor environment onTerminal
  let host : Host := ⟨fun _ => .error Files.missing, environment, .empty, colored⟩
  let host := { host with read := ← readerOf (filesRead host invocation) }
  let host := { host with read := ← readerOf (filesRead host invocation) }
  let conduct :=
    conduct host (fun config => WebDriver.browser config.endpoints noLink) () invocation
  performAll conduct.ending conduct.effects

/-- Carry out an invocation. -/
def perform (invocation : Invocation) : IO (Attempt Nat) := do
  let environment ← readEnvironment
  match logFile? environment invocation with
  | none => performLogged environment invocation
  | some path =>
    if ← keepLog path then performLogged environment invocation else return .panicked noLog

/-- The options that every subcommand knows besides its own. -/
def sharedOptions : List OptionSpec := [configOption] ++ logOptions ++ [versionOption]

/-- Carry out a command line. -/
def run (arguments : List String) : IO UInt32 := do
  match readInvocation sharedOptions [] arguments with
  | .error stop =>
    IO.print stop.output
    IO.eprint stop.told
    return stop.exitStatus.toUInt32
  | .ok invocation =>
    let ending ← perform invocation
    IO.eprint (lastWords ending)
    return (exitStatus ending).toUInt32

end PageCheck.Main

/-- The program. -/
def main (arguments : List String) : IO UInt32 := PageCheck.Main.run arguments
