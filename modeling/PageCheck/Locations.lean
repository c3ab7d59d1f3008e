import PageCheck.Expression.Resolver

/-!
# Locations

Where the configuration and the log are kept. The directories of the user follow the environment:
one that is named there counts if it is absolute, and otherwise it lies in the home directory.
-/

namespace PageCheck.Locations

open Expression (Environment)
open Unicode (splitOnChar)

/-- The name of the program in directories. -/
def programName : String := "ui-validation"

/-- The environment variable that names the configuration file. -/
def configVariable : String := "UI_VALIDATION_CONFIG"

/-- A path below a directory. -/
def join (directory name : String) : String :=
  if directory.isEmpty || directory.endsWith "/" then directory ++ name
  else directory ++ "/" ++ name

/-- The home directory. -/
def home? (environment : Environment) : Option String :=
  (environment.get? "HOME").filter (· != "")

/-- A directory of the user: the one that a variable names, or one in the home directory. -/
def userDirectory? (environment : Environment) (named inHome : String) : Option String := do
  let home ← home? environment
  return ((environment.get? named).filter (·.startsWith "/")).getD (join home inHome)

/-- The directory of the configuration. -/
def configDirectory? (environment : Environment) : Option String :=
  (userDirectory? environment "XDG_CONFIG_HOME" ".config").map (join · programName)

/-- The configuration file: the one that its variable names, or the one of the user. -/
def configFile? (environment : Environment) : Option String :=
  match (environment.get? configVariable).filter (· != "") with
  | some path => some path
  | none => (configDirectory? environment).map (join · "config.toml")

/-- The name of the log file where none is given. -/
def logName : String := programName ++ ".log"

/-- The log file at a path. A path that ends on the way up is that of a directory, in which the log
has its usual name; a path without names leads to the directory at hand. -/
def logFileAt (path : String) : String :=
  let names := (((splitOnChar '/' path.toList).filter fun name =>
    !name.isEmpty && name != ['.'])).map String.ofList
  let directory := String.join ((if path.startsWith "/" then ["/"] else []) ++
    names.dropLast.map (· ++ "/"))
  match names.getLast? with
  | none => logName
  | some ".." => directory ++ logName
  | some name => directory ++ name

/-- The directory of the log. -/
def logDirectory? (environment : Environment) : Option String :=
  (userDirectory? environment "XDG_DATA_HOME" ".local/share").map
    fun directory => join (join directory programName) "logs"

/-- The log file, unless another one is asked for. -/
def logFile? (environment : Environment) : Option String :=
  (logDirectory? environment).map (join · logName)

end PageCheck.Locations
