import PageCheck.Json.Value

/-!
# Run options and timeouts

Five switches that say how a run goes about its work, and the times it waits.
-/

namespace PageCheck

/-- The switches of a run. -/
structure RunOptions where
  /-- Whether the run is for finding faults in a file. -/
  debug : Bool
  /-- Whether browsers run without a visible window. -/
  headless : Bool
  /-- Whether browsers run without their sandbox. -/
  noSandbox : Bool
  /-- Whether results are indented. -/
  pretty : Bool
  /-- Whether an error becomes a report instead of ending the pass. -/
  suppressExceptions : Bool
deriving Repr, DecidableEq

/-- The names of the switches. -/
inductive RunFlag
  | debug | headless | noSandbox | pretty | suppressExceptions
deriving Repr, DecidableEq

namespace RunFlag

/-- Every switch in order. -/
def all : List RunFlag := [debug, headless, noSandbox, pretty, suppressExceptions]

/-- The name of a switch in records. -/
def name : RunFlag → String
  | debug => "debug"
  | headless => "headless"
  | noSandbox => "noSandbox"
  | pretty => "pretty"
  | suppressExceptions => "suppressExceptions"

end RunFlag

namespace RunOptions

/-- The options of an ordinary run. -/
def standard : RunOptions := ⟨false, true, false, false, true⟩

/-- The options for finding faults: a visible browser, and errors end the pass. -/
def debugging : RunOptions := ⟨true, false, false, false, false⟩

/-- Turn one switch. -/
def set (options : RunOptions) (flag : RunFlag) (on : Bool) : RunOptions :=
  match flag with
  | .debug => { options with debug := on }
  | .headless => { options with headless := on }
  | .noSandbox => { options with noSandbox := on }
  | .pretty => { options with pretty := on }
  | .suppressExceptions => { options with suppressExceptions := on }

/-- How a switch stands. -/
def isSet (options : RunOptions) : RunFlag → Bool
  | .debug => options.debug
  | .headless => options.headless
  | .noSandbox => options.noSandbox
  | .pretty => options.pretty
  | .suppressExceptions => options.suppressExceptions

/-- The record of the options. -/
def toJson (options : RunOptions) : Json :=
  .object (RunFlag.all.map fun flag => (flag.name, .bool (options.isSet flag)))

end RunOptions

/-- The times that a run waits. -/
structure Timeouts where
  /-- How long a waiting step waits unless it says otherwise, in seconds. -/
  waitSeconds : Nat
  /-- The time between two looks of a waiting step, in milliseconds. -/
  pollMilliseconds : Nat
  /-- How long a session may take to start, in seconds. -/
  sessionStartSeconds : Nat
deriving Repr, DecidableEq

namespace Timeouts

/-- The times of an ordinary run. -/
def standard : Timeouts := ⟨10, 250, 60⟩

/-- The time between two looks in milliseconds, at least one. -/
def pollInterval (timeouts : Timeouts) : Nat := max 1 timeouts.pollMilliseconds

end Timeouts

end PageCheck
