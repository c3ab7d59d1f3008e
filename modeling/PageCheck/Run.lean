import PageCheck.Pass
import PageCheck.Report.Summary

/-!
# Runs

A run takes the browsers that are asked for through a file, one after the other in the order in
which they are asked for. Each gets its own group in the summary, whatever happens to the others.
Plugins that watch are told before and after every pass.
-/

namespace PageCheck

/-- When an observer is told. -/
inductive Phase
  /-- Before a pass starts. -/
  | before
  /-- After its reports are in the summary. -/
  | after
deriving Repr, DecidableEq

/-- What an observer is told. -/
structure Event where
  /-- When. -/
  phase : Phase
  /-- The plugin that is told. -/
  observer : String
  /-- The browser of the pass. -/
  browser : BrowserTarget
  /-- The file. -/
  file : ValidationFile
  /-- The context as it is. -/
  context : Context
  /-- Whether a session is bound. -/
  bound : Bool
  /-- The summary so far. -/
  summary : ReportSummary

/-- How a run ends, what the observers were told, and the scene it leaves. -/
structure RunEnd (World Session : Type) where
  /-- The summary, or why there is none. -/
  result : Attempt ReportSummary
  /-- What the observers were told, in order. -/
  events : List Event
  /-- The scene afterwards. -/
  scene : Scene World Session

namespace Run

variable {World Session : Type}

/-- Tell every observer of a phase. -/
def notify (setting : Setting World Session) (phase : Phase) (browser : BrowserTarget)
    (file : ValidationFile) (summary : ReportSummary) (scene : Scene World Session) : List Event :=
  let observers := match phase with
    | .before => setting.registry.before
    | .after => setting.registry.after
  observers.map fun observer =>
    ⟨phase, observer, browser, file, scene.context, scene.session.isSome, summary⟩

/-- The report on a browser name without meaning. -/
def unknownBrowser (name : String) (error : Error) : Report :=
  .stepFailure ⟨name, 0, Pass.startAction, error.message⟩

/-- The reports of a pass that ended without giving up. -/
def reportsOf? (browser : BrowserTarget) : PassEnd → Except String (List Report)
  | .finished reports => .ok reports
  | .aborted abort => .ok (abort.allReports browser.name)
  | .panicked message => .error message

/-- Take the browsers through the file, adding to a summary. -/
def visit (setting : Setting World Session) (file : ValidationFile) :
    List String → ReportSummary → Scene World Session → RunEnd World Session
  | [], summary, scene => ⟨.returned summary, [], scene⟩
  | name :: rest, summary, scene =>
    match setting.registry.resolve (α := BrowserTarget) name with
    | .error error =>
      visit setting file rest (summary.push name [unknownBrowser name error]) scene
    | .ok browser =>
      let first := notify setting .before browser file summary scene
      let (passEnd, scene) := Pass.run setting file browser scene
      match reportsOf? browser passEnd with
      | .error message => ⟨.panicked message, first, scene⟩
      | .ok reports =>
        let summary := summary.push browser.name reports
        let last := notify setting .after browser file summary scene
        let others := visit setting file rest summary scene
        { others with events := first ++ last ++ others.events }

/-- Validate a file in browsers. The definitions of the file are put under those of the context, so
what was loaded before wins. -/
def validate (setting : Setting World Session) (file : ValidationFile) (browsers : List String)
    (scene : Scene World Session) : RunEnd World Session :=
  if browsers.isEmpty then ⟨.failed .noBrowsers, [], scene⟩
  else visit setting file browsers .empty
    { scene with context := scene.context.loadBase file.definitions }

/-- The key of the captured values in a result. -/
def outputsKey : String := "Outputs"

/-- The result of a run: its summary, and next to it what was captured, if anything was. -/
def result (summary : ReportSummary) (outputs : Members) : Json :=
  .object (summary.members ++ if outputs.isEmpty then [] else [(outputsKey, .object outputs)])

end Run

end PageCheck
