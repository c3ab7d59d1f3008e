import PageCheck.Handlers
import PageCheck.Plan
import PageCheck.Report.Basic

/-!
# Passes

A pass takes one browser through a file: plan, start a session, open the start page, carry out the
steps until one does not complete, check every validation, end the session. A session that was
started is ended exactly once, however the pass goes. An error becomes a report where it happened,
unless errors are to end the pass. A handler that gives up while it runs is an error like others.
Whatever else gives up while the session is bound takes the reports with it: it is only caught where
the session is ended.
-/

namespace PageCheck

/-- What stays the same throughout a run. -/
structure Setting (World Session : Type) where
  /-- The contributions of plugins. -/
  registry : Registry
  /-- The environment variables. -/
  environment : Expression.Environment
  /-- What browsers do. -/
  browser : Browser World Session

/-- What changes while a run goes on. -/
structure Scene (World Session : Type) where
  /-- What the steps share. -/
  context : Context
  /-- The session that is bound, if one is. -/
  session : Option Session
  /-- What outlives sessions. -/
  world : World

namespace Scene

variable {World Session : Type}

/-- Bind a session, unless one is bound already. -/
def attach (scene : Scene World Session) (session : Session) : Option (Scene World Session) :=
  match scene.session with
  | none => some { scene with session := some session }
  | some _ => none

/-- The scene without its session. -/
def detached (scene : Scene World Session) : Scene World Session := { scene with session := none }

end Scene

/-- An error that ended a pass. -/
structure Abort where
  /-- The reports made before it. -/
  reports : List Report
  /-- The position in the list of steps followed by validations. -/
  index : Nat
  /-- What was being done. -/
  action : String
  /-- The error. -/
  error : Error

/-- The reports of a pass that an error ended, with one on the error itself. -/
def Abort.allReports (abort : Abort) (browser : String) : List Report :=
  abort.reports ++ [.stepFailure ⟨browser, abort.index, abort.action, abort.error.message⟩]

/-- How a pass ends, or the part of it in its session. -/
inductive PassEnd
  /-- It went through. -/
  | finished (reports : List Report)
  /-- An error ended it. -/
  | aborted (abort : Abort)
  /-- Something gave up altogether, and no handler was running that it could be blamed on. -/
  | panicked (message : String)

namespace Pass

variable {World Session : Type}

/-- What is recorded if no session can be had. -/
def startAction : String := "StartSession"

/-- What is recorded if the start page cannot be opened. -/
def openAction : String := "NavigateTo"

/-- The resolver for the stores as they are. -/
def resolver (setting : Setting World Session) (scene : Scene World Session) :
    Expression.Resolver :=
  scene.context.resolver setting.environment setting.registry.roots

/-- How a handler ended; one that gave up is reported under its name. -/
def guarded (name : String) : Attempt Outcome → Result Outcome
  | .returned outcome => .ok outcome
  | .failed error => .error error
  | .panicked message => .error (.handlerPanicked (name ++ ": " ++ message))

/-- Run the script of a handler in the bound session. -/
def runHandler (setting : Setting World Session) (name : String) (script : Script Outcome)
    (scene : Scene World Session) : Result Outcome × Scene World Session :=
  match scene.session with
  | none => (.error .noDriver, scene)
  | some session =>
    let (attempt, session, world) := script.run setting.browser session scene.world
    (guarded name attempt, { scene with session := some session, world })

/-- What a step will do, right before it does it. -/
def prepareStep (setting : Setting World Session) (scene : Scene World Session) (step : Step) :
    Result (ResolvedStep × StepHandler) := do
  let resolved ← step.resolve (resolver setting scene)
  let handler ← setting.registry.stepHandler step.action
  return (resolved, handler)

/-- Carry out a step and keep the value it yields under its output name. -/
def executeStep (setting : Setting World Session) (step : Step) (scene : Scene World Session) :
    Attempt Outcome × Scene World Session :=
  match prepareStep setting scene step with
  | .error error => (.failed error, scene)
  | .ok (resolved, handler) =>
    match runHandler setting step.action.name (handler resolved scene.context.timeouts) scene,
        resolved.outputName with
    | (.ok (.completed (some value)), scene), some name =>
      let (context, kept) := scene.context.capture name value
      (.ofResult (kept.map fun _ => .completed (some value)), { scene with context })
    | (result, scene), _ => (.ofResult result, scene)

/-- Check a validation with its handler. The handler is first asked whether it supports the state,
and it is not running yet when it gives up over that. -/
def checkWith (setting : Setting World Session) (handler : ValidationHandler)
    (validation : Validation) (scene : Scene World Session) :
    Attempt Outcome × Scene World Session :=
  match handler.supports.answer validation.state with
  | .error message => (.panicked message, scene)
  | .ok false =>
    (.failed (.unsupportedState validation.validationType.name validation.state.name), scene)
  | .ok true =>
    match validation.resolve (resolver setting scene) with
    | .error error => (.failed error, scene)
    | .ok resolved =>
      let (result, scene) := runHandler setting validation.validationType.name
        (handler.validate resolved scene.context.timeouts) scene
      (.ofResult result, scene)

/-- Check a validation. -/
def executeValidation (setting : Setting World Session) (validation : Validation)
    (scene : Scene World Session) : Attempt Outcome × Scene World Session :=
  match setting.registry.validationHandler validation.validationType with
  | .error error => (.failed error, scene)
  | .ok handler => checkWith setting handler validation scene

/-- The report on a step that did not complete. -/
def stepReport (browser : BrowserTarget) (step : Step) (msg : String) : Report :=
  .stepFailure ⟨browser.name, step.index, step.action.name, msg⟩

/-- Carry out steps up to the first one that does not complete. The answer is the end that this one
puts to the pass, if there is one. -/
def runSteps (setting : Setting World Session) (browser : BrowserTarget) (suppress : Bool) :
    List Step → Scene World Session → Option PassEnd × Scene World Session
  | [], scene => (none, scene)
  | step :: rest, scene =>
    match executeStep setting step scene with
    | (.returned (.completed _), scene) => runSteps setting browser suppress rest scene
    | (.returned (.failed msg), scene) => (some (.finished [stepReport browser step msg]), scene)
    | (.failed error, scene) =>
      (some (if suppress then .finished [stepReport browser step error.message]
        else .aborted ⟨[], step.index, step.action.name, error⟩), scene)
    | (.panicked message, scene) => (some (.panicked message), scene)

/-- The report on a validation: whether it holds, and what is wrong if it does not. -/
def validationReport (browser : BrowserTarget) (validation : Validation)
    (wrong : Option String) : Report :=
  .validation ⟨browser.name, validation.validationType.name, validation.target,
    validation.state.name, wrong.isNone, wrong⟩

/-- Put a report in front of what comes after it. What gives up has no reports. -/
def withReport (report : Report) : PassEnd → PassEnd
  | .finished reports => .finished (report :: reports)
  | .aborted abort => .aborted { abort with reports := report :: abort.reports }
  | .panicked message => .panicked message

/-- Check validations, each on its own. -/
def runValidations (setting : Setting World Session) (browser : BrowserTarget) (suppress : Bool) :
    List Validation → Scene World Session → PassEnd × Scene World Session
  | [], scene => (.finished [], scene)
  | validation :: rest, scene =>
    let (attempt, scene) := executeValidation setting validation scene
    let goOn (wrong : Option String) :=
      let (passEnd, scene) := runValidations setting browser suppress rest scene
      (withReport (validationReport browser validation wrong) passEnd, scene)
    match attempt with
    | .returned (.completed _) => goOn none
    | .returned (.failed msg) => goOn (some msg)
    | .failed error =>
      if suppress then goOn (some error.message)
      else (.aborted ⟨[], validation.index, Plan.validateAction, error⟩, scene)
    | .panicked message => (.panicked message, scene)

/-- Carry out a plan in the bound session. -/
def runPlan (setting : Setting World Session) (browser : BrowserTarget) (plan : Plan)
    (scene : Scene World Session) : PassEnd × Scene World Session :=
  let suppress := scene.context.options.suppressExceptions
  match runSteps setting browser suppress plan.steps scene with
  | (some passEnd, scene) => (passEnd, scene)
  | (none, scene) => runValidations setting browser suppress plan.validations scene

/-- Open the start page of a file, if it has one. -/
def openPage (setting : Setting World Session) (path : Option String)
    (scene : Scene World Session) : Attempt Unit × Scene World Session :=
  match path with
  | none => (.returned (), scene)
  | some path =>
    match (resolver setting scene).resolveText path, scene.session with
    | .error error, _ => (.failed error, scene)
    | .ok _, none => (.failed .noDriver, scene)
    | .ok url, some session =>
      let (attempt, session, world) :=
        setting.browser.perform (.navigate url) session scene.world
      (attempt, { scene with session := some session, world })

/-- Open the start page and carry out the plan. -/
def drive (setting : Setting World Session) (file : ValidationFile) (browser : BrowserTarget)
    (plan : Plan) (scene : Scene World Session) : PassEnd × Scene World Session :=
  match openPage setting file.path scene with
  | (.failed error, scene) => (.aborted ⟨[], 0, openAction, error⟩, scene)
  | (.panicked message, scene) => (.panicked message, scene)
  | (.returned (), scene) => runPlan setting browser plan scene

/-- End the bound session. That it fails to end is of no consequence. -/
def release (setting : Setting World Session) (scene : Scene World Session) :
    Option String × Scene World Session :=
  match scene.session with
  | none => (none, scene)
  | some session =>
    match setting.browser.quit session scene.world with
    | (.panicked message, world) => (some message, { scene.detached with world })
    | (_, world) => (none, { scene.detached with world })

/-- How a pass ends whose session ended without giving up. What gave up in the session is an error
now, and the only thing that is left of the session. -/
def ending : PassEnd → PassEnd
  | .finished reports => .finished reports
  | .aborted abort => .aborted abort
  | .panicked message => .aborted ⟨[], 0, Plan.validateAction, .handlerPanicked message⟩

/-- Carry out a plan that is not empty in a session of its own. -/
def inSession (setting : Setting World Session) (file : ValidationFile) (browser : BrowserTarget)
    (plan : Plan) (scene : Scene World Session) : PassEnd × Scene World Session :=
  match setting.browser.start browser scene.context.options scene.world with
  | (.failed error, world) => (.aborted ⟨[], 0, startAction, error⟩, { scene with world })
  | (.panicked message, world) => (.panicked message, { scene with world })
  | (.returned session, world) =>
    let (result, scene) :=
      drive setting file browser plan { scene with session := some session, world }
    match release setting scene with
    | (some message, scene) => (.panicked message, scene)
    | (none, scene) => (ending result, scene)

/-- Take a browser through a file. Nothing is started for an empty plan. -/
def run (setting : Setting World Session) (file : ValidationFile) (browser : BrowserTarget)
    (scene : Scene World Session) : PassEnd × Scene World Session :=
  match Plan.build setting.registry file with
  | .error e => (.aborted ⟨[], e.index, e.action, e.error⟩, scene)
  | .ok plan =>
    if plan.isEmpty then (.finished [], scene)
    else if scene.session.isSome then (.aborted ⟨[], 0, startAction, .driverBusy⟩, scene)
    else inSession setting file browser plan scene

end Pass

end PageCheck
