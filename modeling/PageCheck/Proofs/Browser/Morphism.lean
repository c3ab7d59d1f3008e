import PageCheck.Browser.Scripted
import PageCheck.Run

/-!
# Morphisms of browsers

A morphism reads the worlds and the sessions of one browser as those of another one that answers
every operation the same. What handlers, passes and runs do commutes with the reading: they end the
same way and leave scenes that are read as each other. The options of a scene may be changed by the
reading too, as far as nothing looks at them: a step or a validation never does, a pass and a run
look at all of them.
-/

namespace PageCheck

variable {World Session World' Session' : Type}

/-- A reading of one browser as another one that answers every operation the same. -/
structure Browser.Morphism (first : Browser World Session) (second : Browser World' Session') where
  /-- How worlds are read. -/
  world : World → World'
  /-- How sessions are read. -/
  session : Session → Session'
  /-- Sessions start the same. -/
  start : ∀ target options before, second.start target options (world before) =
    ((first.start target options before).1.map session,
      world (first.start target options before).2)
  /-- Commands are answered the same. -/
  perform : ∀ command inner before, second.perform command (session inner) (world before) =
    ((first.perform command inner before).1, session (first.perform command inner before).2.1,
      world (first.perform command inner before).2.2)
  /-- Sessions end the same. -/
  quit : ∀ inner before, second.quit (session inner) (world before) =
    ((first.quit inner before).1, world (first.quit inner before).2)
  /-- Time passes the same. -/
  pause : ∀ milliseconds before,
    second.pause milliseconds (world before) = world (first.pause milliseconds before)

namespace Browser.Morphism

/-- A browser read as itself. -/
def refl (browser : Browser World Session) : browser.Morphism browser where
  world := id
  session := id
  start target options before := by
    refine Prod.ext ?_ rfl
    dsimp only [id]
    cases (browser.start target options before).1 <;> rfl
  perform _ _ _ := rfl
  quit _ _ := rfl
  pause _ _ := rfl

end Browser.Morphism

/-- The same contributions and environment around another browser. -/
def Setting.withBrowser (setting : Setting World Session) (browser : Browser World' Session') :
    Setting World' Session' := ⟨setting.registry, setting.environment, browser⟩

/-- The setting of a scripted site, without plugins and environment variables. -/
def Setting.scripted (site : Scripted.Site) : Setting Scripted.Journal Scripted.Session :=
  ⟨.empty, [], Scripted.browser site⟩

/-- The scene before anything has happened at a scripted site. -/
def Scene.scripted : Scene Scripted.Journal Scripted.Session := ⟨.new .standard, none, .empty⟩

/-- A scene read through a morphism, with its options adjusted. -/
def Scene.read {browser : Browser World Session} {other : Browser World' Session'}
    (reading : browser.Morphism other) (adjust : RunOptions → RunOptions)
    (scene : Scene World Session) : Scene World' Session' where
  context := { scene.context with options := adjust scene.context.options }
  session := scene.session.map reading.session
  world := reading.world scene.world

section

variable {setting : Setting World Session} {other : Browser World' Session'}

variable (reading : setting.browser.Morphism other) (adjust : RunOptions → RunOptions)

/-- A script ends the same in a session that is read as another one. -/
theorem Script.run_read {α : Type} (script : Script α) (session : Session) (world : World) :
    script.run other (reading.session session) (reading.world world) =
      ((script.run setting.browser session world).1,
        reading.session (script.run setting.browser session world).2.1,
        reading.world (script.run setting.browser session world).2.2) := by
  induction script generalizing session world with
  | done value => rfl
  | fail error => rfl
  | panic message => rfl
  | issue command next ih =>
    simp only [Script.run, reading.perform]
    rcases setting.browser.perform command session world with ⟨attempt, session', world'⟩
    cases attempt with
    | returned reply => exact ih (.ok reply) session' world'
    | failed error => exact ih (.error error) session' world'
    | panicked message => rfl
  | sleep milliseconds next ih =>
    simp only [Script.run, reading.pause]
    exact ih () session (setting.browser.pause milliseconds world)

namespace Pass

/-- A handler ends the same in scenes that are read as each other. -/
theorem runHandler_read (name : String) (script : Script Outcome) (scene : Scene World Session) :
    runHandler (setting.withBrowser other) name script (scene.read reading adjust) =
      ((runHandler setting name script scene).1,
        (runHandler setting name script scene).2.read reading adjust) := by
  rcases scene with ⟨context, _ | session, world⟩
  · rfl
  · simp only [runHandler, Scene.read, Option.map_some, Setting.withBrowser]
    rw [Script.run_read reading]

/-- A step ends the same in scenes that are read as each other. -/
theorem executeStep_read (step : Step) (scene : Scene World Session) :
    executeStep (setting.withBrowser other) step (scene.read reading adjust) =
      ((executeStep setting step scene).1,
        (executeStep setting step scene).2.read reading adjust) := by
  have hprepare : prepareStep (setting.withBrowser other) (scene.read reading adjust) step =
      prepareStep setting scene step := rfl
  unfold executeStep
  rw [hprepare]
  cases prepareStep setting scene step with
  | error error => rfl
  | ok prepared =>
    have hrun := runHandler_read reading adjust step.action.name
      (prepared.2 prepared.1 scene.context.timeouts) scene
    dsimp only [Scene.read] at hrun ⊢
    rw [hrun]
    rcases runHandler setting step.action.name
      (prepared.2 prepared.1 scene.context.timeouts) scene with ⟨result, after⟩
    rcases result with error | value | msg
    · rfl
    · cases value <;> cases prepared.1.outputName <;> rfl
    · rfl

/-- A handler checks a validation the same in scenes that are read as each other. -/
theorem checkWith_read (handler : ValidationHandler) (validation : Validation)
    (scene : Scene World Session) :
    checkWith (setting.withBrowser other) handler validation (scene.read reading adjust) =
      ((checkWith setting handler validation scene).1,
        (checkWith setting handler validation scene).2.read reading adjust) := by
  have hresolver : resolver (setting.withBrowser other) (scene.read reading adjust) =
      resolver setting scene := rfl
  have htimeouts : (scene.read reading adjust).context.timeouts = scene.context.timeouts := rfl
  rw [checkWith, checkWith, hresolver, htimeouts]
  rcases handler.supports.answer validation.state with message | _ | _
  · rfl
  · rfl
  · cases validation.resolve (resolver setting scene) with
    | error error => rfl
    | ok resolved => simp only [runHandler_read]

/-- A validation ends the same in scenes that are read as each other. -/
theorem executeValidation_read (validation : Validation) (scene : Scene World Session) :
    executeValidation (setting.withBrowser other) validation (scene.read reading adjust) =
      ((executeValidation setting validation scene).1,
        (executeValidation setting validation scene).2.read reading adjust) := by
  have hregistry : (setting.withBrowser other).registry = setting.registry := rfl
  rw [executeValidation, executeValidation, hregistry]
  cases setting.registry.validationHandler validation.validationType with
  | error error => rfl
  | ok handler => exact checkWith_read reading adjust handler validation scene

/-- Steps end the same in scenes that are read as each other. -/
theorem runSteps_read (browser : BrowserTarget) (suppress : Bool) (steps : List Step)
    (scene : Scene World Session) :
    runSteps (setting.withBrowser other) browser suppress steps (scene.read reading adjust) =
      ((runSteps setting browser suppress steps scene).1,
        (runSteps setting browser suppress steps scene).2.read reading adjust) := by
  induction steps generalizing scene with
  | nil => rfl
  | cons step rest ih =>
    simp only [runSteps]
    rw [executeStep_read]
    rcases executeStep setting step scene with ⟨(value | msg) | error | message, after⟩
    · exact ih after
    · rfl
    · rfl
    · rfl

/-- Validations end the same in scenes that are read as each other. -/
theorem runValidations_read (browser : BrowserTarget) (suppress : Bool)
    (validations : List Validation) (scene : Scene World Session) :
    runValidations (setting.withBrowser other) browser suppress validations
        (scene.read reading adjust) =
      ((runValidations setting browser suppress validations scene).1,
        (runValidations setting browser suppress validations scene).2.read reading adjust) := by
  induction validations generalizing scene with
  | nil => rfl
  | cons validation rest ih =>
    simp only [runValidations]
    rw [executeValidation_read]
    rcases executeValidation setting validation scene with
      ⟨(value | msg) | error | message, after⟩
    · simp only [ih]
    · simp only [ih]
    · cases suppress with
      | true => simp only [if_true, ih]
      | false => rfl
    · rfl

/-- The start page opens the same in scenes that are read as each other. -/
theorem openPage_read (path : Option String) (scene : Scene World Session) :
    openPage (setting.withBrowser other) path (scene.read reading adjust) =
      ((openPage setting path scene).1,
        (openPage setting path scene).2.read reading adjust) := by
  cases path with
  | none => rfl
  | some path =>
    have hresolver : resolver (setting.withBrowser other) (scene.read reading adjust) =
        resolver setting scene := rfl
    simp only [openPage, hresolver]
    cases (resolver setting scene).resolveText path with
    | error error => rfl
    | ok url =>
      rcases scene with ⟨context, _ | session, world⟩
      · rfl
      · simp only [Scene.read, Option.map_some, Setting.withBrowser, reading.perform]

/-- A session is released the same in scenes that are read as each other. -/
theorem release_read (scene : Scene World Session) :
    release (setting.withBrowser other) (scene.read reading adjust) =
      ((release setting scene).1, (release setting scene).2.read reading adjust) := by
  rcases scene with ⟨context, _ | session, world⟩
  · rfl
  · simp only [release, Scene.read, Option.map_some, Setting.withBrowser, reading.quit]
    rcases setting.browser.quit session world with ⟨_ | _ | _, after⟩ <;> rfl

/-- A plan is carried out the same in scenes that are read as each other. -/
theorem runPlan_read (browser : BrowserTarget) (plan : Plan) (scene : Scene World Session) :
    runPlan (setting.withBrowser other) browser plan (scene.read reading id) =
      ((runPlan setting browser plan scene).1,
        (runPlan setting browser plan scene).2.read reading id) := by
  have hsuppress : (scene.read reading id).context.options.suppressExceptions =
      scene.context.options.suppressExceptions := rfl
  simp only [runPlan, hsuppress]
  rw [runSteps_read]
  rcases runSteps setting browser scene.context.options.suppressExceptions plan.steps scene with
    ⟨_ | passEnd, after⟩
  · exact runValidations_read reading id browser _ plan.validations after
  · rfl

/-- The start page and the plan go the same in scenes that are read as each other. -/
theorem drive_read (file : ValidationFile) (browser : BrowserTarget) (plan : Plan)
    (scene : Scene World Session) :
    drive (setting.withBrowser other) file browser plan (scene.read reading id) =
      ((drive setting file browser plan scene).1,
        (drive setting file browser plan scene).2.read reading id) := by
  simp only [drive]
  rw [openPage_read]
  rcases openPage setting file.path scene with ⟨_ | error | message, after⟩
  · exact runPlan_read reading browser plan after
  · rfl
  · rfl

/-- A session of a pass's own goes the same in scenes that are read as each other. -/
theorem inSession_read (file : ValidationFile) (browser : BrowserTarget) (plan : Plan)
    (scene : Scene World Session) :
    inSession (setting.withBrowser other) file browser plan (scene.read reading id) =
      ((inSession setting file browser plan scene).1,
        (inSession setting file browser plan scene).2.read reading id) := by
  have hstart : (setting.withBrowser other).browser.start browser
      (scene.read reading id).context.options (scene.read reading id).world =
      ((setting.browser.start browser scene.context.options scene.world).1.map reading.session,
        reading.world (setting.browser.start browser scene.context.options scene.world).2) :=
    reading.start _ _ _
  simp only [inSession]
  rw [hstart]
  rcases setting.browser.start browser scene.context.options scene.world with
    ⟨session | error | message, after⟩
  · have hdrive := drive_read reading file browser plan ⟨scene.context, some session, after⟩
    dsimp only [Attempt.map, Scene.read, Option.map_some, id] at hdrive ⊢
    rw [hdrive]
    rcases drive setting file browser plan ⟨scene.context, some session, after⟩ with
      ⟨result, driven⟩
    have hrelease := release_read reading id driven
    dsimp only [Scene.read, id] at hrelease ⊢
    rw [hrelease]
    rcases release setting driven with ⟨_ | message, released⟩ <;> rfl
  · rfl
  · rfl

/-- A pass goes the same in scenes that are read as each other. -/
theorem run_read (file : ValidationFile) (browser : BrowserTarget) (scene : Scene World Session) :
    run (setting.withBrowser other) file browser (scene.read reading id) =
      ((run setting file browser scene).1, (run setting file browser scene).2.read reading id) := by
  have hbuild : Plan.build (setting.withBrowser other).registry file =
      Plan.build setting.registry file := rfl
  have hbound : (scene.read reading id).session.isSome = scene.session.isSome := Option.isSome_map
  simp only [run, hbuild, hbound, inSession_read]
  cases Plan.build setting.registry file with
  | error e => rfl
  | ok plan =>
    dsimp only
    split
    · rfl
    · split <;> rfl

end Pass

namespace Run

/-- What the observers are told does not depend on how the scene is read. -/
theorem notify_read (phase : Phase) (browser : BrowserTarget) (file : ValidationFile)
    (summary : ReportSummary) (scene : Scene World Session) :
    notify (setting.withBrowser other) phase browser file summary (scene.read reading id) =
      notify setting phase browser file summary scene := by
  have hbound : (scene.read reading id).session.isSome = scene.session.isSome := Option.isSome_map
  simp only [notify, hbound]
  rfl

/-- A run visits browsers the same in scenes that are read as each other. -/
theorem visit_read (file : ValidationFile) (names : List String) (summary : ReportSummary)
    (scene : Scene World Session) :
    visit (setting.withBrowser other) file names summary (scene.read reading id) =
      ⟨(visit setting file names summary scene).result,
        (visit setting file names summary scene).events,
        (visit setting file names summary scene).scene.read reading id⟩ := by
  induction names generalizing summary scene with
  | nil => rfl
  | cons name rest ih =>
    have hresolve : (setting.withBrowser other).registry.resolve (α := BrowserTarget) name =
        setting.registry.resolve name := rfl
    simp only [visit, hresolve]
    cases setting.registry.resolve (α := BrowserTarget) name with
    | error error => exact ih _ scene
    | ok browser =>
      simp only [Pass.run_read, notify_read]
      rcases Pass.run setting file browser scene with ⟨passEnd, after⟩
      dsimp only
      cases reportsOf? browser passEnd with
      | error message => rfl
      | ok reports => simp only [ih]

/-- A run goes the same in scenes that are read as each other. -/
theorem validate_read (file : ValidationFile) (names : List String)
    (scene : Scene World Session) :
    validate (setting.withBrowser other) file names (scene.read reading id) =
      ⟨(validate setting file names scene).result,
        (validate setting file names scene).events,
        (validate setting file names scene).scene.read reading id⟩ := by
  simp only [validate]
  split
  · rfl
  · exact visit_read reading file names .empty
      { scene with context := scene.context.loadBase file.definitions }

end Run

end

end PageCheck
