import Mathlib.Logic.Relation
import PageCheck.Run

/-!
# Moves of a pass

While its session is bound, a pass does three kinds of things to a scene: it issues commands in that
session, it lets time pass, and it captures values. Whatever the handlers are, carrying out steps,
checking validations and opening the start page come down to such moves. What every move keeps is
therefore kept from the start of a session to its end. A pass as a whole takes one of seven courses,
and only two of them have a session.
-/

namespace PageCheck

variable {World Session : Type}

/-- One thing that a pass does to a scene while its session is bound. -/
inductive Scene.Move (browser : Browser World Session) :
    Scene World Session → Scene World Session → Prop
  /-- Issue a command in the bound session. -/
  | perform (context : Context) (session : Session) (world : World) (command : Command) :
      Move browser ⟨context, some session, world⟩
        ⟨context, some (browser.perform command session world).2.1,
          (browser.perform command session world).2.2⟩
  /-- Let time pass. -/
  | pause (scene : Scene World Session) (milliseconds : Nat) :
      Move browser scene { scene with world := browser.pause milliseconds scene.world }
  /-- Capture a value. -/
  | capture (scene : Scene World Session) (name : String) (value : Json) :
      Move browser scene { scene with context := (scene.context.capture name value).1 }

/-- Any number of moves. -/
abbrev Scene.Moves (browser : Browser World Session) :
    Scene World Session → Scene World Session → Prop :=
  Relation.ReflTransGen (Scene.Move browser)

/-- A session that is bound stays bound. -/
theorem Scene.Moves.bound {browser : Browser World Session} {before after : Scene World Session}
    (moves : before.Moves browser after) {session : Session}
    (held : before.session = some session) :
    ∃ last, after.session = some last := by
  induction moves with
  | refl => exact ⟨session, held⟩
  | tail _ move ih =>
    cases move with
    | perform context session world command => exact ⟨_, rfl⟩
    | pause scene milliseconds => exact ih
    | capture scene name value => exact ih

/-- A script only issues commands and lets time pass. -/
theorem Script.moves_run {α : Type} (browser : Browser World Session) (script : Script α)
    (context : Context) (session : Session) (world : World) :
    Scene.Moves browser ⟨context, some session, world⟩
      ⟨context, some (script.run browser session world).2.1,
        (script.run browser session world).2.2⟩ := by
  induction script generalizing session world with
  | done value => exact .refl
  | fail error => exact .refl
  | panic message => exact .refl
  | issue command next ih =>
    have hfirst : Scene.Move browser _ _ := .perform context session world command
    rw [Script.run]
    rcases hrun : browser.perform command session world with ⟨attempt, session', world'⟩
    rw [hrun] at hfirst
    cases attempt with
    | returned reply => exact .head hfirst (ih (.ok reply) session' world')
    | failed error => exact .head hfirst (ih (.error error) session' world')
    | panicked message => exact .single hfirst
  | sleep milliseconds next ih =>
    have hfirst : Scene.Move browser _ _ := .pause ⟨context, some session, world⟩ milliseconds
    exact .head hfirst (ih () session (browser.pause milliseconds world))

namespace Pass

variable (setting : Setting World Session)

/-- A handler moves the scene, or does nothing where no session is bound. -/
theorem moves_runHandler (name : String) (script : Script Outcome) (scene : Scene World Session) :
    scene.Moves setting.browser (runHandler setting name script scene).2 := by
  rcases scene with ⟨context, _ | session, world⟩
  · exact .refl
  · exact script.moves_run setting.browser context session world

/-- A step moves the scene. -/
theorem moves_executeStep (step : Step) (scene : Scene World Session) :
    scene.Moves setting.browser (executeStep setting step scene).2 := by
  unfold executeStep
  cases prepareStep setting scene step with
  | error error => exact .refl
  | ok prepared =>
    have hrun := moves_runHandler setting step.action.name
      (prepared.2 prepared.1 scene.context.timeouts) scene
    dsimp only
    rcases hdone : runHandler setting step.action.name
      (prepared.2 prepared.1 scene.context.timeouts) scene with ⟨result, after⟩
    rw [hdone] at hrun
    split
    next value _ name heq _ =>
      cases heq
      exact hrun.tail (.capture after name value)
    next heq _ =>
      cases heq
      exact hrun

/-- A validation moves the scene. -/
theorem moves_executeValidation (validation : Validation) (scene : Scene World Session) :
    scene.Moves setting.browser (executeValidation setting validation scene).2 := by
  unfold executeValidation
  cases setting.registry.validationHandler validation.validationType with
  | error error => exact .refl
  | ok handler =>
    dsimp only
    unfold checkWith
    rcases handler.supports.answer validation.state with message | _ | _
    · exact .refl
    · exact .refl
    · cases validation.resolve (resolver setting scene) with
      | error error => exact .refl
      | ok resolved => exact moves_runHandler setting _ _ scene

/-- Steps move the scene. -/
theorem moves_runSteps (browser : BrowserTarget) (suppress : Bool) (steps : List Step)
    (scene : Scene World Session) :
    scene.Moves setting.browser (runSteps setting browser suppress steps scene).2 := by
  induction steps generalizing scene with
  | nil => exact .refl
  | cons step rest ih =>
    have hfirst := moves_executeStep setting step scene
    rw [runSteps]
    rcases hdone : executeStep setting step scene with ⟨attempt, after⟩
    rw [hdone] at hfirst
    rcases attempt with (value | msg) | error | message
    · exact hfirst.trans (ih after)
    · exact hfirst
    · exact hfirst
    · exact hfirst

/-- Validations move the scene. -/
theorem moves_runValidations (browser : BrowserTarget) (suppress : Bool)
    (validations : List Validation) (scene : Scene World Session) :
    scene.Moves setting.browser
      (runValidations setting browser suppress validations scene).2 := by
  induction validations generalizing scene with
  | nil => exact .refl
  | cons validation rest ih =>
    have hfirst := moves_executeValidation setting validation scene
    rw [runValidations]
    rcases hdone : executeValidation setting validation scene with ⟨attempt, after⟩
    rw [hdone] at hfirst
    rcases attempt with (value | msg) | error | message
    · exact hfirst.trans (ih after)
    · exact hfirst.trans (ih after)
    · cases suppress with
      | true => exact hfirst.trans (ih after)
      | false => exact hfirst
    · exact hfirst

/-- A plan moves the scene. -/
theorem moves_runPlan (browser : BrowserTarget) (plan : Plan) (scene : Scene World Session) :
    scene.Moves setting.browser (runPlan setting browser plan scene).2 := by
  have hsteps := moves_runSteps setting browser scene.context.options.suppressExceptions
    plan.steps scene
  rw [runPlan]
  rcases hdone : runSteps setting browser scene.context.options.suppressExceptions plan.steps
    scene with ⟨passEnd?, after⟩
  rw [hdone] at hsteps
  cases passEnd? with
  | none => exact hsteps.trans (moves_runValidations setting browser _ plan.validations after)
  | some passEnd => exact hsteps

/-- Opening the start page moves the scene. -/
theorem moves_openPage (path : Option String) (scene : Scene World Session) :
    scene.Moves setting.browser (openPage setting path scene).2 := by
  cases path with
  | none => exact .refl
  | some path =>
    rw [openPage]
    cases (resolver setting scene).resolveText path with
    | error error => exact .refl
    | ok url =>
      rcases scene with ⟨context, _ | session, world⟩
      · exact .refl
      · exact .single (.perform context session world (.navigate url))

/-- The start page and the plan together move the scene. -/
theorem moves_drive (file : ValidationFile) (browser : BrowserTarget) (plan : Plan)
    (scene : Scene World Session) :
    scene.Moves setting.browser (drive setting file browser plan scene).2 := by
  have hopen := moves_openPage setting file.path scene
  rw [drive]
  rcases hdone : openPage setting file.path scene with ⟨attempt, after⟩
  rw [hdone] at hopen
  rcases attempt with _ | error | message
  · exact hopen.trans (moves_runPlan setting browser plan after)
  · exact hopen
  · exact hopen

/-- What a pass will do, if that is anything at all. -/
def Planned (registry : Registry) (file : ValidationFile) (plan : Plan) : Prop :=
  Plan.build registry file = .ok plan ∧ plan.isEmpty = false

/-- The courses that a pass can take, each with its end and the scene that it leaves. -/
inductive Course (file : ValidationFile) (browser : BrowserTarget) (scene : Scene World Session) :
    PassEnd → Scene World Session → Prop
  /-- A name in the file has no meaning. -/
  | unplanned {e : PlanError} (planned : Plan.build setting.registry file = .error e) :
      Course file browser scene (.aborted ⟨[], e.index, e.action, e.error⟩) scene
  /-- There is nothing to do. -/
  | idle {plan : Plan} (planned : Plan.build setting.registry file = .ok plan)
      (empty : plan.isEmpty = true) :
      Course file browser scene (.finished []) scene
  /-- A session is bound already. -/
  | busy {plan : Plan} (planned : Planned setting.registry file plan)
      (bound : scene.session.isSome = true) :
      Course file browser scene (.aborted ⟨[], 0, startAction, .driverBusy⟩) scene
  /-- No session starts. -/
  | refused {plan : Plan} {error : Error} {world : World}
      (planned : Planned setting.registry file plan) (free : scene.session = none)
      (hstart : setting.browser.start browser scene.context.options scene.world =
        (.failed error, world)) :
      Course file browser scene (.aborted ⟨[], 0, startAction, error⟩) { scene with world }
  /-- Starting a session gives up. -/
  | stillborn {plan : Plan} {message : String} {world : World}
      (planned : Planned setting.registry file plan) (free : scene.session = none)
      (hstart : setting.browser.start browser scene.context.options scene.world =
        (.panicked message, world)) :
      Course file browser scene (.panicked message) { scene with world }
  /-- A session starts, carries out the plan and ends. -/
  | driven {plan : Plan} {session last : Session} {world : World}
      {passEnd : PassEnd} {after : Scene World Session}
      (planned : Planned setting.registry file plan) (free : scene.session = none)
      (hstart : setting.browser.start browser scene.context.options scene.world =
        (.returned session, world))
      (hdrive : drive setting file browser plan { scene with session := some session, world } =
        (passEnd, after))
      (bound : after.session = some last)
      (kept : ∀ message, (setting.browser.quit last after.world).1 ≠ .panicked message) :
      Course file browser scene (ending passEnd)
        { after.detached with world := (setting.browser.quit last after.world).2 }
  /-- A session starts and carries out the plan, but ending it gives up. -/
  | severed {plan : Plan} {session last : Session} {world : World} {message : String}
      {passEnd : PassEnd} {after : Scene World Session}
      (planned : Planned setting.registry file plan) (free : scene.session = none)
      (hstart : setting.browser.start browser scene.context.options scene.world =
        (.returned session, world))
      (hdrive : drive setting file browser plan { scene with session := some session, world } =
        (passEnd, after))
      (bound : after.session = some last)
      (lost : (setting.browser.quit last after.world).1 = .panicked message) :
      Course file browser scene (.panicked message)
        { after.detached with world := (setting.browser.quit last after.world).2 }

/-- Ending the session that is bound takes it from the scene, however that goes. -/
theorem release_of_bound {scene : Scene World Session} {session : Session}
    (bound : scene.session = some session) :
    release setting scene =
      (match (setting.browser.quit session scene.world).1 with
        | .panicked message => some message
        | _ => none,
        { scene.detached with world := (setting.browser.quit session scene.world).2 }) := by
  unfold release
  rw [bound]
  dsimp only
  rcases setting.browser.quit session scene.world with ⟨_ | error | message, world⟩ <;> rfl

/-- A pass that has something to do, and no session that is in its way, takes one of the courses
that try to start one. Nothing that a plan does unbinds its session, so there is one to end. -/
theorem inSession_course {file : ValidationFile} {plan : Plan}
    (planned : Planned setting.registry file plan) (browser : BrowserTarget)
    {scene : Scene World Session} (free : scene.session = none) :
    Course setting file browser scene (inSession setting file browser plan scene).1
      (inSession setting file browser plan scene).2 := by
  unfold inSession
  rcases hstart : setting.browser.start browser scene.context.options scene.world with
    ⟨session | error | message, world⟩
  · dsimp only
    have hmoves := moves_drive setting file browser plan
      { scene with session := some session, world }
    rcases hdrive : drive setting file browser plan { scene with session := some session, world }
      with ⟨passEnd, after⟩
    rw [hdrive] at hmoves
    obtain ⟨last, hlast⟩ := hmoves.bound rfl
    rw [release_of_bound setting hlast]
    rcases hquit : (setting.browser.quit last after.world).1 with _ | error | message
    · exact .driven planned free hstart hdrive hlast (by simp [hquit])
    · exact .driven planned free hstart hdrive hlast (by simp [hquit])
    · exact .severed planned free hstart hdrive hlast hquit
  · exact .refused planned free hstart
  · exact .stillborn planned free hstart

/-- Every pass takes one of the courses. -/
theorem run_course (file : ValidationFile) (browser : BrowserTarget) (scene : Scene World Session) :
    Course setting file browser scene (run setting file browser scene).1
      (run setting file browser scene).2 := by
  unfold run
  cases hbuild : Plan.build setting.registry file with
  | error e => exact .unplanned hbuild
  | ok plan =>
    dsimp only
    cases hempty : plan.isEmpty with
    | true => exact .idle hbuild hempty
    | false =>
      have hplanned : Planned setting.registry file plan := ⟨hbuild, hempty⟩
      rcases hsession : scene.session with _ | held
      · exact inSession_course setting hplanned browser hsession
      · exact .busy hplanned (by rw [hsession]; rfl)

end Pass

end PageCheck
