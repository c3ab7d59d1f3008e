import PageCheck.Proofs.Browser.Record
import PageCheck.Proofs.Pass.Reports

/-!
# Suppression of errors

Whether errors are suppressed matters from the first error on, and not before. Up to it a pass
executes the same items in the same way, whatever the scene says on errors. If they are to end the
pass, the first one does, with the reports made so far; if not, it is reported and the pass goes on.
-/

namespace PageCheck

variable {World Session : Type}

/-- The scene with errors suppressed or not. -/
def Scene.suppressing (scene : Scene World Session) (suppress : Bool) : Scene World Session :=
  { scene with context := { scene.context with
    options := { scene.context.options with suppressExceptions := suppress } } }

/-- What a scene says on errors is a matter of how it is read. -/
theorem Scene.suppressing_eq_read (browser : Browser World Session)
    (scene : Scene World Session) (suppress : Bool) :
    scene.suppressing suppress = scene.read (.refl browser) fun options =>
      { options with suppressExceptions := suppress } := by
  rcases scene with ⟨context, _ | session, world⟩ <;> rfl

namespace Pass

/-- The first error of a plan: every step before it completes, and every validation before it is
checked without one. -/
structure FirstError (setting : Setting World Session) (plan : Plan) (scene : Scene World Session)
    (position : Nat) (error : Error) : Prop where
  /-- The execution at the position is the error. -/
  errs : ∃ after, ExecutedAt setting plan.items scene position (.failed error) after
  /-- Every step before it completes. -/
  setup : ∀ earlier < position, earlier < plan.steps.length →
    Completes setting plan.items scene earlier
  /-- Every execution before it has an outcome. -/
  before : ∀ earlier < position, ∃ outcome after,
    ExecutedAt setting plan.items scene earlier (.returned outcome) after

/-- A step ends a pass whose suppressed counterpart makes some reports: it is reported there just as
it is here. -/
def AbortedByStep (browser : BrowserTarget) (plan : Plan) (reports : List Report)
    (abort : Abort) : Prop :=
  ∃ step, plan.steps[abort.index]? = some step ∧ abort.action = step.action.name ∧
    abort.reports = [] ∧ abort.allReports browser.name = reports

/-- A validation ends a pass whose suppressed counterpart makes some reports: those before it are
made here too, and what is reported on it there is the error. -/
def AbortedByValidation (browser : BrowserTarget) (plan : Plan) (reports : List Report)
    (abort : Abort) : Prop :=
  ∃ position validation, plan.validations[position]? = some validation ∧
    abort.index = plan.steps.length + position ∧ abort.action = Plan.validateAction ∧
    abort.reports = reports.take position ∧
    reports[position]? = some (.validation ⟨browser.name, validation.validationType.name,
      validation.target, validation.state.name, false, some abort.error.message⟩) ∧
    abort.allReports browser.name = reports.take position ++
      [.stepFailure ⟨browser.name, abort.index, Plan.validateAction, abort.error.message⟩]

/-- A pass ends with the first error. -/
structure Aborts (setting : Setting World Session) (browser : BrowserTarget) (plan : Plan)
    (scene : Scene World Session) (abort : Abort) (after : Scene World Session) : Prop where
  /-- The error is the first one. -/
  first : FirstError setting plan scene abort.index abort.error
  /-- It leaves a scene. -/
  executed : ExecutedAt setting plan.items scene abort.index (.failed abort.error) after
  /-- The pass ends with it, in that scene. -/
  ended : runPlanWith setting browser false plan scene = (.aborted abort, after)
  /-- The suppressed pass goes on from there. -/
  later : after.Moves setting.browser (runPlanWith setting browser true plan scene).2
  /-- The error is among the reports of that one, if it makes any. -/
  reported : ∀ reports, (runPlanWith setting browser true plan scene).1 = .finished reports →
    AbortedByStep browser plan reports abort ∨ AbortedByValidation browser plan reports abort

section

variable {setting : Setting World Session} {browser : BrowserTarget} {plan : Plan}
  {scene : Scene World Session}

theorem Item.end?_true_of_not_failed {item : Item} {attempt : Attempt Outcome}
    (notError : ∀ error, attempt ≠ .failed error) :
    item.end? browser true attempt = item.end? browser false attempt := by
  rcases item with step | validation <;> rcases attempt with (value | msg) | error | message
  all_goals first | rfl | exact absurd rfl (notError error)

theorem exists_returned_of_not_stops {item : Item} {attempt : Attempt Outcome}
    (goesOn : ¬ item.Stops false attempt) : ∃ outcome, attempt = .returned outcome := by
  cases item with
  | step step =>
    obtain ⟨value, rfl⟩ := not_not.mp goesOn
    exact ⟨_, rfl⟩
  | validation validation =>
    have htolerated : Tolerated false attempt := not_not.mp goesOn
    rcases attempt with outcome | error | message
    · exact ⟨outcome, rfl⟩
    · cases htolerated
    · exact htolerated.elim

theorem Item.stops_of_failed (item : Item) (error : Error) : item.Stops false (.failed error) := by
  cases item with
  | step step =>
    rintro ⟨value, hvalue⟩
    cases hvalue
  | validation validation =>
    intro htolerated
    cases htolerated

/-- The first error stops a plan that errors are to end. -/
theorem FirstError.stoppedBy {position : Nat} {error : Error}
    (first : FirstError setting plan scene position error) :
    ∃ item after, StoppedBy setting false plan scene position item (.failed error) after := by
  obtain ⟨⟨after, item, between, hitem, hreaches, hexecutes⟩, hsetup, hbefore⟩ := first
  refine ⟨item, after, hitem, ⟨item, between, hitem, hreaches, hexecutes⟩,
    Item.stops_of_failed item error, ?_⟩
  intro earlier hearlier other hother
  rcases Nat.lt_or_ge earlier plan.steps.length with hstep | hvalidation
  · obtain ⟨value, last, hexecuted⟩ := hsetup earlier hearlier hstep
    exact ⟨_, last, hexecuted, other.not_stops_of_completed ⟨value, rfl⟩⟩
  · obtain ⟨outcome, last, hexecuted⟩ := hbefore earlier hearlier
    obtain ⟨later, rfl⟩ := Nat.exists_eq_add_of_le hvalidation
    rw [getElem?_items_validation] at hother
    obtain ⟨_, _, rfl⟩ := Option.map_eq_some_iff.mp hother
    exact ⟨_, last, hexecuted, fun hstops => hstops trivial⟩

/-- An error that stops a plan is the first one. -/
theorem StoppedBy.firstError {position : Nat} {item : Item} {error : Error}
    {after : Scene World Session}
    (stopped : StoppedBy setting false plan scene position item (.failed error) after) :
    FirstError setting plan scene position error := by
  obtain ⟨hposition, -⟩ := List.getElem?_eq_some_iff.mp stopped.found
  refine ⟨⟨after, stopped.executed⟩, ?_, ?_⟩
  · intro earlier hearlier hstep
    have hfound : plan.items[earlier]? = some (.step plan.steps[earlier]) := by
      rw [getElem?_items_step _ hstep, List.getElem?_eq_getElem hstep]
      rfl
    obtain ⟨attempt, last, hexecuted, hgoesOn⟩ := stopped.first earlier hearlier _ hfound
    obtain ⟨value, rfl⟩ := not_not.mp hgoesOn
    exact ⟨value, last, hexecuted⟩
  · intro earlier hearlier
    have hfound := List.getElem?_eq_getElem (Nat.lt_trans hearlier hposition)
    obtain ⟨attempt, last, hexecuted, hgoesOn⟩ := stopped.first earlier hearlier _ hfound
    obtain ⟨outcome, rfl⟩ := exists_returned_of_not_stops hgoesOn
    exact ⟨outcome, last, hexecuted⟩

/-- A plan has one first error at most. -/
theorem FirstError.unique {first second : Nat} {error other : Error}
    (hfirst : FirstError setting plan scene first error)
    (hsecond : FirstError setting plan scene second other) : first = second ∧ error = other := by
  obtain ⟨_, _, hstopped⟩ := hfirst.stoppedBy
  obtain ⟨_, _, hstopped'⟩ := hsecond.stoppedBy
  obtain ⟨hposition, hattempt⟩ := hstopped.unique hstopped'
  exact ⟨hposition, Attempt.failed.inj hattempt⟩

/-- Nothing is an error if something else stops the plan first. -/
theorem not_firstError_of_stoppedBy {position other : Nat} {item : Item} {error : Error}
    {attempt : Attempt Outcome} {after : Scene World Session}
    (stopped : StoppedBy setting false plan scene position item attempt after)
    (notError : ∀ error, attempt ≠ .failed error) :
    ¬ FirstError setting plan scene other error := by
  intro hfirst
  obtain ⟨_, _, hstopped⟩ := hfirst.stoppedBy
  exact notError error (stopped.unique hstopped).2

theorem Tolerated.tolerated_true {attempt : Attempt Outcome} (tolerated : Tolerated false attempt) :
    Tolerated true attempt := by
  rcases attempt with outcome | error | message
  · trivial
  · cases tolerated
  · exact tolerated.elim

theorem Throughout.tolerated_true {items : List Item} {scene : Scene World Session}
    (all : Throughout setting (Tolerated false) items scene) :
    Throughout setting (Tolerated true) items scene := by
  induction items generalizing scene with
  | nil => trivial
  | cons item rest ih =>
    obtain ⟨hfirst, hrest⟩ := all
    exact ⟨hfirst.tolerated_true, ih hrest⟩

theorem foldr_withReport_eq_finished (done : List Report) {reports : List Report} {passEnd : PassEnd}
    (finished : done.foldr withReport passEnd = .finished reports) :
    ∃ later, passEnd = .finished later ∧ reports = done ++ later := by
  cases passEnd with
  | finished later =>
    rw [foldr_withReport_finished] at finished
    cases finished
    exact ⟨later, rfl, rfl⟩
  | aborted abort =>
    rw [foldr_withReport_aborted] at finished
    cases finished
  | panicked message =>
    rw [foldr_withReport_panicked] at finished
    cases finished

/-- If errors are suppressed, a validation that is one is reported on, and the others are checked. -/
theorem runPlanWith_true_of_failed (setting : Setting World Session) (browser : BrowserTarget)
    (setup : Throughout setting Completed (plan.steps.map .step) scene)
    {done rest : List Validation} {validation : Validation} {error : Error}
    (split : plan.validations = done ++ validation :: rest)
    (tolerated : Throughout setting (Tolerated true) (done.map .validation)
      (reach setting (plan.steps.map .step) scene))
    {after : Scene World Session}
    (failed : executeValidation setting validation (reach setting (done.map .validation)
      (reach setting (plan.steps.map .step) scene)) = (.failed error, after)) :
    runPlanWith setting browser true plan scene =
      ((checks setting browser done (reach setting (plan.steps.map .step) scene)).foldr withReport
          (withReport (validationReport browser validation (some error.message))
            (runValidations setting browser true rest after).1),
        (runValidations setting browser true rest after).2) := by
  rw [runPlanWith_of_setup setting browser setup, split,
    runValidations_append setting browser tolerated, runValidations, failed]
  rfl

/-- An error of a step after steps that complete ends the pass there. -/
theorem Aborts.of_step {file : ValidationFile}
    (built : Plan.build setting.registry file = .ok plan) {done rest : List Step} {step : Step}
    {error : Error} (split : plan.steps = done ++ step :: rest)
    (setup : Throughout setting Completed (done.map .step) scene)
    (wrong : (executeStep setting step (reach setting (done.map .step) scene)).1 =
      .failed error) :
    Aborts setting browser plan scene ⟨[], done.length, step.action.name, error⟩
      (executeStep setting step (reach setting (done.map .step) scene)).2 := by
  have hfound := getElem?_of_split split
  have hindex := Plan.step_index setting.registry built hfound
  have hincomplete : ¬ Completed
      (executeStep setting step (reach setting (done.map .step) scene)).1 := by
    rw [wrong]
    rintro ⟨value, hvalue⟩
    cases hvalue
  have hend : ∀ suppress, (Item.step step).end? browser suppress
      (executeStep setting step (reach setting (done.map .step) scene)).1 =
        some (if suppress then .finished [stepReport browser step error.message]
          else .aborted ⟨[], step.index, step.action.name, error⟩) := by
    intro suppress
    rw [wrong]
    rfl
  have hsuppressed := runPlanWith_of_step setting browser split setup (hend true)
  have hended := runPlanWith_of_step setting browser split setup (hend false)
  have hstopped := StoppedBy.of_step false split setup hincomplete
  rw [wrong] at hstopped
  refine ⟨hstopped.firstError, hstopped.executed, ?_, ?_, ?_⟩
  · rw [hended, hindex]
    rfl
  · rw [hsuppressed]
  · intro reports hreports
    rw [hsuppressed] at hreports
    cases hreports
    refine .inl ⟨step, hfound, rfl, rfl, ?_⟩
    rw [Abort.allReports, stepReport, hindex]
    rfl

/-- An error of a validation after steps that complete and validations that have outcomes ends the
pass there. -/
theorem Aborts.of_validation {file : ValidationFile}
    (built : Plan.build setting.registry file = .ok plan)
    (setup : Throughout setting Completed (plan.steps.map .step) scene)
    {done rest : List Validation} {validation : Validation} {error : Error}
    (split : plan.validations = done ++ validation :: rest)
    (tolerated : Throughout setting (Tolerated false) (done.map .validation)
      (reach setting (plan.steps.map .step) scene))
    (wrong : (executeValidation setting validation (reach setting (done.map .validation)
      (reach setting (plan.steps.map .step) scene))).1 = .failed error) :
    Aborts setting browser plan scene
      ⟨checks setting browser done (reach setting (plan.steps.map .step) scene),
        plan.steps.length + done.length, Plan.validateAction, error⟩
      (executeValidation setting validation (reach setting (done.map .validation)
        (reach setting (plan.steps.map .step) scene))).2 := by
  have hfound := getElem?_of_split split
  have hindex := Plan.validation_index setting.registry built hfound
  have hcount := length_checks setting browser done (reach setting (plan.steps.map .step) scene)
  have hended : (Item.validation validation).end? browser false
      (executeValidation setting validation (reach setting (done.map .validation)
        (reach setting (plan.steps.map .step) scene))).1 =
          some (.aborted ⟨[], validation.index, Plan.validateAction, error⟩) := by
    rw [wrong]
    rfl
  have hstopped := StoppedBy.of_validation setup split tolerated (by rw [wrong]; exact nofun)
  rw [wrong] at hstopped
  have hsuppressed := runPlanWith_true_of_failed setting browser setup split
    tolerated.tolerated_true (Prod.ext wrong rfl)
  refine ⟨hstopped.firstError, hstopped.executed, ?_, ?_, ?_⟩
  · rw [runPlanWith_of_validation setting browser setup split tolerated hended,
      foldr_withReport_aborted, List.append_nil, hindex]
  · rw [hsuppressed]
    exact moves_runValidations setting browser true rest _
  · intro reports hreports
    rw [hsuppressed] at hreports
    obtain ⟨later, hlater, rfl⟩ := foldr_withReport_eq_finished _ hreports
    obtain ⟨others, -, rfl⟩ := foldr_withReport_eq_finished
      [validationReport browser validation (some error.message)] hlater
    refine .inr ⟨done.length, validation, hfound, rfl, rfl, ?_, ?_, ?_⟩
    · rw [← hcount, List.take_left]
    · rw [← hcount]
      exact getElem?_of_split rfl
    · rw [← hcount, List.take_left]
      rfl

/-- A pass goes the same way whether errors are suppressed or not, or it ends with the first
error. -/
theorem same_or_aborts (setting : Setting World Session) (browser : BrowserTarget)
    {file : ValidationFile} (built : Plan.build setting.registry file = .ok plan)
    (scene : Scene World Session) :
    (runPlanWith setting browser false plan scene = runPlanWith setting browser true plan scene ∧
        ∀ position error, ¬ FirstError setting plan scene position error) ∨
      ∃ abort after, Aborts setting browser plan scene abort after := by
  have hconclusion := runPlanWith_conclusion setting browser false plan scene
  generalize hended : runPlanWith setting browser false plan scene = ended at hconclusion
  obtain ⟨passEnd, after⟩ := ended
  cases hconclusion with
  | through setup tolerated =>
    refine .inl ⟨?_, ?_⟩
    · rw [runPlanWith_through setting browser setup tolerated.tolerated_true]
    · intro position error hfirst
      obtain ⟨_, _, hstopped⟩ := hfirst.stoppedBy
      exact not_stoppedBy_of_through setup tolerated hstopped
  | @step done rest step _ split setup ends =>
    by_cases hwrong : ∃ error,
      (executeStep setting step (reach setting (done.map .step) scene)).1 = .failed error
    · obtain ⟨error, hwrong⟩ := hwrong
      exact .inr ⟨_, _, .of_step built split setup hwrong⟩
    · have hnot := not_exists.mp hwrong
      refine .inl ⟨?_, ?_⟩
      · rw [← Item.end?_true_of_not_failed hnot] at ends
        rw [runPlanWith_of_step setting browser split setup ends]
      · intro position error
        have hstops := (Item.stops_iff browser).mpr ⟨_, ends⟩
        exact not_firstError_of_stoppedBy (.of_step false split setup hstops) hnot
  | @validation done rest validation _ setup split tolerated ends =>
    by_cases hwrong : ∃ error,
      (executeValidation setting validation (reach setting (done.map .validation)
        (reach setting (plan.steps.map .step) scene))).1 = .failed error
    · obtain ⟨error, hwrong⟩ := hwrong
      exact .inr ⟨_, _, .of_validation built setup split tolerated hwrong⟩
    · have hnot := not_exists.mp hwrong
      refine .inl ⟨?_, ?_⟩
      · rw [← Item.end?_true_of_not_failed hnot] at ends
        rw [runPlanWith_of_validation setting browser setup split tolerated.tolerated_true ends]
      · intro position error
        have hstops := (Item.stops_iff browser).mpr ⟨_, ends⟩
        exact not_firstError_of_stoppedBy (.of_validation setup split tolerated hstops) hnot

end

/-- A pass does with errors what its scene says, and nothing else in it depends on that. -/
theorem runPlan_suppressing (setting : Setting World Session) (browser : BrowserTarget)
    (plan : Plan) (scene : Scene World Session) (suppress : Bool) :
    runPlan setting browser plan (scene.suppressing suppress) =
      ((runPlanWith setting browser suppress plan scene).1,
        (runPlanWith setting browser suppress plan scene).2.suppressing suppress) := by
  have hsteps : runSteps setting browser suppress plan.steps (scene.suppressing suppress) =
      ((runSteps setting browser suppress plan.steps scene).1,
        (runSteps setting browser suppress plan.steps scene).2.suppressing suppress) := by
    rw [Scene.suppressing_eq_read setting.browser, Scene.suppressing_eq_read setting.browser]
    exact runSteps_read (.refl setting.browser) _ browser suppress plan.steps scene
  rw [runPlan_eq_runPlanWith, runPlanWith, runPlanWith]
  have hsaid : (scene.suppressing suppress).context.options.suppressExceptions = suppress := rfl
  rw [hsaid, hsteps]
  rcases runSteps setting browser suppress plan.steps scene with ⟨_ | passEnd, after⟩
  · dsimp only
    rw [Scene.suppressing_eq_read setting.browser, Scene.suppressing_eq_read setting.browser]
    exact runValidations_read (.refl setting.browser) _ browser suppress plan.validations after
  · rfl

/-- The calls that a plan makes. -/
def issued (setting : Setting World Session) (browser : BrowserTarget) (plan : Plan)
    (scene : Scene World Session) : List Call :=
  (runPlan setting.recorded browser plan scene.recorded).2.world.calls

/-- These are the calls that the items of a plan make up to a position and there. -/
def IssuedThrough (setting : Setting World Session) (plan : Plan) (scene : Scene World Session)
    (position : Nat) (calls : List Call) : Prop :=
  ∃ attempt after, ExecutedAt setting.recorded plan.items scene.recorded position attempt after ∧
    calls = after.world.calls

/-- Recording changes nothing about the first error. -/
theorem firstError_recorded (setting : Setting World Session) (plan : Plan)
    (scene : Scene World Session) (position : Nat) (error : Error) :
    FirstError setting.recorded plan scene.recorded position error ↔
      FirstError setting plan scene position error := by
  have hexecuted : ∀ position attempt,
      (∃ after, ExecutedAt setting.recorded plan.items scene.recorded position attempt after) ↔
        ∃ after, ExecutedAt setting plan.items scene position attempt after := by
    intro position attempt
    refine (executedAt_read setting.plain id).symm.trans ?_
    rw [Scene.read_recorded]
    rfl
  constructor
  · rintro ⟨herrs, hsetup, hbefore⟩
    simp only [Completes, hexecuted] at herrs hsetup hbefore
    exact ⟨herrs, hsetup, hbefore⟩
  · rintro ⟨herrs, hsetup, hbefore⟩
    refine ⟨?_, ?_, ?_⟩ <;> simpa only [Completes, hexecuted]

/-- Where nothing is an error, a recorded pass goes the same way whether errors are suppressed or
not. -/
theorem runPlanWith_recorded_of_faultless (setting : Setting World Session)
    (browser : BrowserTarget) {file : ValidationFile} {plan : Plan}
    (built : Plan.build setting.registry file = .ok plan) {scene : Scene World Session}
    (faultless : ∀ position error, ¬ FirstError setting plan scene position error) :
    runPlanWith setting.recorded browser false plan scene.recorded =
      runPlanWith setting.recorded browser true plan scene.recorded := by
  rcases same_or_aborts setting.recorded browser built scene.recorded with
    ⟨hsame, _⟩ | ⟨abort, after, haborts⟩
  · exact hsame
  · have hfirst := (firstError_recorded setting plan _ _ _).mp haborts.first
    exact absurd hfirst (faultless abort.index abort.error)

/-- Where a pass ends with the first error, the recorded one ends at the same position. -/
theorem Aborts.recorded {setting : Setting World Session} {browser : BrowserTarget}
    {file : ValidationFile} {plan : Plan} (built : Plan.build setting.registry file = .ok plan)
    {scene after : Scene World Session} {abort : Abort}
    (aborts : Aborts setting browser plan scene abort after) :
    ∃ other last, Aborts setting.recorded browser plan scene.recorded other last ∧
      other.index = abort.index := by
  rcases same_or_aborts setting.recorded browser built scene.recorded with
    ⟨_, hnone⟩ | ⟨other, last, haborts⟩
  · have hfirst := (firstError_recorded setting plan _ _ _).mpr aborts.first
    exact absurd hfirst (hnone abort.index abort.error)
  · have hfirst := (firstError_recorded setting plan _ _ _).mp haborts.first
    exact ⟨other, last, haborts, (hfirst.unique aborts.first).1⟩

/-- How a pass ends, errors suppressed or not. -/
theorem end_suppressing (setting : Setting World Session) (browser : BrowserTarget) (plan : Plan)
    (scene : Scene World Session) (suppress : Bool) :
    (runPlan setting browser plan (scene.suppressing suppress)).1 =
      (runPlanWith setting browser suppress plan (scene.suppressing true)).1 := by
  have hrun := runPlan_suppressing setting browser plan (scene.suppressing true) suppress
  exact (Prod.mk.inj hrun).1

/-- The calls of a pass, errors suppressed or not. -/
theorem issued_suppressing (setting : Setting World Session) (browser : BrowserTarget) (plan : Plan)
    (scene : Scene World Session) (suppress : Bool) :
    issued setting browser plan (scene.suppressing suppress) =
      (runPlanWith setting.recorded browser suppress plan
        (scene.suppressing true).recorded).2.world.calls :=
  congrArg (fun result => result.2.world.calls)
    (runPlan_suppressing setting.recorded browser plan (scene.suppressing true).recorded suppress)

end Pass

end PageCheck
