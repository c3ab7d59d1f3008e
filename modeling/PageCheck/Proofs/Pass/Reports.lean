import Mathlib.Logic.Basic
import PageCheck.Proofs.Pass.Conclusion

/-!
# Reports of a pass

While errors are suppressed a pass has reports in one of two ways. Either a step does not complete,
and the first such step is the last thing executed and the only thing reported. Or every step
completes, and every validation is checked and reported, whatever comes of the ones before it. The
only thing that can keep a pass from its reports is a handler that gives up when it is asked whether
it supports the state of a validation: it is not running yet, so nothing catches that in the pass.
-/

namespace PageCheck

variable {World Session : Type}

/-- Whatever handler a registry has for a validation, it has an answer for every state that it is
asked about. -/
def Registry.Answers (registry : Registry) : Prop :=
  ∀ validationType handler state, registry.validationHandler validationType = .ok handler →
    ∃ supported, handler.supports.answer state = .ok supported

theorem Registry.answers_empty : Registry.empty.Answers := by
  intro validationType handler state hhandler
  cases validationType <;> cases hhandler <;> exact ⟨_, rfl⟩

namespace Pass

variable {setting : Setting World Session} {browser : BrowserTarget} {plan : Plan}
  {scene : Scene World Session}

/-- A pass that ends with a step: the first one that does not complete. Nothing after it has a part
in what the pass does. -/
structure StopsAt (setting : Setting World Session) (browser : BrowserTarget) (plan : Plan)
    (scene : Scene World Session) (reports : List Report) (position : Nat) (step : Step)
    (msg : String) : Prop where
  /-- The step has the position. -/
  found : plan.steps[position]? = some step
  /-- Every step before it completes. -/
  before : ∀ earlier < position, Completes setting plan.items scene earlier
  /-- The step does not complete, and the scene stays as it leaves it. -/
  wrong : ∃ attempt, ExecutedAt setting plan.items scene position attempt
    (runPlan setting browser plan scene).2 ∧ Shows attempt (some msg)
  /-- It is all that is reported. -/
  reported : reports = [.stepFailure ⟨browser.name, position, step.action.name, msg⟩]
  /-- The pass goes the same whatever steps and validations come after it. -/
  last : ∀ later validations,
    runPlan setting browser ⟨plan.steps.take (position + 1) ++ later, validations⟩ scene =
      runPlan setting browser plan scene

/-- A pass that carries out every step and checks every validation. -/
structure ChecksAll (setting : Setting World Session) (browser : BrowserTarget) (plan : Plan)
    (scene : Scene World Session) (reports : List Report) : Prop where
  /-- Every step completes. -/
  setup : ∀ position < plan.steps.length, Completes setting plan.items scene position
  /-- There is one report on each validation. -/
  count : reports.length = plan.validations.length
  /-- The report says whether the execution of the validation completed, and what is wrong if it did
  not. -/
  reported : ∀ position validation, plan.validations[position]? = some validation →
    ∃ attempt after wrong,
      ExecutedAt setting plan.items scene (plan.steps.length + position) attempt after ∧
      Shows attempt wrong ∧
      reports[position]? = some (.validation ⟨browser.name, validation.validationType.name,
        validation.target, validation.state.name, wrong.isNone, wrong⟩)

/-- A pass has reports, and either it ends with a step or it checks every validation. -/
def StopsOrChecks (setting : Setting World Session) (browser : BrowserTarget) (plan : Plan)
    (scene : Scene World Session) : Prop :=
  ∃ reports, (runPlan setting browser plan scene).1 = .finished reports ∧
    Xor (∃ position step msg, StopsAt setting browser plan scene reports position step msg)
      (ChecksAll setting browser plan scene reports)

/-- The handler of a validation gives up when it is asked whether it supports the state, after steps
that complete and validations that are checked. -/
structure GivesUpAt (setting : Setting World Session) (plan : Plan) (scene : Scene World Session)
    (position : Nat) (message : String) : Prop where
  /-- Every step completes. -/
  setup : ∀ position < plan.steps.length, Completes setting plan.items scene position
  /-- Something can be said of every validation before. -/
  before : ∀ earlier < position, ∃ attempt after wrong,
    ExecutedAt setting plan.items scene (plan.steps.length + earlier) attempt after ∧
      Shows attempt wrong
  /-- The handler is asked. -/
  asked : ∃ validation handler, plan.validations[position]? = some validation ∧
    setting.registry.validationHandler validation.validationType = .ok handler ∧
    handler.supports.answer validation.state = .error message

/-- Only the handler of a validation gives up, and it changes nothing by that. -/
theorem Executes.of_panicked {item : Item} {after : Scene World Session} {message : String}
    (executes : Executes setting item scene (.panicked message) after) :
    after = scene ∧ ∃ validation handler, item = .validation validation ∧
      setting.registry.validationHandler validation.validationType = .ok handler ∧
      handler.supports.answer validation.state = .error message := by
  generalize hattempt : Attempt.panicked message = attempt at executes
  cases executes with
  | unanswered hhandler hanswer =>
    cases hattempt
    exact ⟨rfl, _, _, rfl, hhandler, hanswer⟩
  | performed hresolve hhandler hrun nothing =>
    rename_i result
    cases result <;> cases hattempt
  | @captured _ _ after _ _ value name hresolve hhandler hrun named =>
    cases hkept : (after.context.capture name value).2 <;> rw [hkept] at hattempt <;>
      cases hattempt
  | checked hhandler hanswer hresolve hrun =>
    rename_i result
    cases result <;> cases hattempt
  | _ => cases hattempt

/-- While errors are suppressed a step puts an end to a pass with a report on what is wrong. -/
theorem stopped_of_step_end {step : Step} {passEnd : PassEnd}
    (ends : (Item.step step).end? browser true (executeStep setting step scene).1 =
      some passEnd) :
    ∃ msg, Shows (executeStep setting step scene).1 (some msg) ∧
      passEnd = .finished [stepReport browser step msg] := by
  rcases hstep : executeStep setting step scene with ⟨(value | msg) | error | message, after⟩
  all_goals rw [hstep] at ends
  · cases ends
  · cases ends
    exact ⟨msg, .failed msg, rfl⟩
  · cases ends
    exact ⟨error.message, .error error, rfl⟩
  · have hexecute : execute setting (.step step) scene = (.panicked message, after) := hstep
    obtain ⟨-, _, _, hitem, -⟩ := (execute_iff.mp hexecute).of_panicked
    cases hitem

/-- While errors are suppressed a validation puts an end to a pass only by giving up. -/
theorem panicked_of_validation_end {validation : Validation} {attempt : Attempt Outcome}
    {passEnd : PassEnd}
    (ends : (Item.validation validation).end? browser true attempt = some passEnd) :
    ∃ message, attempt = .panicked message ∧ passEnd = .panicked message := by
  rcases attempt with (value | msg) | error | message <;> cases ends
  exact ⟨message, rfl, rfl⟩

theorem completes_of_throughout {steps rest : List Step} (split : plan.steps = steps ++ rest)
    (setup : Throughout setting Completed (steps.map .step) scene) {position : Nat}
    (inSteps : position < steps.length) : Completes setting plan.items scene position := by
  obtain ⟨_, after, hexecuted, value, rfl⟩ := setup.in_plan split inSteps
  exact ⟨value, after, hexecuted⟩

/-- The first step that does not complete ends the pass. -/
theorem stopsAt_of_first {file : ValidationFile}
    (built : Plan.build setting.registry file = .ok plan)
    (suppressed : scene.context.options.suppressExceptions = true)
    {done rest : List Step} {step : Step} {msg : String}
    (split : plan.steps = done ++ step :: rest)
    (setup : Throughout setting Completed (done.map .step) scene)
    (wrong : Shows (executeStep setting step (reach setting (done.map .step) scene)).1 (some msg))
    (ends : (Item.step step).end? browser true
      (executeStep setting step (reach setting (done.map .step) scene)).1 =
        some (.finished [stepReport browser step msg])) :
    StopsAt setting browser plan scene [stepReport browser step msg] done.length step msg := by
  have hrun : ∀ other : Plan, (∃ later, other.steps = done ++ step :: later) →
      runPlan setting browser other scene = (.finished [stepReport browser step msg],
        (executeStep setting step (reach setting (done.map .step) scene)).2) := by
    rintro other ⟨later, hother⟩
    rw [runPlan_eq_runPlanWith, suppressed]
    exact runPlanWith_of_step setting browser hother setup ends
  have hfound := getElem?_of_split split
  refine ⟨hfound, ?_, ?_, ?_, ?_⟩
  · intro earlier hearlier
    exact completes_of_throughout split setup hearlier
  · refine ⟨_, ?_, wrong⟩
    rw [hrun plan ⟨rest, split⟩]
    exact executedAt_step split
  · rw [stepReport, Plan.step_index setting.registry built hfound]
  · intro later validations
    have htake : plan.steps.take (done.length + 1) ++ later = done ++ step :: later := by
      rw [split, List.take_length_add_append]
      simp
    rw [hrun plan ⟨rest, split⟩, hrun _ ⟨later, htake⟩]

/-- Steps that all complete are followed by every validation. -/
theorem checksAll_of_through (setup : Throughout setting Completed (plan.steps.map .step) scene)
    {suppress : Bool}
    (tolerated : Throughout setting (Tolerated suppress) (plan.validations.map .validation)
      (reach setting (plan.steps.map .step) scene)) :
    ChecksAll setting browser plan scene
      (checks setting browser plan.validations (reach setting (plan.steps.map .step) scene)) := by
  refine ⟨?_, length_checks setting browser _ _, ?_⟩
  · intro position hposition
    exact completes_of_throughout (List.append_nil _).symm setup hposition
  · intro position validation hfound
    obtain ⟨attempt, after, hexecuted, hreport⟩ := checks_getElem? setting browser hfound
      (reach setting (plan.steps.map .step) scene)
    obtain ⟨hposition, -⟩ := List.getElem?_eq_some_iff.mp hfound
    obtain ⟨_, _, hother, htolerated⟩ := tolerated.executed (by simpa using hposition)
    obtain ⟨rfl, rfl⟩ := hexecuted.unique hother
    exact ⟨attempt, after, _, executedAt_validation.mpr hexecuted, .of_tolerated htolerated,
      hreport⟩

/-- A handler that gives up, after validations that do not, is where a pass gives up. -/
theorem givesUpAt_of_first (setup : Throughout setting Completed (plan.steps.map .step) scene)
    {done rest : List Validation} {validation : Validation} {suppress : Bool} {message : String}
    (split : plan.validations = done ++ validation :: rest)
    (tolerated : Throughout setting (Tolerated suppress) (done.map .validation)
      (reach setting (plan.steps.map .step) scene))
    (gaveUp : (executeValidation setting validation (reach setting (done.map .validation)
      (reach setting (plan.steps.map .step) scene))).1 = .panicked message) :
    GivesUpAt setting plan scene done.length message := by
  refine ⟨?_, ?_, ?_⟩
  · intro position hposition
    exact completes_of_throughout (List.append_nil _).symm setup hposition
  · intro earlier hearlier
    obtain ⟨attempt, after, hexecuted, htolerated⟩ := tolerated.validation_in_plan split hearlier
    exact ⟨attempt, after, _, hexecuted, .of_tolerated htolerated⟩
  · have hexecute : execute setting (.validation validation) (reach setting (done.map .validation)
        (reach setting (plan.steps.map .step) scene)) = (.panicked message, _) :=
      Prod.ext gaveUp rfl
    obtain ⟨-, _, handler, hitem, hhandler, hanswer⟩ := (execute_iff.mp hexecute).of_panicked
    cases hitem
    exact ⟨validation, handler, getElem?_of_split split, hhandler, hanswer⟩

/-- No pass goes both ways. -/
theorem StopsAt.not_checksAll {reports others : List Report} {position : Nat} {step : Step}
    {msg : String} (stops : StopsAt setting browser plan scene reports position step msg) :
    ¬ ChecksAll setting browser plan scene others := by
  intro hchecks
  obtain ⟨attempt, hexecuted, hwrong⟩ := stops.wrong
  obtain ⟨hposition, -⟩ := List.getElem?_eq_some_iff.mp stops.found
  obtain ⟨value, after, hcompleted⟩ := hchecks.setup position hposition
  obtain ⟨rfl, -⟩ := hexecuted.unique hcompleted
  cases hwrong

theorem Shows.tolerated {attempt : Attempt Outcome} {wrong : Option String}
    (shows : Shows attempt wrong) : Tolerated true attempt := by
  cases shows with
  | completed value => trivial
  | failed msg => trivial
  | error error => rfl

/-- A handler that gives up over what it is asked stops the plan. -/
theorem GivesUpAt.stoppedBy {position : Nat} {message : String}
    (givesUp : GivesUpAt setting plan scene position message) :
    ∃ item after, StoppedBy setting true plan scene (plan.steps.length + position) item
      (.panicked message) after := by
  obtain ⟨hsetup, hbefore, validation, handler, hfound, hhandler, hanswer⟩ := givesUp
  have hitem : plan.items[plan.steps.length + position]? = some (.validation validation) := by
    rw [getElem?_items_validation, hfound]
    rfl
  have hexecute : execute setting (.validation validation)
      (reach setting (plan.items.take (plan.steps.length + position)) scene) =
        (.panicked message, _) := execute_of_executes (.unanswered hhandler hanswer)
  refine ⟨_, _, hitem, executedAt_iff.mpr ⟨_, hitem, hexecute⟩, fun hnone => hnone, ?_⟩
  intro earlier hearlier other hother
  rcases Nat.lt_or_ge earlier plan.steps.length with hstep | hvalidation
  · obtain ⟨value, last, hexecuted⟩ := hsetup earlier hstep
    exact ⟨_, last, hexecuted, other.not_stops_of_completed ⟨value, rfl⟩⟩
  · obtain ⟨later, rfl⟩ := Nat.exists_eq_add_of_le hvalidation
    rw [getElem?_items_validation] at hother
    obtain ⟨_, _, rfl⟩ := Option.map_eq_some_iff.mp hother
    obtain ⟨attempt, last, wrong, hexecuted, hshows⟩ := hbefore later (by omega)
    exact ⟨attempt, last, hexecuted, fun hstops => hstops hshows.tolerated⟩

/-- A pass in which a handler gives up over what it is asked ends with that. -/
theorem GivesUpAt.ends (browser : BrowserTarget)
    (suppressed : scene.context.options.suppressExceptions = true) {position : Nat}
    {message : String} (givesUp : GivesUpAt setting plan scene position message) :
    (runPlan setting browser plan scene).1 = .panicked message := by
  obtain ⟨item, after, hstopped⟩ := givesUp.stoppedBy
  have hconclusion := runPlanWith_conclusion setting browser true plan scene
  rw [runPlan_eq_runPlanWith, suppressed]
  generalize runPlanWith setting browser true plan scene = ended at hconclusion ⊢
  obtain ⟨passEnd, last⟩ := ended
  cases hconclusion with
  | through setup tolerated => exact absurd hstopped (not_stoppedBy_of_through setup tolerated)
  | step split setup ends =>
    have hstops := (Item.stops_iff browser).mpr ⟨_, ends⟩
    obtain ⟨-, hattempt⟩ := (StoppedBy.of_step true split setup hstops).unique hstopped
    obtain ⟨msg, hwrong, -⟩ := stopped_of_step_end ends
    rw [hattempt] at hwrong
    cases hwrong
  | validation setup split tolerated ends =>
    have hstops := (Item.stops_iff browser).mpr ⟨_, ends⟩
    obtain ⟨-, hattempt⟩ := (StoppedBy.of_validation setup split tolerated hstops).unique hstopped
    obtain ⟨other, hgaveUp, rfl⟩ := panicked_of_validation_end ends
    rw [hgaveUp] at hattempt
    cases hattempt
    exact foldr_withReport_panicked _ message

/-- While errors are suppressed a pass stops at a step, checks every validation or gives up over what
a handler is asked. -/
theorem stopsOrChecks_or_givesUp (browser : BrowserTarget) {file : ValidationFile}
    (built : Plan.build setting.registry file = .ok plan)
    (suppressed : scene.context.options.suppressExceptions = true) :
    StopsOrChecks setting browser plan scene ∨
      ∃ position message, GivesUpAt setting plan scene position message := by
  have hconclusion := runPlanWith_conclusion setting browser true plan scene
  rw [StopsOrChecks, runPlan_eq_runPlanWith, suppressed]
  generalize runPlanWith setting browser true plan scene = ended at hconclusion ⊢
  obtain ⟨passEnd, after⟩ := ended
  cases hconclusion with
  | through setup tolerated =>
    have hchecks : ChecksAll setting browser plan scene _ := checksAll_of_through setup tolerated
    refine .inl ⟨_, rfl, .inr ⟨hchecks, ?_⟩⟩
    rintro ⟨position, step, msg, hstops⟩
    exact hstops.not_checksAll hchecks
  | step split setup ends =>
    obtain ⟨msg, hwrong, rfl⟩ := stopped_of_step_end ends
    have hstops := stopsAt_of_first built suppressed split setup hwrong ends
    exact .inl ⟨_, rfl, .inl ⟨⟨_, _, msg, hstops⟩, hstops.not_checksAll⟩⟩
  | validation setup split tolerated ends =>
    obtain ⟨message, hgaveUp, rfl⟩ := panicked_of_validation_end ends
    exact .inr ⟨_, message, givesUpAt_of_first setup split tolerated hgaveUp⟩

/-- Where every question has an answer no pass gives up over one. -/
theorem not_givesUpAt_of_answers (answers : setting.registry.Answers) {position : Nat}
    {message : String} : ¬ GivesUpAt setting plan scene position message := by
  rintro ⟨_, _, validation, handler, _, hhandler, hanswer⟩
  obtain ⟨supported, hsupported⟩ := answers _ _ validation.state hhandler
  rw [hanswer] at hsupported
  cases hsupported

/-- Where every question has an answer a pass stops at a step or checks every validation. -/
theorem stopsOrChecks_of_answers (browser : BrowserTarget) {file : ValidationFile}
    (built : Plan.build setting.registry file = .ok plan)
    (suppressed : scene.context.options.suppressExceptions = true)
    (answers : setting.registry.Answers) : StopsOrChecks setting browser plan scene := by
  refine (stopsOrChecks_or_givesUp browser built suppressed).resolve_right ?_
  rintro ⟨position, message, hgivesUp⟩
  exact not_givesUpAt_of_answers answers hgivesUp

/-- A file that loads the page again and checks three things, of which one fails, one cannot be
asked for and one holds where there are no elements. -/
def checking : ValidationFile where
  description := none
  targetBrowsers := ["Firefox"]
  path := none
  definitions := []
  steps := [⟨"Refresh", none, [], none⟩]
  validations := [⟨"XPath", "//h1", "Exists", none, []⟩, ⟨"URL", "path", "Exists", none, []⟩,
    ⟨"XPath", "//h2", "NotExists", none, []⟩]
  metadata := []

/-- The plan of that file. -/
def checkingPlan : Plan where
  steps := [⟨0, .refresh, none, [], none, none⟩]
  validations := [⟨1, .xpath, .exists, "//h1", none, []⟩, ⟨2, .url, .exists, "path", none, []⟩,
    ⟨3, .xpath, .notExists, "//h2", none, []⟩]

/-- The scene in which a session has just started at a scripted site. -/
def started : Scene Scripted.Journal Scripted.Session :=
  { Scene.scripted with session := some (.fresh .firefox) }

/-- A scripted site for a registry with a plugin whose handler for URLs gives up when it is asked
which states it supports. -/
def unanswering : Setting Scripted.Journal Scripted.Session :=
  { Setting.scripted .empty with
    registry := { Registry.empty with validationHandlers := [fun
      | .url => some ⟨⟨fun _ => .error "lost for words"⟩, fun _ _ => .done .done⟩
      | _ => none] } }

end Pass

end PageCheck
