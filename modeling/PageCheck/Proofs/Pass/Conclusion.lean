import PageCheck.Proofs.Pass.History
import PageCheck.Proofs.Plan.Numbering

/-!
# Conclusions of a plan

A plan is carried out item by item up to the first one that stops it. A step stops it if it does not
complete, and a validation if it gives up or is an error that is to end the pass. What is then
reported are the validations that were checked before it and the item itself, unless that gave up. A
plan that nothing stops has a report on each validation. In either case the scene is the one that a
beginning of the items leaves.
-/

namespace PageCheck

variable {World Session : Type}

/-- What is recorded where an item stops a pass. -/
def Item.action : Item → String
  | step planned => planned.action.name
  | validation _ => Plan.validateAction

/-- The item, turning out like this, stops the pass. -/
def Item.Stops (suppress : Bool) : Item → Attempt Outcome → Prop
  | step _, attempt => ¬ Pass.Completed attempt
  | validation _, attempt => ¬ Pass.Tolerated suppress attempt

/-- The end that an item puts to a pass by turning out like this, if it does. -/
def Item.end? (browser : BrowserTarget) (suppress : Bool) : Item → Attempt Outcome → Option PassEnd
  | step _, .returned (.completed _) => none
  | step planned, .returned (.failed msg) =>
    some (.finished [Pass.stepReport browser planned msg])
  | step planned, .failed error =>
    some (if suppress then .finished [Pass.stepReport browser planned error.message]
      else .aborted ⟨[], planned.index, planned.action.name, error⟩)
  | validation _, .returned _ => none
  | validation planned, .failed error =>
    if suppress then none else some (.aborted ⟨[], planned.index, Plan.validateAction, error⟩)
  | _, .panicked message => some (.panicked message)

theorem Item.stops_iff (browser : BrowserTarget) {suppress : Bool} {item : Item}
    {attempt : Attempt Outcome} :
    item.Stops suppress attempt ↔ ∃ passEnd, item.end? browser suppress attempt = some passEnd := by
  rcases item with step | validation <;> rcases attempt with (value | msg) | error | message <;>
    simp [Stops, end?, Pass.Completed, Pass.Tolerated]

theorem Item.not_stops_of_completed {suppress : Bool} {attempt : Attempt Outcome}
    (completed : Pass.Completed attempt) (item : Item) : ¬ item.Stops suppress attempt := by
  cases item with
  | step planned => exact fun hstops => hstops completed
  | validation planned => exact fun hstops => hstops (completed.tolerated suppress)

namespace Pass

section

variable (setting : Setting World Session) (browser : BrowserTarget) {suppress : Bool}

/-- After steps that complete the others are carried out. -/
theorem runSteps_append {done : List Step} {scene : Scene World Session}
    (all : Throughout setting Completed (done.map .step) scene) (rest : List Step) :
    runSteps setting browser suppress (done ++ rest) scene =
      runSteps setting browser suppress rest (reach setting (done.map .step) scene) := by
  induction done generalizing scene with
  | nil => rfl
  | cons step done ih =>
    obtain ⟨⟨value, hvalue⟩, hdone⟩ := all
    have hstep : executeStep setting step scene =
        (.returned (.completed value), (execute setting (.step step) scene).2) :=
      Prod.ext hvalue rfl
    rw [List.cons_append, runSteps, hstep]
    exact ih hdone

/-- A step that puts an end to the pass is the last one. -/
theorem runSteps_of_end {step : Step} {scene : Scene World Session} {passEnd : PassEnd}
    (ends : (Item.step step).end? browser suppress (executeStep setting step scene).1 =
      some passEnd) (rest : List Step) :
    runSteps setting browser suppress (step :: rest) scene =
      (some passEnd, (executeStep setting step scene).2) := by
  rw [runSteps]
  rcases hrun : executeStep setting step scene with ⟨(value | msg) | error | message, after⟩
  all_goals
    rw [hrun] at ends
    cases ends
  all_goals rfl

/-- The reports on validations that are checked one after the other. -/
def checks : List Validation → Scene World Session → List Report
  | [], _ => []
  | validation :: rest, scene =>
    validationReport browser validation (complaint (executeValidation setting validation scene).1)
      :: checks rest (executeValidation setting validation scene).2

theorem length_checks (validations : List Validation) (scene : Scene World Session) :
    (checks setting browser validations scene).length = validations.length := by
  induction validations generalizing scene with
  | nil => rfl
  | cons validation rest ih => exact congrArg Nat.succ (ih _)

theorem checks_append (first second : List Validation) (scene : Scene World Session) :
    checks setting browser (first ++ second) scene = checks setting browser first scene ++
      checks setting browser second (reach setting (first.map .validation) scene) := by
  induction first generalizing scene with
  | nil => rfl
  | cons validation rest ih => exact congrArg _ (ih _)

theorem checks_getElem? {validations : List Validation} {validation : Validation} {position : Nat}
    (found : validations[position]? = some validation) (scene : Scene World Session) :
    ∃ attempt after,
      ExecutedAt setting (validations.map .validation) scene position attempt after ∧
      (checks setting browser validations scene)[position]? =
        some (validationReport browser validation (complaint attempt)) := by
  obtain ⟨hposition, hget⟩ := List.getElem?_eq_some_iff.mp found
  have hsplit : validations =
      validations.take position ++ validation :: validations.drop (position + 1) := by
    rw [← hget, List.getElem_cons_drop, List.take_append_drop]
  have hlength : (validations.take position).length = position :=
    List.length_take_of_le (Nat.le_of_lt hposition)
  have hexecuted := executedAt_middle setting
    ((validations.take position).map .validation) (.validation validation)
    ((validations.drop (position + 1)).map .validation) scene
  rw [List.length_map, hlength, ← List.map_cons, ← List.map_append, ← hsplit] at hexecuted
  refine ⟨_, _, hexecuted, ?_⟩
  have hchecks := getElem?_of_split (checks_append setting browser (validations.take position)
    (validation :: validations.drop (position + 1)) scene)
  rwa [← hsplit, length_checks, hlength] at hchecks

theorem foldr_withReport_finished (reports others : List Report) :
    reports.foldr withReport (.finished others) = .finished (reports ++ others) := by
  induction reports with
  | nil => rfl
  | cons report rest ih => rw [List.foldr_cons, ih, withReport, List.cons_append]

theorem foldr_withReport_aborted (reports : List Report) (abort : Abort) :
    reports.foldr withReport (.aborted abort) =
      .aborted { abort with reports := reports ++ abort.reports } := by
  induction reports with
  | nil => rfl
  | cons report rest ih => rw [List.foldr_cons, ih, withReport, List.cons_append]

theorem foldr_withReport_panicked (reports : List Report) (message : String) :
    reports.foldr withReport (.panicked message) = .panicked message := by
  induction reports with
  | nil => rfl
  | cons report rest ih => rw [List.foldr_cons, ih, withReport]

/-- After validations that do not stop the pass the others are checked. -/
theorem runValidations_append {done : List Validation} {scene : Scene World Session}
    (tolerated : Throughout setting (Tolerated suppress) (done.map .validation) scene)
    (rest : List Validation) :
    runValidations setting browser suppress (done ++ rest) scene =
      ((checks setting browser done scene).foldr withReport (runValidations setting browser suppress
          rest (reach setting (done.map .validation) scene)).1,
        (runValidations setting browser suppress rest
          (reach setting (done.map .validation) scene)).2) := by
  induction done generalizing scene with
  | nil => rfl
  | cons validation done ih =>
    obtain ⟨hfirst, hlater⟩ := tolerated
    rw [List.cons_append, runValidations]
    simp only [execute] at hlater
    simp only [ih hlater, checks, List.map_cons, reach, execute, List.foldr_cons]
    rw [execute] at hfirst
    rcases hrun : executeValidation setting validation scene with
      ⟨(value | msg) | error | message, after⟩
    · rfl
    · rfl
    · rw [hrun] at hfirst
      cases hfirst
      rfl
    · rw [hrun] at hfirst
      exact hfirst.elim

/-- A validation that puts an end to the pass is the last one. -/
theorem runValidations_of_end {validation : Validation} {scene : Scene World Session}
    {passEnd : PassEnd}
    (ends : (Item.validation validation).end? browser suppress
      (executeValidation setting validation scene).1 = some passEnd) (rest : List Validation) :
    runValidations setting browser suppress (validation :: rest) scene =
      (passEnd, (executeValidation setting validation scene).2) := by
  rw [runValidations]
  rcases hrun : executeValidation setting validation scene with
    ⟨(value | msg) | error | message, after⟩
  all_goals rw [hrun] at ends
  · cases ends
  · cases ends
  · cases suppress with
    | true => cases ends
    | false =>
      cases ends
      rfl
  · cases ends
    rfl

/-- Carry out a plan with errors suppressed or not, whatever the scene says on that. -/
def runPlanWith (suppress : Bool) (plan : Plan) (scene : Scene World Session) :
    PassEnd × Scene World Session :=
  match runSteps setting browser suppress plan.steps scene with
  | (some passEnd, scene) => (passEnd, scene)
  | (none, scene) => runValidations setting browser suppress plan.validations scene

/-- A pass does what its scene says on errors. -/
theorem runPlan_eq_runPlanWith (plan : Plan) (scene : Scene World Session) :
    runPlan setting browser plan scene =
      runPlanWith setting browser scene.context.options.suppressExceptions plan scene := rfl

variable {plan : Plan} {scene : Scene World Session}

theorem runPlanWith_of_step {done rest : List Step} {step : Step} {passEnd : PassEnd}
    (split : plan.steps = done ++ step :: rest)
    (setup : Throughout setting Completed (done.map .step) scene)
    (ends : (Item.step step).end? browser suppress
      (executeStep setting step (reach setting (done.map .step) scene)).1 = some passEnd) :
    runPlanWith setting browser suppress plan scene =
      (passEnd, (executeStep setting step (reach setting (done.map .step) scene)).2) := by
  rw [runPlanWith, split, runSteps_append setting browser setup, runSteps_of_end setting browser ends]

theorem runPlanWith_of_setup (setup : Throughout setting Completed (plan.steps.map .step) scene) :
    runPlanWith setting browser suppress plan scene =
      runValidations setting browser suppress plan.validations
        (reach setting (plan.steps.map .step) scene) := by
  have hsteps : runSteps setting browser suppress (plan.steps ++ []) scene = _ :=
    runSteps_append setting browser setup []
  rw [List.append_nil, runSteps] at hsteps
  rw [runPlanWith, hsteps]

theorem runPlanWith_of_validation {done rest : List Validation} {validation : Validation}
    {passEnd : PassEnd} (setup : Throughout setting Completed (plan.steps.map .step) scene)
    (split : plan.validations = done ++ validation :: rest)
    (tolerated : Throughout setting (Tolerated suppress) (done.map .validation)
      (reach setting (plan.steps.map .step) scene))
    (ends : (Item.validation validation).end? browser suppress
      (executeValidation setting validation (reach setting (done.map .validation)
        (reach setting (plan.steps.map .step) scene))).1 = some passEnd) :
    runPlanWith setting browser suppress plan scene =
      ((checks setting browser done (reach setting (plan.steps.map .step) scene)).foldr withReport
        passEnd, (executeValidation setting validation (reach setting (done.map .validation)
          (reach setting (plan.steps.map .step) scene))).2) := by
  rw [runPlanWith_of_setup setting browser setup, split,
    runValidations_append setting browser tolerated, runValidations_of_end setting browser ends]

theorem runPlanWith_through (setup : Throughout setting Completed (plan.steps.map .step) scene)
    (tolerated : Throughout setting (Tolerated suppress) (plan.validations.map .validation)
      (reach setting (plan.steps.map .step) scene)) :
    runPlanWith setting browser suppress plan scene =
      (.finished (checks setting browser plan.validations
        (reach setting (plan.steps.map .step) scene)), reach setting plan.items scene) := by
  have hall := runValidations_append setting browser tolerated []
  rw [List.append_nil, runValidations, foldr_withReport_finished, List.append_nil] at hall
  rw [runPlanWith_of_setup setting browser setup, hall, Plan.items, reach_append]

end

/-- The ways in which a plan comes to its end, each with that end and the scene that it leaves. -/
inductive Conclusion (setting : Setting World Session) (browser : BrowserTarget) (suppress : Bool)
    (plan : Plan) (scene : Scene World Session) : PassEnd → Scene World Session → Prop
  /-- Every step completes, and every validation is checked. -/
  | through (setup : Throughout setting Completed (plan.steps.map .step) scene)
      (tolerated : Throughout setting (Tolerated suppress) (plan.validations.map .validation)
        (reach setting (plan.steps.map .step) scene)) :
      Conclusion setting browser suppress plan scene
        (.finished (checks setting browser plan.validations
          (reach setting (plan.steps.map .step) scene)))
        (reach setting plan.items scene)
  /-- A step puts an end to the pass. -/
  | step {done rest : List Step} {step : Step} {passEnd : PassEnd}
      (split : plan.steps = done ++ step :: rest)
      (setup : Throughout setting Completed (done.map .step) scene)
      (ends : (Item.step step).end? browser suppress
        (executeStep setting step (reach setting (done.map .step) scene)).1 = some passEnd) :
      Conclusion setting browser suppress plan scene passEnd
        (executeStep setting step (reach setting (done.map .step) scene)).2
  /-- A validation puts an end to the pass. -/
  | validation {done rest : List Validation} {validation : Validation} {passEnd : PassEnd}
      (setup : Throughout setting Completed (plan.steps.map .step) scene)
      (split : plan.validations = done ++ validation :: rest)
      (tolerated : Throughout setting (Tolerated suppress) (done.map .validation)
        (reach setting (plan.steps.map .step) scene))
      (ends : (Item.validation validation).end? browser suppress
        (executeValidation setting validation (reach setting (done.map .validation)
          (reach setting (plan.steps.map .step) scene))).1 = some passEnd) :
      Conclusion setting browser suppress plan scene
        ((checks setting browser done (reach setting (plan.steps.map .step) scene)).foldr withReport
          passEnd)
        (executeValidation setting validation (reach setting (done.map .validation)
          (reach setting (plan.steps.map .step) scene))).2

section

variable (setting : Setting World Session) (browser : BrowserTarget) (suppress : Bool) (plan : Plan)
  (scene : Scene World Session)

/-- Every plan comes to its end in one of the ways. -/
theorem runPlanWith_conclusion :
    Conclusion setting browser suppress plan scene
      (runPlanWith setting browser suppress plan scene).1
      (runPlanWith setting browser suppress plan scene).2 := by
  rcases throughout_or_first setting Completed .step plan.steps scene with
    hsetup | ⟨done, step, rest, hsplit, hdone, hincomplete⟩
  · rcases throughout_or_first setting (Tolerated suppress) .validation
      plan.validations (reach setting (plan.steps.map .step) scene) with
      htolerated | ⟨done, validation, rest, hsplit, hdone, hlast⟩
    · rw [runPlanWith_through setting browser hsetup htolerated]
      exact .through hsetup htolerated
    · have hstops : (Item.validation validation).Stops suppress _ := hlast
      obtain ⟨passEnd, hends⟩ := (Item.stops_iff browser).mp hstops
      rw [runPlanWith_of_validation setting browser hsetup hsplit hdone hends]
      exact .validation hsetup hsplit hdone hends
  · have hstops : (Item.step step).Stops suppress _ := hincomplete
    obtain ⟨passEnd, hends⟩ := (Item.stops_iff browser).mp hstops
    rw [runPlanWith_of_step setting browser hsplit hdone hends]
    exact .step hsplit hdone hends

variable {setting browser suppress plan scene}

/-- The scene at the end of a plan is the one that a beginning of its items leaves. -/
theorem Conclusion.reach {passEnd : PassEnd} {after : Scene World Session}
    (conclusion : Conclusion setting browser suppress plan scene passEnd after) :
    ∃ done rest, plan.items = done ++ rest ∧ after = reach setting done scene := by
  cases conclusion with
  | through setup tolerated => exact ⟨plan.items, [], (List.append_nil _).symm, rfl⟩
  | @step done rest step passEnd split setup ends =>
    refine ⟨done.map .step ++ [.step step], rest.map .step ++ plan.validations.map .validation,
      ?_, ?_⟩
    · simp [Plan.items, split]
    · rw [reach_append]
      rfl
  | @validation done rest validation passEnd setup split tolerated ends =>
    refine ⟨plan.steps.map .step ++ (done.map .validation ++ [.validation validation]),
      rest.map .validation, ?_, ?_⟩
    · simp [Plan.items, split]
    · rw [reach_append, reach_append]
      rfl

end

/-! ### Where a plan is stopped -/

/-- The item at a position stops the plan: it is the first one that does, and this comes of it. -/
structure StoppedBy (setting : Setting World Session) (suppress : Bool) (plan : Plan)
    (scene : Scene World Session) (position : Nat) (item : Item) (attempt : Attempt Outcome)
    (after : Scene World Session) : Prop where
  /-- The item has the position. -/
  found : plan.items[position]? = some item
  /-- It is executed. -/
  executed : ExecutedAt setting plan.items scene position attempt after
  /-- It stops the plan. -/
  stops : item.Stops suppress attempt
  /-- No item before it does. -/
  first : ∀ earlier < position, ∀ other, plan.items[earlier]? = some other →
    ∃ attempt after, ExecutedAt setting plan.items scene earlier attempt after ∧
      ¬ other.Stops suppress attempt

section

variable {setting : Setting World Session} {plan : Plan} {scene : Scene World Session}

theorem Throughout.in_plan {property : Attempt Outcome → Prop} {done rest : List Step}
    (split : plan.steps = done ++ rest)
    (all : Throughout setting property (done.map .step) scene) {position : Nat}
    (inDone : position < done.length) :
    ∃ attempt after, ExecutedAt setting plan.items scene position attempt after ∧
      property attempt := by
  have hlength : position < (done.map Item.step).length := by rwa [List.length_map]
  obtain ⟨attempt, after, hexecuted, hproperty⟩ := all.executed hlength
  refine ⟨attempt, after, ?_, hproperty⟩
  rw [Plan.items, split, List.map_append, List.append_assoc]
  exact (executedAt_append_left hlength).mpr hexecuted

theorem executedAt_validation {position : Nat} {attempt : Attempt Outcome}
    {after : Scene World Session} :
    ExecutedAt setting plan.items scene (plan.steps.length + position) attempt after ↔
      ExecutedAt setting (plan.validations.map .validation)
        (reach setting (plan.steps.map .step) scene) position attempt after := by
  have hlength : (plan.steps.map Item.step).length = plan.steps.length := List.length_map _
  rw [← hlength]
  exact executedAt_append_right

theorem Throughout.validation_in_plan {property : Attempt Outcome → Prop}
    {done rest : List Validation} (split : plan.validations = done ++ rest)
    (all : Throughout setting property (done.map .validation)
      (reach setting (plan.steps.map .step) scene)) {position : Nat}
    (inDone : position < done.length) :
    ∃ attempt after,
      ExecutedAt setting plan.items scene (plan.steps.length + position) attempt after ∧
      property attempt := by
  have hlength : position < (done.map Item.validation).length := by rwa [List.length_map]
  obtain ⟨attempt, after, hexecuted, hproperty⟩ := all.executed hlength
  refine ⟨attempt, after, ?_, hproperty⟩
  rw [executedAt_validation, split, List.map_append]
  exact (executedAt_append_left hlength).mpr hexecuted

theorem executedAt_step {done rest : List Step} {step : Step}
    (split : plan.steps = done ++ step :: rest) :
    ExecutedAt setting plan.items scene done.length
      (executeStep setting step (reach setting (done.map .step) scene)).1
      (executeStep setting step (reach setting (done.map .step) scene)).2 := by
  have hitems : plan.items = done.map .step ++ .step step ::
      (rest.map .step ++ plan.validations.map .validation) := by
    rw [Plan.items, split, List.map_append, List.map_cons, List.append_assoc, List.cons_append]
  have hmiddle := executedAt_middle setting (done.map .step) (.step step)
    (rest.map .step ++ plan.validations.map .validation) scene
  rwa [List.length_map, ← hitems] at hmiddle

theorem executedAt_validation_middle {done rest : List Validation} {validation : Validation}
    (split : plan.validations = done ++ validation :: rest) :
    ExecutedAt setting plan.items scene (plan.steps.length + done.length)
      (executeValidation setting validation (reach setting (done.map .validation)
        (reach setting (plan.steps.map .step) scene))).1
      (executeValidation setting validation (reach setting (done.map .validation)
        (reach setting (plan.steps.map .step) scene))).2 := by
  have hmiddle := executedAt_middle setting (done.map .validation)
    (.validation validation) (rest.map .validation) (reach setting (plan.steps.map .step) scene)
  rw [List.length_map] at hmiddle
  rw [executedAt_validation, split, List.map_append, List.map_cons]
  exact hmiddle

theorem getElem?_items_step (position : Nat) (inSteps : position < plan.steps.length) :
    plan.items[position]? = plan.steps[position]?.map .step := by
  rw [Plan.items, List.getElem?_append_left (by simpa using inSteps), List.getElem?_map]

theorem getElem?_items_validation (position : Nat) :
    plan.items[plan.steps.length + position]? = plan.validations[position]?.map .validation := by
  rw [Plan.items, List.getElem?_append_right (by simp), List.length_map, Nat.add_sub_cancel_left,
    List.getElem?_map]

/-- A plan goes on through steps that complete and validations that do not stop it. -/
theorem not_stops_within {suppress : Bool} {done rest : List Validation}
    (setup : Throughout setting Completed (plan.steps.map .step) scene)
    (split : plan.validations = done ++ rest)
    (tolerated : Throughout setting (Tolerated suppress) (done.map .validation)
      (reach setting (plan.steps.map .step) scene))
    {position : Nat} (within : position < plan.steps.length + done.length) {item : Item}
    (found : plan.items[position]? = some item) :
    ∃ attempt after, ExecutedAt setting plan.items scene position attempt after ∧
      ¬ item.Stops suppress attempt := by
  rcases Nat.lt_or_ge position plan.steps.length with hstep | hvalidation
  · obtain ⟨attempt, after, hexecuted, hcompleted⟩ := setup.in_plan (List.append_nil _).symm hstep
    exact ⟨attempt, after, hexecuted, item.not_stops_of_completed hcompleted⟩
  · obtain ⟨later, rfl⟩ := Nat.exists_eq_add_of_le hvalidation
    rw [getElem?_items_validation] at found
    obtain ⟨_, _, rfl⟩ := Option.map_eq_some_iff.mp found
    have hdone : later < done.length := Nat.lt_of_add_lt_add_left within
    obtain ⟨attempt, after, hexecuted, htolerated⟩ := tolerated.validation_in_plan split hdone
    exact ⟨attempt, after, hexecuted, fun hstops => hstops htolerated⟩

/-- A step that does not complete, after steps that do, stops the plan. -/
theorem StoppedBy.of_step (suppress : Bool) {done rest : List Step} {step : Step}
    (split : plan.steps = done ++ step :: rest)
    (setup : Throughout setting Completed (done.map .step) scene)
    (stops : ¬ Completed (executeStep setting step (reach setting (done.map .step) scene)).1) :
    StoppedBy setting suppress plan scene done.length (.step step)
      (executeStep setting step (reach setting (done.map .step) scene)).1
      (executeStep setting step (reach setting (done.map .step) scene)).2 := by
  refine ⟨?_, executedAt_step split, stops, ?_⟩
  · rw [getElem?_items_step _ (by simp [split]), getElem?_of_split split]
    rfl
  · intro earlier hearlier other _
    obtain ⟨attempt, after, hexecuted, hcompleted⟩ := setup.in_plan split hearlier
    exact ⟨attempt, after, hexecuted, other.not_stops_of_completed hcompleted⟩

/-- A validation after which the others are not checked, after validations that are, stops the
plan. -/
theorem StoppedBy.of_validation {suppress : Bool} {done rest : List Validation}
    {validation : Validation} (setup : Throughout setting Completed (plan.steps.map .step) scene)
    (split : plan.validations = done ++ validation :: rest)
    (tolerated : Throughout setting (Tolerated suppress) (done.map .validation)
      (reach setting (plan.steps.map .step) scene))
    (stops : ¬ Tolerated suppress (executeValidation setting validation
      (reach setting (done.map .validation) (reach setting (plan.steps.map .step) scene))).1) :
    StoppedBy setting suppress plan scene (plan.steps.length + done.length)
      (.validation validation)
      (executeValidation setting validation (reach setting (done.map .validation)
        (reach setting (plan.steps.map .step) scene))).1
      (executeValidation setting validation (reach setting (done.map .validation)
        (reach setting (plan.steps.map .step) scene))).2 := by
  refine ⟨?_, executedAt_validation_middle split, stops, ?_⟩
  · rw [getElem?_items_validation, getElem?_of_split split]
    rfl
  · intro earlier hearlier other hother
    exact not_stops_within setup split tolerated hearlier hother

/-- Nothing stops a plan that goes through. -/
theorem not_stoppedBy_of_through {suppress : Bool}
    (setup : Throughout setting Completed (plan.steps.map .step) scene)
    (tolerated : Throughout setting (Tolerated suppress) (plan.validations.map .validation)
      (reach setting (plan.steps.map .step) scene))
    {position : Nat} {item : Item} {attempt : Attempt Outcome} {after : Scene World Session} :
    ¬ StoppedBy setting suppress plan scene position item attempt after := by
  intro hstopped
  obtain ⟨hposition, -⟩ := List.getElem?_eq_some_iff.mp hstopped.found
  have hwithin : position < plan.steps.length + plan.validations.length := by
    simpa [Plan.items] using hposition
  obtain ⟨_, _, hexecuted, hgoesOn⟩ :=
    not_stops_within setup (List.append_nil _).symm tolerated hwithin hstopped.found
  obtain ⟨rfl, -⟩ := hstopped.executed.unique hexecuted
  exact hgoesOn hstopped.stops

/-- Only one item stops a plan, and in one way. -/
theorem StoppedBy.unique {suppress : Bool} {position position' : Nat} {item item' : Item}
    {attempt attempt' : Attempt Outcome} {after after' : Scene World Session}
    (first : StoppedBy setting suppress plan scene position item attempt after)
    (second : StoppedBy setting suppress plan scene position' item' attempt' after') :
    position = position' ∧ attempt = attempt' := by
  rcases Nat.lt_trichotomy position position' with hlt | rfl | hgt
  · obtain ⟨_, _, hexecuted, hgoesOn⟩ := second.first position hlt item first.found
    obtain ⟨rfl, -⟩ := first.executed.unique hexecuted
    exact absurd first.stops hgoesOn
  · exact ⟨rfl, (first.executed.unique second.executed).1⟩
  · obtain ⟨_, _, hexecuted, hgoesOn⟩ := first.first position' hgt item' second.found
    obtain ⟨rfl, -⟩ := second.executed.unique hexecuted
    exact absurd second.stops hgoesOn

end

/-! ### What is reported in the end -/

/-- The reports of a pass whose session ended, with one on what ended the pass. What gave up in the
session is all that is reported. -/
def reported (browser : BrowserTarget) : PassEnd → List Report
  | .finished reports => reports
  | .aborted abort => abort.allReports browser.name
  | .panicked message => [.stepFailure ⟨browser.name, 0, Plan.validateAction,
      (Error.handlerPanicked message).message⟩]

section

variable {setting : Setting World Session} {browser : BrowserTarget} {suppress : Bool} {plan : Plan}
  {scene after : Scene World Session} {file : ValidationFile}

theorem reported_of_step_end (built : Plan.build setting.registry file = .ok plan)
    {done rest : List Step} {step : Step} (split : plan.steps = done ++ step :: rest)
    {attempt : Attempt Outcome} {passEnd : PassEnd}
    (ends : (Item.step step).end? browser suppress attempt = some passEnd) :
    (∃ msg, Shows attempt (some msg) ∧ reported browser passEnd =
        [.stepFailure ⟨browser.name, done.length, step.action.name, msg⟩]) ∨
      ∃ message, attempt = .panicked message ∧ passEnd = .panicked message := by
  have hindex := Plan.step_index setting.registry built (getElem?_of_split split)
  rcases attempt with (value | msg) | error | message
  · cases ends
  · cases ends
    refine .inl ⟨msg, .failed msg, ?_⟩
    rw [reported, stepReport, hindex]
  · refine .inl ⟨error.message, .error error, ?_⟩
    cases suppress with
    | true =>
      cases ends
      exact congrArg (fun index => [Report.stepFailure ⟨_, index, _, _⟩]) hindex
    | false =>
      cases ends
      exact congrArg (fun index => [Report.stepFailure ⟨_, index, _, _⟩]) hindex
  · cases ends
    exact .inr ⟨message, rfl, rfl⟩

theorem reported_of_validation_end (built : Plan.build setting.registry file = .ok plan)
    {done rest : List Validation} {validation : Validation}
    (split : plan.validations = done ++ validation :: rest) (reports : List Report)
    {attempt : Attempt Outcome} {passEnd : PassEnd}
    (ends : (Item.validation validation).end? browser suppress attempt = some passEnd) :
    (∃ msg, Shows attempt (some msg) ∧ reported browser (reports.foldr withReport passEnd) =
        reports ++ [.stepFailure ⟨browser.name, plan.steps.length + done.length,
          Plan.validateAction, msg⟩]) ∨
      ∃ message, attempt = .panicked message ∧
        reports.foldr withReport passEnd = .panicked message := by
  have hindex := Plan.validation_index setting.registry built (getElem?_of_split split)
  rcases attempt with outcome | error | message
  · cases ends
  · refine .inl ⟨error.message, .error error, ?_⟩
    cases suppress with
    | true => cases ends
    | false =>
      cases ends
      rw [foldr_withReport_aborted, List.append_nil, hindex]
      rfl
  · cases ends
    exact .inr ⟨message, rfl, foldr_withReport_panicked reports message⟩

/-- What a plan reports in the end: a report on each validation, or reports on the first validations
and then the failure of the item that stopped it, with the position of the item. An item that gives
up is not reported on. -/
theorem Conclusion.reports {passEnd : PassEnd}
    (built : Plan.build setting.registry file = .ok plan)
    (conclusion : Conclusion setting browser suppress plan scene passEnd after) :
    passEnd = .finished
        (checks setting browser plan.validations (Pass.reach setting (plan.steps.map .step) scene)) ∨
      ∃ position item attempt, StoppedBy setting suppress plan scene position item attempt after ∧
        ((∃ msg checked, Shows attempt (some msg) ∧ checked <+: plan.validations ∧
            checked.length + 1 ≤ max 1 plan.validations.length ∧
            reported browser passEnd =
              checks setting browser checked (Pass.reach setting (plan.steps.map .step) scene) ++
                [.stepFailure ⟨browser.name, position, item.action, msg⟩]) ∨
          ∃ message, attempt = .panicked message ∧ passEnd = .panicked message) := by
  cases conclusion with
  | through setup tolerated => exact .inl rfl
  | step split setup ends =>
    have hstopped := StoppedBy.of_step suppress split setup
      ((Item.stops_iff browser).mpr ⟨_, ends⟩)
    refine .inr ⟨_, _, _, hstopped, ?_⟩
    refine (reported_of_step_end built split ends).imp_left ?_
    rintro ⟨msg, hshows, hreported⟩
    exact ⟨msg, [], hshows, List.nil_prefix, Nat.le_max_left _ _, hreported⟩
  | @validation done rest validation _ setup split tolerated ends =>
    have hstopped := StoppedBy.of_validation setup split tolerated
      ((Item.stops_iff browser).mpr ⟨_, ends⟩)
    refine .inr ⟨_, _, _, hstopped, ?_⟩
    refine (reported_of_validation_end built split _ ends).imp_left ?_
    rintro ⟨msg, hshows, hreported⟩
    have hcount : done.length + 1 ≤ plan.validations.length := by
      rw [split, List.length_append, List.length_cons]
      omega
    exact ⟨msg, done, hshows, ⟨_, split.symm⟩, Nat.le_trans hcount (Nat.le_max_right _ _),
      hreported⟩

end

end Pass

end PageCheck
