import PageCheck.Plan
import PageCheck.Proofs.Fallible

/-!
# Numbering of plans

Planning numbers the steps and then the validations of a file, so the index that a step or a
validation carries is its position in the list of both. A plan is there only if every part of the
planning succeeded, and the proofs take a plan apart into these parts.
-/

namespace PageCheck.Plan

variable (registry : Registry)

/-- A planned step carries the index that it was planned for. -/
theorem index_of_step {index : Nat} {definition : StepDefinition} {planned : Step}
    (hstep : step registry index definition = .ok planned) : planned.index = index := by
  obtain ⟨action, _, hrest⟩ := ok_of_bind hstep
  obtain ⟨source, _, hplanned⟩ := ok_of_bind hrest
  cases hplanned
  rfl

/-- A planned validation carries the index that it was planned for. -/
theorem index_of_validation {index : Nat} {definition : ValidationDefinition}
    {planned : Validation} (hvalidation : validation registry index definition = .ok planned) :
    planned.index = index := by
  obtain ⟨validationType, _, hrest⟩ := ok_of_bind hvalidation
  obtain ⟨state, _, hplanned⟩ := ok_of_bind hrest
  cases hplanned
  rfl

/-- Steps are planned one after the other. -/
theorem steps?_cons {index : Nat} {definition : StepDefinition} {rest : List StepDefinition}
    {planned : List Step} (hsteps : steps? registry index (definition :: rest) = .ok planned) :
    ∃ first others, step registry index definition = .ok first ∧
      steps? registry (index + 1) rest = .ok others ∧ planned = first :: others := by
  obtain ⟨first, hfirst, hrest⟩ := ok_of_bind hsteps
  obtain ⟨others, hothers, hplanned⟩ := ok_of_bind hrest
  cases hplanned
  exact ⟨first, others, ok_of_mapError hfirst, hothers, rfl⟩

/-- Validations are planned one after the other. -/
theorem validations?_cons {index : Nat} {definition : ValidationDefinition}
    {rest : List ValidationDefinition} {planned : List Validation}
    (hvalidations : validations? registry index (definition :: rest) = .ok planned) :
    ∃ first others, validation registry index definition = .ok first ∧
      validations? registry (index + 1) rest = .ok others ∧ planned = first :: others := by
  obtain ⟨first, hfirst, hrest⟩ := ok_of_bind hvalidations
  obtain ⟨others, hothers, hplanned⟩ := ok_of_bind hrest
  cases hplanned
  exact ⟨first, others, ok_of_mapError hfirst, hothers, rfl⟩

/-- Planned steps are numbered from the index of the first one. -/
theorem index_of_steps {index : Nat} {definitions : List StepDefinition} {planned : List Step}
    (hsteps : steps? registry index definitions = .ok planned) {position : Nat} {step : Step}
    (found : planned[position]? = some step) : step.index = index + position := by
  induction definitions generalizing index planned position with
  | nil =>
    cases hsteps
    cases found
  | cons definition rest ih =>
    obtain ⟨first, others, hfirst, hothers, rfl⟩ := steps?_cons registry hsteps
    cases position with
    | zero =>
      cases found
      exact index_of_step registry hfirst
    | succ position =>
      rw [ih hothers found]
      omega

/-- Planned validations are numbered from the index of the first one. -/
theorem index_of_validations {index : Nat} {definitions : List ValidationDefinition}
    {planned : List Validation}
    (hvalidations : validations? registry index definitions = .ok planned) {position : Nat}
    {validation : Validation} (found : planned[position]? = some validation) :
    validation.index = index + position := by
  induction definitions generalizing index planned position with
  | nil =>
    cases hvalidations
    cases found
  | cons definition rest ih =>
    obtain ⟨first, others, hfirst, hothers, rfl⟩ := validations?_cons registry hvalidations
    cases position with
    | zero =>
      cases found
      exact index_of_validation registry hfirst
    | succ position =>
      rw [ih hothers found]
      omega

/-- There are as many planned steps as definitions. -/
theorem length_steps {index : Nat} {definitions : List StepDefinition} {planned : List Step}
    (hsteps : steps? registry index definitions = .ok planned) :
    planned.length = definitions.length := by
  induction definitions generalizing index planned with
  | nil =>
    cases hsteps
    rfl
  | cons definition rest ih =>
    obtain ⟨first, others, _, hothers, rfl⟩ := steps?_cons registry hsteps
    exact congrArg Nat.succ (ih hothers)

/-- A plan comes from planning the steps of the file and then its validations. -/
theorem of_build {file : ValidationFile} {plan : Plan} (built : build registry file = .ok plan) :
    steps? registry 0 file.steps = .ok plan.steps ∧
      validations? registry plan.steps.length file.validations = .ok plan.validations := by
  obtain ⟨steps, hsteps, hrest⟩ := ok_of_bind built
  obtain ⟨validations, hvalidations, hplan⟩ := ok_of_bind hrest
  cases hplan
  refine ⟨hsteps, ?_⟩
  dsimp only
  rw [length_steps registry hsteps]
  exact hvalidations

/-- The index of a step of a plan is its position. -/
theorem step_index {file : ValidationFile} {plan : Plan} (built : build registry file = .ok plan)
    {position : Nat} {step : Step} (found : plan.steps[position]? = some step) :
    step.index = position := by
  rw [index_of_steps registry (of_build registry built).1 found, Nat.zero_add]

/-- The index of a validation of a plan is its position after the steps. -/
theorem validation_index {file : ValidationFile} {plan : Plan}
    (built : build registry file = .ok plan) {position : Nat} {validation : Validation}
    (found : plan.validations[position]? = some validation) :
    validation.index = plan.steps.length + position :=
  index_of_validations registry (of_build registry built).2 found

end PageCheck.Plan
