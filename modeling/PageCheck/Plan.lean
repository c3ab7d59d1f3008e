import PageCheck.Registry

/-!
# Plans

A plan is what a pass will do, with every name resolved. Planning goes through the steps and then
through the validations and stops at the first name without meaning.
-/

namespace PageCheck

/-- What a pass will do. -/
structure Plan where
  /-- The setup steps. -/
  steps : List Step
  /-- The validations. -/
  validations : List Validation

/-- Why there is no plan. -/
structure PlanError where
  /-- The position in the list of steps followed by validations. -/
  index : Nat
  /-- The action of the step as the file writes it, or what is said for a validation. -/
  action : String
  /-- What is wrong. -/
  error : Error

namespace Plan

/-- The action that is recorded where a validation ends a pass. -/
def validateAction : String := "Validate"

/-- The source of the value that a step captures. It is given by a parameter, and only the action
that captures values looks at it. -/
def sourceOf (registry : Registry) (action : ActionType) (parameters : Members) :
    Result (Option OutputSource) :=
  match Members.get? "source" parameters, action with
  | some (.string name), .outputValue => (registry.resolve name).map some
  | _, _ => .ok none

/-- The step that a definition means. -/
def step (registry : Registry) (index : Nat) (definition : StepDefinition) : Result Step := do
  let action ← registry.resolve definition.action
  let source ← sourceOf registry action definition.parameters
  return ⟨index, action, definition.locator, definition.parameters, definition.outputName, source⟩

/-- The validation that a definition means. -/
def validation (registry : Registry) (index : Nat) (definition : ValidationDefinition) :
    Result Validation := do
  let validationType ← registry.resolve definition.validationType
  let state ← registry.resolve definition.state
  return ⟨index, validationType, state, definition.target, definition.value,
    definition.parameters⟩

/-- The steps that definitions mean, the first of which is at `index`. -/
def steps? (registry : Registry) : Nat → List StepDefinition → Except PlanError (List Step)
  | _, [] => .ok []
  | index, definition :: rest => do
    let first ← (step registry index definition).mapError (⟨index, definition.action, ·⟩)
    let others ← steps? registry (index + 1) rest
    return first :: others

/-- The validations that definitions mean, the first of which is at `index`. -/
def validations? (registry : Registry) :
    Nat → List ValidationDefinition → Except PlanError (List Validation)
  | _, [] => .ok []
  | index, definition :: rest => do
    let first ← (validation registry index definition).mapError (⟨index, validateAction, ·⟩)
    let others ← validations? registry (index + 1) rest
    return first :: others

/-- Plan a file. -/
def build (registry : Registry) (file : ValidationFile) : Except PlanError Plan := do
  let steps ← steps? registry 0 file.steps
  let validations ← validations? registry file.steps.length file.validations
  return ⟨steps, validations⟩

/-- The number of steps and validations. -/
def size (plan : Plan) : Nat := plan.steps.length + plan.validations.length

/-- Whether there is nothing to do. -/
def isEmpty (plan : Plan) : Bool := plan.size == 0

end Plan

end PageCheck
