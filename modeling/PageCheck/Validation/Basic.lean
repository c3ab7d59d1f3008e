import PageCheck.Step.Basic

/-!
# Validations

Like steps, validations get their names resolved when a pass is planned and their expressions right
before they run: the expected value first, then the target, then the parameters.
-/

namespace PageCheck

open Expression (Resolver)

/-- A validation with its names resolved. -/
structure Validation where
  /-- The position in the list of steps followed by validations. -/
  index : Nat
  /-- What is looked at. -/
  validationType : ValidationType
  /-- What should hold. -/
  state : ValidationState
  /-- The target as the file writes it. -/
  target : String
  /-- The value that the state speaks of. -/
  value : Option Json
  /-- The parameters of the validation. -/
  parameters : Members

/-- A validation with its expressions resolved. -/
structure ResolvedValidation where
  /-- What is looked at. -/
  validationType : ValidationType
  /-- What should hold. -/
  state : ValidationState
  /-- The target. -/
  target : String
  /-- The value that the state speaks of, as text. -/
  expected : Option String
  /-- The parameters of the validation. -/
  parameters : Members

/-- Resolve the expressions of a validation. -/
def Validation.resolve (resolver : Resolver) (validation : Validation) :
    Result ResolvedValidation := do
  let expected ← match validation.value with
    | some value => do pure (some (← resolver.resolveValue value).plainText)
    | none => pure none
  let target ← resolver.resolveText validation.target
  let parameters ← resolver.resolveMembers validation.parameters
  return ⟨validation.validationType, validation.state, target, expected, parameters⟩

namespace ResolvedValidation

/-- An error about something that the validation lacks. -/
def missing (validation : ResolvedValidation) (what : String) : Error :=
  .invalidStep (validation.validationType.name ++ " " ++ validation.state.name)
    ("missing " ++ what)

/-- A parameter as text; null counts as absent. -/
def param? (validation : ResolvedValidation) (name : String) : Option String :=
  ((Members.get? name validation.parameters).filter (!·.isNull)).map Json.plainText

/-- A parameter that must be there, as text. -/
def requireParam (validation : ResolvedValidation) (name : String) : Result String :=
  match validation.param? name with
  | some text => .ok text
  | none => .error (validation.missing ("parameter '" ++ name ++ "'"))

/-- The expected text: the value, or else the parameter of that name. -/
def requireExpected (validation : ResolvedValidation) : Result String :=
  match validation.expected.or (validation.param? "value") with
  | some text => .ok text
  | none => .error (validation.missing "expected value")

/-- The pattern: the parameter of that name, or else the value. -/
def requirePattern (validation : ResolvedValidation) : Result String :=
  match (validation.param? "pattern").or validation.expected with
  | some text => .ok text
  | none => .error (validation.missing "pattern")

end ResolvedValidation

/-- What a handler says of the states that it can check. It may give up over one instead. -/
structure Support where
  /-- Whether a state is supported, or the message with which the handler gives up. -/
  answer : ValidationState → Except String Bool

namespace Support

/-- Whether the handler says that a state is supported. -/
def holds (support : Support) (state : ValidationState) : Bool :=
  match support.answer state with
  | .ok supported => supported
  | .error _ => false

/-- The support of a handler that has an answer for every state. -/
def of (supported : ValidationState → Bool) : Support := ⟨fun state => .ok (supported state)⟩

instance : CoeFun Support fun _ => ValidationState → Bool := ⟨holds⟩

instance : Coe (ValidationState → Bool) Support := ⟨of⟩

end Support

/-- What checks a kind of validation. -/
structure ValidationHandler where
  /-- Which states the handler can check. -/
  supports : Support
  /-- Check a validation: completed if its state holds. -/
  validate : ResolvedValidation → Timeouts → Script Outcome

end PageCheck
