import PageCheck.Browser.Script
import PageCheck.Expression.Resolver
import PageCheck.Unicode.Prose
import PageCheck.ValidationFile

/-!
# Steps

A step is a definition whose names have got their meaning. Right before it runs, the expressions in
its locator and parameters are resolved; handlers only see resolved steps.
-/

namespace PageCheck

open Decimal (word?)
open Expression (Resolver)

/-- How a handler that ran to its end found things. -/
inductive Outcome
  /-- Done, perhaps with a value to keep. -/
  | completed (value : Option Json)
  /-- What was wanted does not hold. -/
  | failed (msg : String)
deriving Repr

namespace Outcome

/-- Done, with nothing to keep. -/
def done : Outcome := .completed none

/-- Done if a condition holds, otherwise failed with a message. -/
def check (holds : Bool) (msg : String) : Outcome := if holds then done else .failed msg

end Outcome

/-- A step with its names resolved. -/
structure Step where
  /-- The position in the list of steps followed by validations. -/
  index : Nat
  /-- What to do. -/
  action : ActionType
  /-- The element or page it is about. -/
  locator : Option Locator
  /-- The parameters of the action. -/
  parameters : Members
  /-- The name under which a value it yields is kept. -/
  outputName : Option String
  /-- Where a captured value comes from. -/
  source : Option OutputSource

/-- A step with its expressions resolved. -/
structure ResolvedStep where
  /-- What to do. -/
  action : ActionType
  /-- The element or page it is about. -/
  locator : Option Locator
  /-- The parameters of the action. -/
  parameters : Members
  /-- The name under which a value it yields is kept. -/
  outputName : Option String
  /-- Where a captured value comes from. -/
  source : Option OutputSource

/-- Resolve the expressions of a step: the selector first, then the parameters in order. -/
def Step.resolve (resolver : Resolver) (step : Step) : Result ResolvedStep := do
  let locator ← match step.locator with
    | some locator => do
      let selector ← resolver.resolveText locator.selector
      pure (some { locator with selector })
    | none => pure none
  let parameters ← resolver.resolveMembers step.parameters
  return ⟨step.action, locator, parameters, step.outputName, step.source⟩

namespace ResolvedStep

/-- An error about the step. -/
def invalid (step : ResolvedStep) (reason : String) : Error :=
  .invalidStep step.action.name reason

/-- A parameter; null counts as absent. -/
def param? (step : ResolvedStep) (name : String) : Option Json :=
  (Members.get? name step.parameters).filter (!·.isNull)

/-- A parameter that must be there. -/
def require (step : ResolvedStep) (name : String) : Result Json :=
  match step.param? name with
  | some value => .ok value
  | none => .error (step.invalid ("missing parameter '" ++ name ++ "'"))

/-- A parameter that must be there, as text. -/
def requireText (step : ResolvedStep) (name : String) : Result String :=
  (step.require name).map Json.plainText

/-- The unsigned number that a value is or, as text, writes. -/
def wordOf? (value : Json) : Option Nat :=
  match value.word? with
  | some n => some n
  | none => do word? (Unicode.trimChars (← value.string?).toList)

/-- A parameter that must be there and be an unsigned number. -/
def requireWord (step : ResolvedStep) (name : String) : Result Nat := do
  let value ← step.require name
  match wordOf? value with
  | some n => return n
  | none => .error (step.invalid
      ("parameter '" ++ name ++ "' must be a whole number, got " ++ value.text))

/-- The locator, which must be there. -/
def requireLocator (step : ResolvedStep) : Result Locator :=
  match step.locator with
  | some locator => .ok locator
  | none => .error (step.invalid "no locator specified")

end ResolvedStep

/-- What carries out a kind of action. -/
abbrev StepHandler := ResolvedStep → Timeouts → Script Outcome

end PageCheck
