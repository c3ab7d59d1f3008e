import PageCheck.Step.Actions

/-!
# Capturing values

A capturing step yields a value, read from the page or written in the step, under the step's output
name.
-/

namespace PageCheck

namespace Capture

/-- The value that a step writes: its parameter, or else the selector of its locator. -/
def literal (step : ResolvedStep) : Result Json :=
  match step.param? "value", step.locator with
  | some value, _ => .ok value
  | none, some locator => .ok (.string locator.selector)
  | none, none => .error (step.invalid "a Literal output needs a 'value' parameter or a locator")

/-- The value of a source. What the page lacks is null. -/
def value (step : ResolvedStep) : OutputSource → Script Json
  | .literal => Script.ofResult (literal step)
  | .xpathText => do
    let text : String ← Script.ask (.text (← step.element))
    return .string text
  | .xpathProperty => do
    let name ← Script.ofResult (step.requireText "name")
    let value : Option Json ← Script.ask (.property (← step.element) name)
    return value.getD .null
  | .xpathAttribute => do
    let name ← Script.ofResult (step.requireText "name")
    let value : Option String ← Script.ask (.attribute (← step.element) name)
    return match value with
      | some text => .string text
      | none => .null
  | .url => do
    let url : String ← Script.ask .currentUrl
    return .string url
  | .extension name => .fail (.noHandler .outputSource name)

/-- Yield the value of the step's source. -/
def handler : StepHandler := fun step _ =>
  match step.outputName, step.source with
  | none, _ => .fail (step.invalid "outputName is required")
  | some _, none => .fail (step.invalid "missing parameter 'source'")
  | some _, some source => do
    let value ← value step source
    return .completed (some value)

end Capture

end PageCheck
