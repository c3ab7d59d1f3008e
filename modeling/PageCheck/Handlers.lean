import PageCheck.Registry
import PageCheck.Step.Capture
import PageCheck.Step.Waiting
import PageCheck.Validation.Url
import PageCheck.Validation.XPath

/-!
# Handlers

Who carries out an action and who checks a validation: the first plugin that offers a handler, or
else the built-in one.
-/

namespace PageCheck

/-- The built-in handler of an action. -/
def StepHandler.builtin? : ActionType → Option StepHandler
  | .extension _ => none
  | .outputValue => some Capture.handler
  | .waitForExistence => some (Waiting.handler .presence)
  | .waitForVisibility => some (Waiting.handler .visibility)
  | _ => some StepHandler.browserAction

/-- The built-in handler of a validation type. -/
def ValidationHandler.builtin? : ValidationType → Option ValidationHandler
  | .xpath => some ElementCheck.handler
  | .url => some UrlCheck.handler
  | .extension _ => none

namespace Registry

/-- The handler of an action. -/
def stepHandler (registry : Registry) (action : ActionType) : Result StepHandler :=
  match (registry.stepHandlers.findSome? fun offer => offer action).or
      (StepHandler.builtin? action) with
  | some handler => .ok handler
  | none => .error (.noHandler .actionType action.name)

/-- The handler of a validation type. -/
def validationHandler (registry : Registry) (validationType : ValidationType) :
    Result ValidationHandler :=
  match (registry.validationHandlers.findSome? fun offer => offer validationType).or
      (ValidationHandler.builtin? validationType) with
  | some handler => .ok handler
  | none => .error (.noHandler .validationType validationType.name)

end Registry

end PageCheck
