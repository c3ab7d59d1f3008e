import PageCheck.Step.Basic

/-!
# Actions

What the built-in actions do that issue one command or a few. Parameters are looked at before the
element is looked for, so a step that lacks something leaves the page alone. Setting cookies reads
the whole jar before it touches the ones that are there.
-/

namespace PageCheck

namespace Script

/-- The first element that a locator finds; one must be there. -/
def findFirst (locator : Locator) : Script Element := do
  let elements : List Element ← ask (.find locator)
  match elements with
  | element :: _ => return element
  | [] => fail (.elementNotFound locator.text)

end Script

namespace ResolvedStep

/-- The first element that the step's locator finds. -/
def element (step : ResolvedStep) : Script Element := do
  Script.findFirst (← Script.ofResult step.requireLocator)

/-- The cookies of a jar: a list of them, or a single one. -/
def cookieJar (step : ResolvedStep) : Result (List Cookie) := do
  let jar ← step.require "cookieJar"
  let cookies := match jar with
    | .array _ => Cookie.listOfJson jar
    | _ => (Cookie.ofJson jar).map ([·])
  cookies.mapError fun error => step.invalid ("invalid cookie: " ++ error.message)

/-- Where the step navigates to: the selector of its locator, or else a parameter. -/
def destination (step : ResolvedStep) : Result String :=
  match step.locator with
  | some locator => .ok locator.selector
  | none => step.requireText "url"

end ResolvedStep

namespace StepHandler

/-- Add cookies in order. -/
def addAll : List Cookie → Script Unit
  | [] => .done ()
  | cookie :: rest => do
    Script.ask (.addCookie cookie)
    addAll rest

/-- The commands of an action. -/
def commands (step : ResolvedStep) : Script Unit :=
  match step.action with
  | .click => do Script.ask (.click (← step.element))
  | .clear => do Script.ask (.clear (← step.element))
  | .hover => do Script.ask (.hover (← step.element))
  | .sendKeys => do
    let data ← Script.ofResult (step.requireText "data")
    Script.ask (.sendKeys (← step.element) data)
  | .setAttribute => do
    let name ← Script.ofResult (step.requireText "attribute")
    let value ← Script.ofResult (step.requireText "value")
    Script.ask (.setAttribute (← step.element) name value)
  | .navigateTo => do Script.ask (.navigate (← Script.ofResult step.destination))
  | .refresh => Script.ask .refresh
  | .navigateBack => Script.ask .back
  | .navigateForward => Script.ask .forward
  | .setBrowserSize => do
    let width ← Script.ofResult (step.requireWord "width")
    let height ← Script.ofResult (step.requireWord "height")
    Script.ask (.setWindowSize width height)
  | .addCookies => do addAll (← Script.ofResult step.cookieJar)
  | .setCookies => do
    let cookies ← Script.ofResult step.cookieJar
    Script.ask .deleteAllCookies
    addAll cookies
  | .removeCookie => do
    Script.ask (.deleteCookie (← Script.ofResult (step.requireText "cookieName")))
  | .clearCookies => Script.ask .deleteAllCookies
  | other => .fail (.noHandler .actionType other.name)

/-- Carry out an action that captures nothing. -/
def browserAction : StepHandler := fun step _ => do
  commands step
  return .done

end StepHandler

end PageCheck
