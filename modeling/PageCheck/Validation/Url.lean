import PageCheck.Step.Basic
import PageCheck.Url.Component
import PageCheck.Validation.Basic
import PageCheck.Validation.Comparison

/-!
# Validations of the URL

With an expected value, the target names the part of the current URL that is compared with it.
Without one, the target itself is the whole URL that is expected.
-/

namespace PageCheck

namespace UrlCheck

/-- What is expected by a comparison, if anything is. -/
def expected? (validation : ResolvedValidation) : Comparison → Option String
  | .matching => (validation.param? "pattern").or validation.expected
  | _ => validation.expected.or (validation.param? "value")

/-- The part of the URL that is looked at, and what it is compared with. -/
def plan (validation : ResolvedValidation) (comparison : Comparison) : Result (String × String) :=
  match expected? validation comparison with
  | some expected => .ok (validation.target, expected)
  | none =>
    if validation.target ≠ "" then .ok ("", validation.target)
    else validation.requireExpected.map fun expected => ("", expected)

/-- Validations of the URL. Only the states that compare are supported. -/
def handler : ValidationHandler where
  supports := .of fun state => (Comparison.ofState? state).isSome
  validate validation _ :=
    match Comparison.ofState? validation.state with
    | none => .fail (.unsupportedState validation.validationType.name validation.state.name)
    | some (comparison, negated) => do
      let (part, expected) ← Script.ofResult (plan validation comparison)
      let url : String ← Script.ask .currentUrl
      let actual ← Script.ofResult (Url.part url part)
      let holds ← Script.ofResult (comparison.evaluate actual expected)
      let label := if part = "" then "URL" else "URL " ++ part
      return .check (holds != negated) ("Expected " ++ label ++ " to satisfy " ++
        validation.state.name ++ " \"" ++ expected ++ "\", got \"" ++ actual ++ "\"")

end UrlCheck

end PageCheck
