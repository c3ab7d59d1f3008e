import PageCheck.Plan
import PageCheck.ValidationFile

/-!
# Checks

A check looks up every name in a validation file without starting a browser. It finds out about each
target browser on its own, and about the steps and validations together, up to the first one with a
name that means nothing.
-/

namespace PageCheck

/-- What a check found out about one thing. -/
structure Finding where
  /-- Whether it is as it should be. -/
  passed : Bool
  /-- The thing. -/
  label : String
  /-- What was found out. -/
  detail : String
deriving Repr, DecidableEq

namespace Check

/-- The finding on a target browser. -/
def browserFinding (registry : Registry) (name : String) : Finding :=
  match registry.resolve (α := BrowserTarget) name with
  | .ok browser => ⟨true, "browser", browser.name⟩
  | .error error => ⟨false, "browser", error.message⟩

/-- The findings on the target browsers. -/
def browserFindings (registry : Registry) (browsers : List String) : List Finding :=
  if browsers.isEmpty then
    [⟨true, "targetBrowsers", "none listed, pass --browser when running"⟩]
  else browsers.map (browserFinding registry)

/-- The finding on the steps and validations. -/
def planFinding (registry : Registry) (file : ValidationFile) : Finding :=
  match Plan.build registry file with
  | .ok plan =>
    ⟨true, "plan", toString plan.steps.length ++ " steps, " ++
      toString plan.validations.length ++ " validations"⟩
  | .error e => ⟨false, "#" ++ toString e.index ++ " " ++ e.action, e.error.message⟩

/-- Every finding on a file. -/
def findings (registry : Registry) (file : ValidationFile) : List Finding :=
  browserFindings registry file.targetBrowsers ++ [planFinding registry file]

/-- Whether every name in a file means something. -/
def passes (registry : Registry) (file : ValidationFile) : Bool :=
  (findings registry file).all (·.passed)

end Check

end PageCheck
