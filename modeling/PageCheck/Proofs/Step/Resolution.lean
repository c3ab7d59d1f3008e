import PageCheck.Proofs.Plan.Numbering
import PageCheck.Validation.Basic

/-!
# Resolved steps and validations

A step or validation is resolved part by part, and is resolved only if each of its parts is. What
has no expressions, names and numbers, stays as it is.
-/

namespace PageCheck

open Expression (Resolver)

/-- What a resolved step has from the step. -/
structure Step.ResolvesTo (resolver : Resolver) (step : Step) (resolved : ResolvedStep) : Prop where
  /-- The selector of the locator is resolved, if there is a locator. -/
  locator : (step.locator = none ∧ resolved.locator = none) ∨
    ∃ written selector, step.locator = some written ∧
      resolver.resolveText written.selector = .ok selector ∧
      resolved.locator = some { written with selector }
  /-- The parameters are resolved. -/
  parameters : resolver.resolveMembers step.parameters = .ok resolved.parameters
  /-- The output name stays. -/
  outputName : resolved.outputName = step.outputName

/-- What a resolved validation has from the validation. -/
structure Validation.ResolvesTo (resolver : Resolver) (validation : Validation)
    (resolved : ResolvedValidation) : Prop where
  /-- The target is resolved. -/
  target : resolver.resolveText validation.target = .ok resolved.target
  /-- The parameters are resolved. -/
  parameters : resolver.resolveMembers validation.parameters = .ok resolved.parameters

/-- A step that resolves does so part by part. -/
theorem Step.resolvesTo_of_resolve {resolver : Resolver} {step : Step} {resolved : ResolvedStep}
    (hresolve : step.resolve resolver = .ok resolved) : step.ResolvesTo resolver resolved := by
  rw [Step.resolve] at hresolve
  have hrest : ∀ {locator : Option Locator}, (do
      let parameters ← resolver.resolveMembers step.parameters
      pure (⟨step.action, locator, parameters, step.outputName, step.source⟩ : ResolvedStep)) =
        .ok resolved →
      resolved.locator = locator ∧
        resolver.resolveMembers step.parameters = .ok resolved.parameters ∧
        resolved.outputName = step.outputName := by
    intro locator hrest
    obtain ⟨parameters, hparameters, hresolved⟩ := ok_of_bind hrest
    cases hresolved
    exact ⟨rfl, hparameters, rfl⟩
  cases hwritten : step.locator with
  | none =>
    rw [hwritten] at hresolve
    obtain ⟨hlocator, hparameters, hname⟩ := hrest hresolve
    exact ⟨.inl ⟨hwritten, hlocator⟩, hparameters, hname⟩
  | some written =>
    rw [hwritten] at hresolve
    obtain ⟨selector, hselector, hmore⟩ := ok_of_bind hresolve
    obtain ⟨hlocator, hparameters, hname⟩ := hrest hmore
    exact ⟨.inr ⟨written, selector, hwritten, hselector, hlocator⟩, hparameters, hname⟩

/-- A resolved validation is the validation with its target and its parameters resolved, and with
some expected text. -/
theorem Validation.eq_of_resolve {resolver : Resolver} {validation : Validation}
    {resolved : ResolvedValidation} (hresolve : validation.resolve resolver = .ok resolved) :
    ∃ target expected parameters, resolver.resolveText validation.target = .ok target ∧
      resolver.resolveMembers validation.parameters = .ok parameters ∧
      resolved =
        ⟨validation.validationType, validation.state, target, expected, parameters⟩ := by
  rw [Validation.resolve] at hresolve
  have hrest : ∀ {expected : Option String}, (do
      let target ← resolver.resolveText validation.target
      let parameters ← resolver.resolveMembers validation.parameters
      pure (⟨validation.validationType, validation.state, target, expected, parameters⟩ :
        ResolvedValidation)) = .ok resolved → ∃ target expected parameters,
          resolver.resolveText validation.target = .ok target ∧
          resolver.resolveMembers validation.parameters = .ok parameters ∧
          resolved =
            ⟨validation.validationType, validation.state, target, expected, parameters⟩ := by
    intro expected hrest
    obtain ⟨target, htarget, hmore⟩ := ok_of_bind hrest
    obtain ⟨parameters, hparameters, hresolved⟩ := ok_of_bind hmore
    cases hresolved
    exact ⟨target, expected, parameters, htarget, hparameters, rfl⟩
  cases hvalue : validation.value with
  | none =>
    rw [hvalue] at hresolve
    exact hrest hresolve
  | some value =>
    rw [hvalue] at hresolve
    obtain ⟨expected, _, hmore⟩ := ok_of_bind hresolve
    exact hrest hmore

/-- A validation that resolves does so part by part. -/
theorem Validation.resolvesTo_of_resolve {resolver : Resolver} {validation : Validation}
    {resolved : ResolvedValidation} (hresolve : validation.resolve resolver = .ok resolved) :
    validation.ResolvesTo resolver resolved := by
  obtain ⟨target, expected, parameters, htarget, hparameters, rfl⟩ := eq_of_resolve hresolve
  exact ⟨htarget, hparameters⟩

end PageCheck
