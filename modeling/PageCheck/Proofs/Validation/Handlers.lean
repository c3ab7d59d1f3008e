import PageCheck.Proofs.Fallible
import PageCheck.Proofs.Step.Parallel

/-!
# What built-in validations ask

The built-in handlers of validations only look at a session: they find elements, ask them what they
are and have, and read the URL. A command that fails makes them fail with its error. For themselves
they fail for want of a parameter, for a pattern that is none and for a part of the URL that is not
to be had, and never because of a state that they support.
-/

namespace PageCheck

open Script (Asks)

/-- A command only looks at a session. -/
inductive Command.Inspects : Command → Prop
  | currentUrl : Inspects .currentUrl
  | find (locator : Locator) : Inspects (.find locator)
  | text (element : Element) : Inspects (.text element)
  | displayed (element : Element) : Inspects (.displayed element)
  | «attribute» (element : Element) (name : String) : Inspects (.attribute element name)
  | property (element : Element) (name : String) : Inspects (.property element name)

/-! ### Errors of a check's own -/

/-- An error does not say that a state is not supported. -/
def Error.OfSupported (error : Error) : Prop :=
  ∀ validation state, error ≠ .unsupportedState validation state

namespace ResolvedValidation

variable {validation : ResolvedValidation} {error : Error}

/-- A parameter that is missing makes the step invalid. -/
theorem ofSupported_requireParam {name : String}
    (missing : validation.requireParam name = .error error) : error.OfSupported := by
  rw [requireParam] at missing
  split at missing <;> cases missing
  nofun

/-- So does an expected text that is missing. -/
theorem ofSupported_requireExpected (missing : validation.requireExpected = .error error) :
    error.OfSupported := by
  rw [requireExpected] at missing
  split at missing <;> cases missing
  nofun

/-- So does a pattern that is missing. -/
theorem ofSupported_requirePattern (missing : validation.requirePattern = .error error) :
    error.OfSupported := by
  rw [requirePattern] at missing
  split at missing <;> cases missing
  nofun

end ResolvedValidation

/-- A text that is no usable pattern is an invalid pattern. -/
theorem Pattern.ofSupported_occursIn {source pattern text : String} {error : Error}
    (unusable : (do return (← ofText source pattern).occursIn text.toList : Result Bool) =
      .error error) : error.OfSupported := by
  rcases bind_eq_error_iff.mp unusable with hread | ⟨compiled, -, hfound⟩
  · obtain ⟨fault, -, rfl⟩ := mapError_eq_error_iff.mp hread
    nofun
  · cases hfound

/-- A comparison fails only if the expected text is no usable pattern. -/
theorem Comparison.ofSupported_evaluate {comparison : Comparison} {actual expected : String}
    {error : Error} (unusable : comparison.evaluate actual expected = .error error) :
    error.OfSupported := by
  cases comparison with
  | equals | contains => cases unusable
  | matching => exact Pattern.ofSupported_occursIn unusable

/-- A part of a URL that is not to be had is an error of the session or of the step. -/
theorem Url.ofSupported_part {url name : String} {error : Error}
    (unusable : part url name = .error error) : error.OfSupported := by
  simp only [part] at unusable
  split at unusable
  · cases unusable
  · split at unusable
    · cases unusable
      nofun
    · split at unusable <;> cases unusable
      nofun

/-! ### The handlers -/

/-- A script only looks at a session, and of itself it does not say that a state is not
supported. -/
abbrev Script.Examines {α : Type} (script : Script α) : Prop :=
  Asks Command.Inspects Error.OfSupported script

namespace ElementCheck

open ResolvedValidation

variable (validation : ResolvedValidation)

/-- Whatever is asked of an element, the session is only looked at. -/
theorem examines_examine (element : Element) (condition : Condition) :
    (examine validation element condition).Examines := by
  have hname : Script.Examines (Script.ofResult (validation.requireParam "name")) :=
    .ofResult fun _ => ofSupported_requireParam
  have hexpected : Script.Examines (Script.ofResult validation.requireExpected) :=
    .ofResult fun _ => ofSupported_requireExpected
  have hpattern : Script.Examines (Script.ofResult validation.requirePattern) :=
    .ofResult fun _ => ofSupported_requirePattern
  cases condition with
  | presence => exact .done
  | visibility => exact (Asks.ask (.displayed _)).bind fun displayed => .done
  | textMatch =>
    exact hpattern.bind fun pattern => (Asks.ask (.text _)).bind fun text =>
      (Asks.ofResult fun _ => Pattern.ofSupported_occursIn).bind fun found => .done
  | property => exact hname.bind fun name => (Asks.ask (.property _ _)).bind fun value => .done
  | «attribute» => exact hname.bind fun name => (Asks.ask (.attribute _ _)).bind fun value => .done
  | propertyValue =>
    exact hname.bind fun name => hexpected.bind fun expected =>
      (Asks.ask (.property _ _)).bind fun value => .done
  | attributeValue =>
    exact hname.bind fun name => hexpected.bind fun expected =>
      (Asks.ask (.attribute _ _)).bind fun value => .done
  | text comparison =>
    refine Asks.bind ?_ fun expected => (Asks.ask (.text _)).bind fun text =>
      (Asks.ofResult fun _ => Comparison.ofSupported_evaluate).bind fun holds => .done
    cases comparison with
    | matching => exact hpattern
    | equals | contains => exact hexpected

/-- So it is when a condition is checked on the elements that were found. -/
theorem examines_check (condition : Condition) (negated : Bool) (elements : List Element) :
    (check validation condition negated elements).Examines := by
  cases elements with
  | nil => cases condition <;> exact .done
  | cons element rest =>
    cases condition with
    | presence => exact .done
    | _ => exact (examines_examine validation element _).bind fun (holds, msg) => .done

/-- To check a state that it supports, the handler of elements only looks at the session. -/
theorem examines_handler (supported : handler.supports validation.state = true)
    (timeouts : Timeouts) : (handler.validate validation timeouts).Examines := by
  refine (Asks.ask (.find _)).bind fun elements => ?_
  cases hstate : Condition.ofState? validation.state with
  | some asked => exact examines_check validation asked.1 asked.2 elements
  | none =>
    cases hwanted : validation.state with
    | extension name =>
      rw [hwanted] at supported
      cases supported
    | _ =>
      rw [hwanted] at hstate
      cases hstate

end ElementCheck

namespace UrlCheck

/-- To check a state that it supports, the handler of URLs only looks at the session. -/
theorem examines_handler {validation : ResolvedValidation}
    (supported : handler.supports validation.state = true) (timeouts : Timeouts) :
    (handler.validate validation timeouts).Examines := by
  obtain ⟨⟨comparison, negated⟩, hstate⟩ := Option.isSome_iff_exists.mp supported
  have hplan : ∀ error, plan validation comparison = .error error → error.OfSupported := by
    intro error hmissing
    rw [plan] at hmissing
    split at hmissing
    · cases hmissing
    · split at hmissing
      · cases hmissing
      · exact ResolvedValidation.ofSupported_requireExpected (error_of_map hmissing)
  simp only [handler, hstate]
  refine (Asks.ofResult hplan).bind ?_
  rintro ⟨part, expected⟩
  refine (Asks.ask .currentUrl).bind fun url => ?_
  refine (Asks.ofResult fun _ => Url.ofSupported_part).bind fun actual => ?_
  exact (Asks.ofResult fun _ => Comparison.ofSupported_evaluate).bind fun holds => .done

end UrlCheck

/-- To check a state that it supports, a built-in handler only looks at the session. -/
theorem ValidationHandler.examines_builtin {validationType : ValidationType}
    {handler : ValidationHandler} (builtin : builtin? validationType = some handler)
    {validation : ResolvedValidation} (supported : handler.supports validation.state = true)
    (timeouts : Timeouts) : (handler.validate validation timeouts).Examines := by
  cases validationType with
  | xpath =>
    cases builtin
    exact ElementCheck.examines_handler validation supported timeouts
  | url =>
    cases builtin
    exact UrlCheck.examines_handler supported timeouts
  | extension name => cases builtin

/-- A built-in handler has an answer when it is asked whether it supports a state. -/
theorem ValidationHandler.answer_builtin {validationType : ValidationType}
    {handler : ValidationHandler} (builtin : builtin? validationType = some handler)
    (state : ValidationState) : handler.supports.answer state = .ok (handler.supports state) := by
  cases validationType with
  | xpath =>
    cases builtin
    rfl
  | url =>
    cases builtin
    rfl
  | extension name => cases builtin

/-! ### Scripted sessions -/

/-- A command of a scripted session is refused only for want of an element. -/
theorem Scripted.element_of_refused {site : Site} {command : Command} {session : Scripted.Session}
    {error : Error} (refused : (session.carryOut site command).1 = .error error) :
    ∃ name, session.element site name = .error error := by
  cases command with
  | text element | displayed element | click element | hover element =>
    exact ⟨element, error_of_map refused⟩
  | «attribute» element name | property element name =>
    dsimp only [Session.carryOut] at refused
    split at refused
    · cases refused
    · exact ⟨element, error_of_map refused⟩
  | setAttribute element name value | clear element | sendKeys element text =>
    dsimp only [Session.carryOut] at refused
    split at refused
    · cases refused
    next fault hfound =>
      cases refused
      exact ⟨element, hfound⟩
  | _ => cases refused

/-- No command of a scripted session fails with the error that a state is not supported. -/
theorem Scripted.ofSupported_perform {site : Site} {command : Command} {session : Scripted.Session}
    {journal : Journal} {error : Error}
    (failed : (perform site command session journal).1 = .failed error) : error.OfSupported := by
  dsimp only [perform] at failed
  split at failed
  · cases failed
    rintro _ _ ⟨⟩
  · cases failed
  · cases hresult : (session.carryOut site command).1 with
    | ok reply =>
      rw [hresult] at failed
      cases failed
    | error fault =>
      rw [hresult] at failed
      cases failed
      obtain ⟨name, hstale⟩ := element_of_refused hresult
      rw [Session.element] at hstale
      split at hstale <;> cases hstale
      rintro _ _ ⟨⟩

end PageCheck
