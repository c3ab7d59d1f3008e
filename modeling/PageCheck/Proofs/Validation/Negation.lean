import PageCheck.Proofs.Step.Polling
import PageCheck.Proofs.Validation.Handlers

/-!
# States and their negations

Ten states have a negation. The check of a state and that of its negation issue the same commands
and ask for the same parameters, and differ in what they say and in how they take the answer. So
they come to contrary ends from the same session. Where there is no element, what is asked of an
element fails either way; only presence and visibility have an answer there.
-/

namespace PageCheck

open Script (Alike)

variable {World Session : Type}

/-- The state that wants the opposite. -/
def ValidationState.negation? : ValidationState → Option ValidationState
  | .exists => some .notExists
  | .visible => some .notVisible
  | .textMatches => some .notTextMatches
  | .hasProperty => some .notHasProperty
  | .propertyHasValue => some .notPropertyHasValue
  | .hasAttribute => some .notHasAttribute
  | .attributeHasValue => some .notAttributeHasValue
  | .equals => some .notEquals
  | .contains => some .notContains
  | .matches => some .notMatches
  | _ => none

/-- One built-in state is the negation of another just if its name is that of the other after a
`Not`. -/
theorem ValidationState.negation?_eq_some_iff :
    ∀ state ∈ Vocabulary.builtins (α := ValidationState),
      ∀ other ∈ Vocabulary.builtins (α := ValidationState),
        state.negation? = some other ↔ other.name = "Not" ++ state.name := by
  decide +kernel

/-- A check was met. -/
def Attempt.Met (attempt : Attempt Outcome) : Prop :=
  ∃ value, attempt = .returned (.completed value)

/-- A check was made and not met. -/
def Attempt.Unmet (attempt : Attempt Outcome) : Prop := ∃ msg, attempt = .returned (.failed msg)

/-- Two checks both ended in an error of the same code, or one of the two was met and the other
was not. -/
def Attempt.Contrary (first second : Attempt Outcome) : Prop :=
  (∃ error other : Error, error.code = other.code ∧ first = .failed error ∧
    second = .failed other) ∨
  (first.Met ∧ second.Unmet) ∨ (first.Unmet ∧ second.Met)

/-! ### Contrary outcomes -/

/-- A validation that wants a state. -/
def ResolvedValidation.wanting (validation : ResolvedValidation) (state : ValidationState) :
    ResolvedValidation := { validation with state }

/-- One outcome is that of a check that holds and the other that of one that does not. -/
def Outcome.Contrary (first second : Outcome) : Prop :=
  ∃ holds msg other, first = .check holds msg ∧ second = .check (!holds) other

/-- The outcomes of a condition and of its negation are contrary. -/
theorem Outcome.contrary_check (holds : Bool) (msg other : String) :
    Outcome.Contrary (.check (holds != false) msg) (.check (holds != true) other) :=
  ⟨holds != false, msg, other, rfl, by cases holds <;> rfl⟩

/-- Checks that end with contrary outcomes are contrary. -/
theorem Script.Alike.contrary {first second : Script Outcome}
    (alike : Alike Outcome.Contrary first second) {browser : Browser World Session}
    (steady : browser.Calm) (session : Session) (world : World) :
    ((first.run browser session world).1).Contrary (second.run browser session world).1 := by
  rcases alike.ends steady session world with
    ⟨_, _, ⟨holds, msg, other, rfl, rfl⟩, hfirst, hsecond⟩ | hfailed
  · rw [hfirst, hsecond]
    cases holds with
    | true => exact .inr (.inl ⟨⟨none, rfl⟩, ⟨other, rfl⟩⟩)
    | false => exact .inr (.inr ⟨⟨msg, rfl⟩, ⟨none, rfl⟩⟩)
  · exact .inl hfailed

/-! ### What a check needs -/

/-- What is there is the same, and errors about what is not have the same code. -/
theorem agree_required (option : Option String) {first second : Error}
    (same : first.code = second.code) :
    Agree (match option with | some text => .ok text | none => .error first)
      (match option with | some text => .ok text | none => .error second) := by
  cases option with
  | some text => rfl
  | none => exact same

namespace ResolvedValidation

variable (validation : ResolvedValidation) (state other : ValidationState)

/-- Parameters do not depend on the state. -/
theorem agree_requireParam (name : String) :
    Agree ((validation.wanting state).requireParam name)
      ((validation.wanting other).requireParam name) :=
  agree_required (validation.param? name) rfl

/-- Nor does the expected text. -/
theorem agree_requireExpected :
    Agree (validation.wanting state).requireExpected (validation.wanting other).requireExpected :=
  agree_required (validation.expected.or (validation.param? "value")) rfl

/-- Nor does the pattern. -/
theorem agree_requirePattern :
    Agree (validation.wanting state).requirePattern (validation.wanting other).requirePattern :=
  agree_required ((validation.param? "pattern").or validation.expected) rfl

end ResolvedValidation

namespace ElementCheck

open ResolvedValidation

variable (validation : ResolvedValidation) {state negated : ValidationState}

/-- A state and its negation are about the same condition. -/
theorem ofState?_negation (twin : state.negation? = some negated) :
    ∃ condition, Condition.ofState? state = some (condition, false) ∧
      Condition.ofState? negated = some (condition, true) := by
  cases state <;> cases twin <;> exact ⟨_, rfl, rfl⟩

/-- An element is examined in the same way whatever state is wanted. -/
theorem alike_examine (state other : ValidationState) (element : Element) (condition : Condition) :
    Alike (fun first second => first.1 = second.1)
      (examine (validation.wanting state) element condition)
      (examine (validation.wanting other) element condition) := by
  cases condition with
  | presence => exact .done rfl
  | visibility => exact (Alike.ask _).andThen fun displayed => .done rfl
  | textMatch =>
    exact (Alike.ofResult (validation.agree_requirePattern state other)).andThen fun pattern =>
      (Alike.ask _).andThen fun text => (Alike.ofResult (.refl _)).andThen fun found => .done rfl
  | property | «attribute» =>
    exact (Alike.ofResult (validation.agree_requireParam state other "name")).andThen fun name =>
      (Alike.ask _).andThen fun value => .done rfl
  | propertyValue | attributeValue =>
    exact (Alike.ofResult (validation.agree_requireParam state other "name")).andThen fun name =>
      (Alike.ofResult (validation.agree_requireExpected state other)).andThen fun expected =>
        (Alike.ask _).andThen fun value => .done rfl
  | text comparison =>
    refine Alike.andThen ?_ fun expected => (Alike.ask _).andThen fun text =>
      (Alike.ofResult (.refl _)).andThen fun holds => .done rfl
    cases comparison with
    | matching => exact .ofResult (validation.agree_requirePattern state other)
    | equals | contains => exact .ofResult (validation.agree_requireExpected state other)

/-- Where there is an element, or its presence or visibility is asked for, a condition and its
negation have contrary outcomes. -/
theorem alike_check (state other : ValidationState) {condition : Condition}
    {elements : List Element}
    (asked : elements ≠ [] ∨ condition = .presence ∨ condition = .visibility) :
    Alike Outcome.Contrary (check (validation.wanting state) condition false elements)
      (check (validation.wanting other) condition true elements) := by
  cases elements with
  | nil =>
    rcases asked with hnone | rfl | rfl
    · exact absurd rfl hnone
    · exact .done ⟨false, _, _, rfl, rfl⟩
    · exact .done ⟨false, _, _, rfl, rfl⟩
  | cons element rest =>
    cases condition with
    | presence => exact .done ⟨true, _, _, rfl, rfl⟩
    | _ =>
      refine (alike_examine validation state other element _).bind ?_
      rintro ⟨holds, msg⟩ ⟨_, further⟩ rfl
      exact .done (Outcome.contrary_check holds msg further)

/-- What is asked of an element fails where there is none. -/
theorem check_nothing (negated : Bool) {condition : Condition} (presence : condition ≠ .presence)
    (visibility : condition ≠ .visibility) :
    ∃ msg, check validation condition negated [] = .done (.failed msg) := by
  cases condition with
  | presence => exact absurd rfl presence
  | visibility => exact absurd rfl visibility
  | _ => exact ⟨_, rfl⟩

/-- There is no element, and the state is about something other than whether there is one and
whether it is visible. -/
structure LacksElement (browser : Browser World Session) (session : Session) (world : World)
    (validation : ResolvedValidation) (state : ValidationState) : Prop where
  /-- The target finds no element. -/
  nothing : (browser.perform (.find (.ofXPath validation.target)) session world).1 = .returned []
  /-- The state is not about presence. -/
  notExists : state ≠ .exists
  /-- The state is not about visibility. -/
  notVisible : state ≠ .visible

/-- A state about a condition is checked on what the target finds. -/
theorem validate_of_condition {wanted : ValidationState} {condition : Condition} {taken : Bool}
    (about : Condition.ofState? wanted = some (condition, taken)) (timeouts : Timeouts) :
    handler.validate (validation.wanting wanted) timeouts =
      Script.ask (.find (.ofXPath validation.target)) >>=
        check (validation.wanting wanted) condition taken := by
  simp only [handler, ResolvedValidation.wanting, about]

/-- A state with a negation is about presence or visibility just if it is one of two states. -/
theorem asked_of_nothing_iff (twin : state.negation? = some negated) {condition : Condition}
    (about : Condition.ofState? state = some (condition, false)) :
    condition = .presence ∨ condition = .visibility ↔ state = .exists ∨ state = .visible := by
  cases state <;> cases twin <;> cases about <;> simp

variable {browser : Browser World Session} {session : Session} {world : World}

/-- Where the target finds no element, what is asked of one is not met, whether it is negated or
not. -/
theorem unmet_of_nothing
    (nothing : (browser.perform (.find (.ofXPath validation.target)) session world).1 =
      .returned []) {condition : Condition} (presence : condition ≠ .presence)
    (visibility : condition ≠ .visibility) (wanted : ValidationState) (taken : Bool) :
    ((Script.ask (.find (.ofXPath validation.target)) >>=
      check (validation.wanting wanted) condition taken).run browser session world).1.Unmet := by
  obtain ⟨msg, hcheck⟩ := check_nothing (validation.wanting wanted) taken presence visibility
  rw [Script.run_bind, Script.run_ask]
  rcases hperform : browser.perform (.find (.ofXPath validation.target)) session world with
    ⟨attempt, session', world'⟩
  rw [hperform] at nothing
  cases nothing
  simp only [hcheck]
  exact ⟨msg, rfl⟩

/-- Where the target finds an element, or presence or visibility is asked for, a condition and its
negation come to contrary ends, and both fail where the target cannot be looked for. -/
theorem contrary_of_asked (steady : browser.Calm) (state other : ValidationState)
    {condition : Condition}
    (asked : (browser.perform (.find (.ofXPath validation.target)) session world).1 ≠ .returned [] ∨
      condition = .presence ∨ condition = .visibility) :
    (((Script.ask (.find (.ofXPath validation.target)) >>=
      check (validation.wanting state) condition false).run browser session world).1).Contrary
    ((Script.ask (.find (.ofXPath validation.target)) >>=
      check (validation.wanting other) condition true).run browser session world).1 := by
  have hcalm := steady (.find (.ofXPath validation.target)) session world
  rw [Script.run_bind, Script.run_bind, Script.run_ask]
  rcases hperform : browser.perform (.find (.ofXPath validation.target)) session world with
    ⟨attempt, session', world'⟩
  rw [hperform] at hcalm asked
  cases attempt with
  | returned elements =>
    refine (alike_check validation state other ?_).contrary steady session' world'
    exact asked.imp_left fun hsome hnone => hsome (congrArg Attempt.returned hnone)
  | failed error => exact .inl ⟨error, error, rfl, rfl, rfl⟩
  | panicked message => exact absurd rfl (hcalm message)

/-- Checks of a state and its negation are contrary, unless both lack the element. -/
theorem contrary_of_twin (twin : state.negation? = some negated) (timeouts : Timeouts)
    {browser : Browser World Session} (steady : browser.Calm) (session : Session) (world : World) :
    let first :=
      ((handler.validate (validation.wanting state) timeouts).run browser session world).1
    let second :=
      ((handler.validate (validation.wanting negated) timeouts).run browser session world).1
    (LacksElement browser session world validation state → first.Unmet ∧ second.Unmet) ∧
      (¬ LacksElement browser session world validation state → first.Contrary second) := by
  obtain ⟨condition, hstate, hnegated⟩ := ofState?_negation twin
  have hasked := asked_of_nothing_iff twin hstate
  rw [validate_of_condition validation hstate, validate_of_condition validation hnegated]
  constructor
  · rintro ⟨hnothing, hexists, hvisible⟩
    obtain ⟨hpresence, hvisibility⟩ : condition ≠ .presence ∧ condition ≠ .visibility := by
      rw [← not_or, hasked, not_or]
      exact ⟨hexists, hvisible⟩
    exact ⟨unmet_of_nothing validation hnothing hpresence hvisibility state false,
      unmet_of_nothing validation hnothing hpresence hvisibility negated true⟩
  · intro hhas
    refine contrary_of_asked validation steady state negated ?_
    rw [hasked, or_iff_not_imp_right, not_or]
    rintro ⟨hexists, hvisible⟩ hnothing
    exact hhas ⟨hnothing, hexists, hvisible⟩

end ElementCheck

namespace UrlCheck

/-- A supported state and its negation are about the same comparison. -/
theorem ofState?_negation {state negated : ValidationState}
    (supported : handler.supports state = true) (twin : state.negation? = some negated) :
    ∃ comparison, Comparison.ofState? state = some (comparison, false) ∧
      Comparison.ofState? negated = some (comparison, true) := by
  cases state with
  | equals | contains | «matches» =>
    cases twin
    exact ⟨_, rfl, rfl⟩
  | notEquals | notContains | notMatches => cases twin
  | _ => cases supported

/-- Checks of a state and its negation are contrary. -/
theorem contrary_of_twin (validation : ResolvedValidation) {state negated : ValidationState}
    (supported : handler.supports state = true) (twin : state.negation? = some negated)
    (timeouts : Timeouts) {browser : Browser World Session} (steady : browser.Calm)
    (session : Session) (world : World) :
    (((handler.validate (validation.wanting state) timeouts).run browser session world).1).Contrary
      ((handler.validate (validation.wanting negated) timeouts).run browser session world).1 := by
  obtain ⟨comparison, hstate, hnegated⟩ := ofState?_negation supported twin
  have hplan : Agree (plan (validation.wanting state) comparison)
      (plan (validation.wanting negated) comparison) := by
    have hexpected : ∀ wanted, expected? (validation.wanting wanted) comparison =
        expected? validation comparison := fun _ => by cases comparison <;> rfl
    have htarget : ∀ wanted, (validation.wanting wanted).target = validation.target := fun _ => rfl
    simp only [plan, hexpected, htarget]
    split
    · exact .refl _
    · split
      · exact .refl _
      · exact (validation.agree_requireExpected state negated).map _
  refine Alike.contrary ?_ steady session world
  simp only [handler, ResolvedValidation.wanting, hstate, hnegated]
  refine (Alike.ofResult hplan).andThen fun planned => ?_
  exact (Alike.ask _).andThen fun url => (Alike.ofResult (.refl _)).andThen fun actual =>
    (Alike.ofResult (.refl _)).andThen fun holds => .done (Outcome.contrary_check holds _ _)

end UrlCheck

/-! ### Built-in handlers -/

/-- **Negated states are complements.** In a session in which no command gives up, the checks that a
built-in handler makes of a state that it supports and of the negation of that state both end in an
error of the same code, or one of them is met and the other is not; but where there is no element
and something is asked of one, neither is met. An error that says that a supported state is not
supported is never one of the handler's own: it can only be what a command failed with that the
check itself issued. -/
theorem ValidationHandler.negation_complements {validationType : ValidationType}
    {handler : ValidationHandler} (builtin : builtin? validationType = some handler)
    {state negated : ValidationState} (supported : handler.supports state = true)
    (twin : state.negation? = some negated) (validation : ResolvedValidation) (timeouts : Timeouts)
    {browser : Browser World Session} (steady : browser.Calm) (session : Session) (world : World) :
    let check wanted :=
      ((handler.validate (validation.wanting wanted) timeouts).run browser session world).1
    let lacking := validationType = .xpath ∧
      ElementCheck.LacksElement browser session world validation state
    (lacking → (check state).Unmet ∧ (check negated).Unmet) ∧
      (¬ lacking → (check state).Contrary (check negated)) ∧
      ∀ wanted, handler.supports wanted = true → ∀ kind name,
        check wanted = .failed (.unsupportedState kind name) →
          ∃ command moment, (handler.validate (validation.wanting wanted) timeouts).Issues browser
              command moment (session, world) ∧
            (browser.perform command moment.1 moment.2).1 =
              .failed (.unsupportedState kind name) := by
  intro check lacking
  have hunsupported : ∀ wanted, handler.supports wanted = true → ∀ kind name,
      check wanted = .failed (.unsupportedState kind name) →
        ∃ command moment, (handler.validate (validation.wanting wanted) timeouts).Issues browser
            command moment (session, world) ∧
          (browser.perform command moment.1 moment.2).1 =
            .failed (.unsupportedState kind name) := by
    intro wanted hsupported kind name hfailed
    have hexamines : (handler.validate (validation.wanting wanted) timeouts).Examines :=
      examines_builtin builtin hsupported timeouts
    exact (hexamines.source (session, world) hfailed).resolve_left fun howned =>
      howned kind name rfl
  cases validationType with
  | xpath =>
    cases builtin
    obtain ⟨hlacking, hcontrary⟩ :=
      ElementCheck.contrary_of_twin validation twin timeouts steady session world
    exact ⟨fun lacks => hlacking lacks.2, fun has => hcontrary fun lacks => has ⟨rfl, lacks⟩,
      hunsupported⟩
  | url =>
    cases builtin
    refine ⟨fun lacks => (nomatch lacks.1), fun _ => ?_, hunsupported⟩
    exact UrlCheck.contrary_of_twin validation supported twin timeouts steady session world
  | extension name => cases builtin

/-- A scripted site with one page that has one heading. -/
def Scripted.headed : Scripted.Site where
  pages := [("http://site.test/", [⟨"//h1", "Welcome", true, [], [], 0⟩])]
  redirects := []
  failingStarts := []
  faults := []

/-- On a page with a heading and no table, the text of the heading equals what is expected or not,
the text of a table does neither, and no supported state is called unsupported. -/
theorem ValidationHandler.negation_complements_headed :
    let session : Scripted.Session :=
      { Scripted.Session.fresh .firefox with history := ["http://site.test/"] }
    let wanted (target : String) : ResolvedValidation :=
      ⟨.xpath, .equals, target, some "Welcome", []⟩
    let check target state := ((ElementCheck.handler.validate ((wanted target).wanting state)
      .standard).run (Scripted.browser Scripted.headed) session .empty).1
    (check "//h1" .equals).Contrary (check "//h1" .notEquals) ∧
      (check "//table" .equals).Unmet ∧ (check "//table" .notEquals).Unmet ∧
      ∀ target state, ElementCheck.handler.supports state = true → ∀ kind name,
        check target state ≠ .failed (.unsupportedState kind name) := by
  intro session wanted check
  have hcalm : (Scripted.browser Scripted.headed).Calm :=
    Scripted.calm_of_faults (by simp [Scripted.headed])
  have hbuiltin : builtin? .xpath = some ElementCheck.handler := rfl
  have hsupported : ElementCheck.handler.supports .equals = true := rfl
  have htwin : ValidationState.equals.negation? = some .notEquals := rfl
  have hchecks target := negation_complements hbuiltin hsupported htwin (wanted target) .standard
    hcalm session .empty
  have hunmet := (hchecks "//table").1 ⟨rfl, rfl, nofun, nofun⟩
  refine ⟨(hchecks "//h1").2.1 ?_, hunmet.1, hunmet.2, ?_⟩
  · rintro ⟨-, hnothing, -, -⟩
    have hheading : ((Scripted.browser Scripted.headed).perform (.find (.ofXPath "//h1")) session
        .empty).1 = .returned ["0"] := rfl
    cases hheading.symm.trans hnothing
  · intro target state hsupported kind name hfailed
    obtain ⟨command, moment, -, hcommand⟩ :=
      (hchecks target).2.2 state hsupported kind name hfailed
    exact Scripted.ofSupported_perform hcommand kind name rfl

end PageCheck
