import Mathlib.Data.List.OfFn
import Mathlib.Logic.Equiv.Defs
import PageCheck.Proofs.Pass.Reports
import PageCheck.Proofs.Step.Resolution
import PageCheck.Proofs.Validation.Handlers

/-!
# Independence of validations

The validations of a plan are checked one after the other in the same session. The built-in ones
only look at it, and all that this changes in a scripted session is the number of look-ups, besides
the journal. Where every element is there from the first look-up on, no answer depends on either.
So each validation is reported as if it were the only one.

The proof forgets the number and the journal: read without them, the session stays the same while
validations are checked.
-/

namespace PageCheck

section

variable {World Session : Type}

namespace Pass

/-- The handler that a registry has for a validation is the built-in one. -/
def BuiltIn (registry : Registry) (validation : Validation) : Prop :=
  ∀ handler, registry.validationHandler validation.validationType = .ok handler →
    ValidationHandler.builtin? validation.validationType = some handler

/-- A scene stays as it is if its session is only looked at. -/
def Still (setting : Setting World Session) (scene : Scene World Session) : Prop :=
  ∀ session, scene.session = some session → ∀ command, Command.Inspects command →
    (setting.browser.perform command session scene.world).2 = (session, scene.world)

variable {setting : Setting World Session} {scene : Scene World Session}

/-- Checking a built-in validation leaves a scene that stays as it is if it is looked at. -/
theorem executeValidation_still (still : Still setting scene) {validation : Validation}
    (builtIn : BuiltIn setting.registry validation) :
    (executeValidation setting validation scene).2 = scene := by
  have hexecutes : Executes setting (.validation validation) scene
    (executeValidation setting validation scene).1 (executeValidation setting validation scene).2 :=
      execute_iff.mp rfl
  generalize executeValidation setting validation scene = execution at hexecutes ⊢
  obtain ⟨attempt, after⟩ := execution
  cases hexecutes with
  | unhandledValidation hhandler => rfl
  | unanswered hhandler hanswer => rfl
  | unsupported hhandler hanswer => rfl
  | unresolvedValidation hhandler hanswer hresolve => rfl
  | @checked _ _ _ handler resolved result hhandler hanswer hresolve hrun =>
    have hsupported : handler.supports resolved.state = true := by
      obtain ⟨_, _, _, _, _, rfl⟩ := Validation.eq_of_resolve hresolve
      rw [ValidationHandler.answer_builtin (builtIn handler hhandler)] at hanswer
      exact Except.ok.inj hanswer
    have hexamines : (handler.validate resolved scene.context.timeouts).Examines :=
      ValidationHandler.examines_builtin (builtIn handler hhandler) hsupported _
    rcases scene with ⟨context, _ | session, world⟩
    · cases hrun
      rfl
    · have hleaves := hexamines.leaves (still session rfl)
      rcases hscript : (handler.validate resolved context.timeouts).run setting.browser session
        world with ⟨ended, session', world'⟩
      rw [hscript] at hleaves
      cases hleaves
      simp only [runHandler, hscript] at hrun
      cases hrun
      rfl

/-- Checking a built-in validation never gives up altogether. -/
theorem tolerated_of_builtIn {validation : Validation}
    (builtIn : BuiltIn setting.registry validation) (scene : Scene World Session) :
    Tolerated true (executeValidation setting validation scene).1 := by
  cases hattempt : (executeValidation setting validation scene).1 with
  | returned outcome => trivial
  | failed error => rfl
  | panicked message =>
    have hexecute : execute setting (.validation validation) scene = (.panicked message, _) :=
      Prod.ext hattempt rfl
    obtain ⟨-, _, handler, hitem, hhandler, hanswer⟩ := (execute_iff.mp hexecute).of_panicked
    cases hitem
    rw [ValidationHandler.answer_builtin (builtIn handler hhandler)] at hanswer
    cases hanswer

theorem throughout_tolerated_of_builtIn {validations : List Validation}
    (builtIn : ∀ validation ∈ validations, BuiltIn setting.registry validation)
    (scene : Scene World Session) :
    Throughout setting (Tolerated true) (validations.map .validation) scene := by
  induction validations generalizing scene with
  | nil => trivial
  | cons validation rest ih =>
    obtain ⟨hfirst, hrest⟩ := List.forall_mem_cons.mp builtIn
    exact ⟨tolerated_of_builtIn hfirst scene, ih hrest _⟩

variable (browser : BrowserTarget)

/-- Each validation is reported as the scene has it that stays as it is. -/
theorem checks_still (still : Still setting scene) {validations : List Validation}
    (builtIn : ∀ validation ∈ validations, BuiltIn setting.registry validation) :
    checks setting browser validations scene = validations.map fun validation =>
      validationReport browser validation
        (complaint (executeValidation setting validation scene).1) := by
  induction validations with
  | nil => rfl
  | cons validation rest ih =>
    obtain ⟨hfirst, hrest⟩ := List.forall_mem_cons.mp builtIn
    rw [checks, executeValidation_still still hfirst, ih hrest]
    rfl

/-- Validations are reported the same in scenes that are read as each other. -/
theorem checks_read {World' Session' : Type} {other : Browser World' Session'}
    (reading : setting.browser.Morphism other) (adjust : RunOptions → RunOptions)
    (validations : List Validation) (scene : Scene World Session) :
    checks (setting.withBrowser other) browser validations (scene.read reading adjust) =
      checks setting browser validations scene := by
  induction validations generalizing scene with
  | nil => rfl
  | cons validation rest ih =>
    rw [checks, checks, executeValidation_read, ih]

end Pass

end

namespace Scripted

/-- Every element of a site is there from the first look-up on. -/
def Site.Settled (site : Site) : Prop :=
  ∀ page ∈ site.pages, ∀ element ∈ page.2, element.appearsAfter = 0

namespace Session

/-- A session as if nothing had been looked up in it. -/
def anew (session : Session) : Session := { session with lookups := 0 }

/-- The elements of the current page are there from the first look-up on. -/
theorem appearsAfter_of_settled {site : Site} (settled : site.Settled) (session : Session) :
    ∀ element ∈ session.page site, element.appearsAfter = 0 := by
  rw [page]
  cases session.current? with
  | none => nofun
  | some url =>
    cases hpage : site.pages.lookup url with
    | none => simp [hpage]
    | some elements =>
      obtain ⟨before, after, hsplit, -⟩ := List.lookup_eq_some_iff.mp hpage
      simp only [hpage, Option.getD_some]
      exact settled (url, elements) (by simp [hsplit])

/-- The positions of elements with a property depend on that property of those elements alone. -/
theorem positionsFrom_congr {first second : PageElement → Bool} {elements : List PageElement}
    (same : ∀ element ∈ elements, first element = second element) (position : Nat) :
    positionsFrom first position elements = positionsFrom second position elements := by
  induction elements generalizing position with
  | nil => rfl
  | cons element rest ih =>
    obtain ⟨helement, hrest⟩ := List.forall_mem_cons.mp same
    rw [positionsFrom, positionsFrom, helement, ih hrest]

/-- Among such elements a selector finds the same at every look-up. -/
theorem find_of_settled {elements : List PageElement}
    (settled : ∀ element ∈ elements, element.appearsAfter = 0) (selector : String)
    (first second : Nat) :
    find selector (first + 1) elements = find selector (second + 1) elements := by
  refine congrArg _ (positionsFrom_congr (fun element helement => ?_) 0)
  simp only [settled element helement, Nat.zero_lt_succ]

/-- Carrying out a command does not depend on the number of look-ups. -/
theorem carryOut_anew {site : Site} (settled : site.Settled) (session : Session)
    (command : Command) :
    (session.anew.carryOut site command).1 = (session.carryOut site command).1 ∧
      (session.anew.carryOut site command).2.anew = (session.carryOut site command).2.anew := by
  cases command with
  | find locator =>
    have hfound := find_of_settled (appearsAfter_of_settled settled session) locator.selector 0
      session.lookups
    exact ⟨congrArg Except.ok hfound, rfl⟩
  | «attribute» element name =>
    have hattributes : session.anew.attributes = session.attributes := rfl
    dsimp only [carryOut]
    rw [hattributes]
    split <;> exact ⟨rfl, rfl⟩
  | property element name =>
    have htyped : session.anew.typed = session.typed := rfl
    dsimp only [carryOut]
    rw [htyped]
    split <;> exact ⟨rfl, rfl⟩
  | setAttribute element name value | clear element | sendKeys element text =>
    have helement : session.anew.element site element = session.element site element := rfl
    dsimp only [carryOut]
    rw [helement]
    split <;> exact ⟨rfl, rfl⟩
  | forward =>
    refine ⟨rfl, ?_⟩
    dsimp only [carryOut, forward, anew]
    split <;> rfl
  | navigate | currentUrl | back | refresh | text | displayed | click | hover | addCookie | cookies
  | deleteCookie | deleteAllCookies | setWindowSize => exact ⟨rfl, rfl⟩

/-- Where nothing has been looked up, looking at the session changes nothing but that. -/
theorem carryOut_inspecting (site : Site) (session : Session) {command : Command}
    (inspects : command.Inspects) : (session.anew.carryOut site command).2.anew = session.anew := by
  cases inspects with
  | «attribute» element name =>
    dsimp only [carryOut]
    split <;> rfl
  | property element name =>
    dsimp only [carryOut]
    split <;> rfl
  | _ => rfl

end Session

/-- The scripted browser of a site without a journal, whose sessions forget what was looked up. -/
def forgetful (site : Site) : Browser Unit Session where
  start target options _ := ((start site target options .empty).1, ())
  target := Session.browser
  perform command session _ :=
    ((perform site command session .empty).1, (perform site command session .empty).2.1.anew, ())
  quit session _ := ((quit site session .empty).1, ())
  pause _ _ := ()

/-- Where every element is there from the first look-up on, the scripted browser is read as the
forgetful one. -/
def forgetting {site : Site} (settled : site.Settled) :
    (browser site).Morphism (forgetful site) where
  world _ := ()
  session := Session.anew
  start target options before := by
    dsimp only [forgetful, browser, start]
    split <;> rfl
  perform command inner before := by
    obtain ⟨hanswer, hsession⟩ := Session.carryOut_anew settled inner command
    have hbrowser : inner.anew.browser = inner.browser := rfl
    dsimp only [forgetful, browser, perform]
    rw [hbrowser]
    cases spoil site inner.browser (Session.entry command).1 with
    | none =>
      dsimp only
      rw [hanswer, hsession]
    | some fault => cases fault <;> rfl
  quit inner before := by
    have hbrowser : inner.anew.browser = inner.browser := rfl
    dsimp only [forgetful, browser, quit]
    rw [hbrowser]
    cases spoil site inner.browser "quit" with
    | none => rfl
    | some fault => cases fault <;> rfl
  pause _ _ := rfl

/-- A scene that is read so stays as it is if its session is only looked at. -/
theorem still_forgetting {registry : Registry} {environment : Expression.Environment} {site : Site}
    (settled : site.Settled) (scene : Scene Journal Session) :
    Pass.Still ⟨registry, environment, forgetful site⟩ (scene.read (forgetting settled) id) := by
  intro session hsession command hinspects
  obtain ⟨inner, -, rfl⟩ := Option.map_eq_some_iff.mp hsession
  have hcarried := Session.carryOut_inspecting site inner hinspects
  dsimp only [forgetful, perform, forgetting]
  cases spoil site inner.anew.browser (Session.entry command).1 with
  | none =>
    dsimp only
    rw [hcarried]
  | some fault => cases fault <;> rfl

/-- **Validations are independent of each other.** At a scripted site where every element is there
from the first look-up on, whatever its rules spoil, a pass in which errors are suppressed and the
steps complete reports every built-in validation as it would if that were its only validation. So
validations in another order get the same reports in that order. Their positions in the file do not
matter either. -/
theorem validations_independent (registry : Registry) (environment : Expression.Environment)
    {site : Site} (settled : site.Settled) (target : BrowserTarget) {scene : Scene Journal Session}
    (suppressed : scene.context.options.suppressExceptions = true) {steps : List Step}
    (complete : Pass.Throughout ⟨registry, environment, browser site⟩ Pass.Completed
      (steps.map .step) scene) :
    let reports validations :=
      (Pass.runPlan ⟨registry, environment, browser site⟩ target ⟨steps, validations⟩ scene).1
    ∃ one : Validation → Report,
      (∀ validation, Pass.BuiltIn registry validation →
        reports [validation] = .finished [one validation]) ∧
      (∀ validations, (∀ validation ∈ validations, Pass.BuiltIn registry validation) →
        reports validations = .finished (validations.map one)) ∧
      (∀ (count : Nat) (validations : Fin count → Validation) (order : Equiv.Perm (Fin count)),
        (∀ position, Pass.BuiltIn registry (validations position)) →
          reports (List.ofFn validations) = .finished (List.ofFn (one ∘ validations)) ∧
          reports (List.ofFn (validations ∘ order)) =
            .finished (List.ofFn (one ∘ validations ∘ order))) ∧
      ∀ validation index, one { validation with index } = one validation := by
  intro reports
  let setting : Setting Journal Session := ⟨registry, environment, browser site⟩
  let left := Pass.reach setting (steps.map .step) scene
  have hreports : ∀ validations, (∀ validation ∈ validations, Pass.BuiltIn registry validation) →
      reports validations = .finished (validations.map fun validation =>
        Pass.validationReport target validation (Pass.complaint (Pass.executeValidation
          ⟨registry, environment, forgetful site⟩ validation
          (left.read (forgetting settled) id)).1)) := by
    intro validations hbuiltIn
    have hrun : reports validations = .finished (Pass.checks setting target validations left) := by
      dsimp only [reports]
      rw [Pass.runPlan_eq_runPlanWith, suppressed,
        Pass.runPlanWith_through setting target complete
          (Pass.throughout_tolerated_of_builtIn hbuiltIn _)]
    have hread : Pass.checks (setting.withBrowser (forgetful site)) target validations
        (left.read (forgetting settled) id) = Pass.checks setting target validations left :=
      @Pass.checks_read _ _ setting target _ _ _ (forgetting settled) id validations left
    have hstill : Pass.Still (setting.withBrowser (forgetful site))
        (left.read (forgetting settled) id) := still_forgetting settled left
    rw [hrun, ← hread]
    exact congrArg PassEnd.finished (Pass.checks_still target hstill hbuiltIn)
  refine ⟨_, fun validation hbuiltIn => hreports [validation] ?_, hreports, ?_, fun _ _ => rfl⟩
  · exact List.forall_mem_singleton.mpr hbuiltIn
  · intro count validations order hbuiltIn
    have hofFn : ∀ listed : Fin count → Validation,
        (∀ position, Pass.BuiltIn registry (listed position)) → reports (List.ofFn listed) = _ :=
      fun listed hlisted => hreports _ (List.forall_mem_ofFn_iff.mpr hlisted)
    constructor
    · rw [hofFn validations hbuiltIn, List.map_ofFn]
    · rw [hofFn (validations ∘ order) fun position => hbuiltIn (order position), List.map_ofFn]

/-- A scripted site whose one page has a heading that gives up when it is asked for its text. -/
def speechless : Site where
  pages := [("http://site.test/", [⟨"//h1", "Welcome", true, [], [], 0⟩])]
  redirects := []
  failingStarts := []
  faults := [⟨none, "text", .panic "gone"⟩]

/-- A step that opens that page. -/
def opening : Step where
  index := 0
  action := .navigateTo
  locator := none
  parameters := [("url", .string "http://site.test/")]
  outputName := none
  source := none

/-- A validation of the heading, without a value. -/
def heading (index : Nat) (state : ValidationState) : Validation :=
  ⟨index, .xpath, state, "//h1", some (.string "Welcome"), []⟩

/-- Whether the heading exists is reported the same before and after the check that gives up. -/
theorem validations_independent_speechless :
    let reports validations := (Pass.runPlan (.scripted speechless) .firefox
      ⟨[opening], validations⟩ Pass.started).1
    speechless.Settled ∧
      Pass.Throughout (.scripted speechless) Pass.Completed ([opening].map .step) Pass.started ∧
      ∃ present gone, reports [heading 1 .exists] = .finished [present] ∧
        reports [heading 1 .exists, heading 2 .equals] = .finished [present, gone] ∧
        reports [heading 1 .equals, heading 2 .exists] = .finished [gone, present] := by
  intro reports
  have hsettled : speechless.Settled := by simp [Site.Settled, speechless]
  have hcomplete : Pass.Throughout (.scripted speechless) Pass.Completed ([opening].map .step)
      Pass.started := ⟨⟨none, rfl⟩, trivial⟩
  have hbuiltIn : ∀ index state, Pass.BuiltIn .empty (heading index state) :=
    fun index state handler hhandler => by
      cases hhandler
      rfl
  obtain ⟨one, halone, hall, -, hindex⟩ :=
    validations_independent .empty [] hsettled .firefox rfl hcomplete
  have hmoved : ∀ index state, one (heading index state) = one (heading 0 state) :=
    fun index state => hindex (heading 0 state) index
  have hpair : ∀ first second, reports [heading 1 first, heading 2 second] =
      .finished [one (heading 0 first), one (heading 0 second)] := by
    intro first second
    have hreports := hall [heading 1 first, heading 2 second] (by simp [hbuiltIn])
    rw [List.map_cons, List.map_cons, hmoved 1, hmoved 2] at hreports
    exact hreports
  refine ⟨hsettled, hcomplete, one (heading 0 .exists), one (heading 0 .equals), ?_,
    hpair .exists .equals, hpair .equals .exists⟩
  have hreports := halone (heading 1 .exists) (hbuiltIn 1 .exists)
  rw [hmoved] at hreports
  exact hreports

end Scripted

end PageCheck
