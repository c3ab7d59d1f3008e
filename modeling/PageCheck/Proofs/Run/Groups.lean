import Mathlib.Data.List.Forall2
import PageCheck.Proofs.Pass.Suppression
import PageCheck.Proofs.Plan.Faults
import PageCheck.Proofs.Run.Containment
import PageCheck.Proofs.Run.Visits

/-!
# Groups of a run

However a group of a summary comes about, it has one of two shapes. Either it holds a report on each
validation of the file, in order, or it holds reports on the first validations and after them the
one step failure that ended the pass. A step failure says where that was: at the entry of the file
that cannot be planned or at the item that stopped the pass, and at 0 where no entry is to blame
because there is no session or the start page does not open.
-/

namespace PageCheck

variable {World Session : Type}

/-- A validation is what its definition means. -/
structure ValidationDefinition.Means (registry : Registry) (definition : ValidationDefinition)
    (validation : Validation) : Prop where
  /-- The type has the name that is written. -/
  type : registry.resolve definition.validationType = .ok validation.validationType
  /-- So has the state. -/
  state : registry.resolve definition.state = .ok validation.state
  /-- The target stays as it is written. -/
  target : validation.target = definition.target

/-- A report is one on a definition, from the pass of a browser. -/
structure ValidationDefinition.Reported (registry : Registry) (browser : String)
    (definition : ValidationDefinition) (report : ValidationReport) : Prop where
  /-- It is from that pass. -/
  browser : report.browser = browser
  /-- It names the type. -/
  type : ∃ validationType : ValidationType,
    registry.resolve definition.validationType = .ok validationType ∧
      report.validationType = validationType.name
  /-- It names the state. -/
  state : ∃ state : ValidationState, registry.resolve definition.state = .ok state ∧
    report.state = state.name
  /-- It shows the target as it is written. -/
  target : report.target = definition.target

/-- Reports on definitions are on the browser of the pass. -/
theorem ValidationDefinition.browser_of_reported {registry : Registry} {browser : String}
    {definitions : List ValidationDefinition} {checked : List ValidationReport}
    (reported : List.Forall₂ (Reported registry browser) definitions checked) :
    ∀ report ∈ checked.map Report.validation, report.browser = browser := by
  induction reported with
  | nil => simp
  | cons hfirst _ ih => exact List.forall_mem_cons.mpr ⟨hfirst.browser, ih⟩

/-- Planned validations are what their definitions mean. -/
theorem Plan.means_of_validations {registry : Registry} {index : Nat}
    {definitions : List ValidationDefinition} {planned : List Validation}
    (hvalidations : validations? registry index definitions = .ok planned) :
    List.Forall₂ (ValidationDefinition.Means registry) definitions planned := by
  induction definitions generalizing index planned with
  | nil =>
    cases hvalidations
    exact .nil
  | cons definition rest ih =>
    obtain ⟨first, others, hfirst, hothers, rfl⟩ := validations?_cons registry hvalidations
    obtain ⟨validationType, htype, hrest⟩ := ok_of_bind hfirst
    obtain ⟨state, hstate, hplanned⟩ := ok_of_bind hrest
    cases hplanned
    exact .cons ⟨htype, hstate, rfl⟩ (ih hothers)

/-- A plan is as large as its file. -/
theorem Plan.size_of_build {registry : Registry} {file : ValidationFile} {plan : Plan}
    (built : build registry file = .ok plan) : plan.size = file.size := by
  obtain ⟨hsteps, hvalidations⟩ := of_build registry built
  rw [size, length_steps registry hsteps, (means_of_validations hvalidations).length_eq.symm,
    ValidationFile.size]

/-- The items of a plan are its steps and validations. -/
theorem Plan.length_items (plan : Plan) : plan.items.length = plan.size := by
  simp [items, size]

namespace Pass

variable {setting : Setting World Session}

/-- Checked validations are reported as their definitions say, in their order. -/
theorem checks_reported (browser : BrowserTarget) {registry : Registry}
    {definitions : List ValidationDefinition} {validations : List Validation}
    (means : List.Forall₂ (ValidationDefinition.Means registry) definitions validations)
    (scene : Scene World Session) :
    ∃ reports : List ValidationReport,
      checks setting browser validations scene = reports.map .validation ∧
        List.Forall₂ (ValidationDefinition.Reported registry browser.name) definitions reports := by
  induction means generalizing scene with
  | nil => exact ⟨[], rfl, .nil⟩
  | @cons definition validation definitions validations hmeans _ ih =>
    obtain ⟨reports, hreports, hreported⟩ := ih (executeValidation setting validation scene).2
    refine ⟨_ :: reports, congrArg _ hreports, .cons ?_ hreported⟩
    exact ⟨rfl, ⟨_, hmeans.type, rfl⟩, ⟨_, hmeans.state, rfl⟩, hmeans.target⟩

/-- A pass has a plan and a session in which to carry it out. -/
structure Begun (setting : Setting World Session) (file : ValidationFile) (browser : BrowserTarget)
    (plan : Plan) (scene started : Scene World Session) : Prop where
  /-- There is something to do. -/
  planned : Planned setting.registry file plan
  /-- No other session is in the way. -/
  free : scene.session = none
  /-- The session starts. -/
  start : ∃ session world,
    setting.browser.start browser scene.context.options scene.world = (.returned session, world) ∧
      started = { scene with session := some session, world }

end Pass

namespace Run

/-- What can bring about the step failure in the group of a name that is visited in a scene. -/
inductive Cause (setting : Setting World Session) (file : ValidationFile) (name : String)
    (scene : Scene World Session) : StepFailureReport → Prop
  /-- The name means no browser. -/
  | unknown {error : Error}
      (unresolved : setting.registry.resolve (α := BrowserTarget) name = .error error) :
      Cause setting file name scene ⟨name, 0, Pass.startAction, error.message⟩
  /-- An entry of the file cannot be planned. It is the first one, and the failure has its
  position. -/
  | unplanned {browser : BrowserTarget} {e : PlanError} {entry : Entry}
      (resolved : setting.registry.resolve name = .ok browser)
      (failed : Plan.build setting.registry file = .error e)
      (first : Plan.FirstFault setting.registry file e entry) :
      Cause setting file name scene ⟨browser.name, e.index, entry.action, e.error.message⟩
  /-- A session is bound already. -/
  | busy {browser : BrowserTarget} (resolved : setting.registry.resolve name = .ok browser)
      (bound : scene.session.isSome = true) :
      Cause setting file name scene
        ⟨browser.name, 0, Pass.startAction, Error.driverBusy.message⟩
  /-- No session starts. -/
  | refused {browser : BrowserTarget} {error : Error}
      (resolved : setting.registry.resolve name = .ok browser)
      (failed : (setting.browser.start browser scene.context.options scene.world).1 =
        .failed error) :
      Cause setting file name scene ⟨browser.name, 0, Pass.startAction, error.message⟩
  /-- The start page does not open. -/
  | page {browser : BrowserTarget} {plan : Plan} {started : Scene World Session} {error : Error}
      (resolved : setting.registry.resolve name = .ok browser)
      (begun : Pass.Begun setting file browser plan scene started)
      (failed : (Pass.openPage setting file.path started).1 = .failed error) :
      Cause setting file name scene ⟨browser.name, 0, Pass.openAction, error.message⟩
  /-- Opening the start page gives up, outside of any handler. -/
  | escaped {browser : BrowserTarget} {plan : Plan} {started : Scene World Session}
      {message : String} (resolved : setting.registry.resolve name = .ok browser)
      (begun : Pass.Begun setting file browser plan scene started)
      (gaveUp : (Pass.openPage setting file.path started).1 = .panicked message) :
      Cause setting file name scene
        ⟨browser.name, 0, Plan.validateAction, (Error.handlerPanicked message).message⟩
  /-- An item of the plan stops the pass. It is the first one that does, the pass ends in the scene
  that it leaves, and the failure has its position. -/
  | stopped {browser : BrowserTarget} {plan : Plan} {started opened : Scene World Session}
      {position : Nat} {item : Item} {attempt : Attempt Outcome} {msg : String}
      (resolved : setting.registry.resolve name = .ok browser)
      (begun : Pass.Begun setting file browser plan scene started)
      (hopen : Pass.openPage setting file.path started = (.returned (), opened))
      (stopped : Pass.StoppedBy setting opened.context.options.suppressExceptions plan opened
        position item attempt (Pass.runPlan setting browser plan opened).2)
      (shows : Pass.Shows attempt (some msg)) :
      Cause setting file name scene ⟨browser.name, position, item.action, msg⟩
  /-- An item of the plan stops the pass by giving up where nothing catches that: it is a validation
  whose handler gives up when it is asked whether it supports the state. -/
  | unanswered {browser : BrowserTarget} {plan : Plan} {started opened : Scene World Session}
      {position : Nat} {item : Item} {message : String}
      (resolved : setting.registry.resolve name = .ok browser)
      (begun : Pass.Begun setting file browser plan scene started)
      (hopen : Pass.openPage setting file.path started = (.returned (), opened))
      (stopped : Pass.StoppedBy setting opened.context.options.suppressExceptions plan opened
        position item (.panicked message) (Pass.runPlan setting browser plan opened).2) :
      Cause setting file name scene
        ⟨browser.name, 0, Plan.validateAction, (Error.handlerPanicked message).message⟩

/-- The two shapes of the reports in the group of a name that is visited in a scene. -/
inductive Shape (setting : Setting World Session) (file : ValidationFile) (name : String)
    (scene : Scene World Session) : List Report → Prop
  /-- There is a report on every validation, in order. -/
  | complete {checked : List ValidationReport}
      (reported : List.Forall₂ (ValidationDefinition.Reported setting.registry
        (label setting.registry name)) file.validations checked) :
      Shape setting file name scene (checked.map .validation)
  /-- There are reports on the first validations, in order, and a step failure is the last one. -/
  | stopped {checked : List ValidationReport} {failure : StepFailureReport}
      (reported : List.Forall₂ (ValidationDefinition.Reported setting.registry
        (label setting.registry name)) (file.validations.take checked.length) checked)
      (few : checked.length + 1 ≤ max 1 file.validations.length)
      (browser : failure.browser = label setting.registry name)
      (index : failure.index < max 1 file.size)
      (cause : Cause setting file name scene failure) :
      Shape setting file name scene (checked.map .validation ++ [.stepFailure failure])

/-- What a group of a summary is like that a name gets in a scene. -/
structure WellFormed (setting : Setting World Session) (file : ValidationFile) (name : String)
    (scene : Scene World Session) (group : BrowserReports) : Prop where
  /-- It is labelled with the browser that the name means, or else with the name. -/
  label : group.browser = label setting.registry name
  /-- Every report is on that browser. -/
  browsers : ∀ report ∈ group.reports, report.browser = group.browser
  /-- The reports have one of the shapes. -/
  shape : Shape setting file name scene group.reports

section

variable {setting : Setting World Session} {file : ValidationFile} {name : String}
  {scene : Scene World Session}

/-- Reports of either shape are on the browser of the group. -/
theorem Shape.browsers {reports : List Report} (shape : Shape setting file name scene reports) :
    ∀ report ∈ reports, report.browser = label setting.registry name := by
  cases shape with
  | complete reported => exact ValidationDefinition.browser_of_reported reported
  | stopped reported few browser index cause =>
    rw [List.forall_mem_append]
    refine ⟨ValidationDefinition.browser_of_reported reported, ?_⟩
    simpa [Report.browser] using browser

/-- A group is well formed if its label is right and its reports have one of the shapes. -/
theorem Shape.wellFormed {reports : List Report} (shape : Shape setting file name scene reports) :
    WellFormed setting file name scene ⟨Run.label setting.registry name, reports⟩ :=
  ⟨rfl, shape.browsers, shape⟩

/-- A step failure alone is of the second shape. -/
theorem Shape.alone {failure : StepFailureReport}
    (browser : failure.browser = Run.label setting.registry name)
    (index : failure.index < max 1 file.size) (cause : Cause setting file name scene failure) :
    Shape setting file name scene [.stepFailure failure] := by
  have hshape : Shape setting file name scene
      (([] : List ValidationReport).map Report.validation ++ [.stepFailure failure]) :=
    .stopped .nil (Nat.le_max_left 1 _) browser index cause
  exact hshape

/-- A name that means a browser is labelled with it. -/
theorem label_of_resolved {browser : BrowserTarget}
    (resolved : setting.registry.resolve name = .ok browser) :
    Run.label setting.registry name = browser.name := by
  rw [Run.label, resolved]

variable {browser : BrowserTarget} {plan : Plan} {started opened : Scene World Session}

/-- What is reported on a plan that is carried out in a session has one of the shapes. -/
theorem shape_runPlan (resolved : setting.registry.resolve name = .ok browser)
    (begun : Pass.Begun setting file browser plan scene started)
    (hopen : Pass.openPage setting file.path started = (.returned (), opened)) :
    Shape setting file name scene
      (Pass.reported browser (Pass.runPlan setting browser plan opened).1) := by
  have hlabel := label_of_resolved resolved
  have hbuilt := begun.planned.1
  have hmeans := Plan.means_of_validations (Plan.of_build setting.registry hbuilt).2
  have hcount := hmeans.length_eq
  have hconclusion := Pass.runPlanWith_conclusion setting browser
    opened.context.options.suppressExceptions plan opened
  rw [← Pass.runPlan_eq_runPlanWith] at hconclusion
  rcases hconclusion.reports hbuilt with hall | ⟨position, item, attempt, hstopped, hended⟩
  · obtain ⟨reports, hchecks, hreported⟩ := Pass.checks_reported browser hmeans
      (Pass.reach setting (plan.steps.map .step) opened)
    rw [hall, Pass.reported, hchecks]
    exact .complete (hlabel ▸ hreported)
  rcases hended with
    ⟨msg, checked, hshows, hprefix, hfew, hreports⟩ | ⟨message, rfl, hgaveUp⟩
  · have hchecked : List.Forall₂ (ValidationDefinition.Means setting.registry)
        (file.validations.take checked.length) checked := by
      have htake := List.forall₂_take checked.length hmeans
      rwa [← List.prefix_iff_eq_take.mp hprefix] at htake
    obtain ⟨reports, hchecks, hreported⟩ := Pass.checks_reported browser hchecked
      (Pass.reach setting (plan.steps.map .step) opened)
    have hlength : checked.length = reports.length := by
      rw [← List.length_map Report.validation, ← hchecks, Pass.length_checks]
    have hindex : position < file.size := by
      rw [← Plan.size_of_build hbuilt, ← Plan.length_items]
      exact (List.getElem?_eq_some_iff.mp hstopped.found).1
    rw [hreports, hchecks]
    rw [hlength] at hreported hfew
    exact .stopped (hlabel ▸ hreported) (hcount ▸ hfew) hlabel.symm
      (Nat.lt_of_lt_of_le hindex (Nat.le_max_right _ _))
      (.stopped resolved begun hopen hstopped hshows)
  · rw [hgaveUp]
    exact .alone hlabel.symm (Nat.le_max_left _ _) (.unanswered resolved begun hopen hstopped)

/-- What is reported on a pass in a session has one of the shapes. -/
theorem shape_drive (resolved : setting.registry.resolve name = .ok browser)
    (begun : Pass.Begun setting file browser plan scene started) :
    Shape setting file name scene
      (Pass.reported browser (Pass.drive setting file browser plan started).1) := by
  have hlabel := label_of_resolved resolved
  have hfirst : 0 < max 1 file.size := Nat.le_max_left _ _
  rw [Pass.drive]
  rcases hopen : Pass.openPage setting file.path started with ⟨_ | error | message, opened⟩
  · exact shape_runPlan resolved begun hopen
  · exact .alone hlabel.symm hfirst (.page resolved begun (by rw [hopen]))
  · exact .alone hlabel.symm hfirst (.escaped resolved begun (by rw [hopen]))

/-- A pass whose session ended reports what it made. -/
theorem reportsOf?_ending (browser : BrowserTarget) (passEnd : PassEnd) :
    reportsOf? browser (Pass.ending passEnd) = .ok (Pass.reported browser passEnd) := by
  cases passEnd <;> rfl

/-- What a pass reports that does not give up has one of the shapes, whatever course it takes. -/
theorem Shape.of_course (resolved : setting.registry.resolve name = .ok browser)
    {passEnd : PassEnd} {after : Scene World Session} {reports : List Report}
    (course : Pass.Course setting file browser scene passEnd after)
    (hreports : reportsOf? browser passEnd = .ok reports) :
    Shape setting file name scene reports := by
  have hlabel := label_of_resolved resolved
  have hfirst : 0 < max 1 file.size := Nat.le_max_left _ _
  cases course with
  | @unplanned e planned =>
    cases hreports
    obtain ⟨entry, hentry⟩ := Plan.first_fault_of_build planned
    have hindex : e.index < file.size := by
      rw [← ValidationFile.length_entries]
      exact (List.getElem?_eq_some_iff.mp hentry.found).1
    rw [hentry.action]
    exact .alone hlabel.symm (Nat.lt_of_lt_of_le hindex (Nat.le_max_right _ _))
      (.unplanned resolved planned hentry)
  | @idle plan planned empty =>
    cases hreports
    have hnone : file.validations = [] := by
      have hmeans := Plan.means_of_validations (Plan.of_build setting.registry planned).2
      rw [Plan.isEmpty, beq_iff_eq, Plan.size, Nat.add_eq_zero_iff] at empty
      exact List.length_eq_zero_iff.mp (hmeans.length_eq.trans empty.2)
    have hshape : Shape setting file name scene
        (([] : List ValidationReport).map Report.validation) := .complete (hnone ▸ .nil)
    exact hshape
  | busy planned bound =>
    cases hreports
    exact .alone hlabel.symm hfirst (.busy resolved bound)
  | refused planned free hstart =>
    cases hreports
    exact .alone hlabel.symm hfirst (.refused resolved (by rw [hstart]))
  | stillborn planned free hstart => cases hreports
  | driven planned free hstart hdrive held kept =>
    rw [reportsOf?_ending] at hreports
    cases hreports
    have hshape := shape_drive resolved ⟨planned, free, _, _, hstart, rfl⟩
    rwa [hdrive] at hshape
  | severed planned free hstart hdrive held lost => cases hreports

/-- The group that a name gets is well formed, whether the name means a browser or not. -/
theorem wellFormed_of_group {one : BrowserReports}
    (hgroup : group setting file name scene = .ok one) :
    WellFormed setting file name scene one := by
  rw [group] at hgroup
  cases hresolve : setting.registry.resolve (α := BrowserTarget) name with
  | error error =>
    rw [hresolve] at hgroup
    cases hgroup
    have hlabel : Run.label setting.registry name = name := by rw [Run.label, hresolve]
    have hshape : Shape setting file name scene [unknownBrowser name error] :=
      .alone hlabel.symm (Nat.le_max_left _ _) (.unknown hresolve)
    have hformed := hshape.wellFormed
    rwa [hlabel] at hformed
  | ok browser =>
    rw [hresolve] at hgroup
    have hlabel := label_of_resolved hresolve
    dsimp only at hgroup
    cases hreports : reportsOf? browser (Pass.run setting file browser scene).1 with
    | error message =>
      rw [hreports] at hgroup
      cases hgroup
    | ok reports =>
      rw [hreports] at hgroup
      cases hgroup
      have hshape := Shape.of_course hresolve (Pass.run_course setting file browser scene) hreports
      have hformed := hshape.wellFormed
      rwa [hlabel] at hformed

end

/-- **Every group of a summary is well formed.** The names have one group each, in order, and the
group of a name has the label and one of the shapes that it can get in the scene in which the name
is visited. -/
theorem groups_wellFormed (setting : Setting World Session) (file : ValidationFile)
    (names : List String) (scene : Scene World Session) {summary : ReportSummary}
    (returned : (validate setting file names scene).result = .returned summary) :
    summary.groups.length = names.length ∧ ∀ position name, names[position]? = some name →
      ∃ one, summary.groups[position]? = some one ∧ WellFormed setting file name
        (sceneAt setting file names
          { scene with context := scene.context.loadBase file.definitions } position) one := by
  cases names with
  | nil => cases returned
  | cons first rest =>
    rw [validate_of_asked setting file (List.cons_ne_nil first rest), result_visit] at returned
    cases hgroups : groups setting file (first :: rest)
        { scene with context := scene.context.loadBase file.definitions } with
    | error message =>
      rw [hgroups] at returned
      cases returned
    | ok all =>
      rw [hgroups] at returned
      cases returned
      obtain ⟨hlength, hall⟩ := groups_getElem? setting file hgroups
      refine ⟨hlength, ?_⟩
      intro position name hname
      obtain ⟨one, hone, hposition⟩ := hall position name hname
      exact ⟨one, hposition, wellFormed_of_group hone⟩

/-- What comes of four names at the site where not everything works, if errors end a pass: a step
gives up, a name has no meaning, a session does not start and a validation cannot be asked for. -/
def unsteadySummary : ReportSummary where
  groups := [
    ⟨"Firefox", [.stepFailure ⟨"Firefox", 0, "Refresh", "Handler panicked: Refresh: gone"⟩]⟩,
    ⟨"Lynx", [.stepFailure ⟨"Lynx", 0, "StartSession",
      "Unknown browser target 'Lynx'. No built-in entry or registered plugin resolves it"⟩]⟩,
    ⟨"Chrome", [.stepFailure ⟨"Chrome", 0, "StartSession",
      "Failed to start Chrome session: scripted start failure"⟩]⟩,
    ⟨"Edge", [
      .validation ⟨"Edge", "XPath", "//h1", "Exists", false, some "No element matches //h1"⟩,
      .stepFailure ⟨"Edge", 2, "Validate",
        "Validation type 'URL' does not support state 'Exists'"⟩]⟩]

/-- The groups of that summary are well formed, each in its own way. -/
theorem groups_wellFormed_unsteady :
    (validate (.scripted unsteady) Pass.checking ["Firefox", "Lynx", "Chrome", "Edge"]
        (Scene.scripted.suppressing false)).result = .returned unsteadySummary ∧
      ∀ position name, ["Firefox", "Lynx", "Chrome", "Edge"][position]? = some name →
        ∃ one, unsteadySummary.groups[position]? = some one ∧
          WellFormed (.scripted unsteady) Pass.checking name
            (sceneAt (.scripted unsteady) Pass.checking ["Firefox", "Lynx", "Chrome", "Edge"]
              (Scene.scripted.suppressing false) position) one := by
  have hreturned : (validate (.scripted unsteady) Pass.checking
      ["Firefox", "Lynx", "Chrome", "Edge"] (Scene.scripted.suppressing false)).result =
        .returned unsteadySummary := by rfl
  exact ⟨hreturned, (groups_wellFormed (.scripted unsteady) Pass.checking
    ["Firefox", "Lynx", "Chrome", "Edge"] (Scene.scripted.suppressing false) hreturned).2⟩

end Run

end PageCheck
