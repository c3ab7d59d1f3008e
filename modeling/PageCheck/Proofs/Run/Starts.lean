import Mathlib.Data.List.Forall2
import PageCheck.CommandLine.Conduct
import PageCheck.Proofs.Run.Groups
import PageCheck.Proofs.Run.Independence

/-!
# Checks and runs

A check says beforehand what a run will come to. If there is a plan, the run starts a session for
every name that means a browser; if there is none, it makes no call at all and every browser gets
the error of planning as its one report. So a file passes its check exactly if a run in its target
browsers starts a session for each of them.
-/

namespace PageCheck

variable {World Session : Type}

/-- The browser that a call starts or is to start. -/
def Call.started? : Call → Option BrowserTarget
  | .start _ browser _ => some browser
  | _ => none

namespace Pass

variable {registry : Registry} {file : ValidationFile} {browser : BrowserTarget} {serial : Nat}
  {block : List Call}

/-- A pass with something to do starts one session. -/
theorem Block.started (hblock : Block registry file browser serial block) {plan : Plan}
    (planned : Planned registry file plan) : block.filterMap Call.started? = [browser] := by
  cases hblock with
  | unplanned failed => cases failed.symm.trans planned.1
  | idle built empty =>
    obtain rfl := Except.ok.inj (built.symm.trans planned.1)
    cases empty.symm.trans planned.2
  | refused _ unsuccessful => rfl
  | session _ commands ending => simp [Call.started?, Function.comp_def]

/-- A pass without a plan makes no call. -/
theorem Block.eq_nil (hblock : Block registry file browser serial block) {e : PlanError}
    (failed : Plan.build registry file = .error e) : block = [] := by
  cases hblock with
  | unplanned _ => rfl
  | idle _ empty => rfl
  | refused planned _ => cases planned.1.symm.trans failed
  | session planned _ _ => cases planned.1.symm.trans failed

end Pass

namespace Run

/-- The browsers whose sessions calls start or are to start, in order. -/
def starts (calls : List Call) : List BrowserTarget := calls.filterMap Call.started?

section

variable {registry : Registry} {file : ValidationFile} {written : Nat} {names : List String}
  {calls : List Call}

/-- Calls that do not give up start a session for each name, in order, exactly if each name means a
browser. -/
theorem Blocks.starts_iff (blocks : Blocks registry file written names calls) {plan : Plan}
    (planned : Pass.Planned registry file plan) (kept : calls.any Call.gaveUp = false) :
    List.Forall₂ (fun name browser => registry.resolve name = .ok browser) names (starts calls) ↔
      ∀ name ∈ names, ∃ browser : BrowserTarget, registry.resolve name = .ok browser := by
  induction blocks with
  | done => simp [starts]
  | @unknown written name rest error calls unresolved later ih =>
    refine ⟨fun hall => ?_, fun hall => ?_⟩
    · obtain ⟨browser, _, hname, _⟩ := List.forall₂_cons_left_iff.mp hall
      cases unresolved.symm.trans hname
    · obtain ⟨browser, hname⟩ := hall name List.mem_cons_self
      cases unresolved.symm.trans hname
  | next resolved pass hblock later ih =>
    rw [List.any_append, hblock, Bool.false_or] at kept
    rw [starts, List.filterMap_append, pass.started planned, List.singleton_append,
      List.forall₂_cons, List.forall_mem_cons, ← ih kept]
    exact ⟨fun hall => ⟨⟨_, resolved⟩, hall.2⟩, fun hall => ⟨resolved, hall.2⟩⟩
  | last resolved pass lost => cases lost.symm.trans kept

/-- Without a plan there are no calls. -/
theorem Blocks.eq_nil (blocks : Blocks registry file written names calls) {e : PlanError}
    (failed : Plan.build registry file = .error e) : calls = [] := by
  induction blocks with
  | done => rfl
  | unknown unresolved later ih => exact ih
  | next resolved pass hblock later ih => rw [pass.eq_nil failed, ih, List.append_nil]
  | last resolved pass lost => exact pass.eq_nil failed

end

section

variable (setting : Setting World Session) (file : ValidationFile) {names : List String}
  (asked : names ≠ []) {scene : Scene World Session}

include asked

/-- The calls of a run that finds no session bound are blocks. -/
theorem blocks_calls (free : scene.session = none) :
    Blocks setting.registry file 0 names (calls setting file names scene) := by
  have hfree : scene.recorded.session = none := by rw [Scene.recorded, free]; rfl
  have hloaded : { scene.recorded with
      context := scene.recorded.context.loadBase file.definitions }.session = none := hfree
  obtain ⟨_, calls, hblocks, hcalls⟩ := visit_blocks setting file names .empty hloaded
  rw [Run.calls, validate_of_asked _ _ asked, hcalls]
  exact hblocks

/-- With a steady browser no call gives up, since the run has a summary. -/
theorem calls_kept (steady : setting.browser.Steady) :
    (calls setting file names scene).any Call.gaveUp = false := by
  have hrecorded := (validate_eq_recorded setting file names scene).1
  rw [validate_of_asked _ _ asked, validate_of_asked _ _ asked, result_visit] at hrecorded
  obtain ⟨all, hall⟩ := groups_of_steady setting file steady names
    { scene with context := scene.context.loadBase file.definitions }
  obtain ⟨made, hmade, hlost, _⟩ := visit_contained setting file names .empty
    { scene.recorded with context := scene.recorded.context.loadBase file.definitions }
  have hcalls : calls setting file names scene = made := by
    rw [calls, validate_of_asked _ _ asked, hmade]
    rfl
  rw [hcalls, ← Bool.not_eq_true]
  intro hany
  obtain ⟨message, hpanicked⟩ := hlost hany
  rw [hall, hpanicked] at hrecorded
  cases hrecorded

end

/-- A file with an entry that has a plan has something to do. -/
theorem planned_of_build {registry : Registry} {file : ValidationFile}
    (filled : file.isEmpty = false) {plan : Plan} (built : Plan.build registry file = .ok plan) :
    Pass.Planned registry file plan := by
  refine ⟨built, ?_⟩
  rw [Plan.isEmpty, Plan.size_of_build built]
  exact filled

/-- What a name gets if the file cannot be planned. -/
def unplannedGroup (registry : Registry) (e : PlanError) (name : String) : BrowserReports :=
  match registry.resolve (α := BrowserTarget) name with
  | .error error => ⟨name, [unknownBrowser name error]⟩
  | .ok browser => ⟨browser.name, [.stepFailure ⟨browser.name, e.index, e.action, e.error.message⟩]⟩

/-- A name gets the error of planning, wherever it is visited. -/
theorem group_of_unplanned {setting : Setting World Session} {file : ValidationFile} {e : PlanError}
    (failed : Plan.build setting.registry file = .error e) (name : String)
    (scene : Scene World Session) :
    group setting file name scene = .ok (unplannedGroup setting.registry e name) := by
  rw [group, unplannedGroup]
  cases setting.registry.resolve (α := BrowserTarget) name with
  | error error => rfl
  | ok browser =>
    dsimp only
    rw [Pass.run, failed]
    rfl

end Run

/-- A file passes its check exactly if its target browsers and its entries mean something. -/
theorem Check.passes_iff {registry : Registry} {file : ValidationFile} :
    passes registry file = true ↔
      (∀ name ∈ file.targetBrowsers, ∃ browser : BrowserTarget,
        registry.resolve name = .ok browser) ∧ ∃ plan, Plan.build registry file = .ok plan := by
  have hbrowser : ∀ name, (browserFinding registry name).passed = true ↔
      ∃ browser : BrowserTarget, registry.resolve name = .ok browser := by
    intro name
    rw [browserFinding]
    cases registry.resolve (α := BrowserTarget) name <;> simp
  have hbrowsers : (browserFindings registry file.targetBrowsers).all (·.passed) = true ↔
      ∀ name ∈ file.targetBrowsers, ∃ browser : BrowserTarget,
        registry.resolve name = .ok browser := by
    rw [browserFindings]
    cases file.targetBrowsers with
    | nil => simp
    | cons name rest =>
      rw [if_neg (by simp), List.all_map, List.all_eq_true]
      exact forall₂_congr fun other _ => hbrowser other
  have hplan : (planFinding registry file).passed = true ↔
      ∃ plan, Plan.build registry file = .ok plan := by
    rw [planFinding]
    cases Plan.build registry file <;> simp
  rw [passes, findings, List.all_append, Bool.and_eq_true, hbrowsers, List.all_cons, List.all_nil,
    Bool.and_true, hplan]

namespace Run

/-- **A check agrees with a run.** If sessions start and end without giving up, a file with entries
passes its check exactly if a run in its target browsers starts a session for each of them in order,
and the exit status of the check says so. If the file cannot be planned, a run starts nothing, every
browser has the error of planning as its one report, and that error is the fault of the first entry
that has one. -/
theorem check_agrees_with_run (setting : Setting World Session) (steady : setting.browser.Steady)
    {file : ValidationFile} (listed : file.targetBrowsers ≠ []) (filled : file.isEmpty = false)
    {scene : Scene World Session} (free : scene.session = none) :
    (Check.passes setting.registry file = true ↔
      List.Forall₂ (fun name browser => setting.registry.resolve name = .ok browser)
        file.targetBrowsers (starts (calls setting file file.targetBrowsers scene))) ∧
    (∀ (host : CommandLine.Host) (input : CommandLine.Input), host.registry = setting.registry →
      CommandLine.loadInput host input = .ok file →
      (CommandLine.conductCheck host input).ending =
        .returned (if Check.passes setting.registry file then 0 else 1)) ∧
    ∀ e, Plan.build setting.registry file = .error e →
      calls setting file file.targetBrowsers scene = [] ∧
      (∃ summary, (validate setting file file.targetBrowsers scene).result = .returned summary ∧
        ∀ (position : Nat) (name : String) (browser : BrowserTarget),
          file.targetBrowsers[position]? = some name →
          setting.registry.resolve name = .ok browser →
          summary.groups[position]? = some ⟨browser.name,
            [.stepFailure ⟨browser.name, e.index, e.action, e.error.message⟩]⟩) ∧
      ∃ entry, Plan.FirstFault setting.registry file e entry := by
  have hblocks := blocks_calls setting file listed free
  refine ⟨?_, ?_, ?_⟩
  · rw [Check.passes_iff]
    cases hbuild : Plan.build setting.registry file with
    | ok plan =>
      have hplanned := planned_of_build filled hbuild
      rw [hblocks.starts_iff hplanned (calls_kept setting file listed steady)]
      exact and_iff_left ⟨plan, rfl⟩
    | error e =>
      rw [hblocks.eq_nil hbuild]
      refine iff_of_false (by simp) ?_
      intro hall
      exact listed (List.forall₂_nil_right_iff.mp hall)
  · intro host input hregistry hloaded
    rw [CommandLine.conductCheck, hloaded, hregistry]
    rfl
  · intro e failed
    refine ⟨hblocks.eq_nil failed, ?_, Plan.first_fault_of_build failed⟩
    obtain ⟨all, hall⟩ := exists_groups setting file
      (fun name scene => ⟨_, group_of_unplanned failed name scene⟩) file.targetBrowsers
      { scene with context := scene.context.loadBase file.definitions }
    refine ⟨⟨all⟩, ?_, ?_⟩
    · rw [validate_of_asked setting file listed, result_visit, hall]
      rfl
    · intro position name browser hname hresolve
      obtain ⟨one, hone, hposition⟩ := (groups_getElem? setting file hall).2 position name hname
      rw [group_of_unplanned failed] at hone
      cases hone
      rw [hposition, unplannedGroup, hresolve]

/-- A file with two entries at fault: a step that captures from an unknown source, and a validation
of an unknown type. -/
def mistaken : ValidationFile where
  description := none
  targetBrowsers := ["Firefox", "Edge"]
  path := none
  definitions := []
  steps := [⟨"Refresh", none, [], none⟩,
    ⟨"OutputValue", none, [("source", .string "Nowhere")], none⟩]
  validations := [⟨"Weather", "/", "Equals", none, []⟩]
  metadata := []

/-- One file passes its check, and its run tries to start all sessions, of which one does not start.
The other one cannot be planned, and its run does nothing but report the first fault. -/
theorem check_agrees_with_run_unsteady :
    (Setting.scripted unsteady).browser.Steady ∧ Scene.scripted.session = none ∧
      reloading.targetBrowsers ≠ [] ∧ reloading.isEmpty = false ∧
      Check.passes .empty reloading = true ∧
      starts (calls (.scripted unsteady) reloading reloading.targetBrowsers .scripted) =
        [.firefox, .chrome, .edge] ∧
      mistaken.targetBrowsers ≠ [] ∧ mistaken.isEmpty = false ∧
      Check.passes .empty mistaken = false ∧
      calls (.scripted unsteady) mistaken mistaken.targetBrowsers .scripted = [] ∧
      ∃ entry, Plan.FirstFault .empty mistaken
        ⟨1, "OutputValue", .unknownName .outputSource "Nowhere"⟩ entry := by
  have hsteady : (Setting.scripted unsteady).browser.Steady :=
    Scripted.steady_of_faults (by simp [unsteady])
  have hfree : Scene.scripted.session = none := rfl
  have hstarts : starts (calls (.scripted unsteady) reloading reloading.targetBrowsers .scripted) =
      [.firefox, .chrome, .edge] := by rfl
  have hlisted : reloading.targetBrowsers ≠ [] := by decide
  have hfilled : reloading.isEmpty = false := rfl
  have hlisted' : mistaken.targetBrowsers ≠ [] := by decide
  have hfilled' : mistaken.isEmpty = false := rfl
  obtain ⟨hpasses, _, _⟩ :=
    check_agrees_with_run (.scripted unsteady) hsteady hlisted hfilled hfree
  obtain ⟨_, _, hfails⟩ :=
    check_agrees_with_run (.scripted unsteady) hsteady hlisted' hfilled' hfree
  obtain ⟨hcalls, _, hfault⟩ :=
    hfails ⟨1, "OutputValue", .unknownName .outputSource "Nowhere"⟩ rfl
  refine ⟨hsteady, hfree, hlisted, hfilled, hpasses.mpr ?_, hstarts, hlisted', hfilled', by decide,
    hcalls, hfault⟩
  rw [hstarts]
  exact .cons rfl (.cons rfl (.cons rfl .nil))

end Run

end PageCheck
