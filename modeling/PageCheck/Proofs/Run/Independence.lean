import Mathlib.Data.List.Perm.Basic
import PageCheck.Proofs.Pass.Captures
import PageCheck.Proofs.Run.Visits

/-!
# Independence of browsers

Between the visits of a run there is nothing but the scene: the context, the binding of a session
and the world. A pass over a file without output names puts the first two back as it finds them, and
a scripted browser answers the same in every world. What is left of a visit is its group, and that
is the group which the name gets when it is visited alone. So the groups of a run are those of
separate runs, in the order of the names, and what goes wrong with one name is no matter for another
one.

The proof forgets the world: a browser that answers the same in every world is read as one that has
no world, and there a visit leaves the very scene that it finds.
-/

namespace PageCheck

section

variable {World Session : Type}

/-- A browser whose answers do not depend on the world. -/
structure Browser.Worldless (browser : Browser World Session) : Prop where
  /-- Sessions start the same. -/
  start : ∀ target options first second,
    (browser.start target options first).1 = (browser.start target options second).1
  /-- Commands are answered the same, with the same session afterwards. -/
  perform : ∀ command session first second,
    (browser.perform command session first).1 = (browser.perform command session second).1 ∧
      (browser.perform command session first).2.1 = (browser.perform command session second).2.1
  /-- Sessions end the same. -/
  quit : ∀ session first second, (browser.quit session first).1 = (browser.quit session second).1

/-- The browser that gives the answers of one world, whatever has happened before. -/
def Browser.inWorld (browser : Browser World Session) (world : World) : Browser Unit Session where
  start target options _ := ((browser.start target options world).1, ())
  target := browser.target
  perform command session _ :=
    ((browser.perform command session world).1, (browser.perform command session world).2.1, ())
  quit session _ := ((browser.quit session world).1, ())
  pause _ _ := ()

/-- A browser that does not depend on the world is read as the one in a single world. -/
def Browser.Worldless.reading {browser : Browser World Session} (worldless : browser.Worldless)
    (world : World) : browser.Morphism (browser.inWorld world) where
  world _ := ()
  session := id
  start target options before := by
    refine Prod.ext ?_ rfl
    dsimp only [Browser.inWorld]
    rw [worldless.start target options world before]
    cases (browser.start target options before).1 <;> rfl
  perform command inner before := by
    obtain ⟨hanswer, hsession⟩ := worldless.perform command inner world before
    exact Prod.ext hanswer (Prod.ext hsession rfl)
  quit inner before := Prod.ext (worldless.quit inner world before) rfl
  pause _ _ := rfl

/-- What ends and starts without giving up in every world does so in a single one. -/
theorem Browser.Steady.inWorld {browser : Browser World Session} (steady : browser.Steady)
    (world : World) : (browser.inWorld world).Steady where
  start target options _ message := steady.start target options world message
  quit session _ message := steady.quit session world message

namespace Run

section

variable {setting : Setting Unit Session} {file : ValidationFile}

/-- Where there is no world, a visit leaves the scene as it finds it if the file captures
nothing. -/
theorem leave_eq (unnamed : ∀ definition ∈ file.steps, definition.outputName = none)
    (scene : Scene Unit Session) (name : String) : leave setting file scene name = scene := by
  rw [leave]
  cases setting.registry.resolve (α := BrowserTarget) name with
  | error error => rfl
  | ok browser =>
    have hcourse := Pass.run_course setting file browser scene
    have hcontext := hcourse.context unnamed
    have hsession := hcourse.session
    dsimp only
    generalize (Pass.run setting file browser scene).2 = after at hcontext hsession
    rcases after with ⟨context, session, world⟩
    cases hcontext
    cases hsession
    rfl

/-- Where there is no world, every name gets the group that it gets alone. -/
theorem groups_eq_map (unnamed : ∀ definition ∈ file.steps, definition.outputName = none)
    {scene : Scene Unit Session} {one : String → BrowserReports}
    (alone : ∀ name, group setting file name scene = .ok (one name)) (names : List String) :
    groups setting file names scene = .ok (names.map one) := by
  induction names with
  | nil => rfl
  | cons name rest ih =>
    rw [groups, alone, leave_eq unnamed, ih]
    rfl

end

/-- Where the world is no matter every name has one group, which it gets in whatever run it is asked
for. -/
theorem exists_group (setting : Setting World Session) (worldless : setting.browser.Worldless)
    (steady : setting.browser.Steady) {file : ValidationFile}
    (unnamed : ∀ definition ∈ file.steps, definition.outputName = none) (context : Context)
    (bound : Option Session) (world : World) :
    ∃ one : String → BrowserReports, ∀ names ≠ [], ∀ before,
      (validate setting file names ⟨context, bound, before⟩).result =
        .returned ⟨names.map one⟩ := by
  have hsteady : (setting.withBrowser (setting.browser.inWorld world)).browser.Steady :=
    steady.inWorld world
  choose one hone using fun name => group_of_steady
    (setting.withBrowser (setting.browser.inWorld world)) file hsteady name
    ⟨context.loadBase file.definitions, bound, ()⟩
  refine ⟨one, ?_⟩
  intro names hasked before
  have hread := validate_read (worldless.reading world) file names ⟨context, bound, before⟩
  have hscene : Scene.read (worldless.reading world) id ⟨context, bound, before⟩ =
      ⟨context, bound, ()⟩ := by
    rw [Scene.read]
    exact congrArg (Scene.mk context · ()) (congrFun Option.map_id bound)
  rw [hscene] at hread
  have hresult := congrArg RunEnd.result hread
  rw [validate_of_asked _ _ hasked, result_visit, groups_eq_map unnamed hone] at hresult
  exact hresult.symm

end Run

end

namespace Scripted

/-- A scripted browser answers the same in every world. -/
theorem worldless (site : Site) : (browser site).Worldless where
  start target options first second := by
    dsimp only [browser, start]
    split <;> rfl
  perform command session first second := by
    dsimp only [browser, perform]
    cases spoil site session.browser (Session.entry command).1 with
    | none => exact ⟨rfl, rfl⟩
    | some fault => cases fault <;> exact ⟨rfl, rfl⟩
  quit session first second := by
    dsimp only [browser, quit]
    cases spoil site session.browser "quit" with
    | none => rfl
    | some fault => cases fault <;> rfl

/-- A scripted browser whose rules let no session give up when it ends is steady: a start never
does. -/
theorem steady_of_faults {site : Site} (released : ∀ rule ∈ site.faults, rule.operation = "quit" →
    ∀ message, rule.fault ≠ .panic message) : (browser site).Steady where
  start target options journal message := by
    dsimp only [browser, start]
    split <;> simp
  quit session journal message := by
    dsimp only [browser, quit]
    cases hspoil : spoil site session.browser "quit" with
    | none => simp
    | some fault =>
      cases fault with
      | error text => simp
      | panic text =>
        rw [spoil] at hspoil
        obtain ⟨rule, hfind, hfault⟩ := Option.map_eq_some_iff.mp hspoil
        have happlies := List.find?_some hfind
        simp only [Bool.and_eq_true, beq_iff_eq] at happlies
        exact absurd hfault (released rule (List.mem_of_find?_eq_some hfind) happlies.1 text)

/-- Validate a file at a scripted site, from a context in which a session is bound or not. -/
def validate (registry : Registry) (environment : Expression.Environment) (site : Site)
    (file : ValidationFile) (context : Context) (bound : Option Session) (names : List String)
    (journal : Journal) : RunEnd Journal Session :=
  Run.validate ⟨registry, environment, browser site⟩ file names ⟨context, bound, journal⟩

/-- **Browsers do not influence each other.** If a file captures nothing and no session gives up
when it ends, the groups of a run are those of separate runs of its names from the same context, one
after the other. So another order of the names gives the groups in another order, and a further name
changes no group but adds its own, whatever becomes of its pass. -/
theorem groups_of_separate_runs (registry : Registry) (environment : Expression.Environment)
    {site : Site} (released : ∀ rule ∈ site.faults, rule.operation = "quit" →
      ∀ message, rule.fault ≠ .panic message)
    {file : ValidationFile} (unnamed : ∀ definition ∈ file.steps, definition.outputName = none)
    (context : Context) (bound : Option Session) :
    (∀ names ≠ [], ∀ journal, ∀ journals : String → Journal, ∃ summary,
      (validate registry environment site file context bound names journal).result =
          .returned summary ∧
        summary.groups = names.flatMap fun name =>
          (validate registry environment site file context bound [name] (journals name)).groups) ∧
    (∀ names reordered, names.Perm reordered → ∀ journal journal',
      (validate registry environment site file context bound names journal).groups.Perm
        (validate registry environment site file context bound reordered journal').groups) ∧
    (∀ before name after journal journal₁ journal₂ journal₃,
      (validate registry environment site file context bound (before ++ name :: after)
          journal).groups =
        (validate registry environment site file context bound before journal₁).groups ++
          (validate registry environment site file context bound [name] journal₂).groups ++
          (validate registry environment site file context bound after journal₃).groups) := by
  obtain ⟨one, hone⟩ := Run.exists_group ⟨registry, environment, browser site⟩ (worldless site)
    (steady_of_faults released) unnamed context bound .empty
  have hgroups : ∀ names journal,
      (validate registry environment site file context bound names journal).groups =
        names.map one := by
    intro names journal
    cases names with
    | nil => rfl
    | cons name rest =>
      rw [RunEnd.groups, validate, hone (name :: rest) (List.cons_ne_nil name rest)]
  refine ⟨?_, ?_, ?_⟩
  · intro names hasked journal journals
    refine ⟨_, hone names hasked journal, ?_⟩
    simp only [hgroups, List.map_cons, List.map_nil]
    exact List.map_eq_flatMap
  · intro names reordered hperm journal journal'
    rw [hgroups, hgroups]
    exact hperm.map one
  · intro before name after journal journal₁ journal₂ journal₃
    simp only [hgroups, List.map_append, List.map_cons, List.map_nil, List.append_assoc,
      List.cons_append, List.nil_append]

/-- At a site where one browser gives up on a command, one does not start and one fails to end, the
groups of four names, of which one is unknown, are those of separate runs. -/
theorem groups_of_separate_runs_unsteady :
    (∀ rule ∈ Run.unsteady.faults, rule.operation = "quit" →
        ∀ message, rule.fault ≠ .panic message) ∧
      (∀ definition ∈ Run.reloading.steps, definition.outputName = none) ∧
      (validate .empty [] Run.unsteady Run.reloading (.new .standard) none
          ["Firefox", "Lynx", "Chrome", "Edge"] .empty).groups =
        (validate .empty [] Run.unsteady Run.reloading (.new .standard) none
            ["Firefox", "Lynx"] .empty).groups ++
          (validate .empty [] Run.unsteady Run.reloading (.new .standard) none
            ["Chrome"] .empty).groups ++
          (validate .empty [] Run.unsteady Run.reloading (.new .standard) none
            ["Edge"] .empty).groups ∧
      (validate .empty [] Run.unsteady Run.reloading (.new .standard) none
          ["Firefox", "Lynx", "Chrome", "Edge"] .empty).groups = [
        ⟨"Firefox", [.stepFailure ⟨"Firefox", 0, "Refresh", "Handler panicked: Refresh: gone"⟩]⟩,
        ⟨"Lynx", [.stepFailure ⟨"Lynx", 0, "StartSession",
          "Unknown browser target 'Lynx'. No built-in entry or registered plugin resolves it"⟩]⟩,
        ⟨"Chrome", [.stepFailure ⟨"Chrome", 0, "StartSession",
          "Failed to start Chrome session: scripted start failure"⟩]⟩,
        ⟨"Edge", []⟩] := by
  have hreleased : ∀ rule ∈ Run.unsteady.faults, rule.operation = "quit" →
      ∀ message, rule.fault ≠ .panic message := by
    simp [Run.unsteady]
  have hunnamed : ∀ definition ∈ Run.reloading.steps, definition.outputName = none := by
    simp [Run.reloading]
  refine ⟨hreleased, hunnamed, ?_, by rfl⟩
  exact (groups_of_separate_runs .empty [] hreleased hunnamed (.new .standard) none).2.2
    ["Firefox", "Lynx"] "Chrome" ["Edge"] .empty .empty .empty .empty

end Scripted

end PageCheck
