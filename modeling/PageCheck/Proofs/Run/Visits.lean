import PageCheck.Proofs.Plan.Numbering
import PageCheck.Proofs.Run.Sessions

/-!
# Visits of a run

A run visits one name after the other. Each visit adds a group to the summary, or ends the run where
its pass gives up, and it leaves the scene in which the next name is visited. So a run is known from
the group that a name gets in a scene and from the scene that a visit leaves. Where sessions start
and end without giving up every visit adds its group.
-/

namespace PageCheck

variable {World Session : Type}

/-- A browser whose sessions start and end without giving up altogether. -/
structure Browser.Steady (browser : Browser World Session) : Prop where
  /-- A start answers or fails. -/
  start : ∀ target options world message, (browser.start target options world).1 ≠ .panicked message
  /-- So does an end. -/
  quit : ∀ session world message, (browser.quit session world).1 ≠ .panicked message

/-- With a steady browser no pass gives up. -/
theorem Pass.Course.not_panicked {setting : Setting World Session} {file : ValidationFile}
    {browser : BrowserTarget} {scene after : Scene World Session} {passEnd : PassEnd}
    (course : Course setting file browser scene passEnd after) (steady : setting.browser.Steady)
    (message : String) : passEnd ≠ .panicked message := by
  cases course with
  | unplanned planned => simp
  | idle planned empty => simp
  | busy planned held => simp
  | refused planned free hstart => simp
  | stillborn planned free hstart => exact absurd (by rw [hstart]) (steady.start _ _ _ _)
  | driven planned free hstart hdrive held kept => exact ending_ne_panicked _ message
  | severed planned free hstart hdrive held lost => exact absurd lost (steady.quit _ _ _)

/-- The groups of a run; without a summary there are none. -/
def RunEnd.groups (run : RunEnd World Session) : List BrowserReports :=
  match run.result with
  | .returned summary => summary.groups
  | _ => []

namespace Run

variable (setting : Setting World Session) (file : ValidationFile)

/-- The group that a name gets in a scene, or the message with which its pass gives up. -/
def group (name : String) (scene : Scene World Session) : Except String BrowserReports :=
  match setting.registry.resolve (α := BrowserTarget) name with
  | .error error => .ok ⟨name, [unknownBrowser name error]⟩
  | .ok browser =>
    (reportsOf? browser (Pass.run setting file browser scene).1).map (⟨browser.name, ·⟩)

/-- The scene that the visit of a name leaves. -/
def leave (scene : Scene World Session) (name : String) : Scene World Session :=
  match setting.registry.resolve (α := BrowserTarget) name with
  | .error _ => scene
  | .ok browser => (Pass.run setting file browser scene).2

/-- The groups that names get which are visited one after the other. -/
def groups : List String → Scene World Session → Except String (List BrowserReports)
  | [], _ => .ok []
  | name :: rest, scene => do
    let first ← group setting file name scene
    let others ← groups rest (leave setting file scene name)
    return first :: others

/-- A run returns the groups that its names get, or the message of the first pass that gives up. -/
theorem result_visit (names : List String) (summary : ReportSummary)
    (scene : Scene World Session) :
    (visit setting file names summary scene).result =
      match groups setting file names scene with
      | .error message => .panicked message
      | .ok groups => .returned ⟨summary.groups ++ groups⟩ := by
  induction names generalizing summary scene with
  | nil => simp [visit, groups]
  | cons name rest ih =>
    rw [visit, groups, group, leave]
    cases setting.registry.resolve (α := BrowserTarget) name with
    | error error =>
      dsimp only
      rw [ih]
      cases groups setting file rest scene <;>
        simp [bind, Except.bind, pure, Except.pure, ReportSummary.push]
    | ok browser =>
      dsimp only
      cases reportsOf? browser (Pass.run setting file browser scene).1 with
      | error message => rfl
      | ok reports =>
        dsimp only
        rw [ih]
        cases groups setting file rest (Pass.run setting file browser scene).2 <;>
          simp [bind, Except.bind, pure, Except.pure, ReportSummary.push, Except.map]

/-- The scene in which the name at a position is visited, the ones before it having been visited. -/
def sceneAt (names : List String) (scene : Scene World Session) (position : Nat) :
    Scene World Session :=
  (names.take position).foldl (leave setting file) scene

/-- There is a group for every name, and it is the one that the name gets in the scene in which it
is visited. -/
theorem groups_getElem? {names : List String} {scene : Scene World Session}
    {all : List BrowserReports} (hgroups : groups setting file names scene = .ok all) :
    all.length = names.length ∧ ∀ position name, names[position]? = some name →
      ∃ one, group setting file name (sceneAt setting file names scene position) = .ok one ∧
        all[position]? = some one := by
  induction names generalizing scene all with
  | nil =>
    cases hgroups
    exact ⟨rfl, by simp⟩
  | cons first rest ih =>
    obtain ⟨one, hone, hmore⟩ := ok_of_bind hgroups
    obtain ⟨others, hothers, hall⟩ := ok_of_bind hmore
    cases hall
    obtain ⟨hlength, hrest⟩ := ih hothers
    refine ⟨congrArg Nat.succ hlength, ?_⟩
    intro position name hname
    cases position with
    | zero =>
      cases hname
      exact ⟨one, hone, rfl⟩
    | succ position => exact hrest position name hname

/-- With a steady browser every name gets a group. -/
theorem group_of_steady (steady : setting.browser.Steady) (name : String)
    (scene : Scene World Session) : ∃ one, group setting file name scene = .ok one := by
  rw [group]
  cases setting.registry.resolve (α := BrowserTarget) name with
  | error error => exact ⟨_, rfl⟩
  | ok browser =>
    have hend := (Pass.run_course setting file browser scene).not_panicked steady
    dsimp only
    cases hreports : reportsOf? browser (Pass.run setting file browser scene).1 with
    | error message =>
      exact absurd ((reportsOf?_eq_error browser _ message).mp hreports) (hend message)
    | ok reports => exact ⟨_, rfl⟩

/-- If every name gets a group wherever it is visited, all of them do that are visited one after the
other. -/
theorem exists_groups
    (each : ∀ name scene, ∃ one, group setting file name scene = .ok one) (names : List String)
    (scene : Scene World Session) : ∃ all, groups setting file names scene = .ok all := by
  induction names generalizing scene with
  | nil => exact ⟨[], rfl⟩
  | cons name rest ih =>
    obtain ⟨one, hone⟩ := each name scene
    obtain ⟨others, hothers⟩ := ih (leave setting file scene name)
    refine ⟨one :: others, ?_⟩
    simp [groups, hone, hothers, bind, Except.bind, pure, Except.pure]

/-- With a steady browser all names get their groups. -/
theorem groups_of_steady (steady : setting.browser.Steady) (names : List String)
    (scene : Scene World Session) : ∃ all, groups setting file names scene = .ok all :=
  exists_groups setting file (group_of_steady setting file steady) names scene

end Run

end PageCheck
