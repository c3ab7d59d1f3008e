import PageCheck.Proofs.Pass.Moves

/-!
# Courses of a run

A run visits the names that it is asked for one after the other. A name without meaning is reported,
and the scene stays as it is. A name that means a browser has a pass, and the scene that this leaves
is the one in which the next name is visited. A pass that gives up is the last thing that a run
does. What the passes keep is therefore kept by a run, by induction on the course that it takes.
-/

namespace PageCheck

variable {World Session : Type}

/-- What a pass comes to, it comes to on one of its courses. -/
theorem Pass.course_of_run {setting : Setting World Session} {file : ValidationFile}
    {browser : BrowserTarget} {scene after : Scene World Session} {passEnd : PassEnd}
    (ran : run setting file browser scene = (passEnd, after)) :
    Course setting file browser scene passEnd after := by
  have hcourse := run_course setting file browser scene
  rwa [ran] at hcourse

namespace Run

/-- Only a pass that gives up has no reports. -/
theorem reportsOf?_eq_error (browser : BrowserTarget) (passEnd : PassEnd) (message : String) :
    reportsOf? browser passEnd = .error message ↔ passEnd = .panicked message := by
  cases passEnd <;> simp [reportsOf?]

/-- The courses that visits can take from a summary and a scene, each with its result and the scene
that it leaves. -/
inductive Course (setting : Setting World Session) (file : ValidationFile) :
    List String → ReportSummary → Scene World Session → Attempt ReportSummary →
      Scene World Session → Prop
  /-- No name is left. -/
  | done {summary : ReportSummary} {scene : Scene World Session} :
      Course setting file [] summary scene (.returned summary) scene
  /-- A name without meaning is reported. -/
  | unknown {name : String} {rest : List String} {summary : ReportSummary} {error : Error}
      {scene last : Scene World Session} {result : Attempt ReportSummary}
      (unresolved : setting.registry.resolve (α := BrowserTarget) name = .error error)
      (later : Course setting file rest (summary.push name [unknownBrowser name error]) scene
        result last) :
      Course setting file (name :: rest) summary scene result last
  /-- A pass has its reports, and the other names are visited in the scene that it leaves. -/
  | next {name : String} {rest : List String} {browser : BrowserTarget} {summary : ReportSummary}
      {reports : List Report} {passEnd : PassEnd} {scene after last : Scene World Session}
      {result : Attempt ReportSummary} (resolved : setting.registry.resolve name = .ok browser)
      (ran : Pass.run setting file browser scene = (passEnd, after))
      (reported : reportsOf? browser passEnd = .ok reports)
      (later : Course setting file rest (summary.push browser.name reports) after result last) :
      Course setting file (name :: rest) summary scene result last
  /-- A pass gives up, and with it the run. -/
  | lost {name : String} {rest : List String} {browser : BrowserTarget} {summary : ReportSummary}
      {message : String} {scene after : Scene World Session}
      (resolved : setting.registry.resolve name = .ok browser)
      (ran : Pass.run setting file browser scene = (.panicked message, after)) :
      Course setting file (name :: rest) summary scene (.panicked message) after

/-- Visits take one of the courses. -/
theorem visit_course (setting : Setting World Session) (file : ValidationFile) (names : List String)
    (summary : ReportSummary) (scene : Scene World Session) :
    Course setting file names summary scene (visit setting file names summary scene).result
      (visit setting file names summary scene).scene := by
  induction names generalizing summary scene with
  | nil => exact .done
  | cons name rest ih =>
    rw [visit]
    cases hresolve : setting.registry.resolve (α := BrowserTarget) name with
    | error error => exact .unknown hresolve (ih _ scene)
    | ok browser =>
      dsimp only
      rcases hrun : Pass.run setting file browser scene with ⟨passEnd, after⟩
      dsimp only
      cases hreports : reportsOf? browser passEnd with
      | error message =>
        obtain rfl := (reportsOf?_eq_error browser passEnd message).mp hreports
        exact .lost hresolve hrun
      | ok reports => exact .next hresolve hrun hreports (ih _ after)

/-- A run that is asked for a browser lays the definitions of the file under the others and visits
the browsers. -/
theorem validate_of_asked (setting : Setting World Session) (file : ValidationFile)
    {names : List String} (asked : names ≠ []) (scene : Scene World Session) :
    validate setting file names scene = visit setting file names .empty
      { scene with context := scene.context.loadBase file.definitions } := by
  rw [validate, if_neg]
  simpa using asked

end Run

end PageCheck
