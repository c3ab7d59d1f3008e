import PageCheck.Proofs.Run.Sessions
import PageCheck.Proofs.Store.Merge

/-!
# Definitions of a run

A run never changes the definitions once it has put those of its file under the ones that were
loaded before. The loaded ones were laid over each other first, so the outcome is the merge in order
of all of them over the definitions of the file only where nothing of these comes back after it was
replaced.
-/

namespace PageCheck

variable {World Session : Type}

/-- While a session is bound the definitions stay as they are. -/
theorem Scene.Moves.data {browser : Browser World Session} {before after : Scene World Session}
    (moves : before.Moves browser after) : after.context.data = before.context.data := by
  induction moves with
  | refl => rfl
  | tail _ move ih =>
    cases move with
    | perform context session world command => exact ih
    | pause scene milliseconds => exact ih
    | capture scene name value => exact ih

/-- A pass leaves the definitions as they are. -/
theorem Pass.Course.data {setting : Setting World Session} {file : ValidationFile}
    {browser : BrowserTarget} {scene after : Scene World Session} {passEnd : PassEnd}
    (course : Pass.Course setting file browser scene passEnd after) :
    after.context.data = scene.context.data := by
  cases course with
  | unplanned planned => rfl
  | idle planned empty => rfl
  | busy planned held => rfl
  | refused planned free hstart => rfl
  | stillborn planned free hstart => rfl
  | driven planned free hstart hdrive held kept =>
    have hdata := congrArg (fun driven => driven.2.context.data) hdrive
    exact hdata.symm.trans (Pass.moves_drive setting file browser _ _).data
  | severed planned free hstart hdrive held lost =>
    have hdata := congrArg (fun driven => driven.2.context.data) hdrive
    exact hdata.symm.trans (Pass.moves_drive setting file browser _ _).data

namespace Run

/-- So does a run on its course, as every pass does. -/
theorem Course.data {setting : Setting World Session} {file : ValidationFile}
    {names : List String} {summary : ReportSummary} {result : Attempt ReportSummary}
    {scene last : Scene World Session}
    (course : Course setting file names summary scene result last) :
    last.context.data = scene.context.data := by
  induction course with
  | done => rfl
  | unknown unresolved later ih => exact ih
  | next resolved ran reported later ih => exact ih.trans (Pass.course_of_run ran).data
  | lost resolved ran => exact (Pass.course_of_run ran).data

/-- Visiting browsers leaves the definitions as they are. -/
theorem data_visit (setting : Setting World Session) (file : ValidationFile) (names : List String)
    (summary : ReportSummary) (scene : Scene World Session) :
    (visit setting file names summary scene).scene.context.data = scene.context.data :=
  (visit_course setting file names summary scene).data

/-- Definitions are loaded by merging them over those that are there. -/
theorem data_foldl_load (fixtures : List Members) (context : Context) :
    (fixtures.foldl Context.load context).data = fixtures.foldl Members.merge context.data := by
  induction fixtures generalizing context with
  | nil => rfl
  | cons fixture rest ih => exact ih (context.load fixture)

/-- After a run the definitions are those of its file with the loaded ones merged over them in
order, just if nothing of the former is revived. -/
theorem data_in_order_iff (setting : Setting World Session) (file : ValidationFile)
    {names : List String} (asked : names ≠ []) {scene : Scene World Session}
    (empty : scene.context.data = []) {fixtures : List Members}
    (hfile : (Json.object file.definitions).UniqueKeys)
    (hfixtures : ∀ fixture ∈ fixtures, (Json.object fixture).UniqueKeys) :
    (validate setting file names { scene with
        context := fixtures.foldl Context.load scene.context }).scene.context.data =
      fixtures.foldl Members.merge file.definitions ↔
    Members.NothingRevivedIn file.definitions fixtures := by
  rw [validate_of_asked setting file asked, data_visit, Context.loadBase]
  dsimp only
  rw [data_foldl_load, empty]
  exact Members.merge_foldl_iff hfile hfixtures

/-- A file that defines a site. -/
def defining : ValidationFile where
  description := none
  targetBrowsers := ["Firefox"]
  path := none
  definitions := [("site", .object [("home", .string "/"),
    ("login", .object [("user", .string "ada"),
    ("code", Json.ofNat 1)])])]
  steps := []
  validations := []
  metadata := []

/-- Definitions that replace an object by a text. -/
def closing : Members := [("site", .object [("login", .string "/login")])]

/-- Definitions that put an object in the place of that text. -/
def reopening : Members := [("site", .object [("login", .object [("user", .string "bob")])])]

/-- Objects and other values that replace each other without anything coming back. -/
theorem data_in_order_iff_closing :
    ["Firefox"] ≠ [] ∧ Scene.scripted.context.data = [] ∧
      (Json.object defining.definitions).UniqueKeys ∧
      (∀ fixture ∈ [reopening, closing], (Json.object fixture).UniqueKeys) ∧
      (validate (.scripted unsteady) defining ["Firefox"] { Scene.scripted with
          context := [reopening, closing].foldl Context.load Scene.scripted.context
          }).scene.context.data =
        [reopening, closing].foldl Members.merge defining.definitions := by
  have hasked : ["Firefox"] ≠ [] := by decide
  have hempty : Scene.scripted.context.data = [] := rfl
  have hfile : (Json.object defining.definitions).UniqueKeys := by
    simp [defining, Json.UniqueKeys, Json.UniqueKeysMembers, Json.ofNat, Members.keys]
  have hfixtures : ∀ fixture ∈ [reopening, closing], (Json.object fixture).UniqueKeys := by
    simp [reopening, closing, Json.UniqueKeys, Json.UniqueKeysMembers, Members.keys]
  refine ⟨hasked, hempty, hfile, hfixtures, ?_⟩
  refine (data_in_order_iff (.scripted unsteady) defining hasked hempty hfile hfixtures).mpr ?_
  simp [Members.NothingRevivedIn, Members.NothingRevived, defining, reopening, closing,
    Members.get?, Json.members?, Members.laid, Members.mergeValue]

/-- Where a text took the place of an object and an object the place of that text, the definitions
of the file come back under it. -/
theorem data_revived_reopening :
    (validate (.scripted unsteady) defining ["Firefox"] { Scene.scripted with
        context := [closing, reopening].foldl Context.load Scene.scripted.context
        }).scene.context.data =
      [("site", .object [("home", .string "/"), ("login", .object [("user", .string "bob"),
        ("code", Json.ofNat 1)])])] ∧
    [closing, reopening].foldl Members.merge defining.definitions =
      [("site", .object [("home", .string "/"), ("login", .object [("user", .string "bob")])])] ∧
    (validate (.scripted unsteady) defining ["Firefox"] { Scene.scripted with
        context := [closing, reopening].foldl Context.load Scene.scripted.context
        }).scene.context.data ≠
      [closing, reopening].foldl Members.merge defining.definitions := by
  refine ⟨rfl, rfl, ?_⟩
  intro heq
  have hlogin := congrArg (fun members => Expression.lookup members [.field "site", .field "login",
    .field "code"]) heq
  cases hlogin

end Run

end PageCheck
