import PageCheck.Proofs.Run.Sessions

/-!
# Containment between browsers

What goes wrong in the pass of one browser stays there: the next browser is visited all the same,
and every name that is asked for gets its group. Two operations are not contained. If starting a
session or ending one gives up altogether, so does the run, and there is no summary.
-/

namespace PageCheck

variable {World Session : Type}

namespace Pass

/-- A pass writes calls into the record, and gives up if one of them does. -/
theorem Course.calls {setting : Setting World Session} {file : ValidationFile}
    {browser : BrowserTarget} {scene after : Scene (Recorded World) (Numbered Session)}
    {passEnd : PassEnd} (course : Course setting.recorded file browser scene passEnd after) :
    ∃ block, after.world.calls = scene.world.calls ++ block ∧
      (block.any Call.gaveUp = true ↔ ∃ message, passEnd = .panicked message) := by
  cases hbound : scene.session with
  | none =>
    obtain ⟨_, block, _, hcalls, hgaveUp⟩ := course.block hbound
    exact ⟨block, hcalls, hgaveUp⟩
  | some held =>
    obtain ⟨hafter, hkept⟩ := course.of_bound (by rw [hbound]; rfl)
    refine ⟨[], by rw [hafter, List.append_nil], ?_⟩
    constructor
    · intro hnone
      cases hnone
    · rintro ⟨message, hend⟩
      exact absurd hend (hkept message)

end Pass

namespace Run

/-- The group that a name gets: the browser that it means, or the name itself. -/
def label (registry : Registry) (name : String) : String :=
  match registry.resolve (α := BrowserTarget) name with
  | .ok browser => browser.name
  | .error _ => name

/-- A new group comes after the others. -/
theorem browsers_push (summary : ReportSummary) (browser : String) (reports : List Report) :
    (summary.push browser reports).browsers = summary.browsers ++ [browser] := by
  simp [ReportSummary.push, ReportSummary.browsers]

/-- On its course a run writes calls into the record, and gives up if one of them does. -/
theorem Course.calls {setting : Setting World Session} {file : ValidationFile}
    {names : List String} {summary : ReportSummary} {result : Attempt ReportSummary}
    {scene last : Scene (Recorded World) (Numbered Session)}
    (course : Course setting.recorded file names summary scene result last) :
    ∃ calls, last.world.calls = scene.world.calls ++ calls ∧
      (calls.any Call.gaveUp = true ↔ ∃ message, result = .panicked message) := by
  induction course with
  | done => exact ⟨[], (List.append_nil _).symm, by simp⟩
  | unknown unresolved later ih => exact ih
  | next resolved ran reported later ih =>
    obtain ⟨block, hblock, hgaveUp⟩ := (Pass.course_of_run ran).calls
    obtain ⟨calls, hcalls, hlost⟩ := ih
    refine ⟨block ++ calls, by rw [hcalls, hblock, List.append_assoc], ?_⟩
    rw [List.any_append, kept_of_reports reported hgaveUp, Bool.false_or]
    exact hlost
  | lost resolved ran =>
    obtain ⟨block, hblock, hgaveUp⟩ := (Pass.course_of_run ran).calls
    exact ⟨block, hblock, by simp [hgaveUp]⟩

/-- Without giving up a run adds a group for every name. -/
theorem Course.labels {setting : Setting World Session} {file : ValidationFile}
    {names : List String} {summary : ReportSummary} {result : Attempt ReportSummary}
    {scene last : Scene World Session}
    (course : Course setting file names summary scene result last)
    (kept : ∀ message, result ≠ .panicked message) :
    ∃ final, result = .returned final ∧
      final.browsers = summary.browsers ++ names.map (label setting.registry) := by
  induction course with
  | done => exact ⟨_, rfl, by simp⟩
  | unknown unresolved later ih =>
    obtain ⟨final, hfinal, hgroups⟩ := ih kept
    refine ⟨final, hfinal, ?_⟩
    rw [hgroups, browsers_push, List.map_cons, label, unresolved, List.append_assoc]
    rfl
  | next resolved ran reported later ih =>
    obtain ⟨final, hfinal, hgroups⟩ := ih kept
    refine ⟨final, hfinal, ?_⟩
    rw [hgroups, browsers_push, List.map_cons, label, resolved, List.append_assoc]
    rfl
  | lost resolved ran => exact absurd rfl (kept _)

/-- Visiting browsers either gives up with one of its calls or adds a group for every name. -/
theorem visit_contained (setting : Setting World Session) (file : ValidationFile)
    (names : List String) (summary : ReportSummary)
    (scene : Scene (Recorded World) (Numbered Session)) :
    ∃ calls, (visit setting.recorded file names summary scene).scene.world.calls =
        scene.world.calls ++ calls ∧
      (calls.any Call.gaveUp = true →
        ∃ message, (visit setting.recorded file names summary scene).result =
          .panicked message) ∧
      (calls.any Call.gaveUp = false →
        ∃ final, (visit setting.recorded file names summary scene).result = .returned final ∧
          final.browsers = summary.browsers ++ names.map (label setting.registry)) := by
  have hcourse := visit_course setting.recorded file names summary scene
  obtain ⟨calls, hcalls, hgaveUp⟩ := hcourse.calls
  refine ⟨calls, hcalls, hgaveUp.mp, ?_⟩
  intro hnone
  refine hcourse.labels ?_
  intro message hpanicked
  rw [hgaveUp.mpr ⟨message, hpanicked⟩] at hnone
  cases hnone

/-- Every name that is asked for gets its group, in the order in which the names are asked for, just
if no start and no end of a session gives up altogether. -/
theorem every_name_has_group_iff (setting : Setting World Session) (file : ValidationFile)
    {names : List String} (asked : names ≠ []) (scene : Scene World Session) :
    (∃ summary, (validate setting file names scene).result = .returned summary ∧
      summary.browsers = names.map (label setting.registry)) ↔
    ∀ call ∈ calls setting file names scene, call.gaveUp = false := by
  rw [(validate_eq_recorded setting file names scene).1, calls, validate_of_asked _ _ asked]
  obtain ⟨calls, hcalls, hlost, hkept⟩ := visit_contained setting file names .empty
    { scene.recorded with context := scene.recorded.context.loadBase file.definitions }
  have hwritten : scene.recorded.world.calls ++ calls = calls := rfl
  rw [hcalls]
  dsimp only
  rw [hwritten]
  cases hany : calls.any Call.gaveUp with
  | true =>
    obtain ⟨message, hpanicked⟩ := hlost hany
    obtain ⟨call, hmem, hcall⟩ := List.any_eq_true.mp hany
    constructor
    · rintro ⟨summary, hreturned, _⟩
      rw [hpanicked] at hreturned
      cases hreturned
    · intro hnone
      rw [hnone call hmem] at hcall
      cases hcall
  | false =>
    constructor
    · intro _
      simpa using hany
    · intro _
      exact hkept hany

/-- At the site where nothing gives up outside a handler every name has its group. -/
theorem every_name_has_group_iff_unsteady :
    ["Firefox", "Lynx", "Chrome", "Edge"] ≠ [] ∧
      ∃ summary, (validate (.scripted unsteady) reloading ["Firefox", "Lynx", "Chrome", "Edge"]
          .scripted).result = .returned summary ∧
        summary.browsers = ["Firefox", "Lynx", "Chrome", "Edge"] := by
  have hasked : ["Firefox", "Lynx", "Chrome", "Edge"] ≠ [] := by decide
  refine ⟨hasked, ?_⟩
  exact (every_name_has_group_iff (.scripted unsteady) reloading hasked .scripted).mpr (by decide)

/-- A site at which one browser gives up when its session is to end. -/
def clinging : Scripted.Site where
  pages := []
  redirects := []
  failingStarts := []
  faults := [⟨some "firefox", "quit", .panic "gone"⟩]

/-- A session that gives up when it is to end takes the groups of all browsers with it, of those
that were visited before and of those that were to come. -/
theorem no_groups_clinging :
    (validate (.scripted clinging) reloading ["Chrome", "Firefox", "Edge"] .scripted).result =
        .panicked "gone" ∧
      ¬ ∃ summary, (validate (.scripted clinging) reloading ["Chrome", "Firefox", "Edge"]
          .scripted).result = .returned summary := by
  have hpanicked : (validate (.scripted clinging) reloading ["Chrome", "Firefox", "Edge"]
      .scripted).result = .panicked "gone" := by rfl
  refine ⟨hpanicked, ?_⟩
  rintro ⟨summary, hreturned⟩
  rw [hpanicked] at hreturned
  cases hreturned

end Run

end PageCheck
