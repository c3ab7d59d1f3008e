import PageCheck.Proofs.Pass.Captures
import PageCheck.Proofs.Run.Visits

/-!
# What observers are told

Every visit of a name that means a browser is announced twice: before its pass to the observers of
the one kind and after it to those of the other kind, however the pass ended. Before it the summary
holds the groups of the names that were visited earlier, after it also the group of this one, and no
session is bound at either time. Other names are visited without being announced. So the events of a
run that is not cut short are known from its names, its groups and the contexts between its visits.
-/

namespace PageCheck

variable {World Session : Type}

/-- The plugins that are told of a phase, in registration order. -/
def Registry.observers (registry : Registry) : Phase → List String
  | .before => registry.before
  | .after => registry.after

namespace Run

/-- What the observers of a phase are told of a browser, one after the other: the context, that no
session is bound, and the groups so far. -/
def announce (registry : Registry) (phase : Phase) (browser : BrowserTarget)
    (file : ValidationFile) (context : Context) (groups : List BrowserReports) : List Event :=
  (registry.observers phase).map fun observer =>
    { phase, observer, browser, file, context, bound := false, summary := ⟨groups⟩ }

variable (setting : Setting World Session) (file : ValidationFile)

/-- What is announced of the visit of a name, which leads from one context to another one and adds
to the groups. -/
def announcements (name : String) (before after : Context)
    (earlier finished : List BrowserReports) : List Event :=
  match setting.registry.resolve (α := BrowserTarget) name with
  | .error _ => []
  | .ok browser =>
    announce setting.registry .before browser file before earlier ++
      announce setting.registry .after browser file after finished

/-- Where no session is bound, observers are told so. -/
theorem notify_of_free (phase : Phase) (browser : BrowserTarget) (summary : ReportSummary)
    {scene : Scene World Session} (free : scene.session = none) :
    notify setting phase browser file summary scene =
      announce setting.registry phase browser file scene.context summary.groups := by
  cases phase <;> simp [notify, announce, Registry.observers, free]

/-- The visit of a name leaves no session where there was none. -/
theorem session_leave {scene : Scene World Session} (free : scene.session = none) (name : String) :
    (leave setting file scene name).session = none := by
  rw [leave]
  split
  · exact free
  next browser _ => exact (Pass.run_course setting file browser scene).session.trans free

/-- A visit is announced, and then those of the names after it. -/
theorem events_visit_cons {name : String} {rest : List String} {summary : ReportSummary}
    {scene : Scene World Session} (free : scene.session = none) {one : BrowserReports}
    (hgroup : group setting file name scene = .ok one) :
    (visit setting file (name :: rest) summary scene).events =
      announcements setting file name scene.context (leave setting file scene name).context
          summary.groups (summary.groups ++ [one]) ++
        (visit setting file rest ⟨summary.groups ++ [one]⟩
          (leave setting file scene name)).events := by
  have hleft := session_leave setting file free name
  rw [visit, announcements]
  rw [group] at hgroup
  rw [leave] at hleft ⊢
  cases hresolve : setting.registry.resolve (α := BrowserTarget) name with
  | error error =>
    simp only [hresolve, Except.ok.injEq] at hgroup ⊢
    subst hgroup
    rfl
  | ok browser =>
    simp only [hresolve] at hgroup hleft ⊢
    cases hreports : reportsOf? browser (Pass.run setting file browser scene).1 with
    | error message =>
      simp [hreports, Except.map] at hgroup
    | ok reports =>
      simp only [hreports, Except.map, Except.ok.injEq] at hgroup
      subst hgroup
      dsimp only
      rw [notify_of_free setting file .before browser summary free,
        notify_of_free setting file .after browser _ hleft]
      rfl

/-- The visits of names are announced one after the other, each with the groups up to it. -/
theorem events_visit {names : List String} {summary : ReportSummary} {scene : Scene World Session}
    (free : scene.session = none) {all : List BrowserReports}
    (hgroups : groups setting file names scene = .ok all) :
    (visit setting file names summary scene).events =
      names.zipIdx.flatMap fun (name, position) =>
        announcements setting file name (sceneAt setting file names scene position).context
          (sceneAt setting file names scene (position + 1)).context
          (summary.groups ++ all.take position) (summary.groups ++ all.take (position + 1)) := by
  induction names generalizing summary scene all with
  | nil => rfl
  | cons name rest ih =>
    obtain ⟨one, hone, hmore⟩ := ok_of_bind hgroups
    obtain ⟨others, hothers, hall⟩ := ok_of_bind hmore
    cases hall
    rw [events_visit_cons setting file free hone, ih (session_leave setting file free name) hothers,
      List.zipIdx_cons', List.flatMap_cons, List.flatMap_map]
    simp [sceneAt]

/-- The scene in which the first name of a run is visited. -/
def entered (scene : Scene World Session) : Scene World Session :=
  { scene with context := scene.context.loadBase file.definitions }

/-- The context in which the name at a position is visited. One position on, it is the context that
the visit leaves. -/
def contextAt (names : List String) (scene : Scene World Session) (position : Nat) : Context :=
  (sceneAt setting file names (entered file scene) position).context

/-- What the groups and the events of a run are. -/
structure Observed (names : List String) (scene : Scene World Session)
    (run : RunEnd World Session) : Prop where
  /-- There is a group for every name. -/
  length : run.groups.length = names.length
  /-- It is the one that the visit of the name gives it. -/
  finished : ∀ position name, names[position]? = some name →
    ∃ one, group setting file name (sceneAt setting file names (entered file scene) position) =
        .ok one ∧
      run.groups[position]? = some one
  /-- The names are announced in their order, each first with the groups of the names before it and
  then with its own group behind them. -/
  events : run.events = names.zipIdx.flatMap fun (name, position) =>
    announcements setting file name (contextAt setting file names scene position)
      (contextAt setting file names scene (position + 1)) (run.groups.take position)
      (run.groups.take (position + 1))

/-- **What observers are told.** Where no session is bound and nothing gives up altogether, the
events of a run are those of its names in order: none for a name without meaning, and for any other
one an event for each observer before its pass and one for each observer after it, however the pass
ended. -/
theorem observed_of_contained {names : List String} {scene : Scene World Session}
    (free : scene.session = none)
    (contained : ∀ message, (validate setting file names scene).result ≠ .panicked message) :
    Observed setting file names scene (validate setting file names scene) := by
  by_cases hasked : names = []
  · subst hasked
    exact ⟨rfl, by simp, rfl⟩
  rw [validate_of_asked setting file hasked] at contained ⊢
  have hfree : (entered file scene).session = none := free
  have hresult := result_visit setting file names .empty (entered file scene)
  cases hgroups : groups setting file names (entered file scene) with
  | error message =>
    rw [hgroups] at hresult
    exact absurd hresult (contained message)
  | ok all =>
    rw [hgroups] at hresult
    have hall : (visit setting file names .empty (entered file scene)).groups = all := by
      rw [RunEnd.groups, hresult]
      rfl
    obtain ⟨hlength, hfinished⟩ := groups_getElem? setting file hgroups
    have hevents : (visit setting file names .empty (entered file scene)).events =
        names.zipIdx.flatMap fun (name, position) =>
          announcements setting file name (contextAt setting file names scene position)
            (contextAt setting file names scene (position + 1)) (all.take position)
            (all.take (position + 1)) := events_visit setting file hfree hgroups
    exact ⟨hall.symm ▸ hlength, hall.symm ▸ hfinished, hall.symm ▸ hevents⟩

/-- The scripted site where not everything works, watched by two plugins before every pass and by
one of them after it. -/
def watched : Setting Scripted.Journal Scripted.Session :=
  { Setting.scripted unsteady with
    registry := { Registry.empty with before := ["audit", "clock"], after := ["audit"] } }

/-- The plugins are told of a pass that gives up in a handler, of one without a session and of one
whose session does not end, and not of a name without meaning, which has its group all the same. -/
theorem observed_of_contained_watched :
    Scene.scripted.session = none ∧
      (∀ message, (validate watched reloading ["Firefox", "Lynx", "Chrome", "Edge"]
        .scripted).result ≠ .panicked message) ∧
      (validate watched reloading ["Firefox", "Lynx", "Chrome", "Edge"] .scripted).events.map
          (fun event => (event.phase, event.observer, event.browser.name, event.bound,
            event.summary.groups.map BrowserReports.browser)) =
        [(.before, "audit", "Firefox", false, []),
          (.before, "clock", "Firefox", false, []),
          (.after, "audit", "Firefox", false, ["Firefox"]),
          (.before, "audit", "Chrome", false, ["Firefox", "Lynx"]),
          (.before, "clock", "Chrome", false, ["Firefox", "Lynx"]),
          (.after, "audit", "Chrome", false, ["Firefox", "Lynx", "Chrome"]),
          (.before, "audit", "Edge", false, ["Firefox", "Lynx", "Chrome"]),
          (.before, "clock", "Edge", false, ["Firefox", "Lynx", "Chrome"]),
          (.after, "audit", "Edge", false, ["Firefox", "Lynx", "Chrome", "Edge"])] := by
  have hfree : Scene.scripted.session = none := rfl
  have hcontained : ∀ message, (validate watched reloading ["Firefox", "Lynx", "Chrome", "Edge"]
      .scripted).result ≠ .panicked message := fun _ => nofun
  refine ⟨hfree, hcontained, ?_⟩
  rw [(observed_of_contained watched reloading hfree hcontained).events]
  rfl

end Run

end PageCheck
