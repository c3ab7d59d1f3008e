import PageCheck.Proofs.Pass.Turns
import PageCheck.Proofs.Run.Sessions

/-!
# What a run changes

The turns of a run are those of its passes, one pass after the other, and they are linked from the
context that the run starts from to the one that it leaves. So a run lays the definitions of its
file under the loaded ones, places the values that its steps yield among the outputs, each once and
in the order of the turns, and changes nothing else in the context. What an item sees are the
definitions and the outputs that were placed before its turn, those of earlier browsers among them.
-/

namespace PageCheck

variable {World Session : Type}

namespace Run

variable (setting : Setting World Session) (file : ValidationFile)

/-- The turns of the passes of browsers that are visited one after the other. -/
def turns : List String → Scene World Session → List (Turn World Session)
  | [], _ => []
  | name :: rest, scene =>
    match setting.registry.resolve (α := BrowserTarget) name with
    | .error _ => turns rest scene
    | .ok browser =>
      Pass.turnsOfPass setting file browser scene ++
        turns rest (Pass.run setting file browser scene).2

/-- The turns of visits that give a summary lead from the context that they find to the one that
they leave. -/
theorem Course.linked {names : List String} {summary all : ReportSummary}
    {result : Attempt ReportSummary} {scene last : Scene World Session}
    (course : Course setting file names summary scene result last)
    (returned : result = .returned all) :
    Turn.Linked setting scene.context (turns setting file names scene) last.context := by
  induction course with
  | done => exact .nil _
  | unknown unresolved later ih =>
    rw [turns, unresolved]
    exact ih returned
  | next resolved ran reported later ih =>
    have hpass := (Pass.course_of_run ran).linked
    rw [turns, resolved]
    dsimp only
    rw [ran]
    exact hpass.append (ih returned)
  | lost resolved ran => cases returned

/-- What a run of a file changes in the context `before` until it is `after`, where `turns` are the
executions of its items. -/
structure Frame (before after : Context) (turns : List (Turn World Session)) : Prop where
  /-- The switches stay. -/
  options : after.options = before.options
  /-- So do the times. -/
  timeouts : after.timeouts = before.timeouts
  /-- The definitions are the loaded ones over those of the file. -/
  data : after.data = Members.merge file.definitions before.data
  /-- What the turns capture, in their order, is placed among the outputs. -/
  outputs : after.outputs = Store.placeEach (Turn.capturedIn setting turns) before.outputs
  /-- What a turn captures is the value that a step yields under its output name. -/
  captures : ∀ turn ∈ turns, ∀ name value,
    turn.captured? setting = some (name, value) ↔ turn.Yields setting name value
  /-- An item resolves its expressions against these definitions and what was placed before its
  turn. -/
  sees : ∀ done turn rest, turns = done ++ turn :: rest →
    Pass.resolver setting turn.scene =
      ⟨Members.merge file.definitions before.data,
        Store.placeEach (Turn.capturedIn setting done) before.outputs,
        setting.environment, setting.registry.roots⟩

/-- The turns of the run of a file in browsers. -/
def turnsOfRun (names : List String) (scene : Scene World Session) : List (Turn World Session) :=
  turns setting file names { scene with context := scene.context.loadBase file.definitions }

/-- A run that gives a summary lays the definitions of its file under the loaded ones and places
what its steps yield among the outputs. Apart from that it leaves the context as it finds it. -/
theorem frame_of_returned {names : List String} {scene : Scene World Session}
    {summary : ReportSummary}
    (returned : (validate setting file names scene).result = .returned summary) :
    Frame setting file scene.context (validate setting file names scene).scene.context
      (turnsOfRun setting file names scene) := by
  have hasked : names ≠ [] := by
    rintro rfl
    cases returned
  rw [validate_of_asked setting file hasked] at returned ⊢
  have hlinked : Turn.Linked setting (scene.context.loadBase file.definitions)
      (turnsOfRun setting file names scene) _ :=
    (visit_course setting file _ _ _).linked setting file returned
  have hlast := hlinked.last_eq
  rw [Context.captureEach_eq] at hlast
  refine ⟨by rw [hlast]; rfl, by rw [hlast]; rfl, by rw [hlast]; rfl, by rw [hlast]; rfl,
    fun _ _ _ _ => Turn.captured?_eq_some_iff, ?_⟩
  · intro done turn rest hsplit
    rw [hsplit] at hlinked
    rw [Pass.resolver, hlinked.context_eq, Context.captureEach_eq]
    rfl

/-- A file whose first two steps keep a value, the second one under a dotted name, before a third
one loads the page again. -/
def capturing : ValidationFile where
  description := none
  targetBrowsers := ["Firefox", "Edge"]
  path := none
  definitions := []
  steps := [
    ⟨"OutputValue", none, [("source", .string "Literal"), ("value", .string "first")],
      some "kept"⟩,
    ⟨"OutputValue", none, [("source", .string "Literal"), ("value", .bool true)],
      some "nested.kept"⟩,
    ⟨"Refresh", none, [], some "page"⟩]
  validations := []
  metadata := []

/-- Where the third step gives up in the first browser and yields nothing in the second one, the
outputs hold the values of the other two. -/
theorem frame_of_returned_capturing :
    (validate (.scripted unsteady) capturing ["Firefox", "Edge"] .scripted).result =
        .returned ⟨[⟨"Firefox", [.stepFailure ⟨"Firefox", 2, "Refresh",
          (Error.handlerPanicked "Refresh: gone").message⟩]⟩, ⟨"Edge", []⟩]⟩ ∧
      (Turn.capturedIn (.scripted unsteady)
          (turnsOfRun (.scripted unsteady) capturing ["Firefox", "Edge"] .scripted)) =
        [("kept", .string "first"), ("nested.kept", .bool true),
          ("kept", .string "first"), ("nested.kept", .bool true)] ∧
      (validate (.scripted unsteady) capturing ["Firefox", "Edge"] .scripted).scene.context.outputs =
        [("kept", .string "first"), ("nested", .object [("kept", .bool true)])] := by
  have hreturned : (validate (.scripted unsteady) capturing ["Firefox", "Edge"] .scripted).result =
      .returned ⟨[⟨"Firefox", [.stepFailure ⟨"Firefox", 2, "Refresh",
        (Error.handlerPanicked "Refresh: gone").message⟩]⟩, ⟨"Edge", []⟩]⟩ := by rfl
  have hcaptured : (Turn.capturedIn (.scripted unsteady)
      (turnsOfRun (.scripted unsteady) capturing ["Firefox", "Edge"] .scripted)) =
      [("kept", .string "first"), ("nested.kept", .bool true),
        ("kept", .string "first"), ("nested.kept", .bool true)] := by rfl
  refine ⟨hreturned, hcaptured, ?_⟩
  rw [(frame_of_returned (.scripted unsteady) capturing hreturned).outputs, hcaptured]
  rfl

end Run

end PageCheck
