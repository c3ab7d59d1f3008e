import PageCheck.Proofs.Pass.Conclusion
import PageCheck.Proofs.Pass.Moves

/-!
# Captures of a pass

The only thing that a pass changes in the context are the outputs, and the only thing that changes
those is a step with an output name whose handler yields a value. The context that a pass leaves is
therefore the one that it found with these values captured one after the other.
-/

namespace PageCheck

variable {World Session : Type}

/-- Capture values one after the other; those that are refused are passed over. -/
def Context.captureEach (context : Context) (values : List (String × Json)) : Context :=
  values.foldl (fun context (name, value) => (context.capture name value).1) context

namespace Pass

variable (setting : Setting World Session)

/-- What executing an item captures: the value that a step yields, under its output name. -/
def captured? (item : Item) (scene : Scene World Session) : Option (String × Json) :=
  match item with
  | .validation _ => none
  | .step step =>
    match prepareStep setting scene step with
    | .error _ => none
    | .ok (resolved, handler) =>
      match (runHandler setting step.action.name (handler resolved scene.context.timeouts) scene).1,
          resolved.outputName with
      | .ok (.completed (some value)), some name => some (name, value)
      | _, _ => none

/-- What is captured while items are executed one after the other. -/
def captures : List Item → Scene World Session → List (String × Json)
  | [], _ => []
  | item :: rest, scene =>
    (captured? setting item scene).toList ++ captures rest (execute setting item scene).2

/-- A handler leaves the context as it is. -/
theorem context_runHandler (name : String) (script : Script Outcome) (scene : Scene World Session) :
    (runHandler setting name script scene).2.context = scene.context := by
  rcases scene with ⟨context, _ | session, world⟩ <;> rfl

/-- Executing an item captures what it captures and leaves the context as it is apart from that. -/
theorem context_execute (item : Item) (scene : Scene World Session) :
    (execute setting item scene).2.context =
      scene.context.captureEach (captured? setting item scene).toList := by
  have hexecutes : Executes setting item scene (execute setting item scene).1
    (execute setting item scene).2 := execute_iff.mp rfl
  generalize execute setting item scene = execution at hexecutes ⊢
  obtain ⟨attempt, after⟩ := execution
  cases hexecutes with
  | unresolvedStep hresolve =>
    rw [captured?, prepareStep_of_unresolved hresolve]
    rfl
  | unhandledStep hresolve hhandler =>
    rw [captured?, prepareStep_of_resolved hresolve, hhandler]
    rfl
  | performed hresolve hhandler hrun nothing =>
    have hcontext := congrArg (fun ran => ran.2.context) hrun
    rw [captured?, prepareStep_of_resolved hresolve, hhandler]
    simp only [Except.map, hrun, (Step.resolvesTo_of_resolve hresolve).outputName]
    split
    next hname =>
      rw [nothing _ rfl] at hname
      cases hname
    next => exact hcontext.symm.trans (context_runHandler setting _ _ scene)
  | captured hresolve hhandler hrun named =>
    have hcontext := congrArg (fun ran => ran.2.context) hrun
    rw [captured?, prepareStep_of_resolved hresolve, hhandler]
    simp only [Except.map, hrun, (Step.resolvesTo_of_resolve hresolve).outputName, named]
    rw [← hcontext.symm.trans (context_runHandler setting _ _ scene)]
    rfl
  | unhandledValidation hhandler => rfl
  | unanswered hhandler hanswer => rfl
  | unsupported hhandler hanswer => rfl
  | unresolvedValidation hhandler hanswer hresolve => rfl
  | checked hhandler hanswer hresolve hrun =>
    have hcontext := congrArg (fun ran => ran.2.context) hrun
    exact hcontext.symm.trans (context_runHandler setting _ _ scene)

/-- Executing items leaves the context with what they capture. -/
theorem context_reach (items : List Item) (scene : Scene World Session) :
    (reach setting items scene).context =
      scene.context.captureEach (captures setting items scene) := by
  induction items generalizing scene with
  | nil => rfl
  | cons item rest ih =>
    rw [reach, ih, context_execute, captures, Context.captureEach, Context.captureEach,
      Context.captureEach, List.foldl_append]

/-- Opening the start page leaves the context as it is. -/
theorem context_openPage (path : Option String) (scene : Scene World Session) :
    (openPage setting path scene).2.context = scene.context := by
  cases path with
  | none => rfl
  | some path =>
    rw [openPage]
    cases (resolver setting scene).resolveText path with
    | error error => rfl
    | ok url => rcases scene with ⟨context, _ | session, world⟩ <;> rfl

/-- A step without an output name captures nothing. -/
theorem captured?_of_unnamed {step : Step} (unnamed : step.outputName = none)
    (scene : Scene World Session) : captured? setting (.step step) scene = none := by
  rw [captured?]
  cases hprepare : prepareStep setting scene step with
  | error error => rfl
  | ok prepared =>
    obtain ⟨resolved, hresolve, hrest⟩ := ok_of_bind hprepare
    obtain ⟨handler, _, hprepared⟩ := ok_of_bind hrest
    cases hprepared
    have hname := (Step.resolvesTo_of_resolve hresolve).outputName
    rw [unnamed] at hname
    dsimp only
    rw [hname]
    split
    next hsome => cases hsome
    next => rfl

/-- No item captures a value under a name. -/
def Unnamed (items : List Item) : Prop := ∀ step, Item.step step ∈ items → step.outputName = none

/-- Items without output names capture nothing. -/
theorem captures_of_unnamed {items : List Item} (unnamed : Unnamed items)
    (scene : Scene World Session) : captures setting items scene = [] := by
  induction items generalizing scene with
  | nil => rfl
  | cons item rest ih =>
    have hfirst : captured? setting item scene = none := by
      cases item with
      | step step => exact captured?_of_unnamed setting (unnamed step List.mem_cons_self) scene
      | validation validation => rfl
    rw [captures, hfirst, ih fun step hmem => unnamed step (List.mem_cons_of_mem _ hmem)]
    rfl

/-- A plan without output names leaves the context as it is. -/
theorem context_drive_of_unnamed (file : ValidationFile) (browser : BrowserTarget) {plan : Plan}
    (unnamed : Unnamed plan.items) (scene : Scene World Session) :
    (drive setting file browser plan scene).2.context = scene.context := by
  have hopen := context_openPage setting file.path scene
  rw [drive]
  rcases hpage : openPage setting file.path scene with ⟨_ | error | message, opened⟩
  · rw [hpage] at hopen
    obtain ⟨done, rest, hsplit, hreach⟩ := (runPlanWith_conclusion setting browser
      opened.context.options.suppressExceptions plan opened).reach
    have hdone : Unnamed done := fun step hmem =>
      unnamed step (hsplit ▸ List.mem_append_left rest hmem)
    dsimp only
    rw [runPlan_eq_runPlanWith, hreach, context_reach, captures_of_unnamed setting hdone]
    exact hopen
  · rw [hpage] at hopen
    exact hopen
  · rw [hpage] at hopen
    exact hopen

/-- The steps of a plan have the output names of their definitions. -/
theorem outputName_of_steps {registry : Registry} {index : Nat} {definitions : List StepDefinition}
    {planned : List Step} (hsteps : Plan.steps? registry index definitions = .ok planned) :
    planned.map Step.outputName = definitions.map StepDefinition.outputName := by
  induction definitions generalizing index planned with
  | nil =>
    cases hsteps
    rfl
  | cons definition rest ih =>
    obtain ⟨first, others, hfirst, hothers, rfl⟩ := Plan.steps?_cons registry hsteps
    obtain ⟨action, _, hrest⟩ := ok_of_bind hfirst
    obtain ⟨source, _, hplanned⟩ := ok_of_bind hrest
    cases hplanned
    rw [List.map_cons, List.map_cons, ih hothers]

/-- The plan of a file without output names has none either. -/
theorem unnamed_of_build {registry : Registry} {file : ValidationFile} {plan : Plan}
    (built : Plan.build registry file = .ok plan)
    (unnamed : ∀ definition ∈ file.steps, definition.outputName = none) : Unnamed plan.items := by
  intro step hmem
  have hstep : step ∈ plan.steps := by simpa [Plan.items] using hmem
  have hname : step.outputName ∈ file.steps.map StepDefinition.outputName := by
    rw [← outputName_of_steps (Plan.of_build registry built).1]
    exact List.mem_map_of_mem hstep
  obtain ⟨definition, hdefinition, heq⟩ := List.mem_map.mp hname
  rw [← heq]
  exact unnamed definition hdefinition

/-- A pass leaves the binding of a session as it finds it. -/
theorem Course.session {setting : Setting World Session} {file : ValidationFile}
    {browser : BrowserTarget} {scene after : Scene World Session} {passEnd : PassEnd}
    (course : Course setting file browser scene passEnd after) :
    after.session = scene.session := by
  cases course with
  | unplanned planned => rfl
  | idle planned empty => rfl
  | busy planned held => rfl
  | refused planned free hstart => rfl
  | stillborn planned free hstart => rfl
  | driven planned free hstart hdrive held kept => exact free.symm
  | severed planned free hstart hdrive held lost => exact free.symm

/-- A pass over a file without output names leaves the context as it finds it. -/
theorem Course.context {setting : Setting World Session} {file : ValidationFile}
    {browser : BrowserTarget} {scene after : Scene World Session} {passEnd : PassEnd}
    (course : Course setting file browser scene passEnd after)
    (unnamed : ∀ definition ∈ file.steps, definition.outputName = none) :
    after.context = scene.context := by
  cases course with
  | unplanned planned => rfl
  | idle planned empty => rfl
  | busy planned held => rfl
  | refused planned free hstart => rfl
  | stillborn planned free hstart => rfl
  | driven planned free hstart hdrive held kept =>
    have hcontext := congrArg (fun driven => driven.2.context) hdrive
    exact hcontext.symm.trans
      (context_drive_of_unnamed setting file browser (unnamed_of_build planned.1 unnamed) _)
  | severed planned free hstart hdrive held lost =>
    have hcontext := congrArg (fun driven => driven.2.context) hdrive
    exact hcontext.symm.trans
      (context_drive_of_unnamed setting file browser (unnamed_of_build planned.1 unnamed) _)

end Pass

end PageCheck
