import PageCheck.Proofs.Browser.Morphism
import PageCheck.Proofs.Step.Resolution

/-!
# Executions of a pass

What a pass executes are the items of its plan: the steps and after them the validations, counted
together. To execute an item is to resolve its texts, to find its handler, to run that and, for a
step with an output name, to capture what it yields; each of these can be the end of it. Items are
executed one after the other, each in the scene that the one before it leaves.
-/

namespace PageCheck

variable {World Session : Type}

/-- What a plan has executed. -/
inductive Item
  | step (step : Step)
  | validation (validation : Validation)

/-- The items of a plan. -/
def Plan.items (plan : Plan) : List Item :=
  plan.steps.map .step ++ plan.validations.map .validation

namespace Pass

/-- How an execution turned out and the scene that it leaves. -/
abbrev Execution (World Session : Type) := Attempt Outcome × Scene World Session

/-- What executing an item in a scene comes to, and the scene that it leaves. -/
inductive Executes (setting : Setting World Session) :
    Item → Scene World Session → Attempt Outcome → Scene World Session → Prop
  /-- A text of a step does not resolve. -/
  | unresolvedStep {step : Step} {scene : Scene World Session} {error : Error}
      (hresolve : step.resolve (resolver setting scene) = .error error) :
      Executes setting (.step step) scene (.failed error) scene
  /-- A step resolves, but it has no handler. -/
  | unhandledStep {step : Step} {scene : Scene World Session} {resolved : ResolvedStep}
      {error : Error} (hresolve : step.resolve (resolver setting scene) = .ok resolved)
      (hhandler : setting.registry.stepHandler step.action = .error error) :
      Executes setting (.step step) scene (.failed error) scene
  /-- The handler of a step runs, and nothing is captured. -/
  | performed {step : Step} {scene after : Scene World Session} {resolved : ResolvedStep}
      {handler : StepHandler} {result : Result Outcome}
      (hresolve : step.resolve (resolver setting scene) = .ok resolved)
      (hhandler : setting.registry.stepHandler step.action = .ok handler)
      (hrun : runHandler setting step.action.name (handler resolved scene.context.timeouts) scene =
        (result, after))
      (nothing : ∀ value, result = .ok (.completed (some value)) → step.outputName = none) :
      Executes setting (.step step) scene (.ofResult result) after
  /-- The handler of a step yields a value, and it is captured under the output name or refused. -/
  | captured {step : Step} {scene after : Scene World Session} {resolved : ResolvedStep}
      {handler : StepHandler} {value : Json} {name : String}
      (hresolve : step.resolve (resolver setting scene) = .ok resolved)
      (hhandler : setting.registry.stepHandler step.action = .ok handler)
      (hrun : runHandler setting step.action.name (handler resolved scene.context.timeouts) scene =
        (.ok (.completed (some value)), after))
      (named : step.outputName = some name) :
      Executes setting (.step step) scene
        (.ofResult ((after.context.capture name value).2.map fun _ => .completed (some value)))
        { after with context := (after.context.capture name value).1 }
  /-- A validation has no handler. -/
  | unhandledValidation {validation : Validation} {scene : Scene World Session} {error : Error}
      (hhandler : setting.registry.validationHandler validation.validationType = .error error) :
      Executes setting (.validation validation) scene (.failed error) scene
  /-- The handler of a validation gives up when it is asked whether it supports the state. -/
  | unanswered {validation : Validation} {scene : Scene World Session}
      {handler : ValidationHandler} {message : String}
      (hhandler : setting.registry.validationHandler validation.validationType = .ok handler)
      (hanswer : handler.supports.answer validation.state = .error message) :
      Executes setting (.validation validation) scene (.panicked message) scene
  /-- It does not support the state. -/
  | unsupported {validation : Validation} {scene : Scene World Session}
      {handler : ValidationHandler}
      (hhandler : setting.registry.validationHandler validation.validationType = .ok handler)
      (hanswer : handler.supports.answer validation.state = .ok false) :
      Executes setting (.validation validation) scene
        (.failed (.unsupportedState validation.validationType.name validation.state.name)) scene
  /-- A text of a validation does not resolve. -/
  | unresolvedValidation {validation : Validation} {scene : Scene World Session}
      {handler : ValidationHandler} {error : Error}
      (hhandler : setting.registry.validationHandler validation.validationType = .ok handler)
      (hanswer : handler.supports.answer validation.state = .ok true)
      (hresolve : validation.resolve (resolver setting scene) = .error error) :
      Executes setting (.validation validation) scene (.failed error) scene
  /-- The handler of a validation runs. -/
  | checked {validation : Validation} {scene after : Scene World Session}
      {handler : ValidationHandler} {resolved : ResolvedValidation} {result : Result Outcome}
      (hhandler : setting.registry.validationHandler validation.validationType = .ok handler)
      (hanswer : handler.supports.answer validation.state = .ok true)
      (hresolve : validation.resolve (resolver setting scene) = .ok resolved)
      (hrun : runHandler setting validation.validationType.name
        (handler.validate resolved scene.context.timeouts) scene = (result, after)) :
      Executes setting (.validation validation) scene (.ofResult result) after

/-- Execute an item. -/
def execute (setting : Setting World Session) :
    Item → Scene World Session → Execution World Session
  | .step step => executeStep setting step
  | .validation validation => executeValidation setting validation

section

variable {setting : Setting World Session} {scene after : Scene World Session}

theorem prepareStep_of_unresolved {step : Step} {error : Error}
    (hresolve : step.resolve (resolver setting scene) = .error error) :
    prepareStep setting scene step = .error error := by
  rw [prepareStep, hresolve]
  rfl

theorem prepareStep_of_resolved {step : Step} {resolved : ResolvedStep}
    (hresolve : step.resolve (resolver setting scene) = .ok resolved) :
    prepareStep setting scene step =
      (setting.registry.stepHandler step.action).map fun handler => (resolved, handler) := by
  rw [prepareStep, hresolve]
  rfl

theorem execute_of_executes {item : Item} {attempt : Attempt Outcome}
    (executes : Executes setting item scene attempt after) :
    execute setting item scene = (attempt, after) := by
  cases executes with
  | unresolvedStep hresolve => rw [execute, executeStep, prepareStep_of_unresolved hresolve]
  | unhandledStep hresolve hhandler =>
    rw [execute, executeStep, prepareStep_of_resolved hresolve, hhandler]
    rfl
  | performed hresolve hhandler hrun nothing =>
    rw [execute, executeStep, prepareStep_of_resolved hresolve, hhandler]
    simp only [Except.map, hrun, (Step.resolvesTo_of_resolve hresolve).outputName]
    split
    next hvalue hname =>
      cases hvalue
      rw [nothing _ rfl] at hname
      cases hname
    next heq _ =>
      cases heq
      rfl
  | captured hresolve hhandler hrun named =>
    rw [execute, executeStep, prepareStep_of_resolved hresolve, hhandler]
    simp only [Except.map, hrun, (Step.resolvesTo_of_resolve hresolve).outputName, named]
  | unhandledValidation hhandler => rw [execute, executeValidation, hhandler]
  | unanswered hhandler hanswer =>
    rw [execute, executeValidation, hhandler]
    simp only [checkWith, hanswer]
  | unsupported hhandler hanswer =>
    rw [execute, executeValidation, hhandler]
    simp only [checkWith, hanswer]
  | unresolvedValidation hhandler hanswer hresolve =>
    rw [execute, executeValidation, hhandler]
    simp only [checkWith, hanswer, hresolve]
  | checked hhandler hanswer hresolve hrun =>
    rw [execute, executeValidation, hhandler]
    simp only [checkWith, hanswer, hresolve, hrun]

theorem executes_step (step : Step) (scene : Scene World Session) :
    ∃ attempt after, Executes setting (.step step) scene attempt after := by
  cases hresolve : step.resolve (resolver setting scene) with
  | error error => exact ⟨_, _, .unresolvedStep hresolve⟩
  | ok resolved =>
    cases hhandler : setting.registry.stepHandler step.action with
    | error error => exact ⟨_, _, .unhandledStep hresolve hhandler⟩
    | ok handler =>
      rcases hrun : runHandler setting step.action.name
        (handler resolved scene.context.timeouts) scene with ⟨error | (_ | value) | msg, after⟩
      · exact ⟨_, _, .performed hresolve hhandler hrun nofun⟩
      · exact ⟨_, _, .performed hresolve hhandler hrun nofun⟩
      · cases hname : step.outputName with
        | none => exact ⟨_, _, .performed hresolve hhandler hrun fun _ _ => hname⟩
        | some name => exact ⟨_, _, .captured hresolve hhandler hrun hname⟩
      · exact ⟨_, _, .performed hresolve hhandler hrun nofun⟩

theorem executes_validation (validation : Validation) (scene : Scene World Session) :
    ∃ attempt after, Executes setting (.validation validation) scene attempt after := by
  cases hhandler : setting.registry.validationHandler validation.validationType with
  | error error => exact ⟨_, _, .unhandledValidation hhandler⟩
  | ok handler =>
    cases hanswer : handler.supports.answer validation.state with
    | error message => exact ⟨_, _, .unanswered hhandler hanswer⟩
    | ok supported =>
      cases supported with
      | false => exact ⟨_, _, .unsupported hhandler hanswer⟩
      | true =>
        cases hresolve : validation.resolve (resolver setting scene) with
        | error error => exact ⟨_, _, .unresolvedValidation hhandler hanswer hresolve⟩
        | ok resolved => exact ⟨_, _, .checked hhandler hanswer hresolve rfl⟩

/-- **What an execution is.** Executing an item comes to what its texts, its handler and its output
name make of it. -/
theorem execute_iff {item : Item} {attempt : Attempt Outcome} :
    execute setting item scene = (attempt, after) ↔ Executes setting item scene attempt after := by
  refine ⟨fun hexecute => ?_, execute_of_executes⟩
  have hexecutes : ∃ attempt after, Executes setting item scene attempt after := by
    cases item with
    | step step => exact executes_step step scene
    | validation validation => exact executes_validation validation scene
  obtain ⟨_, _, hexecutes⟩ := hexecutes
  have heq := (execute_of_executes hexecutes).symm.trans hexecute
  cases heq
  exact hexecutes

end

/-! ### One item after the other -/

/-- The scene after items were executed one after the other, whatever came of them. -/
def reach (setting : Setting World Session) : List Item → Scene World Session → Scene World Session
  | [], scene => scene
  | item :: rest, scene => reach setting rest (execute setting item scene).2

/-- Items are executed one after the other, whatever comes of them, and this scene is left. -/
inductive Reaches (setting : Setting World Session) :
    List Item → Scene World Session → Scene World Session → Prop
  | nil (scene : Scene World Session) : Reaches setting [] scene scene
  | cons {item : Item} {rest : List Item} {scene between after : Scene World Session}
      {attempt : Attempt Outcome} (first : Executes setting item scene attempt between)
      (later : Reaches setting rest between after) : Reaches setting (item :: rest) scene after

/-- The item at a position is executed, after those before it, and this comes of it. -/
def ExecutedAt (setting : Setting World Session) (items : List Item) (scene : Scene World Session)
    (position : Nat) (attempt : Attempt Outcome) (after : Scene World Session) : Prop :=
  ∃ item between, items[position]? = some item ∧
    Reaches setting (items.take position) scene between ∧
    Executes setting item between attempt after

/-- An execution turned out as a completion. -/
def Completed (attempt : Attempt Outcome) : Prop := ∃ value, attempt = .returned (.completed value)

/-- An execution turned out as something after which a pass still checks validations. -/
def Tolerated (suppress : Bool) : Attempt Outcome → Prop
  | .returned _ => True
  | .failed _ => suppress = true
  | .panicked _ => False

/-- What a report says is wrong with an execution, if anything is. There is no report that says
something of an execution that gave up. -/
inductive Shows : Attempt Outcome → Option String → Prop
  | completed (value : Option Json) : Shows (.returned (.completed value)) none
  | failed (msg : String) : Shows (.returned (.failed msg)) (some msg)
  | error (error : Error) : Shows (.failed error) (some error.message)

/-- What is wrong with an execution, if anything is. -/
def complaint : Attempt Outcome → Option String
  | .returned (.completed _) => none
  | .returned (.failed msg) => some msg
  | .failed error => some error.message
  | .panicked message => some message

/-- The item at a position completes. -/
def Completes (setting : Setting World Session) (items : List Item) (scene : Scene World Session)
    (position : Nat) : Prop :=
  ∃ value after, ExecutedAt setting items scene position (.returned (.completed value)) after

/-- Items that are executed one after the other all turn out with a property. -/
def Throughout (setting : Setting World Session) (property : Attempt Outcome → Prop) :
    List Item → Scene World Session → Prop
  | [], _ => True
  | item :: rest, scene =>
    property (execute setting item scene).1 ∧
      Throughout setting property rest (execute setting item scene).2

theorem getElem?_of_split {α : Type} {entries done rest : List α} {entry : α}
    (split : entries = done ++ entry :: rest) : entries[done.length]? = some entry := by
  rw [split, List.getElem?_append_right (Nat.le_refl _), Nat.sub_self, List.getElem?_cons_zero]

section

variable {setting : Setting World Session}

theorem Completed.tolerated {attempt : Attempt Outcome} (completed : Completed attempt)
    (suppress : Bool) : Tolerated suppress attempt := by
  obtain ⟨value, rfl⟩ := completed
  trivial

theorem Shows.of_tolerated {suppress : Bool} {attempt : Attempt Outcome}
    (tolerated : Tolerated suppress attempt) : Shows attempt (complaint attempt) := by
  rcases attempt with (value | msg) | error | message
  · exact .completed value
  · exact .failed msg
  · exact .error error
  · exact tolerated.elim

theorem reaches_iff {items : List Item} {scene after : Scene World Session} :
    Reaches setting items scene after ↔ reach setting items scene = after := by
  induction items generalizing scene with
  | nil =>
    constructor
    · rintro ⟨⟩
      rfl
    · rintro rfl
      exact .nil scene
  | cons item rest ih =>
    constructor
    · intro reaches
      cases reaches with
      | cons first later =>
        rw [reach, execute_iff.mpr first]
        exact ih.mp later
    · intro hreach
      exact .cons (execute_iff.mp rfl) (ih.mpr hreach)

theorem executedAt_iff {items : List Item} {scene after : Scene World Session} {position : Nat}
    {attempt : Attempt Outcome} :
    ExecutedAt setting items scene position attempt after ↔
      ∃ item, items[position]? = some item ∧
        execute setting item (reach setting (items.take position) scene) = (attempt, after) := by
  simp only [ExecutedAt, reaches_iff, ← execute_iff]
  constructor
  · rintro ⟨item, _, hitem, rfl, hexecute⟩
    exact ⟨item, hitem, hexecute⟩
  · rintro ⟨item, hitem, hexecute⟩
    exact ⟨item, _, hitem, rfl, hexecute⟩

theorem ExecutedAt.unique {items : List Item} {scene after after' : Scene World Session}
    {position : Nat} {attempt attempt' : Attempt Outcome}
    (first : ExecutedAt setting items scene position attempt after)
    (second : ExecutedAt setting items scene position attempt' after') :
    attempt = attempt' ∧ after = after' := by
  obtain ⟨item, hitem, hfirst⟩ := executedAt_iff.mp first
  obtain ⟨item', hitem', hsecond⟩ := executedAt_iff.mp second
  obtain rfl := Option.some.inj (hitem.symm.trans hitem')
  exact Prod.mk.inj (hfirst.symm.trans hsecond)

theorem reach_append (first second : List Item) (scene : Scene World Session) :
    reach setting (first ++ second) scene = reach setting second (reach setting first scene) := by
  induction first generalizing scene with
  | nil => rfl
  | cons item rest ih => exact ih (execute setting item scene).2

theorem executedAt_middle (setting : Setting World Session) (done : List Item) (item : Item) (rest : List Item)
    (scene : Scene World Session) :
    ExecutedAt setting (done ++ item :: rest) scene done.length
      (execute setting item (reach setting done scene)).1
      (execute setting item (reach setting done scene)).2 := by
  refine executedAt_iff.mpr ⟨item, getElem?_of_split rfl, ?_⟩
  rw [List.take_left' rfl]

theorem executedAt_append_left {first second : List Item} {scene after : Scene World Session}
    {position : Nat} {attempt : Attempt Outcome} (inFirst : position < first.length) :
    ExecutedAt setting (first ++ second) scene position attempt after ↔
      ExecutedAt setting first scene position attempt after := by
  rw [executedAt_iff, executedAt_iff, List.getElem?_append_left inFirst,
    List.take_append_of_le_length (Nat.le_of_lt inFirst)]

theorem executedAt_append_right {first second : List Item} {scene after : Scene World Session}
    {position : Nat} {attempt : Attempt Outcome} :
    ExecutedAt setting (first ++ second) scene (first.length + position) attempt after ↔
      ExecutedAt setting second (reach setting first scene) position attempt after := by
  have htake : (first ++ second).take (first.length + position) = first ++ second.take position :=
    List.take_length_add_append position
  rw [executedAt_iff, executedAt_iff, List.getElem?_append_right (Nat.le_add_right _ _),
    Nat.add_sub_cancel_left, htake]
  simp only [reach_append]

theorem Throughout.executed {property : Attempt Outcome → Prop} {items : List Item}
    {scene : Scene World Session} (all : Throughout setting property items scene) {position : Nat}
    (inItems : position < items.length) :
    ∃ attempt after, ExecutedAt setting items scene position attempt after ∧ property attempt := by
  induction items generalizing scene position with
  | nil => cases inItems
  | cons item rest ih =>
    obtain ⟨hfirst, hrest⟩ := all
    cases position with
    | zero => exact ⟨_, _, executedAt_middle setting [] item rest scene, hfirst⟩
    | succ position =>
      obtain ⟨attempt, after, hexecuted, hproperty⟩ := ih hrest (Nat.lt_of_succ_lt_succ inItems)
      obtain ⟨other, hother, hexecute⟩ := executedAt_iff.mp hexecuted
      exact ⟨attempt, after, executedAt_iff.mpr ⟨other, hother, hexecute⟩, hproperty⟩

/-- A property holds throughout, or there is a first execution that does not have it. -/
theorem throughout_or_first {α : Type} (setting : Setting World Session)
    (property : Attempt Outcome → Prop) (into : α → Item) (entries : List α)
    (scene : Scene World Session) :
    Throughout setting property (entries.map into) scene ∨
      ∃ done entry rest, entries = done ++ entry :: rest ∧
        Throughout setting property (done.map into) scene ∧
        ¬ property (execute setting (into entry) (reach setting (done.map into) scene)).1 := by
  induction entries generalizing scene with
  | nil => exact .inl trivial
  | cons entry rest ih =>
    by_cases hfirst : property (execute setting (into entry) scene).1
    · rcases ih (execute setting (into entry) scene).2 with hall | ⟨done, other, more, hother⟩
      · exact .inl ⟨hfirst, hall⟩
      · obtain ⟨hsplit, hdone, hwithout⟩ := hother
        exact .inr ⟨entry :: done, other, more, congrArg _ hsplit, ⟨hfirst, hdone⟩, hwithout⟩
    · exact .inr ⟨[], entry, rest, rfl, trivial, hfirst⟩

end

section

variable {World' Session' : Type} {setting : Setting World Session}
  {other : Browser World' Session'} (reading : setting.browser.Morphism other)
  (adjust : RunOptions → RunOptions)

theorem execute_read (item : Item) (scene : Scene World Session) :
    execute (setting.withBrowser other) item (scene.read reading adjust) =
      ((execute setting item scene).1, (execute setting item scene).2.read reading adjust) := by
  cases item with
  | step step => exact executeStep_read reading adjust step scene
  | validation validation => exact executeValidation_read reading adjust validation scene

theorem reach_read (items : List Item) (scene : Scene World Session) :
    reach (setting.withBrowser other) items (scene.read reading adjust) =
      (reach setting items scene).read reading adjust := by
  induction items generalizing scene with
  | nil => rfl
  | cons item rest ih =>
    rw [reach, execute_read]
    exact ih (execute setting item scene).2

/-- Executions turn out the same in scenes that are read as each other. -/
theorem executedAt_read {items : List Item} {scene : Scene World Session} {position : Nat}
    {attempt : Attempt Outcome} :
    (∃ after, ExecutedAt (setting.withBrowser other) items (scene.read reading adjust) position
        attempt after) ↔
      ∃ after, ExecutedAt setting items scene position attempt after := by
  simp only [executedAt_iff, reach_read, execute_read]
  constructor
  · rintro ⟨_, item, hitem, hexecute⟩
    exact ⟨_, item, hitem, Prod.ext (Prod.mk.inj hexecute).1 rfl⟩
  · rintro ⟨after, item, hitem, hexecute⟩
    exact ⟨after.read reading adjust, item, hitem, by rw [hexecute]⟩

end

end Pass

end PageCheck
