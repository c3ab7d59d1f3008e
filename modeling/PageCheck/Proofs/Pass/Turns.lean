import PageCheck.Proofs.Pass.Captures

/-!
# Turns of a pass

A turn is an item together with the scene in which it is executed. The turns of a pass are those of
the items of its plan up to the first one that stops it; without a session and an open start page
there are none. One turn leads to the next in the context that it leaves, and it changes the context
only by what it captures. Turns that follow each other like this are linked, and linked turns make
the context in which one happens known from what was captured before it.
-/

namespace PageCheck

variable {World Session : Type}

/-- Place values one after the other; those that are refused leave what they created. -/
def Store.placeEach (values : List (String × Json)) (store : Members) : Members :=
  values.foldl (fun store (name, value) => (Store.place name value store).store) store

/-- Capturing values places them among the outputs and changes nothing else. -/
theorem Context.captureEach_eq (context : Context) (values : List (String × Json)) :
    context.captureEach values =
      { context with outputs := Store.placeEach values context.outputs } := by
  induction values generalizing context with
  | nil => rfl
  | cons first rest ih => exact ih (context.capture first.1 first.2).1

/-- Capturing more values goes on where the first ones end. -/
theorem Context.captureEach_append (context : Context) (first second : List (String × Json)) :
    context.captureEach (first ++ second) = (context.captureEach first).captureEach second :=
  List.foldl_append

/-- An item and the scene in which it is executed. -/
structure Turn (World Session : Type) where
  /-- The item. -/
  item : Item
  /-- The scene right before it. -/
  scene : Scene World Session

namespace Turn

/-- What the item captures. -/
def captured? (setting : Setting World Session) (turn : Turn World Session) :
    Option (String × Json) :=
  Pass.captured? setting turn.item turn.scene

/-- In the turn a step with an output name has a handler, and it completes with a value. -/
inductive Yields (setting : Setting World Session) : Turn World Session → String → Json → Prop
  | intro {step : Step} {scene : Scene World Session} {resolved : ResolvedStep}
      {handler : StepHandler} {name : String} {value : Json}
      (named : step.outputName = some name)
      (resolves : step.resolve (Pass.resolver setting scene) = .ok resolved)
      (handled : setting.registry.stepHandler step.action = .ok handler)
      (completes : (Pass.runHandler setting step.action.name
        (handler resolved scene.context.timeouts) scene).1 = .ok (.completed (some value))) :
      Yields setting ⟨.step step, scene⟩ name value

/-- A turn captures just the value that a step yields under its output name. -/
theorem captured?_eq_some_iff {setting : Setting World Session} {turn : Turn World Session}
    {name : String} {value : Json} :
    turn.captured? setting = some (name, value) ↔ turn.Yields setting name value := by
  constructor
  · intro hcaptured
    obtain ⟨_ | _, scene⟩ := turn
    · rename_i step
      rw [captured?, Pass.captured?] at hcaptured
      cases hprepare : Pass.prepareStep setting scene step with
      | error error => simp [hprepare] at hcaptured
      | ok prepared =>
        obtain ⟨resolved, hresolve, hrest⟩ := ok_of_bind hprepare
        obtain ⟨handler, hhandler, hprepared⟩ := ok_of_bind hrest
        cases hprepared
        simp only [hprepare] at hcaptured
        split at hcaptured
        next hcompleted hname =>
          cases hcaptured
          rw [(Step.resolvesTo_of_resolve hresolve).outputName] at hname
          exact .intro hname hresolve hhandler hcompleted
        next => cases hcaptured
    · cases hcaptured
  · rintro ⟨hname, hresolve, hhandler, hcompleted⟩
    rename_i step scene resolved handler
    have hprepare : Pass.prepareStep setting scene step = .ok (resolved, handler) := by
      rw [Pass.prepareStep, hresolve]
      change setting.registry.stepHandler step.action >>= _ = _
      rw [hhandler]
      rfl
    rw [← (Step.resolvesTo_of_resolve hresolve).outputName] at hname
    rw [captured?, Pass.captured?]
    simp only [hprepare, hcompleted, hname]

/-- What turns capture one after the other. -/
def capturedIn (setting : Setting World Session) (turns : List (Turn World Session)) :
    List (String × Json) :=
  turns.filterMap (captured? setting)

/-- Turns that lead from a context to another one: each happens in the context that the one before
it leaves. -/
inductive Linked (setting : Setting World Session) :
    Context → List (Turn World Session) → Context → Prop
  | nil (context : Context) : Linked setting context [] context
  | cons {turn : Turn World Session} {rest : List (Turn World Session)} {last : Context}
      (later : Linked setting
        (turn.scene.context.captureEach (turn.captured? setting).toList) rest last) :
      Linked setting turn.scene.context (turn :: rest) last

variable {setting : Setting World Session}

/-- Turns lead on from where others end. -/
theorem Linked.append {first second : List (Turn World Session)} {start middle last : Context}
    (hfirst : Linked setting start first middle) (hsecond : Linked setting middle second last) :
    Linked setting start (first ++ second) last := by
  induction hfirst with
  | nil context => exact hsecond
  | cons _ ih => exact .cons (ih hsecond)

/-- Linked turns are linked on either side of a point between them. -/
theorem Linked.split {first second : List (Turn World Session)} {start last : Context}
    (linked : Linked setting start (first ++ second) last) :
    ∃ middle, Linked setting start first middle ∧ Linked setting middle second last := by
  induction first generalizing start with
  | nil => exact ⟨start, .nil start, linked⟩
  | cons turn rest ih =>
    cases linked with
    | cons later =>
      obtain ⟨middle, hrest, hsecond⟩ := ih later
      exact ⟨middle, .cons hrest, hsecond⟩

/-- Linked turns leave the context with what they capture. -/
theorem Linked.last_eq {turns : List (Turn World Session)} {start last : Context}
    (linked : Linked setting start turns last) :
    last = start.captureEach (capturedIn setting turns) := by
  induction linked with
  | nil context => rfl
  | @cons turn rest last later ih =>
    rw [ih, ← Context.captureEach_append, capturedIn, capturedIn, List.filterMap_cons]
    cases turn.captured? setting <;> rfl

/-- A turn happens in the context with what was captured before it. -/
theorem Linked.context_eq {done rest : List (Turn World Session)} {turn : Turn World Session}
    {start last : Context} (linked : Linked setting start (done ++ turn :: rest) last) :
    turn.scene.context = start.captureEach (capturedIn setting done) := by
  obtain ⟨middle, hdone, hrest⟩ := linked.split
  cases hrest with
  | cons later => exact hdone.last_eq

end Turn

namespace Pass

instance (attempt : Attempt Outcome) : Decidable (Completed attempt) :=
  match attempt with
  | .returned (.completed value) => .isTrue ⟨value, rfl⟩
  | .returned (.failed _) => .isFalse nofun
  | .failed _ => .isFalse nofun
  | .panicked _ => .isFalse nofun

instance (suppress : Bool) (attempt : Attempt Outcome) : Decidable (Tolerated suppress attempt) :=
  match attempt with
  | .returned _ => .isTrue trivial
  | .failed _ => inferInstanceAs (Decidable (suppress = true))
  | .panicked _ => .isFalse id

instance (suppress : Bool) (item : Item) (attempt : Attempt Outcome) :
    Decidable (item.Stops suppress attempt) :=
  match item with
  | .step _ => inferInstanceAs (Decidable (¬ Completed attempt))
  | .validation _ => inferInstanceAs (Decidable (¬ Tolerated suppress attempt))

variable (setting : Setting World Session)

/-- The turns of items up to the first one that stops the pass. -/
def turnsOfItems (suppress : Bool) : List Item → Scene World Session → List (Turn World Session)
  | [], _ => []
  | item :: rest, scene =>
    ⟨item, scene⟩ :: if item.Stops suppress (execute setting item scene).1 then []
      else turnsOfItems suppress rest (execute setting item scene).2

/-- The turns in a bound session: those of the plan once the start page is open. -/
def turnsOfDrive (file : ValidationFile) (plan : Plan) (scene : Scene World Session) :
    List (Turn World Session) :=
  match openPage setting file.path scene with
  | (.returned (), scene) =>
    turnsOfItems setting scene.context.options.suppressExceptions plan.items scene
  | _ => []

/-- The turns of a pass: those in its session, if it has one. -/
def turnsOfPass (file : ValidationFile) (browser : BrowserTarget) (scene : Scene World Session) :
    List (Turn World Session) :=
  match Plan.build setting.registry file with
  | .error _ => []
  | .ok plan =>
    if plan.isEmpty ∨ scene.session.isSome then []
    else
      match setting.browser.start browser scene.context.options scene.world with
      | (.returned session, world) =>
        turnsOfDrive setting file plan { scene with session := some session, world }
      | _ => []

/-- The scene that turns leave: the one after the item of the last turn. -/
def leftBy (turns : List (Turn World Session)) (scene : Scene World Session) :
    Scene World Session :=
  reach setting (turns.map Turn.item) scene

/-- The turns of items are linked. -/
theorem linked_turnsOfItems (suppress : Bool) (items : List Item) (scene : Scene World Session) :
    Turn.Linked setting scene.context (turnsOfItems setting suppress items scene)
      (leftBy setting (turnsOfItems setting suppress items scene) scene).context := by
  induction items generalizing scene with
  | nil => exact .nil scene.context
  | cons item rest ih =>
    have hcontext := context_execute setting item scene
    rw [turnsOfItems]
    refine @Turn.Linked.cons _ _ setting ⟨item, scene⟩ _ _ ?_
    rw [Turn.captured?, ← hcontext]
    split
    · exact .nil _
    · exact ih (execute setting item scene).2

variable (browser : BrowserTarget) {suppress : Bool}

/-- Validations leave the scene that their turns leave. -/
theorem scene_runValidations (validations : List Validation) (scene : Scene World Session) :
    (runValidations setting browser suppress validations scene).2 =
      leftBy setting (turnsOfItems setting suppress (validations.map .validation) scene) scene := by
  induction validations generalizing scene with
  | nil => rfl
  | cons validation rest ih =>
    rw [runValidations, List.map_cons, turnsOfItems, leftBy, List.map_cons, reach, execute]
    rcases executeValidation setting validation scene with
      ⟨(value | msg) | error | message, after⟩
    · have hgoes : ¬ (Item.validation validation).Stops suppress (.returned (.completed value)) :=
        fun hstops => hstops trivial
      simp only [hgoes, if_false]
      exact ih after
    · have hgoes : ¬ (Item.validation validation).Stops suppress (.returned (.failed msg)) :=
        fun hstops => hstops trivial
      simp only [hgoes, if_false]
      exact ih after
    · cases suppress with
      | true => exact ih after
      | false => rfl
    · rfl

/-- A plan leaves the scene that the turns of its items leave. -/
theorem scene_runPlanWith (steps : List Step) (validations : List Validation)
    (scene : Scene World Session) :
    (runPlanWith setting browser suppress ⟨steps, validations⟩ scene).2 =
      leftBy setting (turnsOfItems setting suppress (Plan.items ⟨steps, validations⟩) scene)
        scene := by
  induction steps generalizing scene with
  | nil => exact scene_runValidations setting browser validations scene
  | cons step rest ih =>
    have hrest := ih (executeStep setting step scene).2
    rw [runPlanWith] at hrest ⊢
    rw [runSteps, Plan.items, List.map_cons, List.cons_append, turnsOfItems, leftBy, List.map_cons,
      reach, execute]
    rcases hstep : executeStep setting step scene with ⟨(value | msg) | error | message, after⟩
    · have hgoes : ¬ (Item.step step).Stops suppress (.returned (.completed value)) :=
        fun hstops => hstops ⟨value, rfl⟩
      simp only [hgoes, if_false]
      rw [hstep] at hrest
      exact hrest
    · have hstops : (Item.step step).Stops suppress (.returned (.failed msg)) := nofun
      simp only [hstops, if_true]
      rfl
    · have hstops : (Item.step step).Stops suppress (.failed error) := nofun
      simp only [hstops, if_true]
      rfl
    · have hstops : (Item.step step).Stops suppress (.panicked message) := nofun
      simp only [hstops, if_true]
      rfl

/-- What happens in a session leads from the context at its start to the one at its end. -/
theorem linked_drive (file : ValidationFile) (plan : Plan) (scene : Scene World Session) :
    Turn.Linked setting scene.context (turnsOfDrive setting file plan scene)
      (drive setting file browser plan scene).2.context := by
  have hopen := context_openPage setting file.path scene
  rw [turnsOfDrive, drive]
  rcases hpage : openPage setting file.path scene with ⟨_ | error | message, opened⟩
  all_goals
    rw [hpage] at hopen
    dsimp only at hopen ⊢
  · rw [runPlan_eq_runPlanWith, scene_runPlanWith, ← hopen]
    exact linked_turnsOfItems setting _ plan.items opened
  all_goals
    rw [hopen]
    exact .nil _

variable {setting browser} {file : ValidationFile} {scene after : Scene World Session}

/-- A pass whose session starts has the turns in that session. -/
theorem turnsOfPass_of_start {plan : Plan} (planned : Planned setting.registry file plan)
    (free : scene.session = none) {session : Session} {world : World}
    (hstart : setting.browser.start browser scene.context.options scene.world =
      (.returned session, world)) :
    turnsOfPass setting file browser scene =
      turnsOfDrive setting file plan { scene with session := some session, world } := by
  rw [turnsOfPass]
  simp only [planned.1, planned.2, free, hstart, Option.isSome_none, Bool.false_eq_true, or_self,
    if_false]

/-- They lead from the context that the pass finds to the one at the end of the session. -/
theorem linked_of_start {plan : Plan} (planned : Planned setting.registry file plan)
    (free : scene.session = none) {session : Session} {world : World}
    (hstart : setting.browser.start browser scene.context.options scene.world =
      (.returned session, world)) :
    Turn.Linked setting scene.context (turnsOfPass setting file browser scene)
      (drive setting file browser plan { scene with session := some session, world }).2.context :=
  turnsOfPass_of_start planned free hstart ▸
    linked_drive setting browser file plan { scene with session := some session, world }

/-- The turns of a pass lead from the context that it finds to the one that it leaves. -/
theorem Course.linked {passEnd : PassEnd}
    (course : Course setting file browser scene passEnd after) :
    Turn.Linked setting scene.context (turnsOfPass setting file browser scene) after.context := by
  cases course with
  | unplanned planned =>
    simp only [turnsOfPass, planned]
    exact .nil _
  | idle planned empty =>
    simp only [turnsOfPass, planned, empty, true_or, if_true]
    exact .nil _
  | busy planned bound =>
    simp only [turnsOfPass, planned.1, bound, or_true, if_true]
    exact .nil _
  | refused planned free hstart =>
    simp only [turnsOfPass, planned.1, hstart, ite_self]
    exact .nil _
  | stillborn planned free hstart =>
    simp only [turnsOfPass, planned.1, hstart, ite_self]
    exact .nil _
  | @driven plan session last world result driven planned free hstart hdrive bound kept =>
    have hlinked := linked_of_start planned free hstart
    rw [hdrive] at hlinked
    exact hlinked
  | @severed plan session last world message result driven planned free hstart hdrive bound lost =>
    have hlinked := linked_of_start planned free hstart
    rw [hdrive] at hlinked
    exact hlinked

end Pass

end PageCheck
