import PageCheck.Handlers
import PageCheck.Proofs.Expression.Lookup
import PageCheck.Proofs.Plan.Faults

/-!
# Further plugins

Registering further plugins takes nothing away. Among plugins the first answer wins, so what a
registry answers it still answers in the same way with further contributions behind its own: names,
the texts and values that lead to a root of a plugin, handlers, and with them whole plans. Built-in
names mean their entries whatever is registered.
-/

namespace PageCheck

open Expression (Resolver)

/-- The entries that the names of a kind mean. -/
abbrev Category.Meaning : Category → Type
  | actionType => ActionType
  | validationType => ValidationType
  | validationState => ValidationState
  | browserTarget => BrowserTarget
  | outputSource => OutputSource

instance (category : Category) : Nameable category.Meaning :=
  match category with
  | .actionType => inferInstanceAs (Nameable ActionType)
  | .validationType => inferInstanceAs (Nameable ValidationType)
  | .validationState => inferInstanceAs (Nameable ValidationState)
  | .browserTarget => inferInstanceAs (Nameable BrowserTarget)
  | .outputSource => inferInstanceAs (Nameable OutputSource)

/-- The first answer stays the first one when further ones can follow. -/
theorem findSome?_append_of_some {α β : Type} {answer : α → Option β} {first : List α} {value : β}
    (found : first.findSome? answer = some value) (second : List α) :
    (first ++ second).findSome? answer = some value := by
  rw [List.findSome?_append, found]
  rfl

/-! ### Names -/

/-- Two built-in entries of a kind differ in their names as names are compared. -/
theorem Vocabulary.builtins_apart (category : Category) :
    (builtins (α := category.Meaning)).Pairwise fun one other =>
      normalizeName (nameOf one) ≠ normalizeName (nameOf other) := by
  cases category <;> decide +kernel

/-- A name that compares equal to that of a built-in entry means this entry. -/
theorem Vocabulary.builtin?_eq_some {category : Category} {name : String}
    {entry : category.Meaning} (listed : entry ∈ builtins (α := category.Meaning))
    (named : normalizeName name = normalizeName (nameOf entry)) : builtin? name = some entry := by
  obtain ⟨before, after, hsplit⟩ := List.append_of_mem listed
  have hapart := builtins_apart category
  rw [hsplit, List.pairwise_append] at hapart
  rw [builtin?, hsplit, List.find?_append, List.find?_eq_none.mpr, List.find?_cons_of_pos]
  · rfl
  · exact beq_iff_eq.mpr named
  · intro earlier hearlier hnamed
    have hne := hapart.2.2 earlier hearlier entry List.mem_cons_self
    exact hne ((beq_iff_eq.mp hnamed).symm.trans named)

namespace Registry

variable {registry : Registry} (further : Registry)

/-- A built-in name means its entry whatever is registered. -/
theorem resolve_of_builtin? {α : Type} [Nameable α] {name : String} {entry : α}
    (builtin : Vocabulary.builtin? name = some entry) (registry : Registry) :
    registry.resolve name = .ok entry := by
  rw [resolve, builtin]

/-- The names of further plugins stand behind those of the registry. -/
theorem contributed_append (category : Category) (registry further : Registry) :
    Nameable.contributed (α := category.Meaning) (registry ++ further) =
      Nameable.contributed registry ++ Nameable.contributed further := by
  cases category <;> rfl

/-- A name that means something goes on meaning it. -/
theorem resolve_append (category : Category) {name : String} {meaning : category.Meaning}
    (resolved : registry.resolve name = .ok meaning) :
    (registry ++ further).resolve name = .ok meaning := by
  rw [resolve.eq_def] at resolved ⊢
  cases hbuiltin : Vocabulary.builtin? (α := category.Meaning) name with
  | some entry => simpa [hbuiltin] using resolved
  | none =>
    simp only [hbuiltin] at resolved ⊢
    split at resolved
    next found hfound =>
      cases resolved
      rw [contributed_append, findSome?_append_of_some hfound]
    next => cases resolved

/-! ### Handlers -/

/-- An action keeps the handler that a plugin offers. -/
theorem stepHandler_append {action : ActionType} {handler : StepHandler}
    (offered : (registry.stepHandlers.findSome? fun offer => offer action) = some handler) :
    (registry ++ further).stepHandler action = .ok handler := by
  have hfirst : ((registry ++ further).stepHandlers.findSome? fun offer => offer action) =
      some handler := findSome?_append_of_some offered _
  rw [stepHandler, hfirst]
  rfl

/-- A validation type keeps the handler that a plugin offers. -/
theorem validationHandler_append {validationType : ValidationType} {handler : ValidationHandler}
    (offered : (registry.validationHandlers.findSome? fun offer => offer validationType) =
      some handler) : (registry ++ further).validationHandler validationType = .ok handler := by
  have hfirst : ((registry ++ further).validationHandlers.findSome? fun offer =>
      offer validationType) = some handler := findSome?_append_of_some offered _
  rw [validationHandler, hfirst]
  rfl

end Registry

/-! ### Expressions -/

namespace Expression.Resolver

/-- The resolver that looks into further roots after its own. -/
def withRoots (resolver : Resolver) (further : List Root) : Resolver :=
  { resolver with roots := resolver.roots ++ further }

variable {resolver : Resolver} (further : List Root)

/-- The further roots are the last places. -/
theorem places_withRoots :
    (resolver.withRoots further).places = resolver.places ++ further.map .root := by
  simp [places, withRoots]

/-- A path that leads to a value goes on leading to it. -/
theorem find_withRoots {segments : List Segment} {value : Json}
    (found : resolver.find segments = some value) :
    (resolver.withRoots further).find segments = some value := by
  rw [find_eq_findSome?] at found ⊢
  rw [places_withRoots]
  exact findSome?_append_of_some found _

/-- A text that resolves in some number of look-ups goes on resolving in them. Only a found text with
a leading dollar sign takes another look-up. -/
theorem resolveWithin_withRoots {asked text : String} {left : Nat} {value : Json}
    (resolved : resolver.resolveWithin asked left text = .ok value) :
    (resolver.withRoots further).resolveWithin asked left text = .ok value := by
  induction left generalizing text with
  | zero =>
    rw [resolveWithin.eq_def] at resolved ⊢
    exact resolved
  | succ left ih =>
    rw [resolveWithin.eq_def] at resolved ⊢
    cases hmeaning : Meaning.ofText text with
    | literal literal => simpa only [hmeaning] using resolved
    | reference path =>
      simp only [hmeaning] at resolved ⊢
      cases hpath : Path.parse path with
      | error fault => simp [hpath] at resolved
      | ok segments =>
        simp only [hpath] at resolved ⊢
        cases hfind : resolver.find segments with
        | none => simp [hfind] at resolved
        | some found =>
          rw [hfind] at resolved
          rw [find_withRoots further hfind]
          cases found with
          | string next =>
            by_cases hsigil : startsWithSigil next
            · simp only [hsigil, if_true] at resolved ⊢
              exact ih resolved
            · simpa [hsigil] using resolved
          | _ => exact resolved

mutual

/-- A value that resolves goes on resolving to the same one. -/
theorem resolveValue_withRoots {value : Json} {result : Json}
    (resolved : resolver.resolveValue value = .ok result) :
    (resolver.withRoots further).resolveValue value = .ok result := by
  cases value with
  | string text =>
    rw [resolveValue, resolve] at resolved ⊢
    exact resolveWithin_withRoots further resolved
  | array items =>
    rw [resolveValue] at resolved ⊢
    cases hitems : resolveItems resolver items with
    | error error => simp [hitems, Except.map] at resolved
    | ok others =>
      rw [resolveItems_withRoots hitems]
      rwa [hitems] at resolved
  | object members =>
    rw [resolveValue] at resolved ⊢
    cases hmembers : resolveMembers resolver members with
    | error error => simp [hmembers, Except.map] at resolved
    | ok others =>
      rw [resolveMembers_withRoots hmembers]
      rwa [hmembers] at resolved
  | null => exact resolved
  | bool truth => exact resolved
  | number number => exact resolved

/-- Items that resolve go on resolving to the same ones. -/
theorem resolveItems_withRoots {items result : List Json}
    (resolved : resolver.resolveItems items = .ok result) :
    (resolver.withRoots further).resolveItems items = .ok result := by
  cases items with
  | nil => exact resolved
  | cons item rest =>
    rw [resolveItems] at resolved ⊢
    obtain ⟨first, hfirst, hothers⟩ := ok_of_bind resolved
    obtain ⟨others, hrest, hresult⟩ := ok_of_bind hothers
    rw [resolveValue_withRoots hfirst, resolveItems_withRoots hrest]
    exact hresult

/-- Members that resolve go on resolving to the same ones. -/
theorem resolveMembers_withRoots {members result : List (String × Json)}
    (resolved : resolver.resolveMembers members = .ok result) :
    (resolver.withRoots further).resolveMembers members = .ok result := by
  cases members with
  | nil => exact resolved
  | cons member rest =>
    obtain ⟨key, value⟩ := member
    rw [resolveMembers] at resolved ⊢
    obtain ⟨first, hfirst, hothers⟩ := ok_of_bind resolved
    obtain ⟨others, hrest, hresult⟩ := ok_of_bind hothers
    rw [resolveValue_withRoots hfirst, resolveMembers_withRoots hrest]
    exact hresult

end

end Expression.Resolver

/-! ### Plans -/

namespace Plan

variable {registry : Registry} (further : Registry)

/-- A source that a step captures from stays the same. -/
theorem sourceOf_append {action : ActionType} {parameters : Members} {source : Option OutputSource}
    (known : sourceOf registry action parameters = .ok source) :
    sourceOf (registry ++ further) action parameters = .ok source := by
  rw [sourceOf.eq_def] at known ⊢
  split at known
  next name hget =>
    cases hsource : registry.resolve (α := OutputSource) name with
    | error error => simp [hsource, Except.map] at known
    | ok entry =>
      rw [hsource] at known
      rw [Registry.resolve_append further .outputSource hsource]
      exact known
  next => exact known

/-- A step that is planned is planned in the same way. -/
theorem step_append {index : Nat} {definition : StepDefinition} {planned : Step}
    (hstep : step registry index definition = .ok planned) :
    step (registry ++ further) index definition = .ok planned := by
  obtain ⟨action, haction, hrest⟩ := ok_of_bind hstep
  obtain ⟨source, hsource, hplanned⟩ := ok_of_bind hrest
  rw [step, Registry.resolve_append further .actionType haction]
  change sourceOf (registry ++ further) action definition.parameters >>= _ = _
  rw [sourceOf_append further hsource]
  exact hplanned

/-- A validation that is planned is planned in the same way. -/
theorem validation_append {index : Nat} {definition : ValidationDefinition} {planned : Validation}
    (hvalidation : validation registry index definition = .ok planned) :
    validation (registry ++ further) index definition = .ok planned := by
  obtain ⟨validationType, htype, hrest⟩ := ok_of_bind hvalidation
  obtain ⟨state, hstate, hplanned⟩ := ok_of_bind hrest
  rw [validation, Registry.resolve_append further .validationType htype]
  change (registry ++ further).resolve definition.state >>= _ = _
  rw [Registry.resolve_append further .validationState hstate]
  exact hplanned

/-- Definitions that are planned one after the other are planned in the same way if each one is. -/
theorem each_mono {α β : Type} {plan plan' : Nat → α → Result β} {action : α → String}
    (keeps : ∀ index definition planned,
      plan index definition = .ok planned → plan' index definition = .ok planned)
    {index : Nat} {definitions : List α} {planned : List β}
    (heach : each plan action index definitions = .ok planned) :
    each plan' action index definitions = .ok planned := by
  induction definitions generalizing index planned with
  | nil => exact heach
  | cons definition rest ih =>
    obtain ⟨first, hfirst, hothers⟩ := ok_of_bind heach
    obtain ⟨others, hrest, hplanned⟩ := ok_of_bind hothers
    rw [each, keeps _ _ _ (ok_of_mapError hfirst)]
    change each plan' action (index + 1) rest >>= _ = _
    rw [ih hrest]
    exact hplanned

/-- A file that has a plan goes on having the same one. -/
theorem build_append {file : ValidationFile} {plan : Plan}
    (built : build registry file = .ok plan) : build (registry ++ further) file = .ok plan := by
  obtain ⟨steps, hsteps, hrest⟩ := ok_of_bind built
  obtain ⟨validations, hvalidations, hplan⟩ := ok_of_bind hrest
  rw [steps?_eq_each] at hsteps
  rw [validations?_eq_each] at hvalidations
  rw [build, steps?_eq_each, each_mono (fun _ _ _ => step_append further) hsteps]
  change validations? (registry ++ further) _ _ >>= _ = _
  rw [validations?_eq_each, each_mono (fun _ _ _ => validation_append further) hvalidations]
  exact hplan

end Plan

/-! ### Registries -/

namespace Registry

/-- Where a registry looks up paths, beside the data, the outputs and the environment. -/
def resolver (registry : Registry) (data outputs : Members)
    (environment : Expression.Environment) : Resolver :=
  ⟨data, outputs, environment, registry.roots⟩

/-- What a registry answers, another one answers in the same way. -/
structure Conserves (registry larger : Registry) : Prop where
  /-- Names of any kind keep their meanings. -/
  names : ∀ (category : Category) (name : String) (meaning : category.Meaning),
    registry.resolve name = .ok meaning → larger.resolve name = .ok meaning
  /-- Built-in names, however they are spelled, mean the built-in entries. -/
  builtins : ∀ (category : Category) (name : String),
    ∀ entry ∈ Vocabulary.builtins (α := category.Meaning),
      normalizeName name = normalizeName (Vocabulary.nameOf entry) →
        larger.resolve name = .ok entry
  /-- Texts keep the values that they resolve to. -/
  texts : ∀ (data outputs : Members) (environment : Expression.Environment) (text : String)
    (value : Json), (registry.resolver data outputs environment).resolve text = .ok value →
      (larger.resolver data outputs environment).resolve text = .ok value
  /-- Values keep what they resolve to. -/
  values : ∀ (data outputs : Members) (environment : Expression.Environment) (value result : Json),
    (registry.resolver data outputs environment).resolveValue value = .ok result →
      (larger.resolver data outputs environment).resolveValue value = .ok result
  /-- Files keep their plans. -/
  plans : ∀ (file : ValidationFile) (plan : Plan),
    Plan.build registry file = .ok plan → Plan.build larger file = .ok plan
  /-- Actions keep the handlers that plugins offer. -/
  stepHandlers : ∀ (action : ActionType) (handler : StepHandler),
    (registry.stepHandlers.findSome? fun offer => offer action) = some handler →
      larger.stepHandler action = .ok handler
  /-- Validation types keep the handlers that plugins offer. -/
  validationHandlers : ∀ (validationType : ValidationType) (handler : ValidationHandler),
    (registry.validationHandlers.findSome? fun offer => offer validationType) = some handler →
      larger.validationHandler validationType = .ok handler

/-- Whatever plugins follow those of a registry, it answers as before. -/
theorem append_conserves (registry further : Registry) :
    registry.Conserves (registry ++ further) where
  names category _ _ := resolve_append further category
  builtins _ _ _ listed named := resolve_of_builtin? (Vocabulary.builtin?_eq_some listed named) _
  texts _ _ _ _ _ := Resolver.resolveWithin_withRoots further.roots
  values _ _ _ _ _ := Resolver.resolveValue_withRoots further.roots
  plans _ _ := Plan.build_append further
  stepHandlers _ _ := stepHandler_append further
  validationHandlers _ _ := validationHandler_append further

/-- A registry of one plugin, which names an action, carries it out and answers for a root, each
time with its own name. -/
def onePlugin (name : String) : Registry :=
  { empty with
    actionNames := [fun asked => if asked = "Tap" then some (.extension name) else none]
    stepHandlers := [fun _ => some fun _ _ => .done (.completed (some (.string name)))]
    roots := [fun root _ => if root = "vault" then some (.string name) else none] }

/-- The second of two plugins takes neither the action nor the root from the first. -/
theorem append_conserves_onePlugin :
    (onePlugin "first" ++ onePlugin "second").resolve "Tap" =
        .ok (ActionType.extension "first") ∧
      ((onePlugin "first" ++ onePlugin "second").resolver [] [] []).resolve "$vault" =
        .ok (.string "first") ∧
      (onePlugin "first" ++ onePlugin "second").stepHandler (.extension "first") =
        .ok fun _ _ => .done (.completed (some (.string "first"))) := by
  have conserves := append_conserves (onePlugin "first") (onePlugin "second")
  have hmeaning : Expression.Meaning.ofText "$vault" = .reference "vault" := by rfl
  have hpath : Expression.Path.parse "vault" = .ok [.field "vault"] := by rfl
  have hfound : ((onePlugin "first").resolver [] [] []).find [.field "vault"] =
      some (.string "first") := by rfl
  have hvalue : ((onePlugin "first").resolver [] [] []).resolve "$vault" =
      .ok (.string "first") := by
    rw [Resolver.resolve, Resolver.depthLimit, Resolver.resolveWithin, hmeaning]
    simp only [hpath, hfound]
    rfl
  exact ⟨conserves.names .actionType "Tap" _ (by rfl), conserves.texts [] [] [] "$vault" _ hvalue,
    conserves.stepHandlers (.extension "first") _ rfl⟩

end Registry

end PageCheck
