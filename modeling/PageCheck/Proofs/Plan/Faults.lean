import PageCheck.Proofs.Plan.Numbering

/-!
# Faults of a file

The steps and validations of a file are its entries, counted together. An entry has a fault if a
name in it means nothing: the action of a step, the source of a step that captures a value, the type
or the state of a validation. Planning fails with the fault of the first entry that has one, and it
succeeds only if there is none.
-/

namespace PageCheck

/-- An entry of a file. -/
inductive Entry
  | step (definition : StepDefinition)
  | validation (definition : ValidationDefinition)

/-- The steps of a file followed by its validations. -/
def ValidationFile.entries (file : ValidationFile) : List Entry :=
  file.steps.map .step ++ file.validations.map .validation

/-- There are as many entries as there are steps and validations. -/
theorem ValidationFile.length_entries (file : ValidationFile) :
    file.entries.length = file.size := by
  simp [entries, size]

/-- A name in the definition of a step means nothing. -/
inductive StepDefinition.Fault (registry : Registry) (definition : StepDefinition) : Error → Prop
  /-- The action is unknown. -/
  | action {error : Error}
      (unknown : registry.resolve (α := ActionType) definition.action = .error error) :
      Fault registry definition error
  /-- The step captures a value, and the source that it names is unknown. -/
  | source {name : String} {error : Error}
      (captures : registry.resolve definition.action = .ok ActionType.outputValue)
      (named : Members.get? "source" definition.parameters = some (.string name))
      (unknown : registry.resolve (α := OutputSource) name = .error error) :
      Fault registry definition error

/-- A name in the definition of a validation means nothing. -/
inductive ValidationDefinition.Fault (registry : Registry) (definition : ValidationDefinition) :
    Error → Prop
  /-- The type is unknown. -/
  | type {error : Error}
      (unknown : registry.resolve (α := ValidationType) definition.validationType = .error error) :
      Fault registry definition error
  /-- The type is known, but the state is not. -/
  | state {validationType : ValidationType} {error : Error}
      (known : registry.resolve definition.validationType = .ok validationType)
      (unknown : registry.resolve (α := ValidationState) definition.state = .error error) :
      Fault registry definition error

namespace Entry

/-- A name in an entry means nothing. -/
def Fault (registry : Registry) : Entry → Error → Prop
  | step definition => definition.Fault registry
  | validation definition => definition.Fault registry

/-- Every name in an entry means something. -/
def Sound (registry : Registry) (entry : Entry) : Prop := ∀ error, ¬ entry.Fault registry error

/-- What is recorded where the entry is at fault. -/
def action : Entry → String
  | step definition => definition.action
  | validation _ => Plan.validateAction

end Entry

namespace Plan

/-- An error of planning points at the first entry with a fault. -/
structure FirstFault (registry : Registry) (file : ValidationFile) (e : PlanError) (entry : Entry) :
    Prop where
  /-- The entry has the index. -/
  found : file.entries[e.index]? = some entry
  /-- It has the fault. -/
  fault : entry.Fault registry e.error
  /-- What is recorded is its action. -/
  action : e.action = entry.action
  /-- No entry before it has one. -/
  least : ∀ earlier < e.index, ∀ other, file.entries[earlier]? = some other → other.Sound registry

variable {registry : Registry}

/-- The source that a step captures from is unknown only if the step names one and captures. -/
theorem sourceOf_eq_error_iff {action : ActionType} {parameters : Members} {error : Error} :
    sourceOf registry action parameters = .error error ↔
      action = .outputValue ∧ ∃ name, Members.get? "source" parameters = some (.string name) ∧
        registry.resolve (α := OutputSource) name = .error error := by
  rw [sourceOf.eq_def]
  split
  next name hget =>
    cases hsource : registry.resolve (α := OutputSource) name with
    | error other => simp [hget, hsource, Except.map]
    | ok source => simp [hget, hsource, Except.map]
  next hother =>
    refine ⟨nofun, ?_⟩
    rintro ⟨rfl, name, hget, _⟩
    exact absurd rfl (hother name hget)

/-- A step cannot be planned exactly if its definition has a fault. -/
theorem step_eq_error_iff {index : Nat} {definition : StepDefinition} {error : Error} :
    step registry index definition = .error error ↔ definition.Fault registry error := by
  rw [step, bind_eq_error_iff]
  constructor
  · rintro (hunknown | ⟨action, hknown, hrest⟩)
    · exact .action hunknown
    · rcases bind_eq_error_iff.mp hrest with hsource | ⟨_, _, hnever⟩
      · obtain ⟨rfl, name, hnamed, hunknown⟩ := sourceOf_eq_error_iff.mp hsource
        exact .source hknown hnamed hunknown
      · cases hnever
  · rintro (hunknown | ⟨hcaptures, hnamed, hunknown⟩)
    · exact .inl hunknown
    · refine .inr ⟨_, hcaptures, bind_eq_error_iff.mpr (.inl ?_)⟩
      exact sourceOf_eq_error_iff.mpr ⟨rfl, _, hnamed, hunknown⟩

/-- A validation cannot be planned exactly if its definition has a fault. -/
theorem validation_eq_error_iff {index : Nat} {definition : ValidationDefinition} {error : Error} :
    validation registry index definition = .error error ↔ definition.Fault registry error := by
  rw [validation, bind_eq_error_iff]
  constructor
  · rintro (hunknown | ⟨validationType, hknown, hrest⟩)
    · exact .type hunknown
    · rcases bind_eq_error_iff.mp hrest with hunknown | ⟨_, _, hnever⟩
      · exact .state hknown hunknown
      · cases hnever
  · rintro (hunknown | ⟨hknown, hunknown⟩)
    · exact .inl hunknown
    · exact .inr ⟨_, hknown, bind_eq_error_iff.mpr (.inl hunknown)⟩

/-- Plan definitions one after the other, the first of which is at `index`. -/
def each {α β : Type} (plan : Nat → α → Result β) (action : α → String) :
    Nat → List α → Except PlanError (List β)
  | _, [] => .ok []
  | index, definition :: rest => do
    let first ← (plan index definition).mapError (⟨index, action definition, ·⟩)
    let others ← each plan action (index + 1) rest
    return first :: others

/-- Steps are planned one after the other. -/
theorem steps?_eq_each (index : Nat) (definitions : List StepDefinition) :
    steps? registry index definitions =
      each (step registry) StepDefinition.action index definitions := by
  induction definitions generalizing index with
  | nil => rfl
  | cons definition rest ih => rw [steps?, each, ih]

/-- Validations are planned one after the other. -/
theorem validations?_eq_each (index : Nat) (definitions : List ValidationDefinition) :
    validations? registry index definitions =
      each (validation registry) (fun _ => validateAction) index definitions := by
  induction definitions generalizing index with
  | nil => rfl
  | cons definition rest ih => rw [validations?, each, ih]

section

variable {α β : Type} {plan : Nat → α → Result β} {action : α → String}
  {Fault : α → Error → Prop}

/-- Definitions that are all planned have no faults. -/
theorem sound_of_each
    (faults : ∀ index definition error,
      plan index definition = .error error ↔ Fault definition error)
    {index : Nat} {definitions : List α} {planned : List β}
    (heach : each plan action index definitions = .ok planned) :
    ∀ definition ∈ definitions, ∀ error, ¬ Fault definition error := by
  induction definitions generalizing index planned with
  | nil => simp
  | cons first rest ih =>
    obtain ⟨value, hfirst, hothers⟩ := ok_of_bind heach
    obtain ⟨others, hrest, _⟩ := ok_of_bind hothers
    refine List.forall_mem_cons.mpr ⟨fun error hfault => ?_, ih hrest⟩
    cases (ok_of_mapError hfirst).symm.trans ((faults index first error).mpr hfault)

/-- Definitions that are not all planned have a first one with a fault, which is the error. -/
theorem first_fault_of_each
    (faults : ∀ index definition error,
      plan index definition = .error error ↔ Fault definition error)
    {index : Nat} {definitions : List α} {e : PlanError}
    (heach : each plan action index definitions = .error e) :
    ∃ done definition rest, definitions = done ++ definition :: rest ∧
      (∀ other ∈ done, ∀ error, ¬ Fault other error) ∧ Fault definition e.error ∧
      e.index = index + done.length ∧ e.action = action definition := by
  induction definitions generalizing index with
  | nil => cases heach
  | cons first more ih =>
    rcases bind_eq_error_iff.mp heach with hfirst | ⟨value, hfirst, hothers⟩
    · obtain ⟨error, herror, rfl⟩ := mapError_eq_error_iff.mp hfirst
      exact ⟨[], first, more, rfl, by simp, (faults index first error).mp herror, rfl, rfl⟩
    · rcases bind_eq_error_iff.mp hothers with hrest | ⟨_, _, hnever⟩
      · obtain ⟨done, definition, rest, rfl, hdone, hfault, hindex, haction⟩ := ih hrest
        refine ⟨first :: done, definition, rest, rfl, ?_, hfault, ?_, haction⟩
        · refine List.forall_mem_cons.mpr ⟨fun error hsound => ?_, hdone⟩
          cases (ok_of_mapError hfirst).symm.trans ((faults index first error).mpr hsound)
        · rw [hindex, List.length_cons]
          omega
      · cases hnever

end

/-- A first fault is one that sound entries stand before. -/
theorem FirstFault.of_split {file : ValidationFile} {e : PlanError} {done rest : List Entry}
    {entry : Entry} (split : file.entries = done ++ entry :: rest)
    (sound : ∀ other ∈ done, other.Sound registry) (fault : entry.Fault registry e.error)
    (index : e.index = done.length) (action : e.action = entry.action) :
    FirstFault registry file e entry := by
  refine ⟨?_, fault, action, ?_⟩
  · rw [split, index, List.getElem?_append_right (Nat.le_refl _), Nat.sub_self,
      List.getElem?_cons_zero]
  · intro earlier hearlier other hother
    rw [split, List.getElem?_append_left (index ▸ hearlier)] at hother
    exact sound other (List.mem_of_getElem? hother)

/-- Planning a file fails only with the fault of its first entry that has one. -/
theorem first_fault_of_build {file : ValidationFile} {e : PlanError}
    (failed : build registry file = .error e) : ∃ entry, FirstFault registry file e entry := by
  have hstep : ∀ index definition error, step registry index definition = .error error ↔
      definition.Fault registry error := fun _ _ _ => step_eq_error_iff
  have hvalidation : ∀ index definition error,
      validation registry index definition = .error error ↔ definition.Fault registry error :=
    fun _ _ _ => validation_eq_error_iff
  rw [build] at failed
  rcases bind_eq_error_iff.mp failed with hsteps | ⟨planned, hplanned, hrest⟩
  · rw [steps?_eq_each] at hsteps
    obtain ⟨done, definition, rest, hsplit, hdone, hfault, hindex, haction⟩ :=
      first_fault_of_each hstep hsteps
    have hentries : file.entries = done.map .step ++ .step definition ::
        (rest.map .step ++ file.validations.map .validation) := by
      rw [ValidationFile.entries, hsplit, List.map_append, List.map_cons, List.append_assoc,
        List.cons_append]
    refine ⟨_, .of_split hentries ?_ hfault (by simp [hindex]) haction⟩
    exact List.forall_mem_map.mpr hdone
  · rw [steps?_eq_each] at hplanned
    have hsound : ∀ definition ∈ file.steps, (Entry.step definition).Sound registry :=
      sound_of_each hstep hplanned
    rcases bind_eq_error_iff.mp hrest with hvalidations | ⟨_, _, hnever⟩
    · rw [validations?_eq_each] at hvalidations
      obtain ⟨done, definition, rest, hsplit, hdone, hfault, hindex, haction⟩ :=
        first_fault_of_each hvalidation hvalidations
      have hentries : file.entries = (file.steps.map .step ++ done.map .validation) ++
          .validation definition :: rest.map .validation := by
        rw [ValidationFile.entries, hsplit, List.map_append, List.map_cons, List.append_assoc]
      refine ⟨_, .of_split hentries ?_ hfault (by simp [hindex]) haction⟩
      rw [List.forall_mem_append]
      exact ⟨List.forall_mem_map.mpr hsound, List.forall_mem_map.mpr hdone⟩
    · cases hnever

end Plan

end PageCheck
