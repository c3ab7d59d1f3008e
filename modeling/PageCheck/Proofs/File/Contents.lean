import PageCheck.Proofs.Json.Drafts
import PageCheck.ValidationFile

/-!
# What validation files hold

The only values of any shape in a validation file are its definitions, its metadata, the parameters
of its steps and validations and the values that validations speak of. Whichever way the records
around them are written, what is decoded of them can be read back: the record form that a file is
written in opens no more containers around a value than any other form.
-/

namespace PageCheck

open Json (Draft Decoder decodeValue decodeOptional legible_decodeValue legible_decodeMap)

/-- A part that is given at all is not null. -/
theorem Json.decodeOptional_eq_some {α : Type} {decode : Decoder α} {draft : Draft} {value : α}
    (decoded : decodeOptional decode draft = .ok (some value)) :
    draft ≠ .null ∧ decode draft = .ok value := by
  cases draft with
  | null => cases decoded
  | _ =>
    refine ⟨nofun, ?_⟩
    simp only [decodeOptional, Except.map] at decoded
    split at decoded
    · cases decoded
    next result hdecode =>
      cases decoded
      exact hdecode

/-- Only null is decoded as null. -/
theorem Json.decodeValue_ne_null {draft : Draft} {value : Json} (given : draft ≠ .null)
    (decoded : decodeValue draft = .ok value) : value ≠ .null := by
  rintro rfl
  cases draft with
  | null => exact given rfl
  | array items ending =>
    rw [decodeValue] at decoded
    obtain ⟨_, _, hrest⟩ := ok_of_bind decoded
    obtain ⟨_, _, hvalue⟩ := ok_of_bind hrest
    cases hvalue
  | object members ending =>
    rw [decodeValue] at decoded
    obtain ⟨_, _, hrest⟩ := ok_of_bind decoded
    obtain ⟨_, _, hvalue⟩ := ok_of_bind hrest
    cases hvalue
  | _ =>
    rw [decodeValue] at decoded
    cases decoded

variable {depth : Nat} {draft part : Draft} {key : String}

/-! ### Steps -/

namespace StepDefinition

/-- The parameters of a step can be read back where `depth + 1` containers may open. -/
def Legible (depth : Nat) (step : StepDefinition) : Prop :=
  Json.Legible (depth + 1) (.object step.parameters)

/-- Every field of a step keeps its parameters legible. -/
theorem legible_takeField {step next : StepDefinition} (legible : step.Legible depth)
    (fits : part.Fits (depth + 1)) (taken : takeField step key part = .ok next) :
    next.Legible depth := by
  rw [takeField] at taken
  split_ifs at taken
  all_goals
    obtain ⟨field, hfield, hnext⟩ := ok_of_bind taken
    cases hnext
  · exact legible
  · exact legible
  · exact legible_decodeMap fits hfield
  · exact legible

/-- A step that is decoded from a draft that fits is legible. -/
theorem legible_decode {step : StepDefinition} (fits : draft.Fits (depth + 2))
    (decoded : decode draft = .ok step) : step.Legible depth :=
  fits.kept_decodeRecord legible_takeField decoded (Json.Legible.empty depth)

end StepDefinition

/-! ### Validations -/

/-- The value and the parameters of a validation can be read back where `depth + 1` containers may
open, and a value that is given is not null. -/
structure ValidationDefinition.Legible (depth : Nat) (validation : ValidationDefinition) :
    Prop where
  /-- The value is not null. -/
  given : validation.value ≠ some .null
  /-- The value can be read back. -/
  value : ∀ value, validation.value = some value → Json.Legible (depth + 1) value
  /-- The parameters can be read back. -/
  parameters : Json.Legible (depth + 1) (.object validation.parameters)

namespace ValidationDefinition

/-- Every field of a validation keeps it legible. -/
theorem legible_takeField {validation next : ValidationDefinition}
    (legible : validation.Legible depth) (fits : part.Fits (depth + 1))
    (taken : takeField validation key part = .ok next) : next.Legible depth := by
  rw [takeField] at taken
  split_ifs at taken
  all_goals
    obtain ⟨field, hfield, hnext⟩ := ok_of_bind taken
    cases hnext
  · exact ⟨legible.given, legible.value, legible.parameters⟩
  · exact ⟨legible.given, legible.value, legible.parameters⟩
  · exact ⟨legible.given, legible.value, legible.parameters⟩
  · refine ⟨?_, ?_, legible.parameters⟩
    · rintro rfl
      obtain ⟨hgiven, hvalue⟩ := Json.decodeOptional_eq_some hfield
      exact Json.decodeValue_ne_null hgiven hvalue rfl
    · rintro value rfl
      exact legible_decodeValue fits (Json.decodeOptional_eq_some hfield).2
  · exact ⟨legible.given, legible.value, legible_decodeMap fits hfield⟩

/-- A validation that is decoded from a draft that fits is legible. -/
theorem legible_decode {validation : ValidationDefinition} (fits : draft.Fits (depth + 2))
    (decoded : decode draft = .ok validation) : validation.Legible depth :=
  fits.kept_decodeRecord legible_takeField decoded ⟨nofun, nofun, Json.Legible.empty depth⟩

end ValidationDefinition

/-! ### Files -/

/-- What a file holds can be read back: its definitions and metadata where `depth + 3` containers
may open, its steps and validations where two less may. -/
structure ValidationFile.Legible (depth : Nat) (file : ValidationFile) : Prop where
  /-- The definitions can be read back. -/
  definitions : Json.Legible (depth + 3) (.object file.definitions)
  /-- The metadata can be read back. -/
  metadata : Json.Legible (depth + 3) (.object file.metadata)
  /-- What the steps hold can be read back. -/
  steps : ∀ step ∈ file.steps, step.Legible depth
  /-- What the validations hold can be read back. -/
  validations : ∀ validation ∈ file.validations, validation.Legible depth

namespace ValidationFile

/-- Every field of a file keeps it legible. -/
theorem legible_takeField {file next : ValidationFile} (legible : file.Legible depth)
    (fits : part.Fits (depth + 3)) (taken : takeField file key part = .ok next) :
    next.Legible depth := by
  rw [takeField] at taken
  split_ifs at taken
  all_goals
    obtain ⟨field, hfield, hnext⟩ := ok_of_bind taken
    cases hnext
  · exact ⟨legible.definitions, legible.metadata, legible.steps, legible.validations⟩
  · exact ⟨legible.definitions, legible.metadata, legible.steps, legible.validations⟩
  · exact ⟨legible.definitions, legible.metadata, legible.steps, legible.validations⟩
  · exact { legible with definitions := legible_decodeMap fits hfield }
  · exact { legible with steps := fits.kept_decodeList StepDefinition.legible_decode hfield }
  · exact { legible with
      validations := fits.kept_decodeList ValidationDefinition.legible_decode hfield }
  · exact { legible with metadata := legible_decodeMap fits hfield }

/-- A file that is decoded from a draft that fits is legible. -/
theorem legible_decode {file : ValidationFile} (fits : draft.Fits (depth + 4))
    (decoded : decode draft = .ok file) : file.Legible depth :=
  fits.kept_decodeRecord legible_takeField decoded
    ⟨Json.Legible.empty _, Json.Legible.empty _, List.forall_mem_nil _, List.forall_mem_nil _⟩

end ValidationFile

end PageCheck
