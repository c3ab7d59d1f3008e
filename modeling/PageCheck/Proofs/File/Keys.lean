import PageCheck.Proofs.File.RoundTrip
import PageCheck.Proofs.Json.Strictness

/-!
# Keys of validation files

A text that is read as a validation file has no mistyped and no repeated key: wherever the file, a
step, a validation or a locator stands in it as an object, the keys of the object are those that are
documented for it, each at most once, and what must be given is there. The objects in the free parts
of a file, such as its definitions and the parameters of its steps, are no records and have any
keys.
-/

namespace PageCheck

open Json (Draft Accepted accepted_of_decodeRecord)

/-- The records that a validation file is made of. -/
inductive RecordKind
  | file
  | step
  | validation
  | locator
deriving Repr, DecidableEq

namespace RecordKind

/-- The keys that are documented for a record, in the order in which a record without keys lists
their values. -/
def keys : RecordKind → List String
  | file => ["description", "targetBrowsers", "path", "definitions", "steps", "validations",
      "metadata"]
  | step => ["type", "locator", "parameters", "outputName"]
  | validation => ["type", "target", "state", "value", "parameters"]
  | locator => ["selector", "strategy"]

/-- The keys that must be given. -/
def required : RecordKind → List String
  | file => []
  | step => ["type"]
  | validation => ["type", "state"]
  | locator => ["selector"]

/-- The form of a record. -/
def shape : RecordKind → Json.Shape
  | file => ValidationFile.shape
  | step => StepDefinition.shape
  | validation => ValidationDefinition.shape
  | locator => Locator.shape

/-- What the keys of a record should be, and what should be given in it. -/
structure Proper (kind : RecordKind) (record : Draft) : Prop where
  /-- Every key of an object is documented. -/
  known : ∀ key ∈ record.keys, key ∈ kind.keys
  /-- No key of an object is repeated. -/
  unique : record.keys.Nodup
  /-- What must be given is given, in an object under its key. -/
  given : ∀ key ∈ kind.required, ∃ value, record.Holds kind.keys key value

/-- The records of a document: the document as the file, the items of the lists of steps and of
validations that a file holds, and the locators that steps hold, unless they are null or only a
text. -/
inductive Stands (root : Draft) : RecordKind → Draft → Prop
  | file : Stands root .file root
  | step {items : List Draft} {ending : Json.Ending} {step : Draft}
      (list : root.Holds file.keys "steps" (.array items ending)) (mem : step ∈ items) :
      Stands root .step step
  | validation {items : List Draft} {ending : Json.Ending} {validation : Draft}
      (list : root.Holds file.keys "validations" (.array items ending))
      (mem : validation ∈ items) : Stands root .validation validation
  | locator {step locator : Draft} (stands : Stands root .step step)
      (held : step.Holds RecordKind.step.keys "locator" locator) (present : locator ≠ .null)
      (full : ∀ selector, locator ≠ .string selector) : Stands root .locator locator

/-- A record is decoded from a draft. -/
def Decodes : RecordKind → Draft → Prop
  | file, draft => ∃ file, ValidationFile.decode draft = .ok file
  | step, draft => ∃ step, StepDefinition.decode draft = .ok step
  | validation, draft => ∃ validation, ValidationDefinition.decode draft = .ok validation
  | locator, draft => ∃ locator, Json.decodeRecord Locator.shape (Locator.ofXPath "")
      Locator.takeField draft = .ok locator

variable {root record : Draft} {kind : RecordKind}

/-- The keys that are documented for a record are the names of its fields. -/
theorem names_shape (kind : RecordKind) : kind.shape.names = kind.keys := by cases kind <;> rfl

/-- The keys that must be given are the names of the fields that must. -/
theorem mem_fields_of_required {key : String} (required : key ∈ kind.required) :
    (key, true) ∈ kind.shape.fields := by
  revert key
  cases kind <;> decide

/-- A strict record of a kind that is decoded is proper. -/
theorem proper_of_accepted {σ : Type} {step : σ → String → Draft → Json.Decoded σ}
    (accepted : Accepted kind.shape step record) : kind.Proper record := by
  obtain ⟨hknown, hunique, hgiven, -⟩ := accepted
  rw [names_shape] at hknown hgiven
  exact ⟨hknown, hunique, fun key hkey => hgiven (key, true) (mem_fields_of_required hkey) rfl⟩

/-- Every record that is decoded is proper. -/
theorem Decodes.proper (decodes : kind.Decodes record) : kind.Proper record := by
  cases kind <;> obtain ⟨value, hvalue⟩ := decodes
  all_goals exact proper_of_accepted (accepted_of_decodeRecord rfl hvalue)

end RecordKind

open RecordKind (Stands)

section

variable {file : ValidationFile} {root : Draft} {items : List Draft} {ending : Json.Ending}

/-- The items of the list of steps that a file holds are decoded as steps. -/
theorem ValidationFile.decode_steps (decoded : decode root = .ok file)
    (list : root.Holds RecordKind.file.keys "steps" (.array items ending)) :
    ∀ item ∈ items, ∃ step, StepDefinition.decode item = .ok step := by
  refine (accepted_of_decodeRecord rfl decoded).decoded_items (by decide) (fun taken => ?_) list
  obtain ⟨steps, hsteps, -⟩ := ok_of_bind taken
  exact ⟨steps, hsteps⟩

/-- The items of the list of validations that a file holds are decoded as validations. -/
theorem ValidationFile.decode_validations (decoded : decode root = .ok file)
    (list : root.Holds RecordKind.file.keys "validations" (.array items ending)) :
    ∀ item ∈ items, ∃ validation, ValidationDefinition.decode item = .ok validation := by
  refine (accepted_of_decodeRecord rfl decoded).decoded_items (by decide) (fun taken => ?_) list
  obtain ⟨validations, hvalidations, -⟩ := ok_of_bind taken
  exact ⟨validations, hvalidations⟩

end

/-- A locator that is more than a text is decoded as a record. -/
theorem Locator.decodeRecord_of_decode {locator : Locator} {draft : Draft}
    (full : ∀ selector, draft ≠ .string selector) (decoded : decode draft = .ok locator) :
    Json.decodeRecord shape (ofXPath "") takeField draft = .ok locator := by
  obtain ⟨_, _, hform⟩ := ok_of_bind decoded
  rw [decodeForm] at hform
  · split at hform
    next value hvalue =>
      cases hform
      exact hvalue
    · cases hform
  · exact full

/-- The locator that a step holds is decoded as one, unless it is null. -/
theorem StepDefinition.decode_locator {step : StepDefinition} {draft locator : Draft}
    (decoded : decode draft = .ok step)
    (held : draft.Holds RecordKind.step.keys "locator" locator) (present : locator ≠ .null) :
    ∃ value, Locator.decode locator = .ok value := by
  obtain ⟨_, _, htaken⟩ := (accepted_of_decodeRecord rfl decoded).taken "locator" (by decide) _ held
  obtain ⟨_, hvalue, -⟩ := ok_of_bind htaken
  exact Json.decoded_of_decodeOptional present hvalue

/-- Every record of a document that is decoded is decoded, for what it is by where it stands. -/
theorem RecordKind.Stands.decodes {root record : Draft} {kind : RecordKind}
    (stands : Stands root kind record) (decodes : RecordKind.file.Decodes root) :
    kind.Decodes record := by
  obtain ⟨file, hfile⟩ := decodes
  induction stands with
  | file => exact ⟨file, hfile⟩
  | step list mem => exact file.decode_steps hfile list _ mem
  | validation list mem => exact file.decode_validations hfile list _ mem
  | locator _ held present full ih =>
    obtain ⟨step, hstep⟩ := ih
    obtain ⟨locator, hlocator⟩ := StepDefinition.decode_locator hstep held present
    exact ⟨locator, Locator.decodeRecord_of_decode full hlocator⟩

namespace ValidationFile

/-- A text is read as a file or refused as an invalid one. -/
theorem ofText_eq_ok_or (text : String) :
    (∃ file, ofText text = .ok file) ∨ ∃ reason, ofText text = .error (.invalidFile reason) := by
  rw [ofText]
  split
  next file _ => exact .inl ⟨file, rfl⟩
  next error _ => exact .inr ⟨error.message, rfl⟩

/-- **No key is passed over.** All records of a text that is read as a file are proper; and a text
is refused as soon as one of its records, wherever it stands, has a key that is not documented or
one that is repeated. -/
theorem proper_of_ofText (text : String) :
    (∀ file, ofText text = .ok file → ∀ kind record, Stands (Json.read text).root kind record →
      kind.Proper record) ∧
    (∀ kind record, Stands (Json.read text).root kind record →
      (∃ key ∈ record.keys, key ∉ kind.keys) ∨ ¬ record.keys.Nodup →
        ∃ reason, ofText text = .error (.invalidFile reason)) := by
  have hproper : ∀ file, ofText text = .ok file → ∀ kind record,
      Stands (Json.read text).root kind record → kind.Proper record :=
    fun file accepted kind record stands => (stands.decodes ⟨file, decode_of_ofText accepted⟩).proper
  refine ⟨hproper, fun kind record stands wrong => ?_⟩
  refine (ofText_eq_ok_or text).resolve_left ?_
  rintro ⟨file, accepted⟩
  have hrecord := hproper file accepted kind record stands
  obtain ⟨key, hkey, hunknown⟩ | hrepeated := wrong
  · exact hunknown (hrecord.known key hkey)
  · exact hrepeated hrecord.unique

/-- A document with a free part of any keys and a step without keys, which is to click on what a
locator with two keys finds. -/
def clicking (first second : String × String) : Json :=
  .object [("definitions", .object [("selectr", .null)]),
    ("steps", .array [.array [.string "Click",
      .object [(first.1, .string first.2), (second.1, .string second.2)]]])]

/-- The text of this document is read to its end. -/
theorem read_clicking (first second : String × String) :
    Json.read (clicking first second).text = ⟨(clicking first second).asRead, none⟩ := by
  have hspelled : Json.Spells (clicking first second) (clicking first second).write := by
    refine .write_object (List.forall_mem_cons.mpr ⟨?_, List.forall_mem_singleton.mpr ?_⟩)
    · exact .write_object (List.forall_mem_singleton.mpr .null)
    · refine .write_array (List.forall_mem_singleton.mpr (.write_array ?_))
      refine List.forall_mem_cons.mpr ⟨.string _, List.forall_mem_singleton.mpr ?_⟩
      exact .write_object (List.forall_mem_cons.mpr
        ⟨.string _, List.forall_mem_singleton.mpr (.string _)⟩)
  have hnesting : (clicking first second).nesting = 4 := rfl
  exact Json.read_spells hspelled (by rw [hnesting]; decide)

/-- With a strategy and a selector it is read, and its records are proper; with two selectors it is
refused. -/
theorem proper_of_ofText_clicking :
    (∃ file, ofText (clicking ("strategy", "Css") ("selector", "p")).text = .ok file) ∧
      (∀ kind record,
        Stands (Json.read (clicking ("strategy", "Css") ("selector", "p")).text).root kind record →
          kind.Proper record) ∧
      ∃ reason, ofText (clicking ("selector", "p") ("selector", "q")).text =
        .error (.invalidFile reason) := by
  have haccepted : ∃ file, ofText (clicking ("strategy", "Css") ("selector", "p")).text =
      .ok file := by
    rw [ofText, Json.decodeText, read_clicking]
    exact ⟨_, rfl⟩
  obtain ⟨file, hfile⟩ := haccepted
  refine ⟨⟨file, hfile⟩, (proper_of_ofText _).1 file hfile, ?_⟩
  refine (proper_of_ofText _).2 .locator
    (Json.object [("selector", .string "p"), ("selector", .string "q")]).asRead ?_ (.inr (by decide))
  rw [read_clicking]
  have hsecond : RecordKind.step.keys[1]? = some "locator" := rfl
  refine .locator (.step (.member (.tail _ (.head _))) (.head _)) (.item hsecond rfl) ?_ ?_
  · exact Json.Draft.noConfusion
  · exact fun _ => Json.Draft.noConfusion

end ValidationFile

end PageCheck
