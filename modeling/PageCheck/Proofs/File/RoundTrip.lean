import PageCheck.Proofs.File.Contents

/-!
# Writing validation files and reading them again

A validation file that was read from a text whose numbers are integers is read again from both of
the texts that it is written as. The two halves of the argument meet at what a file holds: reading
yields files whose contents are legible, and a file with legible contents is decoded from the record
that it is written as, member by member in the order in which that record lists them.
-/

namespace PageCheck

open Json (Draft Decoder decodeOptional decodeMap decodeValue_asRead decodeMembers_asReadMembers
  decodeRecord_of_fills decodeList_asRead Fills)

/-! ### Parts of records -/

/-- A value other than null is not read as null. -/
theorem Json.asRead_ne_null {value : Json} (given : value ≠ .null) : value.asRead ≠ .null := by
  cases value with
  | null => exact absurd rfl given
  | _ => exact nofun

/-- A part that is written where it is given, and not as null, is decoded as it was. -/
theorem Json.decodeOptional_asRead {α : Type} {decode : Decoder α} {encode : α → Json}
    {part : Option α} (given : ∀ value, part = some value → encode value ≠ .null)
    (decodes : ∀ value, part = some value → decode (encode value).asRead = .ok value)
    {written : Json} (present : part.map encode = some written) :
    decodeOptional decode written.asRead = .ok part := by
  obtain ⟨value, hpart, rfl⟩ := Option.map_eq_some_iff.mp present
  have hsome : decodeOptional decode (encode value).asRead =
      (decode (encode value).asRead).map some := by
    rw [decodeOptional]
    exact Json.asRead_ne_null (given value hpart)
  rw [hsome, decodes value hpart, hpart]
  rfl

/-- An object without repeated keys is decoded as it was written. -/
theorem Json.decodeMap_asRead {members : Members} (unique : (Json.object members).UniqueKeys) :
    decodeMap (Json.object members).asRead = .ok members := by
  rw [asRead, decodeMap, decodeMembers_asReadMembers members unique.2]
  simp [bind, Except.bind, pure, Except.pure, Ending.check, Members.ofList_of_nodup unique.1]

variable {depth : Nat}

/-! ### Locators -/

namespace Locator

/-- A locator is written as texts in one container. -/
theorem legible_toJson (locator : Locator) (depth : Nat) :
    Json.Legible (depth + 1) locator.toJson := by
  apply Json.Legible.object
  · simp [Members.keys]
  · simp [Json.Legible.string]

/-- A written locator is decoded as the locator. -/
theorem decode_toJson (locator : Locator) : decode locator.toJson.asRead = .ok locator := by
  obtain ⟨selector, strategy⟩ := locator
  have hvalue := decodeValue_asRead _ (legible_toJson ⟨selector, strategy⟩ 0).unique
  rw [decode, hvalue]
  cases strategy <;> rfl

end Locator

/-! ### Filling records -/

section

variable {σ α : Type} {step : σ → String → Draft → Json.Decoded σ} {key : String}
  {decode : Decoder α}

/-- A member fills the field that its value is decoded for. -/
theorem Json.Fills.field {state final : σ} {rest : Members} (set : α → σ)
    (takes : ∀ draft, step state key draft = do return set (← decode draft)) {written : Json}
    {value : α} (decodes : decode written.asRead = .ok value)
    (others : Fills step (set value) rest final) :
    Fills step state ((key, written) :: rest) final := by
  refine .cons ?_ others
  rw [takes, decodes]
  rfl

/-- A member that is left out where its part is absent fills the field of that part. -/
theorem Json.Fills.part (set : Option α → σ)
    (takes : ∀ draft, step (set none) key draft = do return set (← decodeOptional decode draft))
    {encode : α → Json} {part : Option α} {written : Option Json}
    (writes : written = part.map encode) (given : ∀ value, part = some value → encode value ≠ .null)
    (decodes : ∀ value, part = some value → decode (encode value).asRead = .ok value) :
    Fills step (set none) (Members.optional key written) (set part) := by
  cases part with
  | none => exact writes ▸ .nil
  | some value => exact writes ▸ .field set takes (decodeOptional_asRead given decodes rfl) .nil

end

/-! ### Steps -/

namespace StepDefinition

variable {step : StepDefinition}

/-- The record of a step opens one container around its parameters. -/
theorem legible_toJson (legible : step.Legible depth) : Json.Legible (depth + 2) step.toJson := by
  obtain ⟨action, locator, parameters, outputName⟩ := step
  have hparameters : Json.Legible (depth + 1) (.object parameters) := legible
  apply Json.Legible.object
  · cases locator <;> cases outputName <;> simp [Members.keys, Members.optional]
  · cases locator <;> cases outputName <;>
      simp [Members.optional, Json.Legible.string, Locator.legible_toJson, hparameters]

/-- A written step is decoded as the step. -/
theorem decode_toJson (legible : step.Legible depth) : decode step.toJson.asRead = .ok step := by
  have hunique := (legible_toJson legible).unique.1
  obtain ⟨action, locator, parameters, outputName⟩ := step
  have hparameters := Json.decodeMap_asRead (Json.Legible.unique legible)
  refine decodeRecord_of_fills ?_ hunique ?_ ?_
  · exact .append (.append (.append
      (.field (mk · none [] none) (fun _ => rfl) rfl .nil)
      (.part (mk action · [] none) (fun _ => rfl) rfl (fun _ _ => nofun)
        (fun locator _ => locator.decode_toJson)))
      (.field (mk action locator · none) (fun _ => rfl) hparameters .nil))
      (.part (mk action locator parameters ·) (fun _ => rfl) rfl (fun _ _ => nofun)
        (fun _ _ => rfl))
  · cases locator <;> cases outputName <;>
      simp [Members.keys, Members.optional, shape, Json.Shape.names]
  · cases locator <;> cases outputName <;> simp [Members.keys, Members.optional, shape]

end StepDefinition

/-! ### Validations -/

namespace ValidationDefinition

variable {validation : ValidationDefinition}

/-- The record of a validation opens one container around its value and its parameters. -/
theorem legible_toJson (legible : validation.Legible depth) :
    Json.Legible (depth + 2) validation.toJson := by
  obtain ⟨validationType, target, state, value, parameters⟩ := validation
  have hparameters : Json.Legible (depth + 1) (.object parameters) := legible.parameters
  apply Json.Legible.object
  · cases value <;> simp [Members.keys, Members.optional]
  · cases value with
    | none => simp [Members.optional, Json.Legible.string, hparameters]
    | some value =>
      have hvalue : Json.Legible (depth + 1) value := legible.value value rfl
      simp [Members.optional, Json.Legible.string, hvalue, hparameters]

/-- A written validation is decoded as the validation. -/
theorem decode_toJson (legible : validation.Legible depth) :
    decode validation.toJson.asRead = .ok validation := by
  have hunique := (legible_toJson legible).unique.1
  obtain ⟨validationType, target, state, value, parameters⟩ := validation
  have hparameters := Json.decodeMap_asRead legible.parameters.unique
  have hvalue : ∀ given, value = some given → Json.decodeValue (id given).asRead = .ok given :=
    fun given h => decodeValue_asRead given (legible.value given h).unique
  refine decodeRecord_of_fills ?_ hunique ?_ ?_
  · exact .append (.append
      (.field (mk · "" "" none []) (fun _ => rfl) rfl
        (.field (mk validationType · "" none []) (fun _ => rfl) rfl
          (.field (mk validationType target · none []) (fun _ => rfl) rfl .nil)))
      (.part (mk validationType target state · []) (fun _ => rfl)
        (congrFun Option.map_id.symm value) (fun given h hnull => legible.given (h.trans (congrArg some hnull))) hvalue))
      (.field (mk validationType target state value ·) (fun _ => rfl) hparameters .nil)
  · cases value <;> simp [Members.keys, Members.optional, shape, Json.Shape.names]
  · cases value <;> simp [Members.keys, Members.optional, shape]

end ValidationDefinition

/-! ### Files -/

namespace ValidationFile

variable {file : ValidationFile}

/-- The record of a file opens one container around its definitions and its metadata, and two around
its steps and validations. -/
theorem legible_toJson (legible : file.Legible depth) : Json.Legible (depth + 4) file.toJson := by
  have hsteps : Json.Legible (depth + 3) (.array (file.steps.map StepDefinition.toJson)) :=
    .array (List.forall_mem_map.mpr fun step hmem =>
      StepDefinition.legible_toJson (legible.steps step hmem))
  have hvalidations :
      Json.Legible (depth + 3) (.array (file.validations.map ValidationDefinition.toJson)) :=
    .array (List.forall_mem_map.mpr fun validation hmem =>
      ValidationDefinition.legible_toJson (legible.validations validation hmem))
  obtain ⟨description, targetBrowsers, path, definitions, steps, validations, metadata⟩ := file
  have hbrowsers : Json.Legible (depth + 3) (.array (targetBrowsers.map .string)) :=
    .array (List.forall_mem_map.mpr fun name _ => .string name)
  apply Json.Legible.object
  · cases description <;> cases path <;> cases metadata <;> simp [Members.keys, Members.optional]
  · cases description <;> cases path <;> cases metadata <;>
      simp [Members.optional, Json.Legible.string, hbrowsers, hsteps, hvalidations,
        legible.definitions, legible.metadata]

/-- A written file is decoded as the file. -/
theorem decode_toJson (legible : file.Legible depth) : decode file.toJson.asRead = .ok file := by
  have hunique := (legible_toJson legible).unique.1
  have hsteps : Json.decodeList StepDefinition.decode
      (Json.array (file.steps.map StepDefinition.toJson)).asRead = .ok file.steps :=
    decodeList_asRead fun step hmem => StepDefinition.decode_toJson (legible.steps step hmem)
  have hvalidations : Json.decodeList ValidationDefinition.decode
      (Json.array (file.validations.map ValidationDefinition.toJson)).asRead =
        .ok file.validations :=
    decodeList_asRead fun validation hmem =>
      ValidationDefinition.decode_toJson (legible.validations validation hmem)
  obtain ⟨description, browsers, path, definitions, steps, validations, metadata⟩ := file
  have hbrowsers : Json.decodeList Json.decodeString
      (Json.array (browsers.map .string)).asRead = .ok browsers :=
    decodeList_asRead fun _ _ => rfl
  have hdefinitions := Json.decodeMap_asRead legible.definitions.unique
  have hmetadata : Fills takeField
      ⟨description, browsers, path, definitions, steps, validations, []⟩
      (if metadata.isEmpty then [] else [("metadata", .object metadata)])
      ⟨description, browsers, path, definitions, steps, validations, metadata⟩ := by
    cases hempty : metadata.isEmpty with
    | true =>
      obtain rfl := List.isEmpty_iff.mp hempty
      exact .nil
    | false =>
      exact .field (mk description browsers path definitions steps validations ·) (fun _ => rfl)
        (Json.decodeMap_asRead legible.metadata.unique) .nil
  refine decodeRecord_of_fills ?_ hunique ?_ ?_
  · exact .append (.append (.append (.append
      (.part (mk · [] none [] [] [] []) (fun _ => rfl) rfl (fun _ _ => nofun) (fun _ _ => rfl))
      (.field (mk description · none [] [] [] []) (fun _ => rfl) hbrowsers .nil))
      (.part (mk description browsers · [] [] [] []) (fun _ => rfl) rfl (fun _ _ => nofun)
        (fun _ _ => rfl)))
      (.field (mk description browsers path · [] [] []) (fun _ => rfl) hdefinitions
        (.field (mk description browsers path definitions · [] []) (fun _ => rfl) hsteps
          (.field (mk description browsers path definitions steps · []) (fun _ => rfl)
            hvalidations .nil))))
      hmetadata
  · cases description <;> cases path <;> cases metadata <;>
      simp [Members.keys, Members.optional, shape, Json.Shape.names]
  · simp [shape]

/-! ### Texts -/

/-- A text that is accepted was read to its end, and its draft is decoded as the file. -/
theorem decode_of_ofText {text : String} (accepted : ofText text = .ok file) :
    decode (Json.read text).root = .ok file := by
  rw [ofText] at accepted
  split at accepted
  next result hdecoded =>
    cases accepted
    obtain ⟨value, hvalue, hrest⟩ := ok_of_bind hdecoded
    split at hrest <;> cases hrest
    exact hvalue
  next => cases accepted

/-- A file that was read from a text with no numbers but integers is legible. -/
theorem legible_of_ofText {text : String}
    (integral : ∀ number ∈ (Json.read text).root.numbers, number.Integral)
    (accepted : ofText text = .ok file) : file.Legible 123 :=
  legible_decode ⟨Json.within_root text, integral⟩ (decode_of_ofText accepted)

/-- **Files are read as they were written.** A file that was read from a text whose numbers are
integers of the exact range is read again, with everything in it and in the same order, from both of
its own texts, whatever forms the first text used for it. -/
theorem ofText_written {text : String}
    (integral : ∀ number ∈ (Json.read text).root.numbers, number.Integral)
    (accepted : ofText text = .ok file) :
    ∀ written ∈ [file.toJson.text, file.toJson.prettyText], ofText written = .ok file := by
  intro written hwritten
  have hlegible := legible_of_ofText integral accepted
  have hdecoded := Json.Legible.decodeText_of_mem (legible_toJson hlegible)
    (decode_toJson hlegible) hwritten
  rw [ofText, hdecoded]

/-- A text with a repeated key, minus zero, steps with and without keys, a bare locator and another
name for a strategy. -/
def manifold : String :=
  "\x7b\"definitions\":\x7b\"a\":-0,\"b\":[7],\"a\":18446744073709551615\x7d,\"steps\":" ++
    "[[\"Click\",\"//a\"],\x7b\"locator\":\x7b\"strategy\":\"tag\",\"selector\":\"p\"\x7d," ++
    "\"outputName\":null,\"type\":\"Click\"\x7d]\x7d"

/-- It is read as a file that is read again from its own texts. -/
theorem ofText_written_manifold :
    ∃ file, ofText manifold = .ok file ∧ file.definitions.keys = ["a", "b"] ∧
      file.steps.map (·.locator) = [some ⟨"//a", .xpath⟩, some ⟨"p", .tagName⟩] ∧
      ∀ written ∈ [file.toJson.text, file.toJson.prettyText], ofText written = .ok file := by
  have hnumbers : (Json.read manifold).root.numbers =
      [.double (.zero true), .integer 7, .integer 18446744073709551615] := by decide +kernel
  have hintegral : ∀ number ∈ (Json.read manifold).root.numbers, number.Integral := by
    rw [hnumbers]
    simp [Number.Integral, Json.InRange]
  have haccepted : (ofText manifold).toOption.map
      (fun file => (file.definitions.keys, file.steps.map (·.locator))) =
        some (["a", "b"], [some ⟨"//a", .xpath⟩, some ⟨"p", .tagName⟩]) := by decide +kernel
  cases hfile : ofText manifold with
  | error error =>
    rw [hfile] at haccepted
    cases haccepted
  | ok file =>
    rw [hfile] at haccepted
    obtain ⟨hkeys, hlocators⟩ := Prod.mk.inj (Option.some.inj haccepted)
    exact ⟨file, rfl, hkeys, hlocators, ofText_written hintegral hfile⟩

end ValidationFile

end PageCheck
