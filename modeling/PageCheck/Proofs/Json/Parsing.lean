import PageCheck.Json.Decode
import PageCheck.Proofs.Json.Members
import PageCheck.Proofs.Json.Reading

/-!
# Parsing spellings

A spelling of a value without repeated keys is parsed as the value if the value fits under the limit
on open containers, and refused on that ground, wherever the value is too deep, if it does not.
-/

namespace PageCheck.Json

/-! ### Values that fit -/

mutual

/-- Decoding what a spelling was read as gives its value. -/
theorem decodeValue_asRead :
    ∀ value : Json, value.UniqueKeys → decodeValue value.asRead = .ok value
  | .null, _ | .bool _, _ | .number _, _ | .string _, _ => by rw [asRead, decodeValue]
  | .array items, unique => by
    rw [asRead, decodeValue, decodeValues_asReadItems items unique]
    rfl
  | .object members, unique => by
    rw [asRead, decodeValue, decodeMembers_asReadMembers members unique.2]
    simp [bind, Except.bind, pure, Except.pure, Ending.check, Members.ofList_of_nodup unique.1]

/-- `decodeValue_asRead` for items. -/
theorem decodeValues_asReadItems :
    ∀ items : List Json, UniqueKeysItems items → decodeValues (asReadItems items) = .ok items
  | [], _ => by rw [asReadItems, decodeValues]
  | item :: rest, unique => by
    rw [asReadItems, decodeValues, decodeValue_asRead item unique.1,
      decodeValues_asReadItems rest unique.2]
    rfl

/-- `decodeValue_asRead` for members. -/
theorem decodeMembers_asReadMembers : ∀ members : List (String × Json),
    UniqueKeysMembers members → decodeMembers (asReadMembers members) = .ok members
  | [], _ => by rw [asReadMembers, decodeMembers]
  | (key, value) :: rest, unique => by
    rw [asReadMembers, decodeMembers, decodeValue_asRead value unique.1,
      decodeMembers_asReadMembers rest unique.2]
    rfl

end

/-! ### Values that are too deep -/

mutual

/-- A spelling in which more containers are open at once than may be is read up to the first one
that is too deep. -/
theorem readValue_tooDeep : ∀ (value : Json) (rest : List Char) {text : List Char}
    {fuel depth : Nat}, Spells value text → value.UniqueKeys → depth < value.nesting →
    4 * text.length ≤ fuel →
    ∃ draft, readValue fuel depth (text ++ rest) = (draft, none) ∧
      decodeValue draft = .error (.malformed .tooDeep)
  | value, rest, text, 0, depth, spells, _, _, enough => by
    have h := spells.length_pos
    omega
  | .array items, rest, _, fuel + 1, 0, .array contents, _, deep, enough => by
    refine ⟨.fault .tooDeep, ?_, ?_⟩
    · rw [List.cons_append, readValue, skipBlanks_solid rfl]
      simp
    · rw [decodeValue]
  | .array items, rest, _, fuel + 1, depth + 1, @Spells.array _ text contents, unique, deep,
      enough => by
    rw [List.length_cons] at enough
    obtain ⟨drafts, ending, hitems, hdrafts⟩ := readItems_tooDeep items rest contents unique
      (Nat.lt_of_succ_lt_succ deep) (show _ ≤ fuel by omega)
    refine ⟨.array drafts ending, ?_, ?_⟩
    · rw [List.cons_append, readValue, skipBlanks_solid rfl]
      simp [hitems]
    · rw [decodeValue, hdrafts]
      rfl
  | .object members, rest, _, fuel + 1, 0, .object contents, _, deep, enough => by
    refine ⟨.fault .tooDeep, ?_, ?_⟩
    · rw [List.cons_append, readValue, skipBlanks_solid rfl]
      simp
    · rw [decodeValue]
  | .object members, rest, _, fuel + 1, depth + 1, @Spells.object _ text contents, unique, deep,
      enough => by
    rw [List.length_cons] at enough
    obtain ⟨drafts, ending, hmembers, hdrafts⟩ := readMembers_tooDeep members rest contents
      unique.2 (Nat.lt_of_succ_lt_succ deep) (show _ ≤ fuel by omega)
    refine ⟨.object drafts ending, ?_, ?_⟩
    · rw [List.cons_append, readValue, skipBlanks_solid rfl]
      simp [hmembers]
    · rw [decodeValue, hdrafts]
      rfl

/-- `readValue_tooDeep` for items. Either the first one is too deep itself, or it fits and what is too
deep comes after it. -/
theorem readItems_tooDeep : ∀ (items : List Json) (rest : List Char) {first : Bool}
    {text : List Char} {fuel depth : Nat}, SpellsItems first items text → UniqueKeysItems items →
    depth < nestingItems items → 4 * text.length ≤ fuel →
    ∃ drafts ending, readItems fuel depth first (text ++ rest) = (drafts, ending, none) ∧
      decodeValues drafts = .error (.malformed .tooDeep)
  | item :: others, rest, first, text, fuel, depth, spells, unique, deep, enough => by
    obtain ⟨contents, more, hspells, hmore, hlength, hread⟩ := spells.readItems_cons
    have hcontents := hspells.length_pos
    have hclosed := hmore.length_pos
    obtain ⟨fuel, rfl⟩ : ∃ less, fuel = less + 2 := ⟨fuel - 2, by omega⟩
    rw [nestingItems] at deep
    by_cases hfirst : depth < item.nesting
    · obtain ⟨draft, hvalue, hdraft⟩ := readValue_tooDeep item (more ++ rest) hspells
        unique.1 hfirst (show _ ≤ fuel by omega)
      refine ⟨[draft], .broken .endInList, by rw [hread, hvalue], ?_⟩
      rw [decodeValues, hdraft]
      rfl
    · have hvalue : readValue fuel depth (contents ++ (more ++ rest)) =
          (item.asRead, some (more ++ rest)) :=
        readValue_spells item hspells (by omega) (hmore.stops rest) (by omega)
      obtain ⟨drafts, ending, hothers, hdrafts⟩ := readItems_tooDeep others rest hmore
        unique.2 (show depth < _ by omega) (show _ ≤ fuel by omega)
      refine ⟨item.asRead :: drafts, ending, by rw [hread, hvalue]; simp [hothers], ?_⟩
      rw [decodeValues, decodeValue_asRead item unique.1, hdrafts]
      rfl

/-- `readValue_tooDeep` for members. -/
theorem readMembers_tooDeep : ∀ (members : List (String × Json)) (rest : List Char)
    {first : Bool} {text : List Char} {fuel depth : Nat}, SpellsMembers first members text →
    UniqueKeysMembers members → depth < nestingMembers members → 4 * text.length ≤ fuel →
    ∃ drafts ending, readMembers fuel depth first (text ++ rest) = (drafts, ending, none) ∧
      decodeMembers drafts = .error (.malformed .tooDeep)
  | (key, value) :: others, rest, first, text, fuel, depth, spells, unique, deep, enough => by
    obtain ⟨contents, more, hspells, hmore, hlength, hread⟩ := spells.readMembers_cons
    have hcontents := hspells.length_pos
    have hclosed := hmore.length_pos
    obtain ⟨fuel, rfl⟩ : ∃ less, fuel = less + 2 := ⟨fuel - 2, by omega⟩
    rw [nestingMembers] at deep
    by_cases hfirst : depth < value.nesting
    · obtain ⟨draft, hvalue, hdraft⟩ := readValue_tooDeep value (more ++ rest) hspells
        unique.1 hfirst (show _ ≤ fuel by omega)
      refine ⟨[(key, draft)], .broken .endInObject, by rw [hread, hvalue], ?_⟩
      rw [decodeMembers, hdraft]
      rfl
    · have hvalue : readValue fuel depth (contents ++ (more ++ rest)) =
          (value.asRead, some (more ++ rest)) :=
        readValue_spells value hspells (by omega) (hmore.stops rest) (by omega)
      obtain ⟨drafts, ending, hothers, hdrafts⟩ := readMembers_tooDeep others rest hmore
        unique.2 (show depth < _ by omega) (show _ ≤ fuel by omega)
      refine ⟨(key, value.asRead) :: drafts, ending, by rw [hread, hvalue]; simp [hothers], ?_⟩
      rw [decodeMembers, decodeValue_asRead value unique.1, hdrafts]
      rfl

end

/-! ### Whole texts -/

/-- What a text is parsed as, given the draft that it starts with and the text after that. -/
def concluded : Draft × Option (List Char) → Decoded Json
  | (root, none) => (⟨root, none⟩ : Reading).decode decodeValue
  | (root, some rest) =>
    let fault := if (skipBlanks rest).isEmpty then none else some .trailingCharacters
    (⟨root, fault⟩ : Reading).decode decodeValue

/-- A text is parsed character by character. -/
theorem parse_ofList (chars : List Char) : parse (String.ofList chars) =
    concluded (readValue (4 * chars.length + 4) depthLimit chars) := by
  rw [parse, decodeText, read, String.toList_ofList]
  rcases readValue (4 * chars.length + 4) depthLimit chars with ⟨root, _ | rest⟩ <;> rfl

/-- A spelling of a value that fits is read to its end, and so are blanks after it. -/
theorem read_spells_blanks {value : Json} {text blanks : List Char} (spells : Spells value text)
    (fits : value.nesting ≤ depthLimit) (hblanks : Blanks blanks) :
    read (String.ofList (text ++ blanks)) = ⟨value.asRead, none⟩ := by
  have hlength : 4 * text.length ≤ 4 * (text ++ blanks).length + 4 := by
    rw [List.length_append]
    omega
  have hread : readValue (4 * (text ++ blanks).length + 4) depthLimit (text ++ blanks) =
      (value.asRead, some blanks) :=
    readValue_spells value spells fits (stops_blanks hblanks) hlength
  have hrest : skipBlanks blanks = [] := by
    rw [← List.append_nil blanks, skipBlanks_append hblanks]
    rfl
  simp only [read, String.toList_ofList, hread, hrest, List.isEmpty_nil, if_true]

/-- A spelling of a value that fits is read to its end. -/
theorem read_spells {value : Json} {text : List Char} (spells : Spells value text)
    (fits : value.nesting ≤ depthLimit) : read (String.ofList text) = ⟨value.asRead, none⟩ := by
  rw [← List.append_nil text]
  exact read_spells_blanks spells fits (List.forall_mem_nil _)

/-- A spelling of a value that is too deep is refused. -/
theorem parse_spells_tooDeep {value : Json} {text : List Char} (spells : Spells value text)
    (unique : value.UniqueKeys) (deep : depthLimit < value.nesting) :
    parse (String.ofList text) = .error (.malformed .tooDeep) := by
  obtain ⟨draft, hread, hdraft⟩ := readValue_tooDeep value [] spells unique deep
    (show _ ≤ 4 * text.length + 4 by omega)
  rw [List.append_nil] at hread
  rw [parse_ofList, hread, concluded, Reading.decode, hdraft]
  rfl

end PageCheck.Json
