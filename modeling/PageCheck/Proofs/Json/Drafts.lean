import PageCheck.Proofs.Json.Legible
import PageCheck.Proofs.Json.Records

/-!
# Drafts and what is decoded from them

However a text goes wrong, no more containers are open at once in what is read of it than the reader
allows. A draft without faults is decoded as a value that is nested as deep as the draft at most and
has no other numbers; keys that the draft repeats are repeated no more. So if the numbers of a
draft are integers, what is decoded from it can be read back once it is written.
-/

namespace PageCheck.Json

/-! ### Numbers and depth -/

namespace Draft

mutual

/-- The numbers of a draft in document order. -/
def numbers : Draft → List Number
  | .number n => [n]
  | .array items _ => numbersItems items
  | .object members _ => numbersMembers members
  | _ => []

/-- The numbers of the items of an array. -/
def numbersItems : List Draft → List Number
  | [] => []
  | item :: rest => item.numbers ++ numbersItems rest

/-- The numbers of the values of an object. -/
def numbersMembers : List (String × Draft) → List Number
  | [] => []
  | (_, value) :: rest => value.numbers ++ numbersMembers rest

end

/-- The numbers of an array are those of its items. -/
theorem numbersItems_eq_flatMap (items : List Draft) :
    numbersItems items = items.flatMap numbers := by
  induction items with
  | nil => rfl
  | cons item rest ih => rw [numbersItems, ih, List.flatMap_cons]

/-- The numbers of an object are those of its members' values. -/
theorem numbersMembers_eq_flatMap (members : List (String × Draft)) :
    numbersMembers members = members.flatMap (·.2.numbers) := by
  induction members with
  | nil => rfl
  | cons member rest ih => rw [numbersMembers, ih, List.flatMap_cons]

/-- The numbers of an item are numbers of the array. -/
theorem numbers_subset_items {items : List Draft} {item : Draft} (mem : item ∈ items) :
    item.numbers ⊆ numbersItems items := by
  rw [numbersItems_eq_flatMap]
  exact fun n hn => List.mem_flatMap.mpr ⟨item, mem, hn⟩

/-- The numbers of a member's value are numbers of the object. -/
theorem numbers_subset_members {members : List (String × Draft)} {member : String × Draft}
    (mem : member ∈ members) : member.2.numbers ⊆ numbersMembers members := by
  rw [numbersMembers_eq_flatMap]
  exact fun n hn => List.mem_flatMap.mpr ⟨member, mem, hn⟩

/-- A draft in which at most `depth` containers are open at once. -/
inductive Within : Nat → Draft → Prop
  | fault {depth : Nat} (fault : Fault) : Within depth (.fault fault)
  | null {depth : Nat} : Within depth .null
  | bool {depth : Nat} (value : Bool) : Within depth (.bool value)
  | number {depth : Nat} (n : Number) : Within depth (.number n)
  | string {depth : Nat} (value : String) : Within depth (.string value)
  | array {depth : Nat} {items : List Draft} {ending : Ending}
      (contents : ∀ item ∈ items, Within depth item) : Within (depth + 1) (.array items ending)
  | object {depth : Nat} {members : List (String × Draft)} {ending : Ending}
      (contents : ∀ member ∈ members, Within depth member.2) :
      Within (depth + 1) (.object members ending)

end Draft

/-! ### Reading -/

/-- A property of drafts, by the number of containers that may be open at once, that whatever is
read of a text has. -/
structure Draft.Readable (kept : Nat → Draft → Prop) : Prop where
  /-- A fault has it. -/
  fault : ∀ {depth : Nat} (fault : Fault), kept depth (.fault fault)
  /-- Null has it. -/
  null : ∀ {depth : Nat}, kept depth .null
  /-- Truth values have it. -/
  bool : ∀ {depth : Nat} (value : Bool), kept depth (.bool value)
  /-- Numbers that are read have it. -/
  number : ∀ {depth : Nat} {negative : Bool} {text rest : List Char} {n : Number},
    readNumber negative text = .ok (n, rest) → kept depth (.number n)
  /-- Strings have it. -/
  string : ∀ {depth : Nat} (value : String), kept depth (.string value)
  /-- Arrays have it if their items do with one container less. -/
  array : ∀ {depth : Nat} {items : List Draft} {ending : Ending},
    (∀ item ∈ items, kept depth item) → kept (depth + 1) (.array items ending)
  /-- Objects have it if the values of their members do with one container less. -/
  object : ∀ {depth : Nat} {members : List (String × Draft)} {ending : Ending},
    (∀ member ∈ members, kept depth member.2) → kept (depth + 1) (.object members ending)

section

variable {kept : Nat → Draft → Prop}

/-- What is read in place of a word has the property if the value of the word does. -/
theorem kept_readWord (readable : Draft.Readable kept) {depth : Nat} {value : Draft}
    (held : kept depth value) (word text : List Char) :
    kept depth (readWord value word text).1 := by
  induction word generalizing text with
  | nil => exact held
  | cons expected more ih =>
    cases text with
    | nil => exact readable.fault _
    | cons c rest =>
      rw [readWord]
      split
      · exact ih rest
      · exact readable.fault _

variable {fuel : Nat}

/-- A value has the property if the parts of its containers do with one container less. -/
theorem kept_readValue (readable : Draft.Readable kept)
    (items : ∀ depth first text, ∀ item ∈ (readItems fuel depth first text).1, kept depth item)
    (members : ∀ depth first text, ∀ member ∈ (readMembers fuel depth first text).1,
      kept depth member.2)
    (depth : Nat) (text : List Char) : kept depth (readValue (fuel + 1) depth text).1 := by
  rw [readValue]
  split
  · exact readable.fault _
  next c rest _ =>
    split_ifs
    · exact kept_readWord readable readable.null _ _
    · exact kept_readWord readable (readable.bool true) _ _
    · exact kept_readWord readable (readable.bool false) _ _
    · split
      · exact readable.string _
      · exact readable.fault _
    · split
      · exact readable.fault _
      · exact readable.array (items _ _ _)
    · split
      · exact readable.fault _
      · exact readable.object (members _ _ _)
    · split
      next n _ hread => exact readable.number hread
      next => exact readable.fault _
    · split
      next n _ hread => exact readable.number hread
      next => exact readable.fault _
    · exact readable.fault _

/-- Items have the property if they do from the place on where the first of them starts. -/
theorem kept_readItems
    (items : ∀ depth text, ∀ item ∈ (readItemsFrom fuel depth text).1, kept depth item)
    (depth : Nat) (first : Bool) (text : List Char) :
    ∀ item ∈ (readItems (fuel + 1) depth first text).1, kept depth item := by
  rw [readItems]
  split
  · exact List.forall_mem_nil _
  · split_ifs
    · exact List.forall_mem_nil _
    · exact items _ _
    · split
      · exact List.forall_mem_nil _
      · split_ifs
        · exact List.forall_mem_nil _
        · exact items _ _
    · exact List.forall_mem_nil _

/-- Items have the property if the first of them and those after it do. -/
theorem kept_readItemsFrom (value : ∀ depth text, kept depth (readValue fuel depth text).1)
    (items : ∀ depth first text, ∀ item ∈ (readItems fuel depth first text).1, kept depth item)
    (depth : Nat) (text : List Char) :
    ∀ item ∈ (readItemsFrom (fuel + 1) depth text).1, kept depth item := by
  have hvalue := value depth text
  rw [readItemsFrom]
  split
  next item hread =>
    rw [hread] at hvalue
    exact List.forall_mem_singleton.mpr hvalue
  next item rest hread =>
    rw [hread] at hvalue
    exact List.forall_mem_cons.mpr ⟨hvalue, items depth false rest⟩

/-- The values of members have the property if they do from the place on where the first member
starts. -/
theorem kept_readMembers
    (members : ∀ depth text, ∀ member ∈ (readMembersFrom fuel depth text).1, kept depth member.2)
    (depth : Nat) (first : Bool) (text : List Char) :
    ∀ member ∈ (readMembers (fuel + 1) depth first text).1, kept depth member.2 := by
  rw [readMembers]
  split
  · exact List.forall_mem_nil _
  · split_ifs
    · exact List.forall_mem_nil _
    · exact members _ _
    · exact List.forall_mem_nil _
    · split
      · exact List.forall_mem_nil _
      · split_ifs
        · exact members _ _
        · exact List.forall_mem_nil _
        · exact List.forall_mem_nil _
    · exact List.forall_mem_nil _

/-- The values of members have the property if that of the first member and those after it do. -/
theorem kept_readMembersFrom (readable : Draft.Readable kept)
    (value : ∀ depth text, kept depth (readValue fuel depth text).1)
    (members : ∀ depth first text, ∀ member ∈ (readMembers fuel depth first text).1,
      kept depth member.2)
    (depth : Nat) (text : List Char) :
    ∀ member ∈ (readMembersFrom (fuel + 1) depth text).1, kept depth member.2 := by
  rw [readMembersFrom]
  split
  · exact List.forall_mem_nil _
  · dsimp only
    split
    · exact List.forall_mem_singleton.mpr (readable.fault _)
    · split_ifs
      · split
        next held hread =>
          exact List.forall_mem_singleton.mpr (hread ▸ value depth _ :)
        next held rest hread =>
          exact List.forall_mem_cons.mpr ⟨(hread ▸ value depth _ :), members depth false rest⟩
      · exact List.forall_mem_singleton.mpr (readable.fault _)

/-- What is read of a text has the property for the depth that its reader is given. -/
theorem kept_read (readable : Draft.Readable kept) (fuel : Nat) :
    (∀ depth text, kept depth (readValue fuel depth text).1) ∧
    (∀ depth first text, ∀ item ∈ (readItems fuel depth first text).1, kept depth item) ∧
    (∀ depth text, ∀ item ∈ (readItemsFrom fuel depth text).1, kept depth item) ∧
    (∀ depth first text, ∀ member ∈ (readMembers fuel depth first text).1,
      kept depth member.2) ∧
    (∀ depth text, ∀ member ∈ (readMembersFrom fuel depth text).1, kept depth member.2) := by
  induction fuel with
  | zero =>
    simp only [readValue, readItems, readItemsFrom, readMembers, readMembersFrom]
    exact ⟨fun _ _ => readable.fault _, fun _ _ _ => List.forall_mem_nil _,
      fun _ _ => List.forall_mem_nil _, fun _ _ _ => List.forall_mem_nil _,
      fun _ _ => List.forall_mem_nil _⟩
  | succ fuel ih =>
    obtain ⟨hvalue, hitems, hitemsFrom, hmembers, hmembersFrom⟩ := ih
    exact ⟨kept_readValue readable hitems hmembers, kept_readItems hitemsFrom,
      kept_readItemsFrom hvalue hitems, kept_readMembers hmembersFrom,
      kept_readMembersFrom readable hvalue hmembers⟩

/-- What a text is read as has the property for the limit. -/
theorem kept_root (readable : Draft.Readable kept) (text : String) :
    kept depthLimit (read text).root := by
  have hvalue := (kept_read readable (4 * text.toList.length + 4)).1 depthLimit text.toList
  rw [read]
  split
  next root hread => exact (hread ▸ hvalue :)
  next root rest hread => exact (hread ▸ hvalue :)

end

/-- How deep a draft is nested is such a property. -/
theorem readable_within : Draft.Readable Draft.Within :=
  ⟨.fault, .null, .bool, fun _ => .number _, .string, .array, .object⟩

/-- No text is read as containers that are nested beyond the limit. -/
theorem within_root (text : String) : (read text).root.Within depthLimit :=
  kept_root readable_within text

/-! ### Decoding -/

/-- A draft whose numbers are integers and in which at most `depth` containers are open at once. -/
structure Draft.Fits (depth : Nat) (draft : Draft) : Prop where
  /-- The containers. -/
  within : Within depth draft
  /-- The numbers. -/
  integral : ∀ n ∈ draft.numbers, n.Integral

namespace Draft.Fits

variable {depth : Nat} {ending : Ending}

/-- The items of a draft that fits do so with one container less. -/
theorem items {items : List Draft} (fits : Fits (depth + 1) (.array items ending)) :
    ∀ item ∈ items, Fits depth item := by
  intro item hmem
  cases fits.within with
  | array contents =>
    exact ⟨contents item hmem, fun n hn => fits.integral n (numbers_subset_items hmem hn)⟩

/-- So do the values of its members. -/
theorem members {members : List (String × Draft)}
    (fits : Fits (depth + 1) (.object members ending)) :
    ∀ member ∈ members, Fits depth member.2 := by
  intro member hmem
  cases fits.within with
  | object contents =>
    exact ⟨contents member hmem, fun n hn => fits.integral n (numbers_subset_members hmem hn)⟩

end Draft.Fits

mutual

/-- Any value that is decoded from a draft that fits is legible. -/
theorem legible_decodeValue : ∀ {draft : Draft} {depth : Nat} {value : Json}, draft.Fits depth →
    decodeValue draft = .ok value → Legible depth value
  | .fault _, _, _, _, decoded => by
    rw [decodeValue] at decoded
    cases decoded
  | .null, _, _, _, decoded => by
    rw [decodeValue] at decoded
    cases decoded
    exact .null
  | .bool value, _, _, _, decoded => by
    rw [decodeValue] at decoded
    cases decoded
    exact .bool value
  | .number n, _, _, fits, decoded => by
    rw [decodeValue] at decoded
    cases decoded
    exact .number (fits.integral n (List.mem_singleton_self n))
  | .string value, _, _, _, decoded => by
    rw [decodeValue] at decoded
    cases decoded
    exact .string value
  | .array _ _, 0, _, fits, _ | .object _ _, 0, _, fits, _ => nomatch fits.within
  | .array _ _, _ + 1, _, fits, decoded => by
    rw [decodeValue] at decoded
    obtain ⟨values, hvalues, hrest⟩ := ok_of_bind decoded
    obtain ⟨_, _, hvalue⟩ := ok_of_bind hrest
    cases hvalue
    exact .array (legible_decodeValues fits.items hvalues)
  | .object _ _, _ + 1, _, fits, decoded => by
    rw [decodeValue] at decoded
    obtain ⟨values, hvalues, hrest⟩ := ok_of_bind decoded
    obtain ⟨_, _, hvalue⟩ := ok_of_bind hrest
    cases hvalue
    exact .ofList (legible_decodeMembers fits.members hvalues)

/-- `legible_decodeValue` for items. -/
theorem legible_decodeValues : ∀ {items : List Draft} {depth : Nat} {values : List Json},
    (∀ item ∈ items, item.Fits depth) → decodeValues items = .ok values →
    ∀ value ∈ values, Legible depth value
  | [], _, _, _, decoded => by
    rw [decodeValues] at decoded
    cases decoded
    exact List.forall_mem_nil _
  | item :: rest, _, _, fits, decoded => by
    rw [decodeValues] at decoded
    obtain ⟨first, hfirst, hrest⟩ := ok_of_bind decoded
    obtain ⟨others, hothers, hvalues⟩ := ok_of_bind hrest
    cases hvalues
    obtain ⟨hitem, hitems⟩ := List.forall_mem_cons.mp fits
    exact List.forall_mem_cons.mpr
      ⟨legible_decodeValue hitem hfirst, legible_decodeValues hitems hothers⟩

/-- `legible_decodeValue` for the values of members. -/
theorem legible_decodeMembers : ∀ {members : List (String × Draft)} {depth : Nat}
    {values : List (String × Json)}, (∀ member ∈ members, member.2.Fits depth) →
    decodeMembers members = .ok values → ∀ member ∈ values, Legible depth member.2
  | [], _, _, _, decoded => by
    rw [decodeMembers] at decoded
    cases decoded
    exact List.forall_mem_nil _
  | (key, value) :: rest, _, _, fits, decoded => by
    rw [decodeMembers] at decoded
    obtain ⟨first, hfirst, hrest⟩ := ok_of_bind decoded
    obtain ⟨others, hothers, hvalues⟩ := ok_of_bind hrest
    cases hvalues
    obtain ⟨hmember, hmembers⟩ := List.forall_mem_cons.mp fits
    exact List.forall_mem_cons.mpr
      ⟨legible_decodeValue hmember hfirst, legible_decodeMembers hmembers hothers⟩

end

/-- Any object that is decoded from a draft that fits is legible. -/
theorem legible_decodeMap {draft : Draft} {depth : Nat} {members : Members}
    (fits : draft.Fits (depth + 1)) (decoded : decodeMap draft = .ok members) :
    Legible (depth + 1) (.object members) := by
  cases draft with
  | object drafts ending =>
    obtain ⟨values, hvalues, hrest⟩ := ok_of_bind decoded
    obtain ⟨_, _, hmembers⟩ := ok_of_bind hrest
    cases hmembers
    exact .ofList (legible_decodeMembers fits.members hvalues)
  | _ => cases decoded

namespace Draft.Fits

variable {depth : Nat} {draft : Draft}

/-- The parts of a draft that fits do so with one container less. -/
theorem parts (fits : draft.Fits (depth + 1)) : ∀ part ∈ draft.parts, part.Fits depth := by
  cases draft with
  | array items ending => exact fits.items
  | object members ending => exact List.forall_mem_map.mpr fits.members
  | _ => exact List.forall_mem_nil _

/-- What every field of a record keeps, from values with one container less, is kept by the whole
record. -/
theorem kept_decodeRecord {σ : Type} {shape : Shape} {step : σ → String → Draft → Decoded σ}
    {kept : σ → Prop} (fits : draft.Fits (depth + 1))
    (keeps : ∀ {state next key value}, kept state → value.Fits depth →
      step state key value = .ok next → kept next)
    {start final : σ} (decoded : decodeRecord shape start step draft = .ok final)
    (initial : kept start) : kept final :=
  Json.kept_decodeRecord keeps fits.parts decoded initial

/-- What is kept of every item, with one container less, is kept of each value of a list. -/
theorem kept_decodeList {α : Type} {decode : Decoder α} {kept : α → Prop}
    (fits : draft.Fits (depth + 1))
    (keeps : ∀ {item value}, item.Fits depth → decode item = .ok value → kept value)
    {values : List α} (decoded : decodeList decode draft = .ok values) :
    ∀ value ∈ values, kept value :=
  Json.kept_decodeList keeps fits.parts decoded

end Draft.Fits

end PageCheck.Json
