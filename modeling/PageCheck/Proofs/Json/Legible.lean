import PageCheck.Proofs.Json.Parsing

/-!
# Legible values

A value is legible inside a text in which `depth` containers may open if no more of its own are open
at once, no object of it repeats a key and its numbers are integers of the exact range. Both texts
of a legible value are read back as the value. Minus zero counts as an integer here: that is how a
text writes it, though it is kept as a double and written as one from then on.
-/

namespace PageCheck

open Decimal (Double)

/-- Whether a number is what an integer of the exact range is read as. -/
def Number.Integral : Number → Prop
  | .integer n => Json.InRange n
  | .double x => x = Double.zero true

namespace Json

/-- A value that can be read back from a text in which `depth` containers may open. -/
inductive Legible : Nat → Json → Prop
  | null {depth : Nat} : Legible depth .null
  | bool {depth : Nat} (value : Bool) : Legible depth (.bool value)
  | number {depth : Nat} {n : Number} (integral : n.Integral) : Legible depth (.number n)
  | string {depth : Nat} (value : String) : Legible depth (.string value)
  | array {depth : Nat} {items : List Json} (contents : ∀ item ∈ items, Legible depth item) :
      Legible (depth + 1) (.array items)
  | object {depth : Nat} {members : Members} (keys : members.keys.Nodup)
      (contents : ∀ member ∈ members, Legible depth member.2) :
      Legible (depth + 1) (.object members)

/-! ### Parts -/

/-- No item of a list repeats a key if none of them does. -/
theorem UniqueKeysItems.of_forall {items : List Json}
    (unique : ∀ item ∈ items, item.UniqueKeys) : UniqueKeysItems items := by
  induction items with
  | nil => trivial
  | cons item rest ih =>
    obtain ⟨hitem, hrest⟩ := List.forall_mem_cons.mp unique
    exact ⟨hitem, ih hrest⟩

/-- No value of a list of members repeats a key if none of them does. -/
theorem UniqueKeysMembers.of_forall {members : Members}
    (unique : ∀ member ∈ members, member.2.UniqueKeys) : UniqueKeysMembers members := by
  induction members with
  | nil => trivial
  | cons member rest ih =>
    obtain ⟨hmember, hrest⟩ := List.forall_mem_cons.mp unique
    exact ⟨hmember, ih hrest⟩

/-- Items are nested as deep as the deepest of them. -/
theorem nestingItems_le {items : List Json} {depth : Nat}
    (fits : ∀ item ∈ items, item.nesting ≤ depth) : nestingItems items ≤ depth := by
  induction items with
  | nil => exact Nat.zero_le depth
  | cons item rest ih =>
    obtain ⟨hitem, hrest⟩ := List.forall_mem_cons.mp fits
    exact Nat.max_le.mpr ⟨hitem, ih hrest⟩

/-- Members are nested as deep as the deepest of their values. -/
theorem nestingMembers_le {members : Members} {depth : Nat}
    (fits : ∀ member ∈ members, member.2.nesting ≤ depth) : nestingMembers members ≤ depth := by
  induction members with
  | nil => exact Nat.zero_le depth
  | cons member rest ih =>
    obtain ⟨hmember, hrest⟩ := List.forall_mem_cons.mp fits
    exact Nat.max_le.mpr ⟨hmember, ih hrest⟩

namespace Legible

variable {depth : Nat} {value : Json}

/-- No object in a legible value repeats a key. -/
theorem unique (legible : Legible depth value) : value.UniqueKeys := by
  induction legible with
  | array _ ih => exact UniqueKeysItems.of_forall ih
  | object keys _ ih => exact ⟨keys, UniqueKeysMembers.of_forall ih⟩
  | _ => trivial

/-- No more containers of a legible value are open at once than may be. -/
theorem nesting_le (legible : Legible depth value) : value.nesting ≤ depth := by
  induction legible with
  | array _ ih => exact Nat.succ_le_succ (nestingItems_le ih)
  | object _ _ ih => exact Nat.succ_le_succ (nestingMembers_le ih)
  | _ => exact Nat.zero_le _

/-! ### Building objects -/

/-- An object without members. -/
theorem empty (depth : Nat) : Legible (depth + 1) (.object []) :=
  .object List.nodup_nil (List.forall_mem_nil _)

/-- An object stays legible when a key is set to a value that is legible inside it. -/
theorem insert {members : Members} (legible : Legible (depth + 1) (.object members))
    (key : String) (inside : Legible depth value) :
    Legible (depth + 1) (.object (members.insert key value)) := by
  cases legible with
  | object keys contents =>
    have hkeys := Members.nodup_keys_insert keys key value
    refine .object hkeys ?_
    rintro ⟨other, held⟩ hmem
    have hheld := Members.get?_eq_some_of_mem hkeys hmem
    rw [Members.get?_insert] at hheld
    split at hheld
    · exact Option.some.inj hheld ▸ inside
    · exact contents _ (Members.mem_of_get?_eq_some hheld)

/-- Members that may repeat keys make a legible object if their values are legible inside it. -/
theorem ofList {members : Members} (contents : ∀ member ∈ members, Legible depth member.2) :
    Legible (depth + 1) (.object (Members.ofList members)) := by
  rw [Members.ofList]
  exact List.foldlRecOn (motive := fun object => Legible (depth + 1) (.object object)) members _
    (empty depth) fun _ object member mem => object.insert member.1 (contents member mem)

/-! ### Texts -/

/-- A number that is an integer is spelled as it is written. -/
theorem spells_writeNumber {n : Number} (integral : n.Integral) :
    Spells (.number n) (writeNumber n) := by
  cases n with
  | integer n => exact .integer integral
  | double x =>
    obtain rfl : x = Double.zero true := integral
    exact .minusZero

/-- The compact text of a legible value spells it. -/
theorem spells_write (legible : Legible depth value) : Spells value value.write := by
  induction legible with
  | null => exact .null
  | bool value =>
    cases value with
    | true => exact .holds
    | false => exact .fails
  | number integral => exact spells_writeNumber integral
  | string value => exact .string value
  | array _ ih => exact .write_array ih
  | object _ _ ih => exact .write_object ih

/-- So does its indented text, wherever the indentation starts. -/
theorem spells_writeIndented (legible : Legible depth value) (indent : Nat) :
    Spells value (writeIndented indent value) := by
  induction legible generalizing indent with
  | null => exact .null
  | bool value =>
    cases value with
    | true => exact .holds
    | false => exact .fails
  | number integral => exact spells_writeNumber integral
  | string value => exact .string value
  | array _ ih => exact .writeIndented_array fun item hmem => ih item hmem (indent + 1)
  | object _ _ ih => exact .writeIndented_object fun member hmem => ih member hmem (indent + 1)

/-- Both texts of a legible value that fits are read to their ends, and so are blanks after them. -/
theorem read_append_of_mem (legible : Legible depthLimit value) {text : String}
    (written : text ∈ [value.text, value.prettyText]) {blanks : List Char}
    (hblanks : Blanks blanks) : read (text ++ String.ofList blanks) = ⟨value.asRead, none⟩ := by
  rcases List.mem_pair.mp written with rfl | rfl
  · rw [Json.text, ← String.ofList_append]
    exact read_spells_blanks legible.spells_write legible.nesting_le hblanks
  · rw [Json.prettyText, ← String.ofList_append]
    exact read_spells_blanks (legible.spells_writeIndented 0) legible.nesting_le hblanks

/-- Both texts of a legible value that fits are read to their ends. -/
theorem read_of_mem (legible : Legible depthLimit value) {text : String}
    (written : text ∈ [value.text, value.prettyText]) : read text = ⟨value.asRead, none⟩ := by
  have hread : read (text ++ String.ofList []) = ⟨value.asRead, none⟩ :=
    legible.read_append_of_mem written (List.forall_mem_nil _)
  rwa [String.ofList_nil, String.append_empty] at hread

/-- They are decoded as what the value was written from. -/
theorem decodeText_of_mem {α : Type} {decode : Decoder α} {encoded : α}
    (legible : Legible depthLimit value) (decodes : decode value.asRead = .ok encoded)
    {text : String} (written : text ∈ [value.text, value.prettyText]) :
    decodeText decode text = .ok encoded := by
  rw [decodeText, legible.read_of_mem written, Reading.decode, decodes]
  rfl

end Legible

end Json

end PageCheck
