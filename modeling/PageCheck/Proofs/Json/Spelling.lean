import PageCheck.Json.Writer

/-!
# Spellings of JSON values

A text spells a value if it is the value's text with any blanks between its parts. Strings are
spelled as they are written, and so are integers within the exact range and minus zero; for other
numbers there is no spelling here. The compact and the indented text of a container are two of its
spellings as soon as those of its parts are.
-/

namespace PageCheck.Json

open Decimal (Double)

/-- Whether a character may stand between the parts of a text. -/
def isGap (c : Char) : Bool := c == ' ' || c == '\n' || c == '\t' || c == '\r'

/-- Characters that may stand between the parts of a text. -/
def Blanks (chars : List Char) : Prop := ∀ c ∈ chars, isGap c = true

/-- The range within which integers are exact. -/
def InRange (n : Int) : Prop := -((Nat.pow 2 63 : Nat) : Int) ≤ n ∧ n < (Nat.pow 2 64 : Nat)

mutual

/-- The texts of a value, from its first character to its last one. -/
inductive Spells : Json → List Char → Prop
  | null : Spells .null ['n', 'u', 'l', 'l']
  | holds : Spells (.bool true) ['t', 'r', 'u', 'e']
  | fails : Spells (.bool false) ['f', 'a', 'l', 's', 'e']
  | integer {n : Int} (inRange : InRange n) :
      Spells (.number (.integer n)) (toString n).toList
  | minusZero : Spells (.number (.double (Double.zero true))) ['-', '0', '.', '0']
  | string (value : String) : Spells (.string value) (writeString value)
  | array {items : List Json} {text : List Char} (contents : SpellsItems true items text) :
      Spells (.array items) ('[' :: text)
  | object {members : List (String × Json)} {text : List Char}
      (contents : SpellsMembers true members text) : Spells (.object members) ('{' :: text)

/-- The texts of items and the closing bracket after them. Before the first item of an array there
is no comma. -/
inductive SpellsItems : Bool → List Json → List Char → Prop
  | close {first : Bool} {blanks : List Char} (hblanks : Blanks blanks) :
      SpellsItems first [] (blanks ++ [']'])
  | first {item : Json} {rest : List Json} {blanks text more : List Char}
      (hblanks : Blanks blanks) (value : Spells item text)
      (others : SpellsItems false rest more) :
      SpellsItems true (item :: rest) (blanks ++ (text ++ more))
  | next {item : Json} {rest : List Json} {before after text more : List Char}
      (hbefore : Blanks before) (hafter : Blanks after) (value : Spells item text)
      (others : SpellsItems false rest more) :
      SpellsItems false (item :: rest) (before ++ ',' :: (after ++ (text ++ more)))

/-- The texts of members and the closing brace after them. Before the first member of an object
there is no comma. -/
inductive SpellsMembers : Bool → List (String × Json) → List Char → Prop
  | close {first : Bool} {blanks : List Char} (hblanks : Blanks blanks) :
      SpellsMembers first [] (blanks ++ ['}'])
  | first {key : String} {value : Json} {rest : List (String × Json)}
      {blanks text more : List Char} (hblanks : Blanks blanks)
      (member : SpellsMember key value text) (others : SpellsMembers false rest more) :
      SpellsMembers true ((key, value) :: rest) (blanks ++ (text ++ more))
  | next {key : String} {value : Json} {rest : List (String × Json)}
      {before after text more : List Char} (hbefore : Blanks before) (hafter : Blanks after)
      (member : SpellsMember key value text) (others : SpellsMembers false rest more) :
      SpellsMembers false ((key, value) :: rest) (before ++ ',' :: (after ++ (text ++ more)))

/-- The texts of a member. -/
inductive SpellsMember : String → Json → List Char → Prop
  | colon {key : String} {value : Json} {before after text : List Char} (hbefore : Blanks before)
      (hafter : Blanks after) (contents : Spells value text) :
      SpellsMember key value (writeString key ++ (before ++ ':' :: (after ++ text)))

end

mutual

/-- Whether every number of a value is an integer within the exact range. -/
def Exact : Json → Prop
  | .number (.integer n) => InRange n
  | .number (.double _) => False
  | .array items => ExactItems items
  | .object members => ExactMembers members
  | _ => True

/-- `Exact` of every item. -/
def ExactItems : List Json → Prop
  | [] => True
  | item :: rest => item.Exact ∧ ExactItems rest

/-- `Exact` of every member's value. -/
def ExactMembers : List (String × Json) → Prop
  | [] => True
  | (_, value) :: rest => value.Exact ∧ ExactMembers rest

end

@[simp]
theorem blanks_nil : Blanks [] := by simp [Blanks]

@[simp]
theorem blanks_blank : Blanks [' '] := by simp [Blanks, isGap]

/-- A new line and its indentation are blanks. -/
@[simp]
theorem blanks_lineStart (depth : Nat) : Blanks (lineStart depth) := by
  intro c hc
  rcases List.mem_cons.mp hc with rfl | hspace
  · rfl
  · rw [List.eq_of_mem_replicate hspace]
    rfl

/-! ### Compact texts -/

/-- The compact text of items after the first one. -/
theorem spellsItems_writeMoreItems {items : List Json}
    (spelled : ∀ item ∈ items, Spells item item.write) :
    SpellsItems false items (writeMoreItems items) := by
  induction items with
  | nil => exact .close blanks_nil
  | cons item rest ih =>
    obtain ⟨hitem, hrest⟩ := List.forall_mem_cons.mp spelled
    exact .next blanks_nil blanks_nil hitem (ih hrest)

/-- The compact text of an array spells it if those of its items do. -/
theorem Spells.write_array {items : List Json}
    (spelled : ∀ item ∈ items, Spells item item.write) :
    Spells (.array items) (write (.array items)) := by
  cases items with
  | nil => exact .array (.close blanks_nil)
  | cons item rest =>
    obtain ⟨hitem, hrest⟩ := List.forall_mem_cons.mp spelled
    exact .array (.first blanks_nil hitem (spellsItems_writeMoreItems hrest))

/-- The compact text of a member. -/
theorem Spells.write_member {value : Json} (spelled : Spells value value.write) (key : String) :
    SpellsMember key value (writeString key ++ ':' :: value.write) :=
  .colon blanks_nil blanks_nil spelled

/-- The compact text of members after the first one. -/
theorem spellsMembers_writeMoreMembers {members : List (String × Json)}
    (spelled : ∀ member ∈ members, Spells member.2 member.2.write) :
    SpellsMembers false members (writeMoreMembers members) := by
  induction members with
  | nil => exact .close blanks_nil
  | cons member rest ih =>
    obtain ⟨key, value⟩ := member
    obtain ⟨hvalue, hrest⟩ := List.forall_mem_cons.mp spelled
    have hmembers := SpellsMembers.next blanks_nil blanks_nil (hvalue.write_member key) (ih hrest)
    simpa [writeMoreMembers] using hmembers

/-- The compact text of an object spells it if those of the values of its members do. -/
theorem Spells.write_object {members : List (String × Json)}
    (spelled : ∀ member ∈ members, Spells member.2 member.2.write) :
    Spells (.object members) (write (.object members)) := by
  cases members with
  | nil => exact .object (.close blanks_nil)
  | cons member rest =>
    obtain ⟨key, value⟩ := member
    obtain ⟨hvalue, hrest⟩ := List.forall_mem_cons.mp spelled
    have hmembers := SpellsMembers.first blanks_nil (hvalue.write_member key)
      (spellsMembers_writeMoreMembers hrest)
    simpa [write, writeMembers] using Spells.object hmembers

/-! ### Indented texts -/

section

variable {depth : Nat}

/-- The indented text of items after the first one. -/
theorem spellsItems_writeIndentedItems {items : List Json}
    (spelled : ∀ item ∈ items, Spells item (writeIndented (depth + 1) item)) :
    SpellsItems false items (writeIndentedItems depth items) := by
  induction items with
  | nil => exact .close (blanks_lineStart depth)
  | cons item rest ih =>
    obtain ⟨hitem, hrest⟩ := List.forall_mem_cons.mp spelled
    have hitems := SpellsItems.next blanks_nil (blanks_lineStart (depth + 1)) hitem (ih hrest)
    simpa [writeIndentedItems] using hitems

/-- The indented text of an array spells it if those of its items do. -/
theorem Spells.writeIndented_array {items : List Json}
    (spelled : ∀ item ∈ items, Spells item (writeIndented (depth + 1) item)) :
    Spells (.array items) (writeIndented depth (.array items)) := by
  cases items with
  | nil => exact .array (.close blanks_nil)
  | cons item rest =>
    obtain ⟨hitem, hrest⟩ := List.forall_mem_cons.mp spelled
    have hitems := SpellsItems.first (blanks_lineStart (depth + 1)) hitem
      (spellsItems_writeIndentedItems hrest)
    simpa [writeIndented] using Spells.array hitems

/-- The indented text of a member. -/
theorem Spells.writeIndented_member {value : Json}
    (spelled : Spells value (writeIndented depth value)) (key : String) :
    SpellsMember key value (writeString key ++ ':' :: ' ' :: writeIndented depth value) :=
  .colon blanks_nil blanks_blank spelled

/-- The indented text of members after the first one. -/
theorem spellsMembers_writeIndentedMembers {members : List (String × Json)}
    (spelled : ∀ member ∈ members, Spells member.2 (writeIndented (depth + 1) member.2)) :
    SpellsMembers false members (writeIndentedMembers depth members) := by
  induction members with
  | nil => exact .close (blanks_lineStart depth)
  | cons member rest ih =>
    obtain ⟨key, value⟩ := member
    obtain ⟨hvalue, hrest⟩ := List.forall_mem_cons.mp spelled
    have hmembers := SpellsMembers.next blanks_nil (blanks_lineStart (depth + 1))
      (hvalue.writeIndented_member key) (ih hrest)
    simpa [writeIndentedMembers] using hmembers

/-- The indented text of an object spells it if those of the values of its members do. -/
theorem Spells.writeIndented_object {members : List (String × Json)}
    (spelled : ∀ member ∈ members, Spells member.2 (writeIndented (depth + 1) member.2)) :
    Spells (.object members) (writeIndented depth (.object members)) := by
  cases members with
  | nil => exact .object (.close blanks_nil)
  | cons member rest =>
    obtain ⟨key, value⟩ := member
    obtain ⟨hvalue, hrest⟩ := List.forall_mem_cons.mp spelled
    have hmembers := SpellsMembers.first (blanks_lineStart (depth + 1))
      (hvalue.writeIndented_member key) (spellsMembers_writeIndentedMembers hrest)
    simpa [writeIndented] using Spells.object hmembers

end

end PageCheck.Json
