import PageCheck.Proofs.Json.Legible

/-!
# Portable values

A value survives being written and parsed if its numbers are exact, no key is repeated and it fits
under the limit on open containers. Values are built so that this can be read off: a container is
portable to one more level than its contents.
-/

namespace PageCheck.Json

/-- A value that survives being written inside a text in which `depth` containers may open. -/
structure Portable (depth : Nat) (value : Json) : Prop where
  /-- Numbers are integers of the exact range. -/
  exact : value.Exact
  /-- No object repeats a key. -/
  unique : value.UniqueKeys
  /-- At most `depth` containers are open at once. -/
  fits : value.nesting ≤ depth

/-- Items are exact if each of them is. -/
theorem ExactItems.of_forall {items : List Json} (exact : ∀ item ∈ items, item.Exact) :
    ExactItems items := by
  induction items with
  | nil => trivial
  | cons item rest ih =>
    obtain ⟨hitem, hrest⟩ := List.forall_mem_cons.mp exact
    exact ⟨hitem, ih hrest⟩

/-- Members are exact if the value of each of them is. -/
theorem ExactMembers.of_forall {members : Members} (exact : ∀ member ∈ members, member.2.Exact) :
    ExactMembers members := by
  induction members with
  | nil => trivial
  | cons member rest ih =>
    obtain ⟨hmember, hrest⟩ := List.forall_mem_cons.mp exact
    exact ⟨hmember, ih hrest⟩

mutual

/-- Exact values without repeated keys are legible where they fit. -/
theorem legible_of_exact : ∀ {value : Json} {depth : Nat}, value.Exact → value.UniqueKeys →
    value.nesting ≤ depth → Legible depth value
  | .null, _, _, _, _ => .null
  | .bool value, _, _, _, _ => .bool value
  | .number (.integer _), _, exact, _, _ => .number exact
  | .string value, _, _, _, _ => .string value
  | .array _, 0, _, _, fits | .object _, 0, _, _, fits => absurd fits (Nat.not_succ_le_zero _)
  | .array _, _ + 1, exact, unique, fits =>
    .array (legibleItems_of_exact exact unique (Nat.le_of_succ_le_succ fits))
  | .object _, _ + 1, exact, unique, fits =>
    .object unique.1 (legibleMembers_of_exact exact unique.2 (Nat.le_of_succ_le_succ fits))

/-- `legible_of_exact` for items. -/
theorem legibleItems_of_exact : ∀ {items : List Json} {depth : Nat}, ExactItems items →
    UniqueKeysItems items → nestingItems items ≤ depth → ∀ item ∈ items, Legible depth item
  | [], _, _, _, _ => List.forall_mem_nil _
  | _ :: _, _, exact, unique, fits => List.forall_mem_cons.mpr
    ⟨legible_of_exact exact.1 unique.1 (Nat.max_le.mp fits).1,
      legibleItems_of_exact exact.2 unique.2 (Nat.max_le.mp fits).2⟩

/-- `legible_of_exact` for the values of members. -/
theorem legibleMembers_of_exact : ∀ {members : List (String × Json)} {depth : Nat},
    ExactMembers members → UniqueKeysMembers members → nestingMembers members ≤ depth →
    ∀ member ∈ members, Legible depth member.2
  | [], _, _, _, _ => List.forall_mem_nil _
  | _ :: _, _, exact, unique, fits => List.forall_mem_cons.mpr
    ⟨legible_of_exact exact.1 unique.1 (Nat.max_le.mp fits).1,
      legibleMembers_of_exact exact.2 unique.2 (Nat.max_le.mp fits).2⟩

end

namespace Portable

variable {depth : Nat}

/-- Portable values are legible. -/
theorem legible {value : Json} (portable : Portable depth value) : Legible depth value :=
  legible_of_exact portable.exact portable.unique portable.fits

/-- Strings are portable. -/
theorem string (depth : Nat) (value : String) : Portable depth (.string value) :=
  ⟨trivial, trivial, Nat.zero_le _⟩

/-- Truth values are portable. -/
theorem bool (depth : Nat) (value : Bool) : Portable depth (.bool value) :=
  ⟨trivial, trivial, Nat.zero_le _⟩

/-- Unsigned 64-bit numbers are portable. -/
theorem ofNat (depth : Nat) {n : Nat} (small : n < Decimal.wordLimit) :
    Portable depth (.ofNat n) := by
  have hupper : (n : Int) < (Nat.pow 2 64 : Nat) := Int.ofNat_lt.mpr small
  exact ⟨⟨by omega, hupper⟩, trivial, Nat.zero_le _⟩

/-- A value that fits under one limit fits under a greater one. -/
theorem mono {value : Json} (portable : Portable depth value) {more : Nat} (le : depth ≤ more) :
    Portable more value :=
  ⟨portable.exact, portable.unique, Nat.le_trans portable.fits le⟩

/-- An array of portable items is portable to one more level. -/
theorem array {items : List Json} (contents : ∀ item ∈ items, Portable depth item) :
    Portable (depth + 1) (.array items) :=
  ⟨ExactItems.of_forall fun item hmem => (contents item hmem).exact,
    UniqueKeysItems.of_forall fun item hmem => (contents item hmem).unique,
    Nat.succ_le_succ (nestingItems_le fun item hmem => (contents item hmem).fits)⟩

/-- An object that repeats no key is portable to one more level than the values of its members. -/
theorem object {members : Members} (keys : members.keys.Nodup)
    (contents : ∀ member ∈ members, Portable depth member.2) :
    Portable (depth + 1) (.object members) :=
  ⟨ExactMembers.of_forall fun member hmem => (contents member hmem).exact,
    ⟨keys, UniqueKeysMembers.of_forall fun member hmem => (contents member hmem).unique⟩,
    Nat.succ_le_succ (nestingMembers_le fun member hmem => (contents member hmem).fits)⟩

/-- The values of the members of a portable object are portable to one level less. -/
theorem of_mem {members : Members} (portable : Portable (depth + 1) (.object members))
    {member : String × Json} (mem : member ∈ members) : Portable depth member.2 := by
  have hexact : ExactMembers members := portable.exact
  have hunique : UniqueKeysMembers members := portable.unique.2
  have hfits : nestingMembers members ≤ depth := Nat.le_of_succ_le_succ portable.fits
  clear portable
  induction members with
  | nil => cases mem
  | cons first rest ih =>
    obtain ⟨hfirst, hrest⟩ := Nat.max_le.mp hfits
    rcases List.mem_cons.mp mem with rfl | hmem
    · exact ⟨hexact.1, hunique.1, hfirst⟩
    · exact ih hmem hexact.2 hunique.2 hrest

/-- Both texts of a portable value are parsed as the value. -/
theorem parse_of_mem {value : Json} (portable : Portable depthLimit value) {text : String}
    (written : text ∈ [value.text, value.prettyText]) : parse text = .ok value :=
  portable.legible.decodeText_of_mem (decodeValue_asRead value portable.unique) written

/-- Blanks after either text do not matter. -/
theorem parse_append_of_mem {value : Json} (portable : Portable depthLimit value) {text : String}
    (written : text ∈ [value.text, value.prettyText]) {blanks : List Char}
    (hblanks : Blanks blanks) : parse (text ++ String.ofList blanks) = .ok value := by
  rw [parse, decodeText, portable.legible.read_append_of_mem written hblanks, Reading.decode,
    decodeValue_asRead value portable.unique]
  rfl

/-- The compact text of a portable value is parsed as the value. -/
theorem parse_text {value : Json} (portable : Portable depthLimit value) :
    parse value.text = .ok value :=
  portable.parse_of_mem List.mem_cons_self

end Portable

end PageCheck.Json
