import PageCheck.Context
import PageCheck.Proofs.Json.Portable
import PageCheck.Proofs.Unicode.Pieces

/-!
# Stores of captured texts

Texts that are placed under dotted names, one after the other, make a portable store: the objects
along a name are nested no deeper than the name has dots. What a refused attempt leaves behind is
no exception.
-/

namespace PageCheck

open Unicode (length_splitOnChar)

/-- An object stays portable when a key is set to a value that is portable inside it. -/
theorem Json.Portable.insert {depth : Nat} {members : Members}
    (portable : Portable (depth + 1) (.object members)) (key : String) {value : Json}
    (inside : Portable depth value) :
    Portable (depth + 1) (.object (members.insert key value)) := by
  refine Portable.object (Members.nodup_keys_insert portable.unique.1 key value) ?_
  rintro ⟨other, held⟩ hmem
  have hget : Members.get? other (members.insert key value) = some held :=
    Members.get?_eq_some_of_mem (Members.nodup_keys_insert portable.unique.1 key value) hmem
  rw [Members.get?_insert] at hget
  split at hget
  · obtain rfl := Option.some.inj hget
    exact inside
  · exact portable.of_mem (Members.mem_of_get?_eq_some hget)

namespace Store

open Json (Portable)

/-- A name has one more part than dots. -/
theorem length_nameParts (name : String) :
    (nameParts name).length = name.toList.count '.' + 1 := by
  rw [nameParts, List.length_map, length_splitOnChar]

variable {depth : Nat} {store : Members}

/-- Placing a text inside objects that may be nested as deep as the store keeps it portable. The inner
objects are new, already there, or in the way of a value that stays. -/
theorem portable_placeWithin (leaf text : String) {parts : List String}
    (within : parts.length ≤ depth) (portable : Portable (depth + 1) (.object store)) :
    Portable (depth + 1) (.object (placeWithin leaf (.string text) parts store).store) := by
  induction parts generalizing depth store with
  | nil => exact portable.insert leaf (Portable.string depth text)
  | cons part rest ih =>
    obtain ⟨depth, rfl⟩ : ∃ less, depth = less + 1 :=
      ⟨depth - 1, by rw [List.length_cons] at within; omega⟩
    have hwithin : rest.length ≤ depth := Nat.le_of_succ_le_succ within
    rw [placeWithin]
    split
    · exact portable
    · cases hpart : Members.get? part store with
      | none =>
        have hnew : Portable (depth + 1) (.object []) :=
          Portable.object List.nodup_nil (List.forall_mem_nil _)
        exact portable.insert part (ih hwithin hnew)
      | some present =>
        have hpresent := portable.of_mem (Members.mem_of_get?_eq_some hpart)
        cases present with
        | object existing => exact portable.insert part (ih hwithin hpresent)
        | _ => exact portable

/-- Placing a text under a name with no more dots than the store may be deep keeps it portable. -/
theorem portable_place (name text : String) (within : name.toList.count '.' ≤ depth)
    (portable : Portable (depth + 1) (.object store)) :
    Portable (depth + 1) (.object (place name (.string text) store).store) := by
  have hdots : (nameParts name).dropLast.length ≤ depth := by
    rw [List.length_dropLast, length_nameParts]
    exact within
  rw [place]
  split
  · exact portable
  · exact portable_placeWithin _ text hdots portable

/-- Inside no objects yet, a text is nested as deep as it has objects to be placed in. -/
theorem nestingMembers_placeWithin_nil (leaf text : String) {parts : List String}
    (named : ∀ part ∈ parts, part ≠ "") :
    Json.nestingMembers (placeWithin leaf (.string text) parts []).store = parts.length := by
  induction parts with
  | nil => rfl
  | cons part rest ih =>
    obtain ⟨hpart, hrest⟩ := List.forall_mem_cons.mp named
    rw [placeWithin, if_neg hpart, List.length_cons, ← ih hrest]
    exact Nat.max_zero _

/-- In an empty store, a text is nested as deep as its name has dots, if every part is named. -/
theorem nestingMembers_place_nil (name text : String) (named : ∀ part ∈ nameParts name, part ≠ "") :
    Json.nestingMembers (place name (.string text) []).store = name.toList.count '.' := by
  have hparts := length_nameParts name
  have hleaf : (nameParts name).getLastD "" ≠ "" := by
    have hnonempty : nameParts name ≠ [] := by
      intro hnil
      rw [hnil] at hparts
      cases hparts
    rw [List.getLastD_eq_getLast?, List.getLast?_eq_some_getLast hnonempty]
    exact named _ (List.getLast_mem hnonempty)
  rw [place, if_neg hleaf, nestingMembers_placeWithin_nil _ _ fun part hmem =>
    named part (List.dropLast_subset _ hmem), List.length_dropLast, hparts]
  rfl

end Store

namespace Context

open Json (Portable)

/-- Capture texts under names, one after the other, whether or not a name is refused. -/
def captureAll (context : Context) (captures : List (String × String)) : Context :=
  captures.foldl (fun context (name, text) => (context.capture name (.string text)).1) context

/-- Captured texts are nested no deeper than their names have dots. -/
theorem portable_captureAll {depth : Nat} (captures : List (String × String)) {context : Context}
    (within : ∀ capture ∈ captures, capture.1.toList.count '.' ≤ depth)
    (portable : Portable (depth + 1) (.object context.outputs)) :
    Portable (depth + 1) (.object (context.captureAll captures).outputs) := by
  induction captures generalizing context with
  | nil => exact portable
  | cons capture rest ih =>
    refine ih (fun other hmem => within other (List.mem_cons_of_mem _ hmem)) ?_
    exact Store.portable_place _ _ (within capture List.mem_cons_self) portable

/-- Names have no more dots than the one with most of them. -/
theorem exists_dots_le (captures : List (String × String)) :
    ∃ depth, ∀ capture ∈ captures, capture.1.toList.count '.' ≤ depth := by
  induction captures with
  | nil => exact ⟨0, List.forall_mem_nil _⟩
  | cons capture rest ih =>
    obtain ⟨depth, hrest⟩ := ih
    refine ⟨max (capture.1.toList.count '.') depth, List.forall_mem_cons.mpr ⟨?_, ?_⟩⟩
    · exact Nat.le_max_left _ _
    · exact fun other hmem => Nat.le_trans (hrest other hmem) (Nat.le_max_right _ _)

end Context

end PageCheck
