import PageCheck.Json.Value
import PageCheck.Unicode.CodePoints

/-!
# Stores

Definitions and captured values are JSON objects. Merging lays one object over another: objects
under the same key merge, anything else replaces what was there, and new keys come last. A captured
value is placed under a dotted name, whose parts before the last name nested objects that are
created where they are missing.
-/

namespace PageCheck

open Unicode (splitOnChar)

namespace Members

mutual

/-- What a key holds once a value is laid over what it held. -/
def mergeValue (present : Option Json) : Json → Json
  | .object incoming =>
    match present with
    | some (.object existing) => .object (mergeOver existing incoming)
    | _ => .object incoming
  | incoming => incoming

/-- Lay the members of an object over a base. -/
def mergeOver (base : List (String × Json)) : List (String × Json) → List (String × Json)
  | [] => base
  | (key, incoming) :: rest =>
    mergeOver (Members.insert key (mergeValue (Members.get? key base) incoming) base) rest

end

/-- Lay an object over a base. -/
def merge (base overlay : Members) : Members := mergeOver base overlay

end Members

/-- What an attempt to place a value leaves behind. -/
structure Placement where
  /-- The store afterwards. -/
  store : Members
  /-- Whether the value was placed. -/
  placed : Bool

namespace Store

/-- Place a value under the last part of a name, inside the objects that the parts before it
name. -/
def placeWithin (leaf : String) (value : Json) : List String → Members → Placement
  | [], store => ⟨Members.insert leaf value store, true⟩
  | part :: parts, store =>
    if part = "" then ⟨store, false⟩
    else
      match Members.get? part store with
      | none =>
        let inner := placeWithin leaf value parts []
        ⟨Members.insert part (.object inner.store) store, inner.placed⟩
      | some (.object existing) =>
        let inner := placeWithin leaf value parts existing
        ⟨Members.insert part (.object inner.store) store, inner.placed⟩
      | some _ => ⟨store, false⟩

/-- The parts of a dotted name, at least one. -/
def nameParts (name : String) : List String :=
  (splitOnChar '.' name.toList).map String.ofList

/-- Place a value under a dotted name. -/
def place (name : String) (value : Json) (store : Members) : Placement :=
  let parts := nameParts name
  let leaf := parts.getLastD ""
  if leaf = "" then ⟨store, false⟩ else placeWithin leaf value parts.dropLast store

end Store

end PageCheck
