import PageCheck.Context
import PageCheck.Proofs.Json.Members

/-!
# Refused names

A name is refused where it ends with a dot, where one of its parts is empty, and where a part before
the last one leads to a value that is no object. The objects that the parts name are opened one by
one on the way, so an empty part can come too late: the objects that were missing before it stay,
as if an empty object had been captured under the parts up to there. In every other case a refused
name leaves the outputs as they are.
-/

namespace PageCheck

namespace Store

/-- Parts open an object that was missing before one of them turns out to be empty. -/
inductive Opens : List String → Members → Prop
  /-- The object of the first part is missing, and a later part is empty. -/
  | missing {part : String} {rest : List String} {store : Members} (named : part ≠ "")
      (absent : store.get? part = none) (gap : "" ∈ rest) : Opens (part :: rest) store
  /-- The object of the first part is there, and the later parts open one inside it. -/
  | inside {part : String} {rest : List String} {store existing : Members} (named : part ≠ "")
      (present : store.get? part = some (.object existing)) (further : Opens rest existing) :
      Opens (part :: rest) store

variable {leaf part : String} {value : Json} {parts rest : List String}
  {store existing : Members}

/-- A missing object is opened before anything is placed inside it. -/
theorem placeWithin_absent (named : part ≠ "") (absent : store.get? part = none) :
    placeWithin leaf value (part :: rest) store =
      ⟨store.insert part (.object (placeWithin leaf value rest []).store),
        (placeWithin leaf value rest []).placed⟩ := by
  rw [placeWithin, if_neg named]
  simp only [absent]

/-- An object that is there is what the later parts are placed in. -/
theorem placeWithin_present (named : part ≠ "")
    (present : store.get? part = some (.object existing)) :
    placeWithin leaf value (part :: rest) store =
      ⟨store.insert part (.object (placeWithin leaf value rest existing).store),
        (placeWithin leaf value rest existing).placed⟩ := by
  rw [placeWithin, if_neg named]
  simp only [present]

/-- A value that is no object is in the way. -/
theorem placeWithin_blocked {held : Json} (present : store.get? part = some held)
    (plain : held.members? = none) :
    placeWithin leaf value (part :: rest) store = ⟨store, false⟩ := by
  rw [placeWithin]
  split
  · rfl
  · cases held with
    | object existing => cases plain
    | _ => simp only [present]

/-- An empty part is refused. -/
theorem placeWithin_empty : placeWithin leaf value ("" :: rest) store = ⟨store, false⟩ := by
  rw [placeWithin, if_pos rfl]

/-- In a new object only an empty part is refused. -/
theorem placed_new_iff : (placeWithin leaf value parts []).placed = true ↔ "" ∉ parts := by
  induction parts with
  | nil => simp [placeWithin]
  | cons part rest ih =>
    by_cases hpart : part = ""
    · simp [hpart, placeWithin_empty]
    · rw [placeWithin_absent hpart rfl, List.mem_cons, not_or]
      exact ih.trans ⟨fun h => ⟨Ne.symm hpart, h⟩, And.right⟩

/-- Parts that are refused without opening an object leave the store as it is. -/
theorem store_of_not_opens (refused : (placeWithin leaf value parts store).placed = false)
    (closed : ¬ Opens parts store) : (placeWithin leaf value parts store).store = store := by
  induction parts generalizing store with
  | nil => cases refused
  | cons part rest ih =>
    by_cases hpart : part = ""
    · rw [hpart, placeWithin_empty]
    cases hheld : store.get? part with
    | none =>
      rw [placeWithin_absent hpart hheld] at refused
      have hgap : "" ∈ rest := by
        by_contra hnone
        exact absurd (placed_new_iff.mpr hnone) (by rw [refused]; exact Bool.false_ne_true)
      exact absurd (.missing hpart hheld hgap) closed
    | some held =>
      cases held with
      | object existing =>
        rw [placeWithin_present hpart hheld] at refused ⊢
        have hinner := ih refused fun further => closed (.inside hpart hheld further)
        rw [hinner, Members.insert_of_get?_eq_some hheld]
      | _ => rw [placeWithin_blocked hheld rfl]

/-- Parts that open an object leave another store behind. -/
theorem Opens.store_ne (opens : Opens parts store) :
    (placeWithin leaf value parts store).store ≠ store := by
  induction opens with
  | @missing part rest store named absent gap =>
    intro same
    have hget := congrArg (Members.get? part) same
    rw [placeWithin_absent named absent, Members.get?_insert, if_pos rfl, absent] at hget
    cases hget
  | @inside part rest store existing named present further ih =>
    intro same
    have hget := congrArg (Members.get? part) same
    rw [placeWithin_present named present, Members.get?_insert, if_pos rfl, present,
      Option.some.injEq, Json.object.injEq] at hget
    exact ih hget

/-- What parts leave behind that open an object is what becomes of the store where an empty object
is placed under the parts up to the first empty one. -/
theorem Opens.left_behind (opens : Opens parts store) :
    ∃ before last after, parts = before ++ last :: "" :: after ∧
      (∀ part ∈ before ++ [last], part ≠ "") ∧
      (placeWithin leaf value parts store).store =
        (placeWithin last (.object []) before store).store := by
  induction parts generalizing store with
  | nil => cases opens
  | cons part rest ih =>
    cases opens with
    | missing named absent gap =>
      by_cases hempty : ∃ after, rest = "" :: after
      · obtain ⟨after, rfl⟩ := hempty
        refine ⟨[], part, after, rfl, by simpa using named, ?_⟩
        rw [placeWithin_absent named absent, placeWithin_empty]
        rfl
      · -- The object of this part is new, so that of the next one is missing in it.
        have hopens : Opens rest [] := by
          cases rest with
          | nil => cases gap
          | cons next more =>
            have hnext : next ≠ "" := fun h => hempty ⟨more, by rw [h]⟩
            exact .missing hnext rfl ((List.mem_cons.mp gap).resolve_left (Ne.symm hnext))
        obtain ⟨before, last, after, hsplit, hnamed, hstore⟩ := ih hopens
        refine ⟨part :: before, last, after, by rw [hsplit]; rfl,
          List.forall_mem_cons.mpr ⟨named, hnamed⟩, ?_⟩
        rw [placeWithin_absent named absent, placeWithin_absent named absent, hstore]
    | inside named present further =>
      obtain ⟨before, last, after, hsplit, hnamed, hstore⟩ := ih further
      refine ⟨part :: before, last, after, by rw [hsplit]; rfl,
        List.forall_mem_cons.mpr ⟨named, hnamed⟩, ?_⟩
      rw [placeWithin_present named present, placeWithin_present named present, hstore]

/-- A name opens an object that was missing before an empty part of it is met. A name that ends with
a dot does not: that its last part is empty is seen first. -/
structure OpensOnTheWay (name : String) (store : Members) : Prop where
  /-- The last part is not empty. -/
  last : (nameParts name).getLastD "" ≠ ""
  /-- The parts before it open an object. -/
  opens : Opens (nameParts name).dropLast store

end Store

namespace Context

open Store (OpensOnTheWay nameParts placeWithin)

/-- **What a refused name changes.** The outputs stay as they are exactly if the name opens no
object on the way. If it does, the objects up to its first empty part are left behind. -/
theorem outputs_of_refused_iff {context : Context} {name : String} {value : Json}
    (refused : (context.capture name value).2 = .error (.invalidOutputName name)) :
    ((context.capture name value).1.outputs = context.outputs ↔
      ¬ OpensOnTheWay name context.outputs) ∧
    (OpensOnTheWay name context.outputs →
      ∃ before last after, nameParts name = before ++ last :: "" :: after ∧
        (∀ part ∈ before ++ [last], part ≠ "") ∧
        (context.capture name value).1.outputs =
          (placeWithin last (.object []) before context.outputs).store) := by
  have hplaced : (Store.place name value context.outputs).placed = false := by
    simp only [capture] at refused
    split at refused
    · cases refused
    next hplaced => simpa using hplaced
  by_cases hlast : (nameParts name).getLastD "" = ""
  · have hstore : Store.place name value context.outputs = ⟨context.outputs, false⟩ := if_pos hlast
    simp only [capture, hstore]
    exact ⟨iff_of_true trivial fun opening => opening.last hlast,
      fun opening => absurd hlast opening.last⟩
  · have hstore : Store.place name value context.outputs = placeWithin
        ((nameParts name).getLastD "") value (nameParts name).dropLast context.outputs :=
      if_neg hlast
    rw [hstore] at hplaced
    simp only [capture, hstore]
    refine ⟨⟨fun same opening => opening.opens.store_ne same, fun closed => ?_⟩, fun opening => ?_⟩
    · exact Store.store_of_not_opens hplaced fun opens => closed ⟨hlast, opens⟩
    · obtain ⟨before, last, after, hsplit, hnamed, hleft⟩ := opening.opens.left_behind
      have hnonempty : nameParts name ≠ [] := fun hnil => hlast (by rw [hnil]; rfl)
      have hparts := List.dropLast_concat_getLast hnonempty
      rw [hsplit, List.append_assoc] at hparts
      exact ⟨before, last, _, hparts.symm, hnamed, hleft⟩

/-- A name with an empty part after objects that are all there is refused and changes nothing. -/
theorem outputs_of_refused_iff_present :
    ({ Context.new .standard with outputs := [("page", .object [])] }.capture "page..title"
        (.string "Home")).2 = .error (.invalidOutputName "page..title") ∧
      ({ Context.new .standard with outputs := [("page", .object [])] }.capture "page..title"
        (.string "Home")).1.outputs = [("page", .object [])] := by
  have hrefused : ({ Context.new .standard with outputs := [("page", .object [])] }.capture
      "page..title" (.string "Home")).2 = .error (.invalidOutputName "page..title") := rfl
  refine ⟨hrefused, (outputs_of_refused_iff hrefused).1.mpr ?_⟩
  rintro ⟨-, hopens⟩
  have hparts : (nameParts "page..title").dropLast = ["page", ""] := rfl
  rw [hparts] at hopens
  cases hopens with
  | missing _ absent _ => cases absent
  | inside _ present further =>
    cases present
    cases further with
    | missing named _ _ => exact named rfl
    | inside named _ _ => exact named rfl

/-- Where the object before the empty part is missing, the refused name leaves it behind. -/
theorem outputs_left_behind_page :
    ((Context.new .standard).capture "page..title" (.string "Home")).2 =
        .error (.invalidOutputName "page..title") ∧
      ((Context.new .standard).capture "page..title" (.string "Home")).1.outputs =
        [("page", .object [])] ∧
      ((Context.new .standard).capture "page..title" (.string "Home")).1.outputs ≠
        (Context.new .standard).outputs :=
  ⟨rfl, rfl, List.cons_ne_nil _ _⟩

end Context

end PageCheck
