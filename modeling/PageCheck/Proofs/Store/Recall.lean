import PageCheck.Proofs.Expression.Chain
import PageCheck.Proofs.Expression.Rendering
import PageCheck.Proofs.Store.Refusal
import PageCheck.Proofs.Unicode.Pieces

/-!
# Recalling captured values

A captured value is placed by the parts of its name and recalled by the segments of a path. The two
meet where every part can stand in a path: then the name is the text of the path whose fields are
its parts. Along that path the capture opens objects down to the value, and what lies off the path
is not touched: a path that is no beginning of it and does not go beyond it parts from it inside an
object, at a key that is not set.
-/

namespace PageCheck

open Expression (Environment Root Segment follow lookup)
open Unicode (isBlank splitOnChar_join)

namespace Expression

/-- Among the members of an object a path leads where it leads from the object. -/
theorem follow_object (members : Members) {segments : List Segment} (further : segments ≠ []) :
    follow (.object members) segments = lookup members segments := by
  cases segments with
  | nil => exact absurd rfl further
  | cons segment rest => cases segment <;> rfl

/-- A path that starts with a field goes on from what the field holds. -/
theorem lookup_field (members : Members) (name : String) (rest : List Segment) :
    lookup members (.field name :: rest) = (members.get? name).bind (follow · rest) := rfl

/-- Setting a key leaves every path that does not start with it. -/
theorem lookup_insert_other {members : Members} {key : String} {value : Json}
    {segments : List Segment} (apart : segments.head? ≠ some (.field key)) :
    lookup (members.insert key value) segments = lookup members segments := by
  match segments with
  | [] => rfl
  | .index position :: rest => rfl
  | .field name :: rest =>
    have hname : key ≠ name := fun same => apart (by rw [same]; rfl)
    rw [lookup_field, lookup_field, Members.get?_insert, if_neg hname]

end Expression

namespace Store

open Expression (follow_object lookup_field lookup_insert_other)

/-! ### Names and paths -/

/-- The path whose fields are parts of a name. -/
def fields (parts : List String) : List Segment := parts.map .field

/-- A part of a name can stand in a path. -/
structure Writable (part : String) : Prop where
  /-- It is not empty. -/
  named : part ≠ ""
  /-- It holds no bracket and no white space. -/
  solid : ∀ c ∈ part.toList, c ≠ '[' ∧ c ≠ ']' ∧ isBlank c = false

/-- A name whose parts can stand in a path is the text of the path. -/
theorem parse_name {name : String} (writable : ∀ part ∈ nameParts name, Writable part) :
    Expression.Path.parse name = .ok (fields (nameParts name)) := by
  obtain ⟨piece, pieces, hsplit, hjoin, hclean⟩ := splitOnChar_join '.' name.toList
  have hparts : nameParts name = String.ofList piece :: pieces.map String.ofList := by
    rw [nameParts, hsplit, List.map_cons]
  have hwellFormed : Expression.Path.WellFormed (fields (nameParts name)) := by
    have hsegments : ∀ segment ∈ fields (nameParts name),
        Expression.Path.WellFormedSegment segment := by
      refine List.forall_mem_map.mpr fun part hpart => ?_
      obtain ⟨hnamed, hsolid⟩ := writable part hpart
      refine ⟨fun hnil => hnamed (String.toList_eq_nil_iff.mp hnil), fun c hc => ?_⟩
      obtain ⟨hopen, hclose, hblank⟩ := hsolid c hc
      refine Expression.Path.isFieldChar_iff.mpr ⟨?_, hopen, hclose, hblank⟩
      rintro rfl
      rw [hparts, ← List.map_cons] at hpart
      obtain ⟨chars, hchars, rfl⟩ := List.mem_map.mp hpart
      rw [String.toList_ofList] at hc
      exact hclean chars hchars hc
    rw [hparts] at hsegments ⊢
    exact hsegments
  have hrender : Expression.Path.render (fields (nameParts name)) = name := by
    have hrest : (fields (pieces.map String.ofList)).flatMap Expression.Path.renderNext =
        pieces.flatMap ('.' :: ·) := by
      simp only [fields, List.map_map, List.flatMap_map, Function.comp, Expression.Path.renderNext,
        String.toList_ofList]
    rw [hparts, fields, List.map_cons, Expression.Path.render, String.toList_ofList]
    rw [fields] at hrest
    rw [hrest, ← hjoin, String.ofList_toList]
  have hspells := hwellFormed.spells
  rw [hrender] at hspells
  exact Expression.Path.parse_eq_ok_iff.mpr hspells

/-! ### Placing and looking up -/

variable {leaf part : String} {value : Json} {parts rest : List String} {store : Members}

/-- A first part under which a value can be placed opens an object: the one that is there, or a new
one. -/
theorem placeWithin_cons_of_placed
    (placed : (placeWithin leaf value (part :: rest) store).placed = true) :
    ∃ inner, (∀ segments ≠ [], lookup inner segments = (store.get? part).bind (follow · segments)) ∧
      ∀ other, placeWithin leaf other (part :: rest) store =
        ⟨store.insert part (.object (placeWithin leaf other rest inner).store),
          (placeWithin leaf other rest inner).placed⟩ := by
  by_cases hpart : part = ""
  · rw [hpart, placeWithin_empty] at placed
    cases placed
  cases hheld : store.get? part with
  | none =>
    refine ⟨[], fun segments _ => ?_, fun other => placeWithin_absent hpart hheld⟩
    match segments with
    | [] | .field _ :: _ | .index _ :: _ => rfl
  | some held =>
    cases held with
    | object existing =>
      exact ⟨existing, fun segments further => (follow_object existing further).symm,
        fun other => placeWithin_present hpart hheld⟩
    | _ =>
      rw [placeWithin_blocked hheld rfl] at placed
      cases placed

/-- A placed value is found at the path of its parts. -/
theorem lookup_placeWithin (placed : (placeWithin leaf value parts store).placed = true) :
    lookup (placeWithin leaf value parts store).store (fields (parts ++ [leaf])) = some value := by
  induction parts generalizing store with
  | nil =>
    change lookup (store.insert leaf value) [.field leaf] = some value
    rw [lookup_field, Members.get?_insert, if_pos rfl]
    rfl
  | cons part rest ih =>
    obtain ⟨inner, _, hplace⟩ := placeWithin_cons_of_placed placed
    rw [hplace] at placed ⊢
    change lookup _ (.field part :: fields (rest ++ [leaf])) = some value
    rw [lookup_field, Members.get?_insert, if_pos rfl, Option.bind_some,
      follow_object _ (by simp [fields])]
    exact ih placed

/-- Every beginning of that path holds an object. -/
theorem lookup_placeWithin_beginning
    (placed : (placeWithin leaf value parts store).placed = true) {beginning : List Segment}
    (isBeginning : beginning <+: fields parts) (nonempty : beginning ≠ []) :
    ∃ members, lookup (placeWithin leaf value parts store).store beginning =
      some (.object members) := by
  induction parts generalizing store beginning with
  | nil => exact absurd (List.prefix_nil.mp isBeginning) nonempty
  | cons part rest ih =>
    obtain ⟨inner, _, hplace⟩ := placeWithin_cons_of_placed placed
    rw [hplace] at placed ⊢
    obtain ⟨further, rfl, hfurther⟩ := (List.prefix_cons_iff.mp isBeginning).resolve_left nonempty
    rw [lookup_field, Members.get?_insert, if_pos rfl, Option.bind_some]
    by_cases hlast : further = []
    · exact ⟨_, by rw [hlast]; rfl⟩
    · rw [follow_object _ hlast]
      exact ih placed hfurther hlast

/-- A path that is no beginning of that path and does not go beyond it leads where it did. -/
theorem lookup_placeWithin_other (placed : (placeWithin leaf value parts store).placed = true)
    {other : List Segment} (short : ¬ other <+: fields (parts ++ [leaf]))
    (long : ¬ fields (parts ++ [leaf]) <+: other) :
    lookup (placeWithin leaf value parts store).store other = lookup store other := by
  induction parts generalizing store other with
  | nil =>
    refine lookup_insert_other fun hhead => long ?_
    obtain ⟨more, rfl⟩ := List.head?_eq_some_iff.mp hhead
    exact (List.prefix_cons_inj _).mpr List.nil_prefix
  | cons part rest ih =>
    obtain ⟨inner, hinner, hplace⟩ := placeWithin_cons_of_placed placed
    rw [hplace] at placed ⊢
    by_cases hhead : other.head? = some (.field part)
    · -- the path parts from the name inside the object of this part
      obtain ⟨more, rfl⟩ := List.head?_eq_some_iff.mp hhead
      have hshort : ¬ more <+: fields (rest ++ [leaf]) := fun isBeginning =>
        short ((List.prefix_cons_inj _).mpr isBeginning)
      have hlong : ¬ fields (rest ++ [leaf]) <+: more := fun isBeginning =>
        long ((List.prefix_cons_inj _).mpr isBeginning)
      have hmore : more ≠ [] := fun hnil => hshort (hnil ▸ List.nil_prefix)
      rw [lookup_field, Members.get?_insert, if_pos rfl, Option.bind_some, follow_object _ hmore,
        ih placed hshort hlong, hinner more hmore, lookup_field]
    · exact lookup_insert_other hhead

/-- Where a value was placed another one can be placed. -/
theorem placed_again (placed : (placeWithin leaf value parts store).placed = true)
    (again : Json) :
    (placeWithin leaf again parts (placeWithin leaf value parts store).store).placed = true := by
  induction parts generalizing store with
  | nil => rfl
  | cons part rest ih =>
    obtain ⟨inner, _, hplace⟩ := placeWithin_cons_of_placed placed
    have hpart : part ≠ "" := by
      rintro rfl
      rw [placeWithin_empty] at placed
      cases placed
    rw [hplace] at placed ⊢
    rw [placeWithin_present hpart (by rw [Members.get?_insert, if_pos rfl])]
    exact ih placed

/-- A name under which a value can be placed has a last part and parts before it, and every value is
placed under the last one within the others. -/
theorem parts_of_placed {name : String} (placed : (place name value store).placed = true) :
    ∃ parts leaf, nameParts name = parts ++ [leaf] ∧
      ∀ other members, place name other members = placeWithin leaf other parts members := by
  by_cases hleaf : (nameParts name).getLastD "" = ""
  · rw [place, if_pos hleaf] at placed
    cases placed
  · have hnonempty : nameParts name ≠ [] := fun hnil => hleaf (by rw [hnil]; rfl)
    refine ⟨(nameParts name).dropLast, (nameParts name).getLastD "", ?_, fun _ _ => if_neg hleaf⟩
    rw [List.getLastD_eq_getLast?, List.getLast?_eq_some_getLast hnonempty]
    exact (List.dropLast_concat_getLast hnonempty).symm

end Store

namespace Context

open Store (Writable fields nameParts)

/-- A value that is no expression: resolving goes no further from it. -/
def Final (value : Json) : Prop := ∀ text, value = .string text → text.toList.head? ≠ some '$'

variable {context : Context} {name : String} {value : Json}

/-- A capture that is not refused places the value in the outputs and leaves the data. -/
theorem capture_eq_ok_iff :
    (context.capture name value).2 = .ok () ↔
      (Store.place name value context.outputs).placed = true := by
  simp only [capture]
  split
  next hplaced => exact iff_of_true rfl hplaced
  next hplaced =>
    refine iff_of_false ?_ hplaced
    rintro ⟨⟩

/-- What stands in the outputs at the path of a name, and nowhere in the data, is what the name
resolves to as an expression. -/
theorem resolve_of_lookup (plain : name.toList.head? ≠ some '$')
    (writable : ∀ part ∈ nameParts name, Writable part) (final : Final value)
    (absent : lookup context.data (fields (nameParts name)) = none)
    (held : lookup context.outputs (fields (nameParts name)) = some value)
    (environment : Environment) (roots : List Root) :
    (context.resolver environment roots).resolve ("$" ++ name) = .ok value := by
  have hstart : ("$" ++ name).toList = '$' :: name.toList := String.toList_append
  have hspells := Expression.Path.parse_eq_ok_iff.mp (Store.parse_name writable)
  have hfind : (context.resolver environment roots).find (fields (nameParts name)) =
      some value := by
    simp only [Expression.Resolver.find, resolver, absent, held]
  exact Expression.Resolver.resolveWithin_value
    (Expression.Meaning.ofText_reference hstart plain) hspells
    (Expression.Resolver.find_eq_some_iff.mp hfind) final 15

/-- **Captures are recalled and disturb nothing else.** Under a name whose parts can stand in a path
a value that is no expression is recalled by the name as long as the data holds nothing at the whole
path. Paths that are no beginnings of the name and do not go beyond it lead where they did, proper
beginnings of the name hold objects, and a second capture under the name is not refused and is the
one that is recalled from then on. -/
theorem capture_recalled (plain : name.toList.head? ≠ some '$')
    (writable : ∀ part ∈ nameParts name, Writable part) (final : Final value)
    (kept : (context.capture name value).2 = .ok ()) :
    (lookup context.data (fields (nameParts name)) = none → ∀ environment roots,
      ((context.capture name value).1.resolver environment roots).resolve ("$" ++ name) =
        .ok value) ∧
    (∀ other : List Segment, ¬ other <+: fields (nameParts name) →
      ¬ fields (nameParts name) <+: other →
        lookup (context.capture name value).1.outputs other = lookup context.outputs other) ∧
    (∀ beginning : List Segment, beginning <+: fields (nameParts name) → beginning ≠ [] →
      beginning ≠ fields (nameParts name) →
        ∃ members, lookup (context.capture name value).1.outputs beginning =
          some (.object members)) ∧
    (∀ again, Final again →
      ((context.capture name value).1.capture name again).2 = .ok () ∧
      lookup ((context.capture name value).1.capture name again).1.outputs
        (fields (nameParts name)) = some again ∧
      (lookup context.data (fields (nameParts name)) = none → ∀ environment roots,
        (((context.capture name value).1.capture name again).1.resolver environment
          roots).resolve ("$" ++ name) = .ok again)) := by
  obtain ⟨parts, leaf, hparts, hplace⟩ := Store.parts_of_placed (capture_eq_ok_iff.mp kept)
  have hplaced : (Store.placeWithin leaf value parts context.outputs).placed = true := by
    rw [← hplace]
    exact capture_eq_ok_iff.mp kept
  have houtputs : (context.capture name value).1.outputs =
      (Store.placeWithin leaf value parts context.outputs).store := by
    simp only [capture, hplace]
  have hheld : lookup (context.capture name value).1.outputs (fields (nameParts name)) =
      some value := by
    rw [houtputs, hparts]
    exact Store.lookup_placeWithin hplaced
  refine ⟨fun absent => resolve_of_lookup plain writable final absent hheld, ?_, ?_, ?_⟩
  · intro other short long
    rw [hparts] at short long
    rw [houtputs]
    exact Store.lookup_placeWithin_other hplaced short long
  · intro beginning isBeginning nonempty proper
    rw [hparts, fields, List.map_append] at isBeginning proper
    rw [houtputs]
    refine Store.lookup_placeWithin_beginning hplaced ?_ nonempty
    exact (List.prefix_concat_iff.mp isBeginning).resolve_left proper
  · intro again finalAgain
    have hagain : (Store.place name again (context.capture name value).1.outputs).placed =
        true := by
      rw [hplace, houtputs]
      exact Store.placed_again hplaced again
    have hlast : lookup ((context.capture name value).1.capture name again).1.outputs
        (fields (nameParts name)) = some again := by
      change lookup (Store.place name again (context.capture name value).1.outputs).store _ = _
      rw [hplace] at hagain ⊢
      rw [hparts]
      exact Store.lookup_placeWithin hagain
    exact ⟨capture_eq_ok_iff.mpr hagain, hlast,
      fun absent => resolve_of_lookup plain writable finalAgain absent hlast⟩

/-- A title captured beside a flag that is already there is recalled, the flag stays, and a second
title takes its place. -/
theorem capture_recalled_title :
    let context := { Context.new .standard with
      outputs := [("page", .object [("open", .bool true)])] }
    let titled := (context.capture "page.title" (.string "Home")).1
    (context.capture "page.title" (.string "Home")).2 = .ok () ∧
      (titled.resolver [] []).resolve "$page.title" = .ok (.string "Home") ∧
      lookup titled.outputs [.field "page", .field "open"] = some (.bool true) ∧
      ((titled.capture "page.title" (.string "News")).1.resolver [] []).resolve "$page.title" =
        .ok (.string "News") := by
  intro context titled
  have hparts : nameParts "page.title" = ["page", "title"] := rfl
  have hwritable : ∀ part ∈ nameParts "page.title", Writable part := by
    rw [hparts]
    refine List.forall_mem_cons.mpr ⟨⟨by decide, by simp [isBlank]⟩, ?_⟩
    exact List.forall_mem_singleton.mpr ⟨by decide, by simp [isBlank]⟩
  have hkept : (context.capture "page.title" (.string "Home")).2 = .ok () := rfl
  obtain ⟨hrecalled, hother, -, hagain⟩ :=
    capture_recalled (by decide) hwritable (by rintro text ⟨⟩; decide) hkept
  refine ⟨hkept, hrecalled rfl [] [], ?_, ?_⟩
  · exact hother _ (by decide) (by decide)
  · exact (hagain (.string "News") (by rintro text ⟨⟩; decide)).2.2 rfl [] []

end Context

end PageCheck
