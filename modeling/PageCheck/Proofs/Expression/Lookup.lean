import PageCheck.Expression.Resolver

/-!
# Where paths lead

A path leads from a value to the value that its segments name one after the other. A path is looked
up in the places of a resolver in order, and has the value of the first place that holds the whole
of it; a place that holds only its first segments is passed over.
-/

namespace PageCheck.Expression

open Decimal (word?)

/-! ### Following segments -/

/-- A value at the end of segments that are followed down from another one. -/
inductive Leads : Json → List Segment → Json → Prop
  | here (value : Json) : Leads value [] value
  | member {members : Members} {name : String} {next value : Json} {rest : List Segment}
      (found : Members.get? name members = some next) (further : Leads next rest value) :
      Leads (.object members) (.field name :: rest) value
  | item {items : List Json} {position : Nat} {next value : Json} {rest : List Segment}
      (found : items[position]? = some next) (further : Leads next rest value) :
      Leads (.array items) (.index position :: rest) value
  /-- A field of an array is the position that it writes. -/
  | numeral {items : List Json} {name : String} {position : Nat} {next value : Json}
      {rest : List Segment} (number : word? name.toList = some position)
      (found : items[position]? = some next) (further : Leads next rest value) :
      Leads (.array items) (.field name :: rest) value

/-- Following segments finds the value that they lead to. -/
theorem follow_eq_some_iff {segments : List Segment} {start value : Json} :
    follow start segments = some value ↔ Leads start segments value := by
  induction segments generalizing start with
  | nil =>
    constructor
    · rintro ⟨⟩
      exact .here value
    · rintro ⟨⟩
      rfl
  | cons segment rest ih =>
    rw [follow]
    constructor
    · intro hfollow
      obtain ⟨next, hnext, hrest⟩ := Option.bind_eq_some_iff.mp hfollow
      have hfurther := ih.mp hrest
      cases start with
      | object members =>
        cases segment with
        | field name => exact .member hnext hfurther
        | index position => cases hnext
      | array items =>
        cases segment with
        | field name =>
          obtain ⟨position, hposition, hitem⟩ := Option.bind_eq_some_iff.mp hnext
          exact .numeral hposition hitem hfurther
        | index position => exact .item hnext hfurther
      | _ => cases segment <;> cases hnext
    · intro hleads
      cases hleads with
      | member found further => exact Option.bind_eq_some_iff.mpr ⟨_, found, ih.mpr further⟩
      | item found further => exact Option.bind_eq_some_iff.mpr ⟨_, found, ih.mpr further⟩
      | numeral number found further =>
        refine Option.bind_eq_some_iff.mpr ⟨_, ?_, ih.mpr further⟩
        exact Option.bind_eq_some_iff.mpr ⟨_, number, found⟩

/-! ### Places -/

/-- A place in which paths are looked up. -/
inductive Place
  | store (members : Members)
  | environment (environment : Environment)
  | root (source : Root)

/-- A place holds a value at the whole of a path. -/
inductive Place.Holds : Place → List Segment → Json → Prop
  | store {members : Members} {name : String} {rest : List Segment} {value : Json}
      (leads : Leads (.object members) (.field name :: rest) value) :
      Holds (.store members) (.field name :: rest) value
  /-- The environment holds paths of one segment only, and texts. -/
  | environment {environment : Environment} {name text : String}
      (defined : environment.get? name = some text) :
      Holds (.environment environment) [.field name] (.string text)
  | root {source : Root} {name : String} {rest : List Segment} {value : Json}
      (given : source name rest = some value) : Holds (.root source) (.field name :: rest) value

namespace Resolver

/-- The places of a resolver in order. -/
def places (resolver : Resolver) : List Place :=
  [.store resolver.data, .store resolver.outputs, .environment resolver.environment] ++
    resolver.roots.map .root

/-- The first place that holds the whole path holds the value there. -/
def Found (resolver : Resolver) (segments : List Segment) (value : Json) : Prop :=
  ∃ before place after, resolver.places = before ++ place :: after ∧ place.Holds segments value ∧
    ∀ earlier ∈ before, ∀ other, ¬ earlier.Holds segments other

end Resolver

/-- The value at a path in a place. -/
def Place.get? (segments : List Segment) : Place → Option Json
  | store members => lookup members segments
  | environment lines =>
    match segments with
    | [.field name] => (lines.get? name).map .string
    | _ => none
  | root source =>
    match segments with
    | .field name :: rest => source name rest
    | _ => none

/-- The value at a path in a place is the one that the place holds. -/
theorem Place.get?_eq_some_iff {place : Place} {segments : List Segment} {value : Json} :
    place.get? segments = some value ↔ place.Holds segments value := by
  cases place with
  | store members =>
    constructor
    · intro hget
      rw [Place.get?, lookup.eq_def] at hget
      split at hget
      next name rest => exact .store (follow_eq_some_iff.mp hget)
      next => cases hget
    · rintro ⟨hleads⟩
      exact follow_eq_some_iff.mpr hleads
  | environment lines =>
    constructor
    · intro hget
      rw [Place.get?.eq_def] at hget
      dsimp only at hget
      split at hget
      next name =>
        obtain ⟨text, hdefined, rfl⟩ := Option.map_eq_some_iff.mp hget
        exact .environment hdefined
      next => cases hget
    · rintro ⟨⟩
      next hdefined => exact Option.map_eq_some_iff.mpr ⟨_, hdefined, rfl⟩
  | root source =>
    constructor
    · intro hget
      rw [Place.get?.eq_def] at hget
      dsimp only at hget
      split at hget
      next name rest => exact .root hget
      next => cases hget
    · rintro ⟨⟩
      next hgiven => exact hgiven

namespace Resolver

/-- A path is looked up place by place. -/
theorem find_eq_findSome? (resolver : Resolver) (segments : List Segment) :
    resolver.find segments = resolver.places.findSome? (·.get? segments) := by
  rw [find.eq_def, places, List.findSome?_append, List.findSome?_map]
  simp only [List.findSome?_cons, List.findSome?_nil, Place.get?]
  cases lookup resolver.data segments with
  | some value => rfl
  | none =>
    cases lookup resolver.outputs segments with
    | some value => rfl
    | none =>
      cases segments with
      | nil => exact (List.findSome?_eq_none_iff.mpr fun _ _ => rfl).symm
      | cons segment rest =>
        cases segment with
        | index position => exact (List.findSome?_eq_none_iff.mpr fun _ _ => rfl).symm
        | field name =>
          cases rest with
          | nil =>
            dsimp only
            cases resolver.environment.get? name with
            | none => rfl
            | some text => rfl
          | cons next more => rfl

/-- A path has the value of the first place that holds the whole of it. -/
theorem find_eq_some_iff {resolver : Resolver} {segments : List Segment} {value : Json} :
    resolver.find segments = some value ↔ resolver.Found segments value := by
  have hnone : ∀ place : Place,
      place.get? segments = none ↔ ∀ other, ¬ place.Holds segments other := by
    intro place
    rw [Option.eq_none_iff_forall_ne_some]
    exact forall_congr' fun other => not_congr Place.get?_eq_some_iff
  rw [find_eq_findSome?, List.findSome?_eq_some_iff, Found]
  simp only [hnone, Place.get?_eq_some_iff]

end Resolver

end PageCheck.Expression
