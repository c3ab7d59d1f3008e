import PageCheck.Proofs.Json.Records

/-!
# Strict records

A strict record that is decoded has no key that it does not know and none twice, and every field
that must be given is given, under its key in an object and at its position in an array of items.
Each value that such a record holds for one of its fields was taken for this field.
-/

namespace PageCheck.Json

/-- The keys of an object in their order, repeated ones as often as they stand there. Other values
have none. -/
def Draft.keys : Draft → List String
  | .object members _ => members.map Prod.fst
  | _ => []

/-- A record holds a value for a field: an object under the key of the field, an array of items at
the position that the field has among the names of all fields. -/
inductive Draft.Holds (names : List String) (field : String) : Draft → Draft → Prop
  | member {members : List (String × Draft)} {ending : Ending} {value : Draft}
      (given : (field, value) ∈ members) : Holds names field (.object members ending) value
  | item {items : List Draft} {ending : Ending} {value : Draft} {position : Nat}
      (named : names[position]? = some field) (given : items[position]? = some value) :
      Holds names field (.array items ending) value

section

variable {σ : Type} {shape : Shape} {step : σ → String → Draft → Decoded σ}

/-- What is known of a strict record that is decoded. -/
structure Accepted (shape : Shape) (step : σ → String → Draft → Decoded σ) (record : Draft) :
    Prop where
  /-- Its keys are names of fields. -/
  known : ∀ key ∈ record.keys, key ∈ shape.names
  /-- No key stands there twice. -/
  unique : record.keys.Nodup
  /-- Every field that must be given is given. -/
  given : ∀ field ∈ shape.fields, field.2 = true →
    ∃ value, record.Holds shape.names field.1 value
  /-- What is given for a field is taken for it. -/
  taken : ∀ field ∈ shape.names, ∀ value, record.Holds shape.names field value →
    ∃ state next, step state field value = .ok next

/-! ### Objects -/

/-- The first of some members is taken as a known and new field. -/
theorem recordMembers_cons_ok (strict : shape.strict = true) {state final : σ}
    {seen all : List String} {key : String} {value : Draft} {rest : List (String × Draft)}
    (filled : recordMembers shape step state seen ((key, value) :: rest) = .ok (final, all)) :
    key ∈ shape.names ∧ key ∉ seen ∧ ∃ next, step state key value = .ok next ∧
      recordMembers shape step next (key :: seen) rest = .ok (final, all) := by
  simp only [recordMembers, strict, if_true] at filled
  split at filled
  next hknown =>
    split at filled
    · cases filled
    next hnew =>
      obtain ⟨next, hnext, hrest⟩ := ok_of_bind filled
      exact ⟨by simpa using hknown, by simpa using hnew, next, hnext, hrest⟩
  · cases filled

/-- Members that fill a strict record have known keys that are all new, and these have been seen
after them. -/
theorem keys_of_recordMembers (strict : shape.strict = true) {members : List (String × Draft)}
    {state final : σ} {seen all : List String} (distinct : seen.Nodup)
    (filled : recordMembers shape step state seen members = .ok (final, all)) :
    (∀ key ∈ members.map Prod.fst, key ∈ shape.names) ∧
      all = (members.map Prod.fst).reverse ++ seen ∧ all.Nodup := by
  induction members generalizing state seen with
  | nil =>
    cases filled
    exact ⟨List.forall_mem_nil _, rfl, distinct⟩
  | cons member rest ih =>
    obtain ⟨key, value⟩ := member
    obtain ⟨hknown, hnew, next, -, hrest⟩ := recordMembers_cons_ok strict filled
    obtain ⟨hothers, hall, hdistinct⟩ := ih (List.nodup_cons.mpr ⟨hnew, distinct⟩) hrest
    refine ⟨List.forall_mem_cons.mpr ⟨hknown, hothers⟩, ?_, hdistinct⟩
    rw [hall, List.map_cons, List.reverse_cons, List.append_assoc, List.singleton_append]

/-- Each of the members that fill a strict record is taken. -/
theorem taken_of_recordMembers (strict : shape.strict = true) {members : List (String × Draft)}
    {state final : σ} {seen all : List String}
    (filled : recordMembers shape step state seen members = .ok (final, all)) :
    ∀ member ∈ members, ∃ state next, step state member.1 member.2 = .ok next := by
  induction members generalizing state seen with
  | nil => exact List.forall_mem_nil _
  | cons member rest ih =>
    obtain ⟨key, value⟩ := member
    obtain ⟨-, -, next, hnext, hrest⟩ := recordMembers_cons_ok strict filled
    exact List.forall_mem_cons.mpr ⟨⟨state, next, hnext⟩, ih hrest⟩

/-- Fields of which none that must be given is missing need not be given. -/
theorem optional_of_firstMissing {fields : List (String × Bool)} {index : Nat}
    (complete : firstMissing index fields = none) : ∀ field ∈ fields, field.2 = false := by
  induction fields generalizing index with
  | nil => exact List.forall_mem_nil _
  | cons field rest ih =>
    obtain ⟨name, required⟩ := field
    rw [firstMissing] at complete
    split at complete
    · cases complete
    next hoptional => exact List.forall_mem_cons.mpr ⟨by simpa using hoptional, ih complete⟩

/-- An object that a strict record is decoded from. -/
theorem Accepted.object (strict : shape.strict = true) {start final : σ}
    {members : List (String × Draft)} {ending : Ending}
    (decoded : decodeRecord shape start step (.object members ending) = .ok final) :
    Accepted shape step (.object members ending) := by
  rw [decodeRecord] at decoded
  obtain ⟨⟨state, seen⟩, hfilled, hmore⟩ := ok_of_bind decoded
  obtain ⟨-, -, hcomplete⟩ := ok_of_bind hmore
  obtain ⟨hknown, hseen, hdistinct⟩ := keys_of_recordMembers strict List.nodup_nil hfilled
  rw [List.append_nil] at hseen
  refine ⟨hknown, List.nodup_reverse.mp (hseen ▸ hdistinct), fun field hfield hrequired => ?_,
    fun field _ value hheld => ?_⟩
  · split at hcomplete
    · cases hcomplete
    next hnone =>
      have hgiven : field.1 ∈ members.map Prod.fst := by
        by_contra hmissing
        have hleft : field ∈ shape.fields.filter fun field => !seen.contains field.1 :=
          List.mem_filter.mpr ⟨hfield, by simpa [hseen] using hmissing⟩
        have hoptional := optional_of_firstMissing hnone field hleft
        exact absurd hrequired (by rw [hoptional]; exact Bool.false_ne_true)
      obtain ⟨member, hmem, hkey⟩ := List.mem_map.mp hgiven
      exact ⟨member.2, .member (hkey ▸ hmem)⟩
  · cases hheld with
    | member hgiven => exact taken_of_recordMembers strict hfilled (field, value) hgiven

/-! ### Arrays of items -/

/-- Items are taken as the fields at their positions, and the fields after them are left. -/
theorem taken_of_recordItems {items left : List Draft} {fields missing : List (String × Bool)}
    {state final : σ} (filled : recordItems step state fields items = .ok (final, missing, left)) :
    missing = fields.drop items.length ∧
      ∀ (position : Nat) (name : String) (item : Draft),
        (fields.map Prod.fst)[position]? = some name → items[position]? = some item →
          ∃ state next, step state name item = .ok next := by
  induction items generalizing state fields with
  | nil => cases fields <;> cases filled <;> exact ⟨rfl, nofun⟩
  | cons item rest ih =>
    cases fields with
    | nil =>
      cases filled
      exact ⟨rfl, nofun⟩
    | cons field fields =>
      obtain ⟨next, hnext, hmore⟩ := ok_of_bind filled
      obtain ⟨hmissing, hothers⟩ := ih hmore
      refine ⟨hmissing, fun position name taken hname hitem => ?_⟩
      cases position with
      | zero =>
        cases hname
        cases hitem
        exact ⟨state, next, hnext⟩
      | succ position => exact hothers position name taken hname hitem

/-- An array of items that a record is decoded from. -/
theorem Accepted.array {start final : σ} {items : List Draft} {ending : Ending}
    (decoded : decodeRecord shape start step (.array items ending) = .ok final) :
    Accepted shape step (.array items ending) := by
  rw [decodeRecord] at decoded
  obtain ⟨⟨state, missing, left⟩, hfilled, hmore⟩ := ok_of_bind decoded
  obtain ⟨hmissing, htaken⟩ := taken_of_recordItems hfilled
  have hoptional : ∀ field ∈ missing, field.2 = false := by
    dsimp only at hmore
    split at hmore
    next hempty =>
      rw [List.isEmpty_iff.mp hempty]
      exact List.forall_mem_nil _
    · obtain ⟨-, -, hcomplete⟩ := ok_of_bind hmore
      split at hcomplete
      · cases hcomplete
      next hnone => exact optional_of_firstMissing hnone
  refine ⟨List.forall_mem_nil _, List.nodup_nil, fun field hfield hrequired => ?_,
    fun field _ value hheld => ?_⟩
  · obtain ⟨position, hposition, hget⟩ := List.getElem_of_mem hfield
    have hgiven : position < items.length := by
      by_contra hshort
      have hleft : field ∈ missing := by
        rw [hmissing, List.mem_iff_getElem?]
        exact ⟨position - items.length, by
          rw [List.getElem?_drop, Nat.add_sub_cancel' (Nat.not_lt.mp hshort),
            List.getElem?_eq_getElem hposition, hget]⟩
      exact absurd hrequired (by rw [hoptional field hleft]; exact Bool.false_ne_true)
    have hnamed : shape.names[position]? = some field.1 := by
      rw [Shape.names, List.getElem?_map, List.getElem?_eq_getElem hposition, hget]
      rfl
    exact ⟨items[position], .item hnamed (List.getElem?_eq_getElem hgiven)⟩
  · cases hheld with
    | item hnamed hgiven => exact htaken _ field value hnamed hgiven

/-- **What strict records are decoded from.** Only known keys, none of them twice, and everything
that must be given; and what is given for a field is taken for it. -/
theorem accepted_of_decodeRecord (strict : shape.strict = true) {start final : σ} {record : Draft}
    (decoded : decodeRecord shape start step record = .ok final) : Accepted shape step record := by
  cases record with
  | object members ending => exact .object strict decoded
  | array items ending => exact .array decoded
  | _ => cases decoded

end

/-! ### Parts -/

section

variable {α : Type} {decode : Decoder α}

/-- What is decoded as a part that may be null, and is not null, is decoded. -/
theorem decoded_of_decodeOptional {draft : Draft} {part : Option α} (given : draft ≠ .null)
    (decoded : decodeOptional decode draft = .ok part) : ∃ value, decode draft = .ok value := by
  rw [decodeOptional] at decoded
  · cases hdecode : decode draft with
    | error error =>
      rw [hdecode] at decoded
      cases decoded
    | ok value => exact ⟨value, rfl⟩
  · exact given

/-- Every item of a list that is decoded is decoded. -/
theorem decoded_of_decodeList {items : List Draft} {ending : Ending} {values : List α}
    (decoded : decodeList decode (.array items ending) = .ok values) :
    ∀ item ∈ items, ∃ value, decode item = .ok value := by
  obtain ⟨values, heach, -⟩ := ok_of_bind decoded
  clear decoded
  induction items generalizing values with
  | nil => exact List.forall_mem_nil _
  | cons item rest ih =>
    obtain ⟨first, hfirst, hmore⟩ := ok_of_bind heach
    obtain ⟨others, hothers, -⟩ := ok_of_bind hmore
    exact List.forall_mem_cons.mpr ⟨⟨first, hfirst⟩, ih others hothers⟩

/-- Every item of a list that a strict record holds for a field is decoded, where the field is taken
from a list of such items. -/
theorem Accepted.decoded_items {σ : Type} {shape : Shape} {step : σ → String → Draft → Decoded σ}
    {record : Draft} {field : String} {items : List Draft} {ending : Ending}
    (accepted : Accepted shape step record) (named : field ∈ shape.names)
    (takes : ∀ {state next draft}, step state field draft = .ok next →
      ∃ values, decodeList decode draft = .ok values)
    (held : record.Holds shape.names field (.array items ending)) :
    ∀ item ∈ items, ∃ value, decode item = .ok value := by
  obtain ⟨state, next, htaken⟩ := accepted.taken field named _ held
  obtain ⟨values, hvalues⟩ := takes htaken
  exact decoded_of_decodeList hvalues

end

end PageCheck.Json
