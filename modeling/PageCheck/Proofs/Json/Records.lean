import PageCheck.Json.Decode
import PageCheck.Proofs.Fallible
import PageCheck.Proofs.Json.Members
import PageCheck.Proofs.Json.Reading

/-!
# Decoding records

A record that is not strict is decoded from the members that it knows, in their order, whatever
other members stand among them; and what is decoded from a member depends on nothing but what the
record takes from its value. What every field keeps is kept by the whole record, be it written with
or without keys. Members that fill a record one after the other are decoded as the filled record if
none of them is unknown or repeated and none that must be there is missing.
-/

namespace PageCheck.Json

/-- The drafts of items, one by one. -/
theorem draftItems_eq_map (items : List Json) : draftItems items = items.map draft := by
  induction items with
  | nil => rfl
  | cons item rest ih => rw [draftItems, ih, List.map_cons]

/-- What items are read as, one by one. -/
theorem asReadItems_eq_map (items : List Json) : asReadItems items = items.map asRead := by
  induction items with
  | nil => rfl
  | cons item rest ih => rw [asReadItems, ih, List.map_cons]

/-- The drafts of members, one by one. -/
theorem draftMembers_eq_map (members : Members) :
    draftMembers members = members.map fun member => (member.1, member.2.draft) := by
  induction members with
  | nil => rfl
  | cons member rest ih =>
    obtain ⟨key, value⟩ := member
    rw [draftMembers, ih, List.map_cons]

section

variable {σ : Type} {shape : Shape} {step : σ → String → Draft → Decoded σ}

/-- A known field that has not been given before is taken. -/
theorem recordMembers_take {state next : σ} {seen : List String} {key : String} {value : Draft}
    (known : shape.names.contains key = true) (new : seen.contains key = false)
    (taken : step state key value = .ok next) (rest : List (String × Draft)) :
    recordMembers shape step state seen ((key, value) :: rest) =
      recordMembers shape step next (key :: seen) rest := by
  simp only [recordMembers, known, new, if_true, Bool.false_eq_true, if_false, taken]
  rfl

/-- Members that a record does not know are passed over, unless it is strict. -/
theorem recordMembers_filter (lax : shape.strict = false) (state : σ) (seen : List String)
    (members : List (String × Draft)) :
    recordMembers shape step state seen members =
      recordMembers shape step state seen
        (members.filter fun member => shape.names.contains member.1) := by
  induction members generalizing state seen with
  | nil => rfl
  | cons member rest ih =>
    obtain ⟨key, value⟩ := member
    cases hknown : shape.names.contains key with
    | false =>
      simp only [List.filter_cons, hknown, recordMembers, lax, Bool.false_eq_true, if_false]
      exact ih state seen
    | true =>
      simp only [List.filter_cons, hknown, if_true, recordMembers]
      cases hseen : seen.contains key with
      | true => rfl
      | false =>
        cases hstep : step state key value with
        | error error => rfl
        | ok next => exact ih next (key :: seen)

/-- A record that is not strict is decoded from the members that it knows. -/
theorem decodeRecord_filter (lax : shape.strict = false) (start : σ)
    (members : List (String × Draft)) (ending : Ending) :
    decodeRecord shape start step (.object members ending) =
      decodeRecord shape start step
        (.object (members.filter fun member => shape.names.contains member.1) ending) := by
  rw [decodeRecord, decodeRecord, recordMembers_filter lax]

/-- Two values of which a record takes the same are the same to it. -/
theorem recordMembers_middle {key : String} {first second : Draft}
    (alike : ∀ state, step state key first = step state key second) (state : σ)
    (seen : List String) (before after : List (String × Draft)) :
    recordMembers shape step state seen (before ++ (key, first) :: after) =
      recordMembers shape step state seen (before ++ (key, second) :: after) := by
  induction before generalizing state seen with
  | nil => rw [List.nil_append, List.nil_append, recordMembers, recordMembers, alike]
  | cons member rest ih =>
    obtain ⟨k, value⟩ := member
    rw [List.cons_append, List.cons_append, recordMembers, recordMembers]
    simp only [ih]

/-- Two values under a key of which a record takes the same make the same record. -/
theorem decodeRecord_middle {key : String} {first second : Draft}
    (alike : ∀ state, step state key first = step state key second) (start : σ)
    (before after : List (String × Draft)) (ending : Ending) :
    decodeRecord shape start step (.object (before ++ (key, first) :: after) ending) =
      decodeRecord shape start step (.object (before ++ (key, second) :: after) ending) := by
  rw [decodeRecord, decodeRecord, recordMembers_middle alike]

/-- Two values of which a record takes the same as its first field make the same record. -/
theorem decodeRecord_first {first second : Draft}
    (alike : ∀ state key, step state key first = step state key second) (start : σ)
    (rest : List Draft) (ending : Ending) :
    decodeRecord shape start step (.array (first :: rest) ending) =
      decodeRecord shape start step (.array (second :: rest) ending) := by
  rw [decodeRecord, decodeRecord]
  cases shape.fields with
  | nil => rfl
  | cons field fields =>
    obtain ⟨name, required⟩ := field
    rw [recordItems, recordItems, alike]

/-! ### What is kept -/

/-- The items of an array, or the values of the members of an object. -/
def Draft.parts : Draft → List Draft
  | .array items _ => items
  | .object members _ => members.map (·.2)
  | _ => []

variable {kept : σ → Prop} {fits : Draft → Prop}

/-- What every field of a record keeps is kept by all of its members together. -/
theorem kept_recordMembers
    (keeps : ∀ {state next key value}, kept state → fits value → step state key value = .ok next →
      kept next)
    {members : List (String × Draft)} (parts : ∀ member ∈ members, fits member.2)
    {state final : σ} {seen all : List String} (start : kept state)
    (taken : recordMembers shape step state seen members = .ok (final, all)) : kept final := by
  induction members generalizing state seen with
  | nil =>
    cases taken
    exact start
  | cons member rest ih =>
    obtain ⟨key, value⟩ := member
    obtain ⟨hvalue, hrest⟩ := List.forall_mem_cons.mp parts
    rw [recordMembers] at taken
    split at taken
    · split at taken
      · cases taken
      · obtain ⟨next, hnext, hothers⟩ := ok_of_bind taken
        exact ih hrest (keeps start hvalue hnext) hothers
    · split at taken
      · cases taken
      · exact ih hrest start taken

/-- What every field of a record keeps is kept by all of its items together. -/
theorem kept_recordItems
    (keeps : ∀ {state next key value}, kept state → fits value → step state key value = .ok next →
      kept next)
    {items : List Draft} (parts : ∀ item ∈ items, fits item) {state final : σ}
    {fields missing : List (String × Bool)} {left : List Draft} (start : kept state)
    (taken : recordItems step state fields items = .ok (final, missing, left)) : kept final := by
  induction items generalizing state fields with
  | nil =>
    cases fields <;> cases taken <;> exact start
  | cons item rest ih =>
    obtain ⟨hitem, hrest⟩ := List.forall_mem_cons.mp parts
    cases fields with
    | nil =>
      cases taken
      exact start
    | cons field fields =>
      obtain ⟨next, hnext, hothers⟩ := ok_of_bind taken
      exact ih hrest (keeps start hitem hnext) hothers

/-- What every field keeps is kept by the whole record. -/
theorem kept_decodeRecord
    (keeps : ∀ {state next key value}, kept state → fits value → step state key value = .ok next →
      kept next)
    {draft : Draft} (parts : ∀ part ∈ draft.parts, fits part) {start final : σ}
    (decoded : decodeRecord shape start step draft = .ok final) (initial : kept start) :
    kept final := by
  cases draft with
  | object members ending =>
    obtain ⟨⟨state, seen⟩, htaken, hrest⟩ := ok_of_bind decoded
    obtain ⟨_, _, hfinal⟩ := ok_of_bind hrest
    obtain rfl : state = final := by
      split at hfinal <;> cases hfinal
      rfl
    rw [Draft.parts, List.forall_mem_map] at parts
    exact kept_recordMembers keeps parts initial htaken
  | array items ending =>
    obtain ⟨⟨state, fields, left⟩, htaken, hrest⟩ := ok_of_bind decoded
    obtain rfl : state = final := by
      dsimp only at hrest
      split at hrest
      · obtain ⟨_, _, hfinal⟩ := ok_of_bind hrest
        cases hfinal
        rfl
      · obtain ⟨_, _, hfinal⟩ := ok_of_bind hrest
        split at hfinal <;> cases hfinal
        rfl
    exact kept_recordItems keeps parts initial htaken
  | _ => cases decoded

/-! ### Filled records -/

/-- Members that fill a record one after the other when they are read. -/
inductive Fills (step : σ → String → Draft → Decoded σ) : σ → Members → σ → Prop
  | nil {state : σ} : Fills step state [] state
  | cons {state next final : σ} {key : String} {value : Json} {rest : Members}
      (taken : step state key value.asRead = .ok next) (others : Fills step next rest final) :
      Fills step state ((key, value) :: rest) final

/-- Some members fill a record as far as others begin. -/
theorem Fills.append {state next final : σ} {before after : Members}
    (first : Fills step state before next) (second : Fills step next after final) :
    Fills step state (before ++ after) final := by
  induction first with
  | nil => exact second
  | cons taken _ ih => exact .cons taken (ih second)

/-- Members of known keys that are all new are taken up to the filled record. -/
theorem Fills.recordMembers {state final : σ} {members : Members}
    (fills : Fills step state members final)
    (known : ∀ key ∈ members.keys, shape.names.contains key = true) {seen : List String}
    (new : (members.keys ++ seen).Nodup) :
    Json.recordMembers shape step state seen (asReadMembers members) =
      .ok (final, members.keys.reverse ++ seen) := by
  induction fills generalizing seen with
  | nil => rfl
  | @cons state next final key value rest taken _ ih =>
    obtain ⟨hkey, hknown⟩ := List.forall_mem_cons.mp known
    have hnew : (Members.keys rest ++ key :: seen).Nodup := List.nodup_middle.mpr new
    have hseen : seen.contains key = false := by
      simpa using fun hmem => (List.nodup_cons.mp new).1 (List.mem_append_right _ hmem)
    rw [asReadMembers, recordMembers_take hkey hseen taken, ih hknown hnew, Members.keys_cons,
      List.reverse_cons, List.append_assoc, List.singleton_append]

/-- Of fields that need not be given none is missing. -/
theorem firstMissing_eq_none {fields : List (String × Bool)}
    (optional : ∀ field ∈ fields, field.2 = false) (index : Nat) :
    firstMissing index fields = none := by
  induction fields generalizing index with
  | nil => rfl
  | cons field rest ih =>
    obtain ⟨name, required⟩ := field
    obtain ⟨hfield, hrest⟩ := List.forall_mem_cons.mp optional
    obtain rfl : required = false := hfield
    rw [firstMissing]
    exact ih hrest (index + 1)

/-- Members that fill a record are decoded as the filled record. -/
theorem decodeRecord_of_fills {start final : σ} {members : Members}
    (fills : Fills step start members final) (unique : members.keys.Nodup)
    (known : ∀ key ∈ members.keys, shape.names.contains key = true)
    (required : ∀ field ∈ shape.fields, field.2 = true → field.1 ∈ members.keys) :
    decodeRecord shape start step (Json.object members).asRead = .ok final := by
  have hmembers := fills.recordMembers known (show (members.keys ++ []).Nodup by simpa using unique)
  have hmissing : firstMissing 0 (shape.fields.filter fun field =>
      !(members.keys.reverse ++ []).contains field.1) = none := by
    refine firstMissing_eq_none (fun field hmem => ?_) 0
    obtain ⟨hfield, hnew⟩ := List.mem_filter.mp hmem
    refine Bool.eq_false_iff.mpr fun hrequired => ?_
    have hgiven := required field hfield hrequired
    simp [hgiven] at hnew
  rw [asRead, decodeRecord, hmembers]
  simp only [bind, Except.bind, Ending.check, hmissing]
  rfl

end

/-! ### Lists -/

section

variable {α : Type} {decode : Decoder α} {values : List α}

/-- Encoded values are decoded one by one. -/
theorem decodeEach_map (encode : α → Draft)
    (decodes : ∀ value ∈ values, decode (encode value) = .ok value) :
    decodeEach decode (values.map encode) = .ok values := by
  induction values with
  | nil => rfl
  | cons value rest ih =>
    obtain ⟨hvalue, hrest⟩ := List.forall_mem_cons.mp decodes
    rw [List.map_cons, decodeEach, hvalue, ih hrest]
    rfl

/-- A list of encoded values is decoded item by item. -/
theorem decodeList_draft {encode : α → Json}
    (decodes : ∀ value ∈ values, decode (encode value).draft = .ok value) :
    decodeList decode (Json.array (values.map encode)).draft = .ok values := by
  rw [draft, decodeList, draftItems_eq_map, List.map_map, decodeEach_map (draft ∘ encode) decodes]
  rfl

/-- A list of encoded values that was written and read is decoded item by item. -/
theorem decodeList_asRead {encode : α → Json}
    (decodes : ∀ value ∈ values, decode (encode value).asRead = .ok value) :
    decodeList decode (Json.array (values.map encode)).asRead = .ok values := by
  rw [asRead, decodeList, asReadItems_eq_map, List.map_map,
    decodeEach_map (asRead ∘ encode) decodes]
  rfl

/-- What is kept of every item is kept of each of the values that they are decoded as. -/
theorem kept_decodeEach {kept : α → Prop} {fits : Draft → Prop}
    (keeps : ∀ {item value}, fits item → decode item = .ok value → kept value)
    {items : List Draft} (parts : ∀ item ∈ items, fits item)
    (decoded : decodeEach decode items = .ok values) : ∀ value ∈ values, kept value := by
  induction items generalizing values with
  | nil =>
    cases decoded
    exact List.forall_mem_nil _
  | cons item rest ih =>
    obtain ⟨hitem, hrest⟩ := List.forall_mem_cons.mp parts
    obtain ⟨first, hfirst, hmore⟩ := ok_of_bind decoded
    obtain ⟨others, hothers, hvalues⟩ := ok_of_bind hmore
    cases hvalues
    exact List.forall_mem_cons.mpr ⟨keeps hitem hfirst, ih hrest hothers⟩

/-- What is kept of every item is kept of each value of a list. -/
theorem kept_decodeList {kept : α → Prop} {fits : Draft → Prop}
    (keeps : ∀ {item value}, fits item → decode item = .ok value → kept value)
    {draft : Draft} (parts : ∀ part ∈ draft.parts, fits part)
    (decoded : decodeList decode draft = .ok values) : ∀ value ∈ values, kept value := by
  cases draft with
  | array items ending =>
    obtain ⟨others, heach, hrest⟩ := ok_of_bind decoded
    obtain ⟨_, _, hvalues⟩ := ok_of_bind hrest
    cases hvalues
    exact kept_decodeEach keeps parts heach
  | _ => cases decoded

end

end PageCheck.Json
