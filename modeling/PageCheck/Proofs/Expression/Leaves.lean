import PageCheck.Expression.Resolver
import PageCheck.Proofs.Fallible
import PageCheck.Proofs.Json.Texts

/-!
# Values resolved text by text

A value is resolved by resolving the texts inside it, each by itself. What comes of it has the shape
of the value: the same keys in the same order, as many items, and what is no text as it was; where a
text stood there is what the text was resolved to, be it a container. Texts are resolved in the
order in which they stand, and the first one that fails decides the error. Keys are never resolved.
-/

namespace PageCheck

namespace Json

/-- One value is another one in which every text has given way to what it stands for. -/
inductive TextByText (stands : String → Json → Prop) : Json → Json → Prop
  | null : TextByText stands .null .null
  | bool (value : Bool) : TextByText stands (.bool value) (.bool value)
  | number (value : Number) : TextByText stands (.number value) (.number value)
  /-- A text gives way to what it stands for, of whatever kind that is. -/
  | string {text : String} {value : Json} (meant : stands text value) :
      TextByText stands (.string text) value
  /-- An array keeps the number and the order of its items. -/
  | array {items results : List Json} (each : List.Forall₂ (TextByText stands) items results) :
      TextByText stands (.array items) (.array results)
  /-- An object keeps its keys and their order. -/
  | object {members results : Members} (keys : results.keys = members.keys)
      (each : List.Forall₂ (TextByText stands) (members.map (·.2)) (results.map (·.2))) :
      TextByText stands (.object members) (.object results)

end Json

namespace Expression.Resolver

mutual

/-- A value is resolved with the error of the first text inside it that has one. -/
theorem failure?_resolveValue (resolver : Resolver) : ∀ value : Json,
    failure? (resolver.resolveValue value) =
      value.texts.findSome? fun text => failure? (resolver.resolve text)
  | .null => rfl
  | .bool _ => rfl
  | .number _ => rfl
  | .string text => by
    rw [resolveValue, Json.texts, List.findSome?_singleton]
  | .array items => by
    rw [resolveValue, Json.texts, failure?_map]
    exact failure?_resolveItems resolver items
  | .object members => by
    rw [resolveValue, Json.texts, failure?_map]
    exact failure?_resolveMembers resolver members

/-- So are the items of an array. -/
theorem failure?_resolveItems (resolver : Resolver) : ∀ items : List Json,
    failure? (resolver.resolveItems items) =
      (Json.textsItems items).findSome? fun text => failure? (resolver.resolve text)
  | [] => rfl
  | item :: rest => by
    rw [resolveItems, Json.textsItems, List.findSome?_append,
      ← failure?_resolveValue resolver item, ← failure?_resolveItems resolver rest]
    exact failure?_both _ _ _

/-- And so are the members of an object. -/
theorem failure?_resolveMembers (resolver : Resolver) : ∀ members : Members,
    failure? (resolver.resolveMembers members) =
      (Json.textsMembers members).findSome? fun text => failure? (resolver.resolve text)
  | [] => rfl
  | (key, value) :: rest => by
    rw [resolveMembers, Json.textsMembers, List.findSome?_append,
      ← failure?_resolveValue resolver value, ← failure?_resolveMembers resolver rest]
    exact failure?_both _ _ _

end

/-- What a text stands for in a resolver. -/
def Means (resolver : Resolver) (text : String) (value : Json) : Prop :=
  resolver.resolve text = .ok value

open Json (TextByText)

mutual

/-- What a value is resolved to is the value with every text resolved. -/
theorem textByText_of_resolveValue (resolver : Resolver) : ∀ (value : Json) {result : Json},
    resolver.resolveValue value = .ok result → TextByText resolver.Means value result
  | .null, _, resolved => by
    cases resolved
    exact .null
  | .bool value, _, resolved => by
    cases resolved
    exact .bool value
  | .number value, _, resolved => by
    cases resolved
    exact .number value
  | .string text, _, resolved => by
    rw [resolveValue] at resolved
    exact .string resolved
  | .array items, _, resolved => by
    rw [resolveValue] at resolved
    obtain ⟨results, hresults, hresult⟩ := ok_of_map resolved
    cases hresult
    exact .array (textByText_of_resolveItems resolver items hresults)
  | .object members, _, resolved => by
    rw [resolveValue] at resolved
    obtain ⟨results, hresults, hresult⟩ := ok_of_map resolved
    cases hresult
    obtain ⟨hkeys, heach⟩ := textByText_of_resolveMembers resolver members hresults
    exact .object hkeys heach

/-- So are the items of an array, one by one. -/
theorem textByText_of_resolveItems (resolver : Resolver) :
    ∀ (items : List Json) {results : List Json}, resolver.resolveItems items = .ok results →
      List.Forall₂ (TextByText resolver.Means) items results
  | [], _, resolved => by
    cases resolved
    exact .nil
  | item :: rest, _, resolved => by
    rw [resolveItems] at resolved
    obtain ⟨first, hfirst, hmore⟩ := ok_of_bind resolved
    obtain ⟨others, hothers, hresults⟩ := ok_of_bind hmore
    cases hresults
    exact .cons (textByText_of_resolveValue resolver item hfirst)
      (textByText_of_resolveItems resolver rest hothers)

/-- And so are the members of an object, under the same keys. -/
theorem textByText_of_resolveMembers (resolver : Resolver) :
    ∀ (members : Members) {results : Members}, resolver.resolveMembers members = .ok results →
      results.keys = members.keys ∧
        List.Forall₂ (TextByText resolver.Means) (members.map (·.2)) (results.map (·.2))
  | [], _, resolved => by
    cases resolved
    exact ⟨rfl, .nil⟩
  | (key, value) :: rest, _, resolved => by
    rw [resolveMembers] at resolved
    obtain ⟨first, hfirst, hmore⟩ := ok_of_bind resolved
    obtain ⟨others, hothers, hresults⟩ := ok_of_bind hmore
    cases hresults
    obtain ⟨hkeys, heach⟩ := textByText_of_resolveMembers resolver rest hothers
    exact ⟨congrArg (key :: ·) hkeys,
      .cons (textByText_of_resolveValue resolver value hfirst) heach⟩

end

mutual

/-- A value with every text resolved is what the value is resolved to. -/
theorem resolveValue_of_textByText (resolver : Resolver) : ∀ (value : Json) {result : Json},
    TextByText resolver.Means value result → resolver.resolveValue value = .ok result
  | .null, _, .null => rfl
  | .bool _, _, .bool _ => rfl
  | .number _, _, .number _ => rfl
  | .string _, _, .string meant => by
    rw [resolveValue]
    exact meant
  | .array items, _, .array each => by
    rw [resolveValue, resolveItems_of_textByText resolver items each]
    rfl
  | .object members, _, .object keys each => by
    rw [resolveValue, resolveMembers_of_textByText resolver members keys each]
    rfl

/-- So it is for the items of an array. -/
theorem resolveItems_of_textByText (resolver : Resolver) :
    ∀ (items : List Json) {results : List Json},
      List.Forall₂ (TextByText resolver.Means) items results →
      resolver.resolveItems items = .ok results
  | [], _, .nil => rfl
  | item :: rest, _, .cons first others => by
    rw [resolveItems, resolveValue_of_textByText resolver item first,
      resolveItems_of_textByText resolver rest others]
    rfl

/-- And so it is for the members of an object. -/
theorem resolveMembers_of_textByText (resolver : Resolver) :
    ∀ (members : Members) {results : Members}, results.keys = members.keys →
      List.Forall₂ (TextByText resolver.Means) (members.map (·.2)) (results.map (·.2)) →
      resolver.resolveMembers members = .ok results
  | [], [], _, _ => rfl
  | (key, value) :: rest, (other, first) :: others, keys, .cons meant each => by
    obtain ⟨rfl, hkeys⟩ := List.cons_eq_cons.mp keys
    rw [resolveMembers, resolveValue_of_textByText resolver value meant,
      resolveMembers_of_textByText resolver rest hkeys each]
    rfl

end

/-- **Values are resolved text by text.** A value is resolved just if all texts inside it are, to the
value with each of them resolved: the same keys, the same numbers of items, and what is no text as
it was. Otherwise the error is that of the first text in document order that is not resolved. -/
theorem resolved_text_by_text (resolver : Resolver) (value : Json) :
    (∀ result, resolver.resolveValue value = .ok result ↔
      TextByText (fun text found => resolver.resolve text = .ok found) value result) ∧
    ((∃ result, resolver.resolveValue value = .ok result) ↔
      ∀ text ∈ value.texts, ∃ found, resolver.resolve text = .ok found) ∧
    (∀ error, resolver.resolveValue value = .error error ↔
      ∃ before text after, value.texts = before ++ text :: after ∧
        (∀ earlier ∈ before, ∃ found, resolver.resolve earlier = .ok found) ∧
        resolver.resolve text = .error error) := by
  refine ⟨fun result => ⟨textByText_of_resolveValue resolver value,
    resolveValue_of_textByText resolver value⟩, ?_, fun error => ?_⟩
  · rw [← failure?_eq_none_iff, failure?_resolveValue, List.findSome?_eq_none_iff]
    exact forall₂_congr fun _ _ => failure?_eq_none_iff
  · rw [← failure?_eq_some_iff, failure?_resolveValue, List.findSome?_eq_some_iff]
    simp only [failure?_eq_none_iff, failure?_eq_some_iff, and_comm]

end Expression.Resolver

end PageCheck
