import PageCheck.Proofs.Expression.Chain
import PageCheck.Proofs.Json.Texts
import PageCheck.Proofs.Step.Resolution

/-!
# What resolving leaves

Where no text is escaped, the end of a chain is no text with a leading dollar sign. So no expression
is left in the selector of a resolved step or in the target of a resolved validation. The parameters
can still hold some: an expression that leads to an array or an object is replaced by it as it is,
and the texts inside are not resolved in turn. That is the only way in which one is left.
-/

namespace PageCheck

namespace Expression

/-- Two dollar signs lead a text, which write one. -/
def Escaped (text : String) : Prop := ['$', '$'] <+: text.toList

instance (text : String) : Decidable (Escaped text) :=
  inferInstanceAs (Decidable (['$', '$'] <+: text.toList))

/-- No text that can be looked up is escaped. -/
structure Resolver.Unescaped (resolver : Resolver) : Prop where
  /-- None of the data is. -/
  data : ∀ text ∈ Json.textsMembers resolver.data, ¬ Escaped text
  /-- None of the outputs is. -/
  outputs : ∀ text ∈ Json.textsMembers resolver.outputs, ¬ Escaped text
  /-- None of the environment is. -/
  environment : ∀ name text, resolver.environment.get? name = some text → ¬ Escaped text
  /-- None of the answers of plugins is. -/
  roots : ∀ source ∈ resolver.roots, ∀ name rest value, source name rest = some value →
    ∀ text ∈ value.texts, ¬ Escaped text

/-- A text leads to an array or an object, and in there is an expression. -/
def Resolver.LeadsToExpressions (resolver : Resolver) (text : String) : Prop :=
  ∃ lookups container inner, lookups ≤ 16 ∧ Chain resolver lookups text container ∧
    container.string? = none ∧ inner ∈ container.texts ∧ startsWithSigil inner = true

/-! ### The ends of chains -/

/-- What segments lead to has no texts but those of the value from which they are followed. -/
theorem Leads.mem_texts {start value : Json} {segments : List Segment}
    (leads : Leads start segments value) {text : String} (mem : text ∈ value.texts) :
    text ∈ start.texts := by
  induction leads with
  | here value => exact mem
  | member found further ih =>
    rw [Json.texts]
    exact Json.mem_textsMembers found (ih mem)
  | item found further ih =>
    rw [Json.texts]
    exact Json.mem_textsItems found (ih mem)
  | numeral number found further ih =>
    rw [Json.texts]
    exact Json.mem_textsItems found (ih mem)

namespace Resolver

variable {resolver : Resolver}

/-- No text inside a value that is found is escaped. -/
theorem Unescaped.found (unescaped : resolver.Unescaped) {segments : List Segment} {value : Json}
    (found : resolver.Found segments value) {text : String} (mem : text ∈ value.texts) :
    ¬ Escaped text := by
  obtain ⟨before, place, after, hplaces, hholds, _⟩ := found
  have hplace : place ∈ resolver.places := hplaces ▸ List.mem_append_right before List.mem_cons_self
  have hstore : ∀ {members : Members}, Leads (.object members) segments value →
      text ∈ Json.textsMembers members := by
    intro members hleads
    have hmem := hleads.mem_texts mem
    rwa [Json.texts] at hmem
  rw [places, List.mem_append, List.mem_map] at hplace
  simp only [List.mem_cons, List.not_mem_nil, or_false] at hplace
  rcases hplace with (rfl | rfl | rfl) | ⟨source, hsource, rfl⟩
  · cases hholds with
    | store leads => exact unescaped.data text (hstore leads)
  · cases hholds with
    | store leads => exact unescaped.outputs text (hstore leads)
  · cases hholds with
    | environment defined =>
      cases Json.mem_texts_string.mp mem
      exact unescaped.environment _ _ defined
  · cases hholds with
    | root given => exact unescaped.roots source hsource _ _ _ given text mem

/-- A chain that starts at a text which is not escaped ends in no text with a leading dollar sign:
only an escape can, and none is looked up on the way. -/
theorem Unescaped.chain_end (unescaped : resolver.Unescaped) {lookups : Nat} {text : String}
    {value : Json} (chain : Chain resolver lookups text value) (plain : ¬ Escaped text)
    {ending : String} (string : value = .string ending) : startsWithSigil ending = false := by
  rw [← Bool.not_eq_true, startsWithSigil_iff]
  induction chain with
  | plain start =>
    cases string
    exact start
  | escape start => exact absurd ⟨_, start.symm⟩ plain
  | value start single wellFormed found final => exact final ending string
  | next start single wellFormed found again further ih =>
    exact ih (unescaped.found found (Json.mem_texts_string.mpr rfl)) string

/-- A text that is resolved has a chain. -/
theorem chain_of_resolve {text : String} {value : Json}
    (resolved : resolver.resolve text = .ok value) :
    ∃ lookups, lookups ≤ 16 ∧ Chain resolver lookups text value := by
  rcases chain_or_error resolver text 16 text with ⟨lookups, ending, hle, chain⟩ | ⟨reason, herror⟩
  · have hending : resolver.resolve text = .ok ending := resolveWithin_of_chain chain hle
    rw [hending] at resolved
    cases resolved
    exact ⟨lookups, hle, chain⟩
  · have hfailed : resolver.resolve text = _ := herror
    rw [hfailed] at resolved
    cases resolved

/-- A text that is resolved and shown has no leading dollar sign. -/
theorem Unescaped.resolveText (unescaped : resolver.Unescaped) {text shown : String}
    (plain : ¬ Escaped text) (resolved : resolver.resolveText text = .ok shown) :
    startsWithSigil shown = false := by
  obtain ⟨value, hvalue, hshown⟩ : ∃ value, resolver.resolve text = .ok value ∧
      value.plainText = shown := by
    rw [Resolver.resolveText] at resolved
    cases hvalue : resolver.resolve text with
    | error error =>
      rw [hvalue] at resolved
      cases resolved
    | ok value =>
      rw [hvalue] at resolved
      cases resolved
      exact ⟨value, rfl, rfl⟩
  obtain ⟨lookups, _, chain⟩ := chain_of_resolve hvalue
  rw [← Bool.not_eq_true]
  intro hsigil
  obtain ⟨ending, rfl⟩ := Json.eq_string_of_head_plainText
    (hshown ▸ startsWithSigil_iff.mp hsigil)
  cases hshown
  have hplain : startsWithSigil ending = false := unescaped.chain_end chain plain rfl
  rw [Json.plainText, hplain] at hsigil
  cases hsigil

/-! ### Texts of resolved values -/

/-- A text leads, in few enough look-ups, to a value with a certain text inside. -/
def Yields (resolver : Resolver) (inner text : String) : Prop :=
  ∃ value, resolver.resolve text = .ok value ∧ inner ∈ value.texts

/-- What is resolved in two parts yields what the parts yield. -/
theorem exists_yields_append {inner : String} {first second : List String} :
    (∃ text ∈ first ++ second, resolver.Yields inner text) ↔
      (∃ text ∈ first, resolver.Yields inner text) ∨
        ∃ text ∈ second, resolver.Yields inner text := by
  simp only [List.mem_append, or_and_right, exists_or]

mutual

/-- The texts of a resolved value are those that the texts of the value yield. -/
theorem mem_texts_of_resolveValue (resolver : Resolver) (inner : String) :
    ∀ (value : Json) {resolved : Json}, resolver.resolveValue value = .ok resolved →
      (inner ∈ resolved.texts ↔ ∃ text ∈ value.texts, resolver.Yields inner text)
  | .string text, resolved, h => by
    rw [resolveValue] at h
    simp [Yields, h]
  | .array items, resolved, h => by
    rw [resolveValue] at h
    cases hitems : resolver.resolveItems items with
    | error error =>
      rw [hitems] at h
      cases h
    | ok others =>
      rw [hitems] at h
      cases h
      rw [Json.texts, Json.texts]
      exact mem_textsItems_of_resolveItems resolver inner items hitems
  | .object members, resolved, h => by
    rw [resolveValue] at h
    cases hmembers : resolver.resolveMembers members with
    | error error =>
      rw [hmembers] at h
      cases h
    | ok others =>
      rw [hmembers] at h
      cases h
      rw [Json.texts, Json.texts]
      exact mem_textsMembers_of_resolveMembers resolver inner members hmembers
  | .null, _, h => by
    cases h
    simp [Json.texts]
  | .bool _, _, h => by
    cases h
    simp [Json.texts]
  | .number _, _, h => by
    cases h
    simp [Json.texts]

/-- So are the texts of resolved items. -/
theorem mem_textsItems_of_resolveItems (resolver : Resolver) (inner : String) :
    ∀ (items : List Json) {resolved : List Json}, resolver.resolveItems items = .ok resolved →
      (inner ∈ Json.textsItems resolved ↔
        ∃ text ∈ Json.textsItems items, resolver.Yields inner text)
  | [], _, h => by
    cases h
    simp [Json.textsItems]
  | item :: rest, _, h => by
    rw [resolveItems] at h
    obtain ⟨first, hfirst, hmore⟩ := ok_of_bind h
    obtain ⟨others, hothers, hresolved⟩ := ok_of_bind hmore
    cases hresolved
    rw [Json.textsItems, Json.textsItems, List.mem_append, exists_yields_append,
      mem_texts_of_resolveValue resolver inner item hfirst,
      mem_textsItems_of_resolveItems resolver inner rest hothers]

/-- And so are the texts of resolved members. -/
theorem mem_textsMembers_of_resolveMembers (resolver : Resolver) (inner : String) :
    ∀ (members : List (String × Json)) {resolved : List (String × Json)},
      resolver.resolveMembers members = .ok resolved →
      (inner ∈ Json.textsMembers resolved ↔
        ∃ text ∈ Json.textsMembers members, resolver.Yields inner text)
  | [], _, h => by
    cases h
    simp [Json.textsMembers]
  | (key, value) :: rest, _, h => by
    rw [resolveMembers] at h
    obtain ⟨first, hfirst, hmore⟩ := ok_of_bind h
    obtain ⟨others, hothers, hresolved⟩ := ok_of_bind hmore
    cases hresolved
    rw [Json.textsMembers, Json.textsMembers, List.mem_append, exists_yields_append,
      mem_texts_of_resolveValue resolver inner value hfirst,
      mem_textsMembers_of_resolveMembers resolver inner rest hothers]

end

/-- An expression is yielded by a text that is not escaped exactly if the text leads to a container
with expressions: a chain that ends in a text ends in no expression. -/
theorem Unescaped.yields_iff (unescaped : resolver.Unescaped) {text : String}
    (plain : ¬ Escaped text) :
    (∃ inner, startsWithSigil inner = true ∧ resolver.Yields inner text) ↔
      resolver.LeadsToExpressions text := by
  constructor
  · rintro ⟨inner, hsigil, value, hvalue, hmem⟩
    obtain ⟨lookups, hle, chain⟩ := chain_of_resolve hvalue
    refine ⟨lookups, value, inner, hle, chain, ?_, hmem, hsigil⟩
    cases value with
    | string ending =>
      cases Json.mem_texts_string.mp hmem
      rw [unescaped.chain_end chain plain rfl] at hsigil
      cases hsigil
    | _ => rfl
  · rintro ⟨lookups, container, inner, hle, chain, _, hmem, hsigil⟩
    exact ⟨inner, hsigil, container, resolveWithin_of_chain chain hle, hmem⟩

/-- Resolved parameters hold no expressions exactly if no text in the parameters leads to some. -/
theorem Unescaped.resolveMembers (unescaped : resolver.Unescaped) {parameters resolved : Members}
    (plain : ∀ text ∈ Json.textsMembers parameters, ¬ Escaped text)
    (hresolved : resolver.resolveMembers parameters = .ok resolved) :
    (∀ text ∈ Json.textsMembers resolved, startsWithSigil text = false) ↔
      ∀ text ∈ Json.textsMembers parameters, ¬ resolver.LeadsToExpressions text := by
  have hmem := fun inner => mem_textsMembers_of_resolveMembers resolver inner parameters hresolved
  constructor
  · intro hnone text htext hleads
    obtain ⟨inner, hsigil, hyields⟩ := (unescaped.yields_iff (plain text htext)).mpr hleads
    rw [hnone inner ((hmem inner).mpr ⟨text, htext, hyields⟩)] at hsigil
    cases hsigil
  · intro hnone inner hinner
    obtain ⟨text, htext, hyields⟩ := (hmem inner).mp hinner
    rw [← Bool.not_eq_true]
    intro hsigil
    exact hnone text htext ((unescaped.yields_iff (plain text htext)).mp ⟨inner, hsigil, hyields⟩)

end Resolver

end Expression

open Expression (Escaped Resolver startsWithSigil)

/-- The texts of a step: the selector, if there is a locator, and those of the parameters. -/
def Step.texts (step : Step) : List String :=
  (step.locator.map Locator.selector).toList ++ Json.textsMembers step.parameters

/-- The texts of a validation from which its target and its parameters are resolved. -/
def Validation.texts (validation : Validation) : List String :=
  validation.target :: Json.textsMembers validation.parameters

/-- **What resolving leaves.** If no text is escaped, the selector of a resolved step and the target
of a resolved validation are no expressions, and their parameters have no expressions left exactly
if no text in the parameters leads to an array or an object with expressions. -/
theorem no_expressions_left_iff {resolver : Resolver} (unescaped : resolver.Unescaped) :
    (∀ (step : Step) (resolved : ResolvedStep), (∀ text ∈ step.texts, ¬ Escaped text) →
      step.resolve resolver = .ok resolved →
      (∀ locator, resolved.locator = some locator → startsWithSigil locator.selector = false) ∧
        ((∀ text ∈ Json.textsMembers resolved.parameters, startsWithSigil text = false) ↔
          ∀ text ∈ Json.textsMembers step.parameters, ¬ resolver.LeadsToExpressions text)) ∧
    (∀ (validation : Validation) (resolved : ResolvedValidation),
      (∀ text ∈ validation.texts, ¬ Escaped text) →
      validation.resolve resolver = .ok resolved →
      startsWithSigil resolved.target = false ∧
        ((∀ text ∈ Json.textsMembers resolved.parameters, startsWithSigil text = false) ↔
          ∀ text ∈ Json.textsMembers validation.parameters,
            ¬ resolver.LeadsToExpressions text)) := by
  refine ⟨?_, ?_⟩
  · intro step resolved hplain hresolve
    have hto := Step.resolvesTo_of_resolve hresolve
    refine ⟨?_, unescaped.resolveMembers
      (fun text htext => hplain text (List.mem_append_right _ htext)) hto.parameters⟩
    intro locator hlocator
    rcases hto.locator with ⟨_, hnone⟩ | ⟨written, selector, hwritten, hselector, hsome⟩
    · rw [hnone] at hlocator
      cases hlocator
    · rw [hsome] at hlocator
      cases hlocator
      have hmem : written.selector ∈ step.texts := by
        rw [Step.texts, hwritten]
        exact List.mem_append_left _ List.mem_cons_self
      exact unescaped.resolveText (hplain _ hmem) hselector
  · intro validation resolved hplain hresolve
    have hto := Validation.resolvesTo_of_resolve hresolve
    exact ⟨unescaped.resolveText (hplain _ List.mem_cons_self) hto.target,
      unescaped.resolveMembers (fun text htext => hplain text (List.mem_cons_of_mem _ htext))
        hto.parameters⟩

/-- Data with a list of expressions. -/
def linking : Resolver where
  data := [("home", .string "/"), ("start", .string "$home"), ("links", .array [.string "$home"])]
  outputs := []
  environment := []
  roots := []

/-- Nothing in that data is escaped. -/
theorem unescaped_linking : linking.Unescaped where
  data := by decide
  outputs := by decide
  environment name text defined := by
    rw [linking, Expression.Environment.get?] at defined
    split at defined <;> cases defined
  roots := by simp [linking]

/-- A step with an expression that leads to the list. -/
def listing : Step := ⟨0, .refresh, none, [("links", .string "$links")], none, none⟩

/-- A validation whose expressions lead to a text. -/
def comparing : Validation :=
  ⟨0, .url, .equals, "$home", none, [("value", .string "$start")]⟩

/-- An expression in the parameters of the step leads to expressions, and none in those of the
validation does. -/
theorem no_expressions_left_iff_linking :
    linking.Unescaped ∧ (∀ text ∈ listing.texts, ¬ Escaped text) ∧
      listing.resolve linking =
        .ok ⟨.refresh, none, [("links", .array [.string "$home"])], none, none⟩ ∧
      (∀ text ∈ comparing.texts, ¬ Escaped text) ∧
      comparing.resolve linking = .ok ⟨.url, .equals, "/", none, [("value", .string "/")]⟩ ∧
      linking.LeadsToExpressions "$links" ∧ ¬ linking.LeadsToExpressions "$start" := by
  have hlisting : ∀ text ∈ listing.texts, ¬ Escaped text := by decide
  have hlisted : listing.resolve linking =
      .ok ⟨.refresh, none, [("links", .array [.string "$home"])], none, none⟩ := by cbv
  have hcomparing : ∀ text ∈ comparing.texts, ¬ Escaped text := by decide
  have hcompared : comparing.resolve linking =
      .ok ⟨.url, .equals, "/", none, [("value", .string "/")]⟩ := by cbv
  obtain ⟨hstep, hvalidation⟩ := no_expressions_left_iff unescaped_linking
  refine ⟨unescaped_linking, hlisting, hlisted, hcomparing, hcompared, ?_, ?_⟩
  · have hleft := (hstep listing _ hlisting hlisted).2.not.mp (by decide)
    simpa [listing, Json.textsMembers, Json.texts] using hleft
  · have hnone := (hvalidation comparing _ hcomparing hcompared).2.mp (by decide)
    exact hnone "$start" (by decide)

/-- A step that is resolved, and has an expression left in the list that its expression led to. -/
theorem expressions_left_linking :
    linking.Unescaped ∧ (∀ text ∈ listing.texts, ¬ Escaped text) ∧
      ∃ resolved, listing.resolve linking = .ok resolved ∧
        ¬ ∀ text ∈ Json.textsMembers resolved.parameters, startsWithSigil text = false := by
  refine ⟨unescaped_linking, by decide,
    ⟨.refresh, none, [("links", .array [.string "$home"])], none, none⟩, by cbv, ?_⟩
  decide

end PageCheck
