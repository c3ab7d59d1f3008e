import PageCheck.Pattern.Basic

/-!
# Syntax without places

The places that a syntax keeps serve the wording of faults alone. Without them it nests as deep as
before and has a meaning just if it had one before, the same one.
-/

namespace PageCheck.Pattern

/-- A place that says nothing. -/
def nowhere : Span := ⟨0, 0⟩

mutual

/-- What stands between brackets, without places. -/
def ClassSyntax.bare : ClassSyntax → ClassSyntax
  | .empty => .empty
  | .literal char _ => .literal char nowhere
  | .range low high _ => .range low high nowhere
  | .named name negated _ => .named name negated nowhere
  | .kind letter negated _ => .kind letter negated nowhere
  | .property name value negated _ => .property name value negated nowhere
  | .bracket negated contents _ => .bracket negated contents.bare nowhere
  | .union items => .union (ClassSyntax.bares items)
  | .combine operator first second => .combine operator first.bare second.bare

/-- Items of a class, without places. -/
def ClassSyntax.bares : List ClassSyntax → List ClassSyntax
  | [] => []
  | item :: rest => item.bare :: ClassSyntax.bares rest

end

mutual

/-- What a pattern says, without places. -/
def Syntax.bare : Syntax → Syntax
  | .empty => .empty
  | .flags changes => .flags changes
  | .literal char _ => .literal char nowhere
  | .dot _ => .dot nowhere
  | .place spot => .place spot
  | .kind letter negated _ => .kind letter negated nowhere
  | .property name value negated _ => .property name value negated nowhere
  | .bracket negated contents _ => .bracket negated contents.bare nowhere
  | .repeated part least most => .repeated part.bare least most
  | .group captures changes part => .group captures changes part.bare
  | .sequence parts => .sequence (Syntax.bares parts)
  | .choice parts => .choice (Syntax.bares parts)

/-- Parts of a pattern, without places. -/
def Syntax.bares : List Syntax → List Syntax
  | [] => []
  | part :: rest => part.bare :: Syntax.bares rest

end

@[simp]
theorem ClassSyntax.bares_eq_map (items : List ClassSyntax) : bares items = items.map bare := by
  induction items with
  | nil => rfl
  | cons item rest ih => rw [bares, ih, List.map_cons]

@[simp]
theorem Syntax.bares_eq_map (parts : List Syntax) : bares parts = parts.map bare := by
  induction parts with
  | nil => rfl
  | cons part rest ih => rw [bares, ih, List.map_cons]

/-- What stands between brackets is put together in the same way without places. -/
theorem ClassSyntax.bare_ofItems (items : List ClassSyntax) :
    (ofItems items).bare = ofItems (items.map bare) := by
  rcases items with _ | ⟨item, _ | ⟨second, rest⟩⟩ <;> simp [ofItems, bare]

/-- A sequence is put together in the same way without places. -/
theorem Syntax.bare_ofParts (parts : List Syntax) :
    (ofParts parts).bare = ofParts (parts.map bare) := by
  rcases parts with _ | ⟨part, _ | ⟨second, rest⟩⟩ <;> simp [ofParts, bare]

/-- A choice is put together in the same way without places. -/
theorem Syntax.bare_ofChoices (parts : List Syntax) :
    (ofChoices parts).bare = ofChoices (parts.map bare) := by
  rcases parts with _ | ⟨part, _ | ⟨second, rest⟩⟩ <;> simp [ofChoices, bare]

/-! ### Depth -/

mutual

/-- Brackets nest as deep without places. -/
theorem ClassSyntax.depth_bare : (item : ClassSyntax) → item.bare.depth = item.depth
  | .empty | .literal .. | .range .. | .named .. | .kind .. | .property .. => rfl
  | .bracket _ contents _ => by rw [bare, depth, depth, contents.depth_bare]
  | .union items => by rw [bare, depth, depth, ClassSyntax.depths_bares items]
  | .combine _ first second => by
    rw [bare, depth, depth, first.depth_bare, second.depth_bare]

/-- Items of a class nest as deep without places. -/
theorem ClassSyntax.depths_bares : (items : List ClassSyntax) → depths (bares items) = depths items
  | [] => rfl
  | item :: rest => by rw [bares, depths, depths, item.depth_bare, ClassSyntax.depths_bares rest]

end

mutual

/-- A pattern nests as deep without places. -/
theorem Syntax.depth_bare : (part : Syntax) → part.bare.depth = part.depth
  | .empty | .flags .. | .literal .. | .dot .. | .place .. | .kind .. | .property .. => rfl
  | .bracket _ contents _ => by rw [bare, depth, depth, contents.depth_bare]
  | .repeated part _ _ => by rw [bare, depth, depth, part.depth_bare]
  | .group _ _ part => by rw [bare, depth, depth, part.depth_bare]
  | .sequence parts => by rw [bare, depth, depth, Syntax.depths_bares parts]
  | .choice parts => by rw [bare, depth, depth, Syntax.depths_bares parts]

/-- Parts of a pattern nest as deep without places. -/
theorem Syntax.depths_bares : (parts : List Syntax) → depths (bares parts) = depths parts
  | [] => rfl
  | part :: rest => by rw [bares, depths, depths, part.depth_bare, Syntax.depths_bares rest]

end

/-! ### Meaning -/

/-- What comes of one computation after another, whatever their faults are. -/
theorem toOption_bind {α β : Type} (first : Except Fault α) (next : α → Except Fault β) :
    (first >>= next).toOption = first.toOption.bind fun value => (next value).toOption := by
  cases first <;> rfl

/-- What a change of the value comes to, whatever the fault is. -/
theorem toOption_map {α β : Type} (f : α → β) (first : Except Fault α) :
    (first.map f).toOption = first.toOption.map f := by
  cases first <;> rfl

section Places

variable (flags : Flags) (span : Span)

/-- Negation does not depend on its place. -/
theorem toOption_negate (negated : Bool) (set : CharSet) :
    (negate flags negated span set).toOption = (negate flags negated nowhere set).toOption := by
  unfold negate
  split
  · rfl
  · split <;> rfl

/-- The set of a property does not depend on its place. -/
theorem toOption_propertySet (name : List Char) (value : Option (List Char)) (negated : Bool) :
    (propertySet flags name value negated span).toOption =
      (propertySet flags name value negated nowhere).toOption := by
  unfold propertySet
  split
  · rfl
  · dsimp only
    split
    · rfl
    · rfl
    · exact toOption_negate flags span negated _

/-- The character of a literal does not depend on its place. -/
theorem toOption_literalChar (literal : Literal) :
    (literalChar flags literal span).toOption = (literalChar flags literal nowhere).toOption := by
  unfold literalChar
  split <;> rfl

/-- The character of a literal in a class does not depend on its place. -/
theorem toOption_classChar (literal : Literal) :
    (classChar flags literal span).toOption = (classChar flags literal nowhere).toOption := by
  rw [classChar, classChar, toOption_bind, toOption_bind, toOption_literalChar]
  congr 1
  funext c
  split <;> rfl

end Places

mutual

/-- The set between brackets does not depend on places. -/
theorem toOption_classSet (flags : Flags) : (item : ClassSyntax) →
    (classSet flags item).toOption = (classSet flags item.bare).toOption
  | .empty => rfl
  | .literal literal span => by
    have hchar := toOption_classChar flags span literal
    simp only [classSet, ClassSyntax.bare, toOption_map, hchar]
  | .range low high span => by
    have hlow := toOption_classChar flags span low
    have hhigh := toOption_classChar flags span high
    simp only [classSet, ClassSyntax.bare, toOption_bind, hlow, hhigh]
  | .named name negated span => toOption_negate flags span negated _
  | .kind kind negated span => toOption_negate flags span negated _
  | .property name value negated span => toOption_propertySet flags span name value negated
  | .bracket negated contents span => by
    have hcontents := toOption_classSet flags contents
    have hnegate := toOption_negate flags span negated
    simp only [classSet, ClassSyntax.bare, toOption_bind, hcontents, hnegate]
  | .union items => toOption_classUnion flags items
  | .combine operator first second => by
    have hfirst := toOption_classSet flags first
    have hsecond := toOption_classSet flags second
    simp only [classSet, ClassSyntax.bare, toOption_bind, hfirst, hsecond]

/-- The union of the sets of items does not depend on places. -/
theorem toOption_classUnion (flags : Flags) : (items : List ClassSyntax) →
    (classUnion flags items).toOption = (classUnion flags (ClassSyntax.bares items)).toOption
  | [] => rfl
  | item :: rest => by
    have hitem := toOption_classSet flags item
    have hrest := toOption_classUnion flags rest
    simp only [classUnion, ClassSyntax.bares, toOption_bind, hitem, hrest]

end

mutual

/-- The meaning of a pattern does not depend on places. -/
theorem toOption_meaning (flags : Flags) : (part : Syntax) →
    (meaning flags part).toOption = (meaning flags part.bare).toOption
  | .empty | .flags .. | .place .. => rfl
  | .literal literal span => by
    have hchar := toOption_literalChar flags span literal
    simp only [meaning, Syntax.bare, toOption_bind, hchar]
  | .dot span => by
    simp only [meaning, Syntax.bare]
    split <;> rfl
  | .kind kind negated span => by
    have hset := toOption_negate flags span negated (kindSet flags kind)
    simp only [meaning, Syntax.bare, toOption_bind, hset]
  | .property name value negated span => by
    have hset := toOption_propertySet flags span name value negated
    simp only [meaning, Syntax.bare, toOption_bind, hset]
  | .bracket negated contents span => by
    have hcontents := toOption_classSet flags contents
    have hnegate := toOption_negate flags span negated
    simp only [meaning, Syntax.bare, toOption_bind, hcontents, hnegate]
  | .repeated part least most => by
    have hpart := toOption_meaning flags part
    simp only [meaning, Syntax.bare, toOption_bind, hpart]
  | .group captures changes part => by
    have hpart := toOption_meaning (flags.changeAll changes) part
    simp only [meaning, Syntax.bare, toOption_bind, hpart]
  | .sequence parts => toOption_meaningOfSequence flags parts
  | .choice parts => toOption_meaningOfChoice flags parts

/-- The meaning of a sequence does not depend on places. -/
theorem toOption_meaningOfSequence (flags : Flags) : (parts : List Syntax) →
    (meaningOfSequence flags parts).toOption =
      (meaningOfSequence flags (Syntax.bares parts)).toOption
  | [] => rfl
  | part :: rest => by
    have hpart := toOption_meaning flags part
    simp only [meaningOfSequence, Syntax.bares, toOption_bind, hpart]
    congr 1
    funext result
    have hrest := toOption_meaningOfSequence result.2 rest
    simp only [hrest]

/-- The meaning of a choice does not depend on places. -/
theorem toOption_meaningOfChoice (flags : Flags) : (parts : List Syntax) →
    (meaningOfChoice flags parts).toOption = (meaningOfChoice flags (Syntax.bares parts)).toOption
  | [] => rfl
  | part :: rest => by
    have hpart := toOption_meaning flags part
    simp only [meaningOfChoice, Syntax.bares, toOption_bind, hpart]
    congr 1
    funext result
    have hrest := toOption_meaningOfChoice result.2 rest
    simp only [hrest]

end

/-- Syntax that differs only in places means the same. -/
theorem toOption_meaning_of_bare {first second : Syntax} (same : first.bare = second.bare)
    (flags : Flags) : (meaning flags first).toOption = (meaning flags second).toOption := by
  rw [toOption_meaning, same, ← toOption_meaning]

/-- Syntax that differs only in places nests as deep. -/
theorem depth_eq_of_bare {first second : Syntax} (same : first.bare = second.bare) :
    first.depth = second.depth := by
  rw [← first.depth_bare, same, second.depth_bare]

end PageCheck.Pattern
