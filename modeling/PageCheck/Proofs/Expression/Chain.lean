import PageCheck.Proofs.Expression.Lookup
import PageCheck.Proofs.Expression.PathText

/-!
# Chains of expressions

A text that is an expression leads to the value that is found at its path, and on from there if that
value is a text with a leading dollar sign again. Resolving a text gives the end of its chain if the
chain ends after few enough look-ups, and an error that names the text in every other case. The
induction is on the look-ups that are left.
-/

namespace PageCheck.Expression

/-- A text leads to a value in a number of look-ups. -/
inductive Chain (resolver : Resolver) : Nat → String → Json → Prop
  /-- A text without a leading dollar sign is itself. -/
  | plain {text : String} (start : text.toList.head? ≠ some '$') :
      Chain resolver 0 text (.string text)
  /-- Two dollar signs write one. -/
  | escape {text : String} {rest : List Char} (start : text.toList = '$' :: '$' :: rest) :
      Chain resolver 0 text (.string (String.ofList ('$' :: rest)))
  /-- A value that is not a text with a leading dollar sign ends the chain. -/
  | value {text : String} {path : List Char} {segments : List Segment} {value : Json}
      (start : text.toList = '$' :: path) (single : path.head? ≠ some '$')
      (wellFormed : Path.Spells segments path) (found : resolver.Found segments value)
      (final : ∀ next, value = .string next → next.toList.head? ≠ some '$') :
      Chain resolver 1 text value
  /-- A text with a leading dollar sign continues the chain. -/
  | next {text next : String} {path : List Char} {segments : List Segment} {value : Json}
      {lookups : Nat} (start : text.toList = '$' :: path) (single : path.head? ≠ some '$')
      (wellFormed : Path.Spells segments path) (found : resolver.Found segments (.string next))
      (again : next.toList.head? = some '$') (further : Chain resolver lookups next value) :
      Chain resolver (lookups + 1) text value

/-! ### The meaning of a text -/

namespace Meaning

variable {text : String}

/-- A text without a leading dollar sign is a literal. -/
theorem ofText_plain (start : text.toList.head? ≠ some '$') : ofText text = .literal text := by
  rw [ofText]
  split
  next hchars => simp [hchars] at start
  next hchars => simp [hchars] at start
  next => rfl

/-- Two dollar signs write a literal that starts with one. -/
theorem ofText_escape {rest : List Char} (start : text.toList = '$' :: '$' :: rest) :
    ofText text = .literal (String.ofList ('$' :: rest)) := by
  rw [ofText, start]
  rfl

/-- A single dollar sign refers to a path. -/
theorem ofText_reference {path : List Char} (start : text.toList = '$' :: path)
    (single : path.head? ≠ some '$') : ofText text = .reference (String.ofList path) := by
  rw [ofText, start]
  split
  next hchars =>
    cases hchars
    exact absurd rfl single
  next hchars =>
    cases hchars
    rfl
  next hnone => exact absurd rfl (hnone path)

/-- A text starts with no dollar sign, with two or with a single one. -/
theorem start_cases (text : String) : text.toList.head? ≠ some '$' ∨
    (∃ rest, text.toList = '$' :: '$' :: rest) ∨
    ∃ path, text.toList = '$' :: path ∧ path.head? ≠ some '$' := by
  by_cases hplain : text.toList.head? = some '$'
  · obtain ⟨path, hpath⟩ := List.head?_eq_some_iff.mp hplain
    by_cases hsingle : path.head? = some '$'
    · obtain ⟨rest, rfl⟩ := List.head?_eq_some_iff.mp hsingle
      exact .inr (.inl ⟨rest, hpath⟩)
    · exact .inr (.inr ⟨path, hpath, hsingle⟩)
  · exact .inl hplain

end Meaning

/-- A text is not yet a value exactly if a dollar sign leads it. -/
theorem startsWithSigil_iff {text : String} :
    startsWithSigil text = true ↔ text.toList.head? = some '$' := by
  rw [startsWithSigil]
  split
  next hchars => simp [hchars]
  next hnone =>
    refine ⟨nofun, fun hhead => ?_⟩
    obtain ⟨rest, hchars⟩ := List.head?_eq_some_iff.mp hhead
    exact absurd hchars (hnone rest)

/-! ### Resolving -/

namespace Resolver

variable {resolver : Resolver} {asked text : String}

/-- A literal is resolved without a look-up. -/
theorem resolveWithin_literal {literal : String} (meaning : Meaning.ofText text = .literal literal)
    (left : Nat) : resolver.resolveWithin asked left text = .ok (.string literal) := by
  rw [resolveWithin.eq_def, meaning]

/-- A value that is found and is no text with a leading dollar sign is the result. -/
theorem resolveWithin_value {path : List Char} {segments : List Segment} {value : Json}
    (meaning : Meaning.ofText text = .reference (String.ofList path))
    (wellFormed : Path.Spells segments path) (found : resolver.Found segments value)
    (final : ∀ next, value = .string next → next.toList.head? ≠ some '$') (left : Nat) :
    resolver.resolveWithin asked (left + 1) text = .ok value := by
  have hparse : Path.parse (String.ofList path) = .ok segments :=
    Path.parse_eq_ok_iff.mpr (String.toList_ofList.symm ▸ wellFormed)
  rw [resolveWithin.eq_def, meaning]
  simp only [hparse, find_eq_some_iff.mpr found]
  cases value with
  | string next =>
    have hsigil : startsWithSigil next = false :=
      Bool.eq_false_iff.mpr fun h => final next rfl (startsWithSigil_iff.mp h)
    simp only [hsigil, Bool.false_eq_true, if_false]
  | _ => rfl

/-- A text that is found and has a leading dollar sign is resolved in turn. -/
theorem resolveWithin_next {path : List Char} {segments : List Segment} {next : String}
    (meaning : Meaning.ofText text = .reference (String.ofList path))
    (wellFormed : Path.Spells segments path) (found : resolver.Found segments (.string next))
    (again : next.toList.head? = some '$') (left : Nat) :
    resolver.resolveWithin asked (left + 1) text = resolver.resolveWithin asked left next := by
  have hparse : Path.parse (String.ofList path) = .ok segments :=
    Path.parse_eq_ok_iff.mpr (String.toList_ofList.symm ▸ wellFormed)
  rw [resolveWithin.eq_def, meaning]
  simp only [hparse, find_eq_some_iff.mpr found, startsWithSigil_iff.mpr again, if_true]

/-- The end of a chain is the result if the look-ups suffice. -/
theorem resolveWithin_of_chain {lookups : Nat} {value : Json}
    (chain : Chain resolver lookups text value) {left : Nat} (enough : lookups ≤ left) :
    resolver.resolveWithin asked left text = .ok value := by
  induction chain generalizing left with
  | plain start => exact resolveWithin_literal (Meaning.ofText_plain start) left
  | escape start => exact resolveWithin_literal (Meaning.ofText_escape start) left
  | value start single wellFormed found final =>
    obtain ⟨left, rfl⟩ := Nat.exists_eq_add_of_le' enough
    exact resolveWithin_value (Meaning.ofText_reference start single) wellFormed found final left
  | next start single wellFormed found again further ih =>
    obtain ⟨left, rfl⟩ : ∃ less, left = less + 1 := ⟨left - 1, by omega⟩
    rw [resolveWithin_next (Meaning.ofText_reference start single) wellFormed found again]
    exact ih (Nat.le_of_succ_le_succ enough)

/-- The value at the path of an expression is found, or the result is an error that names the text
that was asked for. -/
theorem found_or_error (resolver : Resolver) (asked : String) (left : Nat) {path : List Char}
    (meaning : Meaning.ofText text = .reference (String.ofList path)) :
    (∃ segments value, Path.Spells segments path ∧ resolver.Found segments value) ∨
      ∃ reason, resolver.resolveWithin asked (left + 1) text =
        .error (.unresolvedExpression asked reason) := by
  have hspells : ∀ {segments}, Path.parse (String.ofList path) = .ok segments →
      Path.Spells segments path := by
    intro segments hparse
    have h := Path.parse_eq_ok_iff.mp hparse
    rwa [String.toList_ofList] at h
  cases hparse : Path.parse (String.ofList path) with
  | error fault =>
    have herror : resolver.resolveWithin asked (left + 1) text =
        .error (.unresolvedExpression asked fault.message) := by
      rw [resolveWithin.eq_def, meaning]
      simp only [hparse]
    exact .inr ⟨_, herror⟩
  | ok segments =>
    cases hfind : resolver.find segments with
    | none =>
      have herror : resolver.resolveWithin asked (left + 1) text =
          .error (.unresolvedExpression asked ("'" ++ String.ofList path ++
            "' is not defined in data, outputs, environment or any plugin")) := by
        rw [resolveWithin.eq_def, meaning]
        simp only [hparse, hfind]
      exact .inr ⟨_, herror⟩
    | some value => exact .inl ⟨segments, value, hspells hparse, find_eq_some_iff.mp hfind⟩

/-- Either the chain of a text ends in time, or the result is an error that names the text that was
asked for. Only a found text with a leading dollar sign uses up a look-up. -/
theorem chain_or_error (resolver : Resolver) (asked : String) (left : Nat) (text : String) :
    (∃ lookups value, lookups ≤ left ∧ Chain resolver lookups text value) ∨
      ∃ reason, resolver.resolveWithin asked left text =
        .error (.unresolvedExpression asked reason) := by
  induction left generalizing text with
  | zero =>
    rcases Meaning.start_cases text with hplain | ⟨rest, hescape⟩ | ⟨path, hpath, hsingle⟩
    · exact .inl ⟨0, _, Nat.le_refl _, .plain hplain⟩
    · exact .inl ⟨0, _, Nat.le_refl _, .escape hescape⟩
    · refine .inr ⟨"more than " ++ toString depthLimit ++ " nested expressions", ?_⟩
      rw [resolveWithin.eq_def, Meaning.ofText_reference hpath hsingle]
  | succ left ih =>
    rcases Meaning.start_cases text with hplain | ⟨rest, hescape⟩ | ⟨path, hpath, hsingle⟩
    · exact .inl ⟨0, _, Nat.zero_le _, .plain hplain⟩
    · exact .inl ⟨0, _, Nat.zero_le _, .escape hescape⟩
    have hmeaning := Meaning.ofText_reference hpath hsingle
    rcases found_or_error resolver asked left hmeaning with
      ⟨segments, value, hspells, hfound⟩ | herror
    · by_cases hfinal : ∀ next, value = .string next → next.toList.head? ≠ some '$'
      · exact .inl ⟨1, value, by omega, .value hpath hsingle hspells hfound hfinal⟩
      · simp only [Classical.not_forall, Classical.not_not] at hfinal
        obtain ⟨next, rfl, hagain⟩ := hfinal
        rw [resolveWithin_next hmeaning hspells hfound hagain]
        rcases ih next with ⟨lookups, value, hle, hchain⟩ | herror
        · exact .inl ⟨lookups + 1, value, Nat.succ_le_succ hle,
            .next hpath hsingle hspells hfound hagain hchain⟩
        · exact .inr herror
    · exact .inr herror

/-- **Resolving follows the chain of a text.** The result is the value at the end of the chain if
the chain ends after at most sixteen look-ups, and an error that names the text exactly if it does
not. -/
theorem resolve_iff_chain (resolver : Resolver) (text : String) :
    (∀ value, resolver.resolve text = .ok value ↔
      ∃ lookups, lookups ≤ 16 ∧ Chain resolver lookups text value) ∧
    ((∃ reason, resolver.resolve text = .error (.unresolvedExpression text reason)) ↔
      ¬ ∃ lookups value, lookups ≤ 16 ∧ Chain resolver lookups text value) := by
  have hchain : ∀ {lookups value}, lookups ≤ 16 → Chain resolver lookups text value →
      resolver.resolve text = .ok value := fun hle chain => resolveWithin_of_chain chain hle
  have hend : (∃ lookups value, lookups ≤ 16 ∧ Chain resolver lookups text value) ∨
      ∃ reason, resolver.resolve text = .error (.unresolvedExpression text reason) :=
    chain_or_error resolver text 16 text
  refine ⟨fun value => ⟨fun hvalue => ?_, ?_⟩, ⟨?_, hend.resolve_left⟩⟩
  · rcases hend with ⟨lookups, ending, hle, chain⟩ | ⟨reason, herror⟩
    · obtain rfl := Except.ok.inj ((hchain hle chain).symm.trans hvalue)
      exact ⟨lookups, hle, chain⟩
    · cases hvalue.symm.trans herror
  · rintro ⟨lookups, hle, chain⟩
    exact hchain hle chain
  · rintro ⟨reason, herror⟩ ⟨lookups, value, hle, chain⟩
    cases (hchain hle chain).symm.trans herror

end Resolver

end PageCheck.Expression
