import PageCheck.Proofs.Expression.PathText

/-!
# Written paths

Segments are those of a path if the first of them is a field, the names of fields hold nothing that
ends a field, and positions are words. These are the segments that reading a text can give, and the
ones that reading gives back once they are written: a field as its name, with a dot before it unless
it is the first segment, and a position in brackets. A text may write a position with zeros in front
of it, so several texts can be read as the same segments, but only one of them is the written form.
-/

namespace PageCheck.Expression.Path

open Decimal (digitsValue isDigits wordLimit)

/-- The digits of a number write the number. -/
theorem digitsValue_toDigits (n : Nat) : digitsValue (Nat.toDigits 10 n) = n :=
  Nat.ofDigitChars_toDigits (by decide) (by decide)

/-- The digits of a number are digits, and there is at least one. -/
theorem isDigits_toDigits (n : Nat) : isDigits (Nat.toDigits 10 n) = true := by
  rw [isDigits, Bool.and_eq_true, List.all_eq_true]
  refine ⟨by simp [Nat.toDigits_ne_nil], fun c hmem => ?_⟩
  exact Nat.isDigit_of_mem_toDigits (by decide) (by decide) hmem

/-- A field can be written exactly if its characters are those of a field name. -/
theorem wellFormedSegment_field_iff {name : List Char} :
    WellFormedSegment (.field (String.ofList name)) ↔ IsField name := by
  rw [WellFormedSegment, String.toList_ofList]
  rfl

/-! ### From segments to a text -/

/-- Segments that can be written are spelled by what is written of them after another one. -/
theorem spellsNext_flatMap {segments : List Segment}
    (wellFormed : ∀ segment ∈ segments, WellFormedSegment segment) :
    SpellsNext segments (segments.flatMap renderNext) := by
  induction segments with
  | nil => exact .done
  | cons segment rest ih =>
    obtain ⟨hsegment, hrest⟩ := List.forall_mem_cons.mp wellFormed
    rw [List.flatMap_cons]
    cases segment with
    | field name =>
      have hspells : SpellsNext (.field (String.ofList name.toList) :: rest)
          ('.' :: (name.toList ++ rest.flatMap renderNext)) := .field hsegment (ih hrest)
      rwa [String.ofList_toList] at hspells
    | index position =>
      have hspells := SpellsNext.index (isDigits_toDigits position)
        (by rw [digitsValue_toDigits]; exact hsegment) (ih hrest)
      rw [digitsValue_toDigits] at hspells
      rwa [renderNext, List.append_assoc, List.cons_append]

/-- The segments of a path are spelled by their text. -/
theorem WellFormed.spells {segments : List Segment} (wellFormed : WellFormed segments) :
    Spells segments (render segments).toList := by
  match segments, wellFormed with
  | .field name :: rest, wellFormed =>
    obtain ⟨hname, hrest⟩ := List.forall_mem_cons.mp wellFormed
    have hspells : Spells (.field (String.ofList name.toList) :: rest)
        (name.toList ++ rest.flatMap renderNext) := .start hname (spellsNext_flatMap hrest)
    rw [String.ofList_toList] at hspells
    rwa [render, String.toList_ofList]

/-! ### From a text to segments -/

/-- Segments that a text spells after another one can be written. -/
theorem SpellsNext.wellFormed {segments : List Segment} {text : List Char}
    (spells : SpellsNext segments text) : ∀ segment ∈ segments, WellFormedSegment segment := by
  induction spells with
  | done => exact List.forall_mem_nil _
  | field named _ ih =>
    exact List.forall_mem_cons.mpr ⟨wellFormedSegment_field_iff.mpr named, ih⟩
  | index _ small _ ih => exact List.forall_mem_cons.mpr ⟨small, ih⟩

/-- What a text spells are the segments of a path. -/
theorem Spells.wellFormed {segments : List Segment} {text : List Char}
    (spells : Spells segments text) : WellFormed segments := by
  cases spells with
  | start named next =>
    exact List.forall_mem_cons.mpr ⟨wellFormedSegment_field_iff.mpr named, next.wellFormed⟩

/-! ### Both ways -/

/-- **The grammar of paths.** A text is read as segments exactly if it is a field followed by dots
with fields and by positions in brackets, and these are the segments. Written segments are read back
exactly if they are those of a path: the first is a field, and all of them can be written. -/
theorem read_iff_spelled (text : String) (segments : List Segment) :
    (parse text = .ok segments ↔ Spells segments text.toList) ∧
    (parse (render segments) = .ok segments ↔ WellFormed segments) := by
  refine ⟨parse_eq_ok_iff, fun hparse => ?_, fun wellFormed => ?_⟩
  · exact (parse_eq_ok_iff.mp hparse).wellFormed
  · exact parse_eq_ok_iff.mpr wellFormed.spells

end PageCheck.Expression.Path
