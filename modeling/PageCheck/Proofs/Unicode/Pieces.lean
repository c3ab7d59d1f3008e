import PageCheck.Unicode.CodePoints

/-!
# Pieces of a text

Splitting a text at a character makes the pieces between its occurrences, at least one. The pieces
put together are the text again, and pieces without the character are found again in what they make.
-/

namespace PageCheck.Unicode

/-- Splitting at a character makes one more piece than the character occurs. -/
theorem length_splitOnChar (separator : Char) (chars : List Char) :
    (splitOnChar separator chars).length = chars.count separator + 1 := by
  induction chars with
  | nil => rfl
  | cons c rest ih =>
    rw [splitOnChar]
    cases hpieces : splitOnChar separator rest with
    | nil =>
      rw [hpieces] at ih
      cases ih
    | cons piece pieces =>
      rw [hpieces, List.length_cons] at ih
      by_cases h : c = separator
      · subst h
        simp [ih]
      · simp [h, ih, List.count_cons_of_ne]

/-- The pieces of a text are what stands between the separators in it. -/
theorem splitOnChar_join (separator : Char) (chars : List Char) :
    ∃ piece pieces, splitOnChar separator chars = piece :: pieces ∧
      chars = piece ++ pieces.flatMap (separator :: ·) ∧
      ∀ each ∈ piece :: pieces, separator ∉ each := by
  induction chars with
  | nil => exact ⟨[], [], rfl, rfl, by simp⟩
  | cons c rest ih =>
    obtain ⟨piece, pieces, hsplit, hjoin, hclean⟩ := ih
    by_cases h : c = separator
    · refine ⟨[], piece :: pieces, by rw [splitOnChar, hsplit]; simp [h], ?_, ?_⟩
      · rw [List.nil_append, List.flatMap_cons, List.cons_append, ← hjoin, h]
      · exact List.forall_mem_cons.mpr ⟨List.not_mem_nil, hclean⟩
    · obtain ⟨hpiece, hpieces⟩ := List.forall_mem_cons.mp hclean
      refine ⟨c :: piece, pieces, by rw [splitOnChar, hsplit]; simp [h], ?_, ?_⟩
      · rw [List.cons_append, ← hjoin]
      · refine List.forall_mem_cons.mpr ⟨?_, hpieces⟩
        exact List.not_mem_cons_of_ne_of_not_mem (Ne.symm h) hpiece

/-- Each piece stands in the text. -/
theorem sublist_of_mem_splitOnChar {separator : Char} {chars piece : List Char}
    (hpiece : piece ∈ splitOnChar separator chars) : piece.Sublist chars := by
  obtain ⟨first, others, hsplit, hjoin, -⟩ := splitOnChar_join separator chars
  rw [hsplit] at hpiece
  rw [hjoin]
  rcases List.mem_cons.mp hpiece with rfl | hother
  · exact List.sublist_append_left _ _
  · have hwithin : (separator :: piece).Sublist (others.flatMap (separator :: ·)) := by
      rw [List.flatMap_def]
      exact List.sublist_flatten_of_mem (List.mem_map_of_mem hother)
    exact ((List.sublist_cons_self _ _).trans hwithin).trans (List.sublist_append_right _ _)

/-- The pieces of a text with the separator in it are those before and those after it. -/
theorem splitOnChar_append (separator : Char) (before after : List Char) :
    splitOnChar separator (before ++ separator :: after) =
      splitOnChar separator before ++ splitOnChar separator after := by
  obtain ⟨first, others, hafter, -, -⟩ := splitOnChar_join separator after
  induction before with
  | nil => simp [splitOnChar, hafter]
  | cons c rest ih =>
    obtain ⟨piece, pieces, hrest, -, -⟩ := splitOnChar_join separator rest
    rw [List.cons_append, splitOnChar, ih, hrest, splitOnChar, hrest]
    simp only [List.cons_append]
    split <;> rfl

/-- A text without the separator is a single piece. -/
theorem splitOnChar_of_notMem {separator : Char} {chars : List Char} (clean : separator ∉ chars) :
    splitOnChar separator chars = [chars] := by
  have hlength := length_splitOnChar separator chars
  obtain ⟨piece, pieces, hsplit, hjoin, -⟩ := splitOnChar_join separator chars
  rw [hsplit, List.count_eq_zero_of_not_mem clean, List.length_cons] at hlength
  obtain rfl := List.length_eq_zero_iff.mp (Nat.succ.inj hlength)
  rw [hsplit, hjoin]
  simp

/-- Pieces without the separator are found again in what they make. -/
theorem splitOnChar_intercalate {separator : Char} {pieces : List (List Char)}
    (some_piece : pieces ≠ []) (clean : ∀ piece ∈ pieces, separator ∉ piece) :
    splitOnChar separator ([separator].intercalate pieces) = pieces := by
  induction pieces with
  | nil => exact absurd rfl some_piece
  | cons piece rest ih =>
    obtain ⟨hpiece, hrest⟩ := List.forall_mem_cons.mp clean
    cases rest with
    | nil => simpa using splitOnChar_of_notMem hpiece
    | cons next more =>
      rw [List.intercalate_cons_cons, List.append_assoc, List.singleton_append, splitOnChar_append,
        splitOnChar_of_notMem hpiece, ih (List.cons_ne_nil _ _) hrest]
      rfl

/-- A sign that is in none of the pieces is not in what they make. -/
theorem notMem_intercalate {separator sign : Char} {pieces : List (List Char)}
    (other : sign ≠ separator) (clean : ∀ piece ∈ pieces, sign ∉ piece) :
    sign ∉ [separator].intercalate pieces := by
  induction pieces with
  | nil => exact List.not_mem_nil
  | cons piece rest ih =>
    obtain ⟨hpiece, hrest⟩ := List.forall_mem_cons.mp clean
    cases rest with
    | nil => simpa using hpiece
    | cons next more =>
      have hmore := ih hrest
      rw [List.intercalate_cons_cons]
      simp only [List.mem_append, List.mem_singleton, not_or]
      exact ⟨⟨hpiece, other⟩, hmore⟩

end PageCheck.Unicode
