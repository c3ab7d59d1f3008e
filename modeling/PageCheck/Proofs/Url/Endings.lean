import PageCheck.Proofs.Url.Below

/-!
# Names at the end of paths

A text that is written into a path stays what it is if no sign in it ends a segment or is passed
over, no blank ends it, and it does not count as dots. It is found again by decoding the segment if
nothing in it reads as an escape, too. The main statement is the converse: whatever the end of a
path looks like, its last segment decodes to the text written there only if the text is of that
kind.
-/

namespace PageCheck.Url

open Unicode (notMem_intercalate splitOnChar splitOnChar_append splitOnChar_join
  splitOnChar_of_notMem sublist_of_mem_splitOnChar)

/-- The signs that end a segment or the path, or are passed over. -/
def signs : List Char := ['/', '\\', '?', '#', '\t', '\n', '\r']

/-- The signs are the slashes, what ends a path, and the breaks. -/
theorem notMem_signs_iff (port : Nat) {c : Char} : c ∉ signs ↔
    (SchemeKind.web port).isSlash c = false ∧ (c == '?' || c == '#') = false ∧
      isBreak c = false := by
  have hspecial : (SchemeKind.web port).isSpecial = true := rfl
  simp only [signs, SchemeKind.isSlash, hspecial, isBreak, List.mem_cons, List.not_mem_nil,
    or_false, not_or, Bool.and_true, Bool.or_eq_false_iff, beq_eq_false_iff_ne]
  tauto

/-- A text that is a segment by itself wherever it is written into a path. -/
structure Kept (text : List Char) : Prop where
  /-- It has no signs that end it. -/
  plain : ∀ c ∈ text, c ∉ signs
  /-- No blanks stand at its end. -/
  ends : trimmedEnd text = text
  /-- It does not count as dots. -/
  dots : ¬ IsDots (written text)

/-- A text that is a segment by itself and is found again when the segment is decoded. -/
structure Carried (text : List Char) : Prop extends Kept text where
  /-- Nothing in it reads as an escape. -/
  decodes : percentDecode text = utf8 text

instance (text : List Char) : Decidable (Kept text) :=
  decidable_of_iff ((text.all fun c => !signs.contains c) = true ∧ trimmedEnd text = text ∧
      ¬ IsDots (written text))
    ⟨fun ⟨plain, ends, dots⟩ => ⟨by simpa using plain, ends, dots⟩,
      fun ⟨plain, ends, dots⟩ => ⟨by simpa using plain, ends, dots⟩⟩

instance (text : List Char) : Decidable (Carried text) :=
  decidable_of_iff (Kept text ∧ percentDecode text = utf8 text)
    ⟨fun ⟨kept, decodes⟩ => ⟨kept, decodes⟩, fun ⟨kept, decodes⟩ => ⟨kept, decodes⟩⟩

/-- The segments of what is written after an address and a slash. -/
def segmentsAfter (port : Nat) (text : List Char) : List (List Char) :=
  splitOnChar '/' (slashed (.web port) (ending text))

/-- A text without blanks at its end has no other characters. -/
theorem trimmedEnd_sublist (text : List Char) : (trimmedEnd text).Sublist text := by
  have hdrop := (List.dropWhile_sublist isOuter (l := text.reverse)).reverse
  rw [List.reverse_reverse] at hdrop
  exact hdrop

/-- What a text ends in has no other characters. -/
theorem ending_sublist (text : List Char) : (ending text).Sublist (trimmedEnd text) := by
  rw [ending, cutTail, cutBefore, List.span_eq_takeWhile_dropWhile]
  exact (List.takeWhile_sublist _).trans List.filter_sublist

section

variable {text : List Char} (plain : ∀ c ∈ text, c ∉ signs)

include plain

/-- Nothing is passed over in a text without signs. -/
theorem withoutBreaks_plain : withoutBreaks text = text := by
  refine List.filter_eq_self.mpr fun c hc => ?_
  rw [((notMem_signs_iff 0).mp (plain c hc)).2.2]
  rfl

/-- A text without signs ends no path. -/
theorem cutTail_plain : cutTail text = (text, []) := by
  have hgoes : ∀ c ∈ text, (!(c == '?' || c == '#')) = true := by
    intro c hc
    rw [((notMem_signs_iff 0).mp (plain c hc)).2.1]
    rfl
  rw [cutTail, cutBefore, List.span_eq_takeWhile_dropWhile, List.takeWhile_eq_self_iff.mpr hgoes,
    List.dropWhile_eq_nil_iff.mpr hgoes]

/-- A text without signs has no slashes to be written the same. -/
theorem slashed_plain (port : Nat) : slashed (.web port) text = text := by
  rw [slashed]
  conv_rhs => rw [← List.map_id text]
  refine List.map_congr_left fun c hc => ?_
  rw [((notMem_signs_iff port).mp (plain c hc)).1]
  rfl

/-- A text without signs and the slash after it are no end. -/
theorem ending_append (rest : List Char) : ending (text ++ '/' :: rest) =
    text ++ '/' :: ending rest := by
  have hbreaks : withoutBreaks (text ++ '/' :: trimmedEnd rest) =
      text ++ '/' :: withoutBreaks (trimmedEnd rest) := by
    conv_rhs => rw [← withoutBreaks_plain plain]
    exact List.filter_append _ _
  have hwhole : (cutTail text).2 = [] := by rw [cutTail_plain plain]
  rw [ending, trimmedEnd_append, hbreaks, cutTail_append hwhole]
  rfl

/-- A text without signs is the segment before the slash after it. -/
theorem segmentsAfter_append (port : Nat) (rest : List Char) :
    segmentsAfter port (text ++ '/' :: rest) = text :: segmentsAfter port rest := by
  have hslash : '/' ∉ text := fun hc => plain '/' hc (by decide)
  have hslashed : slashed (.web port) (text ++ '/' :: ending rest) =
      text ++ '/' :: slashed (.web port) (ending rest) := by
    conv_rhs => rw [← slashed_plain plain port]
    exact List.map_append
  rw [segmentsAfter, ending_append plain, hslashed, splitOnChar_append,
    splitOnChar_of_notMem hslash]
  rfl

end

/-- Texts without signs are the segments before the last text of a path. -/
theorem segmentsAfter_intercalate (port : Nat) {front : List (List Char)}
    (plain : ∀ text ∈ front, ∀ c ∈ text, c ∉ signs) (last : List Char) :
    segmentsAfter port (['/'].intercalate (front ++ [last])) =
      front ++ segmentsAfter port last := by
  induction front with
  | nil =>
    rw [List.nil_append, List.nil_append]
    simp
  | cons text front ih =>
    obtain ⟨htext, hfront⟩ := List.forall_mem_cons.mp plain
    obtain ⟨next, more, hmore⟩ : ∃ next more, front ++ [last] = next :: more :=
      List.exists_cons_of_ne_nil (by simp)
    rw [List.cons_append, hmore, List.intercalate_cons_cons, ← hmore, List.append_assoc,
      List.singleton_append, segmentsAfter_append htext, ih hfront, List.cons_append]

/-- A text that is kept is a segment by itself. -/
theorem segmentsAfter_kept (port : Nat) {text : List Char} (kept : Kept text) :
    segmentsAfter port text = [text] := by
  have hslash : '/' ∉ text := fun hc => kept.plain '/' hc (by decide)
  rw [segmentsAfter, ending, kept.ends, withoutBreaks_plain kept.plain, cutTail_plain kept.plain,
    slashed_plain kept.plain, splitOnChar_of_notMem hslash]

/-- Texts that are kept are the segments of the path that they make. -/
theorem segmentsAfter_of_kept (port : Nat) {segments : List (List Char)}
    (some_segment : segments ≠ []) (kept : ∀ text ∈ segments, Kept text) :
    segmentsAfter port (['/'].intercalate segments) = segments := by
  obtain ⟨front, last, rfl⟩ := (List.eq_nil_or_concat' segments).resolve_left some_segment
  have hfront : ∀ text ∈ front, ∀ c ∈ text, c ∉ signs := fun text h =>
    (kept text (List.mem_append_left _ h)).plain
  have hlast : Kept last := kept last (List.mem_append_right _ (List.mem_singleton_self last))
  rw [segmentsAfter_intercalate port hfront, segmentsAfter_kept port hlast]

/-- A path of texts that are kept is not cut. -/
theorem cutTail_of_kept {segments : List (List Char)} (kept : ∀ text ∈ segments, Kept text) :
    (cutTail (withoutBreaks (trimmedEnd (['/'].intercalate segments)))).2 = [] := by
  have hsigns : ∀ sign ∈ signs, sign ≠ '/' → sign ∉ ['/'].intercalate segments :=
    fun sign hsign h =>
      notMem_intercalate h fun text htext hc => (kept text htext).plain sign hc hsign
  have hsublist : (withoutBreaks (trimmedEnd (['/'].intercalate segments))).Sublist
      (['/'].intercalate segments) := List.filter_sublist.trans (trimmedEnd_sublist _)
  rw [cutTail, cutBefore, List.span_eq_takeWhile_dropWhile, List.dropWhile_eq_nil_iff]
  intro c hc
  have hmark : c ≠ '?' := fun h => hsigns '?' (by decide) (by decide) (h ▸ hsublist.subset hc)
  have hhash : c ≠ '#' := fun h => hsigns '#' (by decide) (by decide) (h ▸ hsublist.subset hc)
  simp [hmark, hhash]

/-- A text that is carried is decoded from what is written of it. -/
theorem percentDecode_written {text : List Char} (carried : Carried text) :
    percentDecode (written text) = utf8 text := by
  rw [written, percentDecode_percentEncode sparesEscapes_reservedInPath,
    withoutBreaks_plain carried.plain, carried.decodes]

/-- There is a segment after an address and a slash, and no slash is in any. -/
theorem segmentsAfter_unbroken (port : Nat) (text : List Char) :
    segmentsAfter port text ≠ [] ∧ ∀ each ∈ segmentsAfter port text, '/' ∉ each := by
  obtain ⟨piece, pieces, hpieces, -, hunbroken⟩ :=
    splitOnChar_join '/' (slashed (.web port) (ending text))
  rw [segmentsAfter, hpieces]
  exact ⟨List.cons_ne_nil _ _, hunbroken⟩

/-! ### What the last segment tells -/

/-- All but the slashes of a text are left where its slashes are written the same. -/
theorem slashed_filter_sublist (kind : SchemeKind) (text : List Char) :
    ((slashed kind text).filter (· != '/')).Sublist text := by
  induction text with
  | nil => exact List.Sublist.refl _
  | cons c text ih =>
    have hcons : slashed kind (c :: text) =
      (if kind.isSlash c then '/' else c) :: slashed kind text := rfl
    rw [hcons, List.filter_cons]
    by_cases hslash : kind.isSlash c = true
    · rw [if_pos hslash]
      exact ih.cons c
    · rw [if_neg hslash]
      split
      · exact ih.cons_cons c
      · exact ih.cons c

/-- A segment has characters of the text that its path was made of. -/
theorem sublist_of_slashed {kind : SchemeKind} {segment text : List Char} (unbroken : '/' ∉ segment)
    (sublist : segment.Sublist (slashed kind text)) : segment.Sublist text := by
  have hkept : segment.filter (· != '/') = segment :=
    List.filter_eq_self.mpr fun c hc => bne_iff_ne.mpr fun h => unbroken (h ▸ hc)
  rw [← hkept]
  exact (sublist.filter _).trans (slashed_filter_sublist kind text)

/-- The last segment of a text has characters of the text only. If it is the text, the text has no
signs and no blanks at its end. -/
theorem segmentsAfter_concat (port : Nat) (text : List Char) :
    ∃ front last, segmentsAfter port text = front ++ [last] ∧ last.Sublist text ∧
      (last = text → (∀ c ∈ text, c ∉ signs) ∧ trimmedEnd text = text) := by
  obtain ⟨hsome, hunbroken⟩ := segmentsAfter_unbroken port text
  obtain ⟨front, last, hpieces⟩ := (List.eq_nil_or_concat' _).resolve_left hsome
  rw [hpieces] at hunbroken
  have hmem : last ∈ front ++ [last] := List.mem_append_right _ (List.mem_singleton_self last)
  have hslashed : last.Sublist (slashed (.web port) (ending text)) :=
    sublist_of_mem_splitOnChar (hpieces ▸ hmem)
  have hending := sublist_of_slashed (hunbroken last hmem) hslashed
  have htrimmed := ending_sublist text
  have htext := trimmedEnd_sublist text
  refine ⟨front, last, hpieces, hending.trans (htrimmed.trans htext), fun heq => ?_⟩
  rw [heq] at hslashed hending
  refine ⟨fun c hc => ?_, htext.antisymm (hending.trans htrimmed)⟩
  have hcut : c ∈ (withoutBreaks (trimmedEnd text)).takeWhile fun c => !(c == '?' || c == '#') := by
    have hc := hending.subset hc
    rw [ending, cutTail, cutBefore, List.span_eq_takeWhile_dropWhile] at hc
    exact hc
  have htail : (c == '?' || c == '#') = false := by
    simpa using List.mem_takeWhile_imp hcut
  have hbreak : isBreak c = false := by
    simpa using (List.mem_filter.mp ((List.takeWhile_sublist _).subset hcut)).2
  have hslash : (SchemeKind.web port).isSlash c = false := by
    obtain ⟨d, -, hd⟩ := List.mem_map.mp (hslashed.subset hc)
    split at hd
    · exact absurd (heq ▸ hd ▸ hc) (hunbroken last hmem)
    next hplain => exact hd ▸ Bool.eq_false_iff.mpr hplain
  exact (notMem_signs_iff port).mpr ⟨hslash, htail, hbreak⟩

/-- If the last segment of a path decodes to the text at its end, the text is carried. -/
theorem carried_of_last {port : Nat} {root : PathSoFar} {front : List (List Char)}
    {text final : List Char} {before : List (List Char)}
    (path : (addSegments (.web port) root (front ++ segmentsAfter port text)).segments =
      final :: before)
    (decodes : percentDecode final = utf8 text) : Carried text := by
  obtain ⟨rest, last, hsegments, hsublist, hwhole⟩ := segmentsAfter_concat port text
  obtain ⟨before', final', hpath, hfinal⟩ := addSegments_concat port root (front ++ rest) last
  rw [hsegments, ← List.append_assoc, hpath] at path
  cases path
  rcases hfinal with rfl | ⟨rfl, hdots⟩
  · have htext : text = [] := utf8_injective decodes.symm
    subst htext
    exact ⟨⟨nofun, rfl, by decide⟩, rfl⟩
  · rw [written, percentDecode_percentEncode sparesEscapes_reservedInPath] at decodes
    have hlong : (utf8 text).length ≤ (utf8 (withoutBreaks last)).length := by
      rw [← decodes]
      exact length_percentDecode _
    have hbreaks : (withoutBreaks last).Sublist last := List.filter_sublist
    have heq : withoutBreaks last = text := eq_of_sublist (hbreaks.trans hsublist) hlong
    have hlast : last = text := hsublist.antisymm (heq ▸ hbreaks)
    obtain ⟨hplain, hends⟩ := hwhole hlast
    exact ⟨⟨hplain, hends, hlast ▸ hdots⟩, heq ▸ decodes⟩

end PageCheck.Url
