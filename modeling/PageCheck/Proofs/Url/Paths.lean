import Mathlib.Data.List.Basic
import PageCheck.Proofs.Unicode.Pieces
import PageCheck.Proofs.Url.Percent
import PageCheck.Url.Basic

/-!
# Paths of the web

The path of an address of the web is made segment by segment. A segment is written as it is encoded,
unless it is one of dots: one dot adds nothing, two dots take the segment before away, and dots at
the end of a path leave an empty segment there. Whatever the segments are, the last one of the path
is empty or what is written of the last one of the text.
-/

namespace PageCheck.Url

open Unicode (splitOnChar)

/-- What is written of a segment. -/
def written (segment : List Char) : List Char :=
  percentEncode reservedInPath (withoutBreaks segment)

/-- A segment of one or two dots, in any of the ways to write them. -/
def IsDots (text : List Char) : Prop :=
  String.ofList text ∈ singleDots ∨ String.ofList text ∈ doubleDots

instance (text : List Char) : Decidable (IsDots text) := inferInstanceAs (Decidable (_ ∨ _))

/-- Nothing that a path may not hold takes part in escapes. -/
theorem sparesEscapes_reservedInPath : SparesEscapes reservedInPath := by
  have hlist : reservedInPath = [' ', '"', '#', '<', '>', '?', '\x60', '\x7b', '\x7d'] := rfl
  have hnone : ∀ c ∈ reservedInPath, c ≠ '%' ∧ Unicode.hexDigit? c = none := by
    rw [hlist]
    simp [Unicode.hexDigit?]
  exact hnone

/-- The segments of a path without the last one, which stays if it names a drive. -/
def withoutLast : List (List Char) → List (List Char)
  | parent :: rest => if isDriveLetter parent then parent :: rest else rest
  | [] => []

/-- Nothing is added to a path by leaving out its last segment. -/
theorem mem_of_mem_withoutLast {segments : List (List Char)} {each : List Char}
    (kept : each ∈ withoutLast segments) : each ∈ segments := by
  cases segments with
  | nil => exact kept
  | cons parent rest =>
    rw [withoutLast] at kept
    split at kept
    · exact kept
    · exact List.mem_cons_of_mem _ kept

/-- What a segment does to the path before it in an address of the web. -/
theorem addSegment_web (port : Nat) (path : PathSoFar) (segment : List Char) (isLast : Bool) :
    addSegment (.web port) path segment isLast =
      ⟨if doubleDots.contains (String.ofList (written segment)) then
          if isLast then [] :: withoutLast path.segments else withoutLast path.segments
        else if singleDots.contains (String.ofList (written segment)) then
          if isLast then [] :: path.segments else path.segments
        else written segment :: path.segments, path.namesDrive⟩ := by
  have hfile : (SchemeKind.web port == .file) = false := rfl
  simp only [addSegment, hfile, Bool.false_and, Bool.false_eq_true, if_false]
  rw [← written]
  split
  · cases path.segments <;> rfl
  · split <;> rfl

section

variable {port : Nat} {path : PathSoFar} {segment : List Char}

/-- A segment that is not one of dots is added as it is written. -/
theorem addSegment_plain (plain : ¬ IsDots (written segment)) (isLast : Bool) :
    addSegment (.web port) path segment isLast =
      ⟨written segment :: path.segments, path.namesDrive⟩ := by
  have hdouble : ¬ doubleDots.contains (String.ofList (written segment)) = true :=
    fun h => plain (.inr (List.contains_iff_mem.mp h))
  have hsingle : ¬ singleDots.contains (String.ofList (written segment)) = true :=
    fun h => plain (.inl (List.contains_iff_mem.mp h))
  rw [addSegment_web, if_neg hdouble, if_neg hsingle]

/-- A segment of dots adds nothing to those that it keeps, but an empty one at the end. -/
theorem addSegment_dots (port : Nat) (path : PathSoFar) (dots : IsDots (written segment)) :
    ∃ kept, (∀ each ∈ kept, each ∈ path.segments) ∧ ∀ isLast,
      addSegment (.web port) path segment isLast =
        ⟨if isLast then [] :: kept else kept, path.namesDrive⟩ := by
  by_cases hdouble : doubleDots.contains (String.ofList (written segment)) = true
  · refine ⟨withoutLast path.segments, fun _ => mem_of_mem_withoutLast, fun isLast => ?_⟩
    rw [addSegment_web, if_pos hdouble]
  · have hsingle : singleDots.contains (String.ofList (written segment)) = true := by
      rcases dots with h | h
      · exact List.contains_iff_mem.mpr h
      · exact absurd (List.contains_iff_mem.mpr h) hdouble
    refine ⟨path.segments, fun _ h => h, fun isLast => ?_⟩
    rw [addSegment_web, if_neg hdouble, if_pos hsingle]

end

/-- A segment without the signs that end segments and paths. -/
def Clean (segment : List Char) : Prop := '/' ∉ segment ∧ '?' ∉ segment

/-- What is written of a segment has no sign that ends it. -/
theorem clean_written {segment : List Char} (unbroken : '/' ∉ segment) :
    Clean (written segment) := by
  have hsigns : ∀ c : Char, c = '/' ∨ c = '?' → c ∈ written segment →
      c ∈ withoutBreaks segment ∧ c ∉ reservedInPath := by
    intro c hsign hc
    rcases mem_percentEncode hc with rfl | hdigit | hplain
    · rcases hsign with h | h <;> cases h
    · rcases hsign with rfl | rfl <;> cases hdigit
    · exact hplain
  constructor
  · intro hc
    exact unbroken (List.mem_filter.mp (hsigns '/' (.inl rfl) hc).1).1
  · intro hc
    exact (hsigns '?' (.inr rfl) hc).2 (by decide)

variable {port : Nat}

/-- The path after segments that others follow. -/
def addInner (kind : SchemeKind) (path : PathSoFar) (segments : List (List Char)) : PathSoFar :=
  segments.foldl (fun path segment => addSegment kind path segment false) path

/-- Segments after others are added to what those make. -/
theorem addSegments_append (kind : SchemeKind) (path : PathSoFar) (first : List (List Char))
    {second : List (List Char)} (further : second ≠ []) :
    addSegments kind path (first ++ second) =
      addSegments kind (addInner kind path first) second := by
  induction first generalizing path with
  | nil => rfl
  | cons segment rest ih =>
    have hnext : rest ++ second ≠ [] := fun h => further (List.append_eq_nil_iff.mp h).2
    rw [List.cons_append, addSegments.eq_3, ih]
    · rfl
    · exact hnext

/-- Segments stay without signs that end them when another is added. -/
theorem clean_addSegment {path : PathSoFar} (clean : ∀ each ∈ path.segments, Clean each)
    {segment : List Char} (unbroken : '/' ∉ segment) (isLast : Bool) :
    ∀ each ∈ (addSegment (.web port) path segment isLast).segments, Clean each := by
  by_cases hdots : IsDots (written segment)
  · obtain ⟨kept, hkept, hadd⟩ := addSegment_dots port path hdots
    have hclean : ∀ each ∈ kept, Clean each := fun each h => clean each (hkept each h)
    rw [hadd]
    cases isLast with
    | false => exact hclean
    | true => exact List.forall_mem_cons.mpr ⟨⟨List.not_mem_nil, List.not_mem_nil⟩, hclean⟩
  · rw [addSegment_plain hdots]
    exact List.forall_mem_cons.mpr ⟨clean_written unbroken, clean⟩

/-- Segments stay without signs that end them when others follow. -/
theorem clean_addInner (port : Nat) {path : PathSoFar} (clean : ∀ each ∈ path.segments, Clean each)
    {segments : List (List Char)} (unbroken : ∀ each ∈ segments, '/' ∉ each) :
    ∀ each ∈ (addInner (.web port) path segments).segments, Clean each := by
  induction segments generalizing path with
  | nil => exact clean
  | cons segment rest ih =>
    obtain ⟨hsegment, hrest⟩ := List.forall_mem_cons.mp unbroken
    exact ih (clean_addSegment clean hsegment false) hrest

/-- The end of a path can leave one empty segment more than what segments follow. -/
theorem addSegments_eq_addInner (port : Nat) (path : PathSoFar) {segments : List (List Char)}
    (some_segment : segments ≠ []) :
    (addSegments (.web port) path segments).segments ≠ [] ∧
      ((addSegments (.web port) path segments).segments =
          (addInner (.web port) path segments).segments ∨
        (addSegments (.web port) path segments).segments =
          [] :: (addInner (.web port) path segments).segments) := by
  obtain ⟨front, last, rfl⟩ := (List.eq_nil_or_concat' segments).resolve_left some_segment
  have hinner : addInner (.web port) path (front ++ [last]) =
      addSegment (.web port) (addInner (.web port) path front) last false := by
    rw [addInner, List.foldl_append]
    rfl
  rw [addSegments_append _ _ _ (List.cons_ne_nil _ _), addSegments, hinner]
  by_cases hdots : IsDots (written last)
  · obtain ⟨kept, -, hadd⟩ := addSegment_dots port (addInner (.web port) path front) hdots
    rw [hadd, hadd]
    exact ⟨List.cons_ne_nil _ _, .inr rfl⟩
  · rw [addSegment_plain hdots, addSegment_plain hdots]
    exact ⟨List.cons_ne_nil _ _, .inl rfl⟩

/-- The signs that end segments and paths are in none of the segments of a path. -/
theorem clean_addSegments (port : Nat) {path : PathSoFar}
    (clean : ∀ each ∈ path.segments, Clean each) {segments : List (List Char)} (some_segment : segments ≠ [])
    (unbroken : ∀ each ∈ segments, '/' ∉ each) :
    ∀ each ∈ (addSegments (.web port) path segments).segments, Clean each := by
  have hinner := clean_addInner port clean unbroken
  rcases (addSegments_eq_addInner port path some_segment).2 with h | h
  · rw [h]
    exact hinner
  · rw [h]
    exact List.forall_mem_cons.mpr ⟨⟨List.not_mem_nil, List.not_mem_nil⟩, hinner⟩

/-- The last segment of a path is empty or what is written of the last one of the text. -/
theorem addSegments_concat (port : Nat) (path : PathSoFar) (front : List (List Char))
    (last : List Char) :
    ∃ before final, (addSegments (.web port) path (front ++ [last])).segments = final :: before ∧
      (final = [] ∨ final = written last ∧ ¬ IsDots (written last)) := by
  rw [addSegments_append _ _ _ (List.cons_ne_nil _ _), addSegments]
  by_cases hdots : IsDots (written last)
  · obtain ⟨kept, -, hadd⟩ := addSegment_dots port (addInner (.web port) path front) hdots
    rw [hadd]
    exact ⟨kept, [], rfl, .inl rfl⟩
  · rw [addSegment_plain hdots]
    exact ⟨_, _, rfl, .inr ⟨rfl, hdots⟩⟩

/-- Segments none of which is one of dots are added as they are written. -/
theorem addSegments_plain {path : PathSoFar} {segments : List (List Char)}
    (some_segment : segments ≠ []) (plain : ∀ each ∈ segments, ¬ IsDots (written each)) :
    (addSegments (.web port) path segments).segments =
      (segments.map written).reverse ++ path.segments := by
  induction segments generalizing path with
  | nil => exact absurd rfl some_segment
  | cons segment rest ih =>
    obtain ⟨hsegment, hrest⟩ := List.forall_mem_cons.mp plain
    cases rest with
    | nil =>
      rw [addSegments, addSegment_plain hsegment]
      rfl
    | cons next more =>
      rw [addSegments, ih (List.cons_ne_nil _ _) hrest, addSegment_plain hsegment]
      · simp
      · exact List.cons_ne_nil _ _

end PageCheck.Url
