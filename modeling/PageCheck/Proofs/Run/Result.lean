import PageCheck.Proofs.Report.RoundTrip
import PageCheck.Proofs.Store.Placement
import PageCheck.Run

/-!
# Reading the result of a run

The captured values of a result stand next to its summary and are passed over when the summary is
read from it, but the text is parsed as a whole first. So a result is read as its summary exactly
if its captured values fit under the limit on open containers; those of names with few dots do.
-/

namespace PageCheck.Run

open Json (Portable nestingMembers depthLimit)

variable {summary : ReportSummary} {outputs : Members}

/-! ### Results as values -/

/-- A result is as portable as its captured values, inside two more containers, and its summary. -/
theorem portable_result (words : summary.InWords) {depth : Nat} (deep : 6 ≤ depth)
    (portable : Portable depth (.object outputs)) :
    Portable (depth + 1) (result summary outputs) := by
  have hbody := words.portable_body.mono deep
  cases outputs with
  | nil =>
    exact Portable.object (List.nodup_singleton _) (List.forall_mem_singleton.mpr hbody)
  | cons member rest =>
    have hkeys : [ReportSummary.bodyKey, outputsKey].Nodup := by decide
    refine Portable.object hkeys ?_
    exact List.forall_mem_cons.mpr ⟨hbody, List.forall_mem_singleton.mpr portable⟩

/-- A result fits under the limit on open containers exactly if its captured values fit under what
the result itself leaves of it. -/
theorem fits_result_iff (words : summary.InWords) :
    (result summary outputs).nesting ≤ depthLimit ↔ nestingMembers outputs + 2 ≤ depthLimit := by
  have hbody : summary.body.nesting ≤ 6 := words.portable_body.fits
  have hlimit : depthLimit = 127 := rfl
  cases outputs with
  | nil =>
    have hnesting : (result summary []).nesting = max summary.body.nesting 0 + 1 := rfl
    have hempty : nestingMembers [] = 0 := rfl
    omega
  | cons member rest =>
    have hnesting : (result summary (member :: rest)).nesting =
        max summary.body.nesting (max (nestingMembers (member :: rest) + 1) 0) + 1 := rfl
    omega

/-- A result is decoded as its summary. -/
theorem decode_result (summary : ReportSummary) (outputs : Members) :
    ReportSummary.decode (result summary outputs).draft = .ok summary := by
  refine summary.decode_members_append ?_
  cases outputs with
  | nil => exact List.not_mem_nil
  | cons member rest =>
    have hforeign : ReportSummary.bodyKey ∉ [outputsKey] := by decide
    exact hforeign

/-! ### Results as texts -/

/-- A result with portable captured values is read as its summary if it fits, and refused if it
does not. Neither exact numbers nor unique keys depend on the depth. -/
theorem ofText_result (words : summary.InWords) {depth : Nat}
    (portable : Portable depth (.object outputs)) {text : String}
    (written : text ∈ [(result summary outputs).text, (result summary outputs).prettyText]) :
    ReportSummary.ofText text = if nestingMembers outputs + 2 ≤ depthLimit then .ok summary
      else .error (.json (.malformed .tooDeep)) := by
  have hresult := portable_result words (Nat.le_max_left 6 depth)
    (portable.mono (Nat.le_max_right 6 depth))
  split
  next fits =>
    have hportable : Portable depthLimit (result summary outputs) :=
      ⟨hresult.exact, hresult.unique, (fits_result_iff words).mpr fits⟩
    rw [ReportSummary.ofText_of_parse (hportable.parse_of_mem written), decode_result]
    rfl
  next deep =>
    refine ReportSummary.ofText_of_parse_error ?_
    have hdeep : depthLimit < (result summary outputs).nesting :=
      Nat.lt_of_not_le fun fits => deep ((fits_result_iff words).mp fits)
    rcases List.mem_pair.mp written with rfl | rfl
    · exact Json.parse_spells_tooDeep hresult.legible.spells_write hresult.unique hdeep
    · exact Json.parse_spells_tooDeep (hresult.legible.spells_writeIndented 0) hresult.unique hdeep

/-- **Results are read as their summaries.** Whatever texts were captured, both texts of a result
are read as its summary exactly if no captured value is nested too deep, and refused on that ground
if one is; it takes a name with many dots to nest one too deep. -/
theorem result_read_iff (words : summary.InWords) {context : Context}
    (start : context.outputs = []) (captures : List (String × String)) :
    (∀ text ∈ [(result summary (context.captureAll captures).outputs).text,
        (result summary (context.captureAll captures).outputs).prettyText],
      (ReportSummary.ofText text = .ok summary ↔
        nestingMembers (context.captureAll captures).outputs + 2 ≤ depthLimit) ∧
      (depthLimit < nestingMembers (context.captureAll captures).outputs + 2 →
        ReportSummary.ofText text = .error (.json (.malformed .tooDeep)))) ∧
    ((∀ capture ∈ captures, capture.1.toList.count '.' + 2 ≤ depthLimit) →
      nestingMembers (context.captureAll captures).outputs + 2 ≤ depthLimit) := by
  have hempty : ∀ depth, Portable (depth + 1) (.object context.outputs) := by
    intro depth
    rw [start]
    exact Portable.object List.nodup_nil (List.forall_mem_nil _)
  constructor
  · intro text written
    obtain ⟨depth, hdots⟩ := Context.exists_dots_le captures
    have hread := ofText_result words
      (Context.portable_captureAll captures hdots (hempty depth)) written
    by_cases fits : nestingMembers (context.captureAll captures).outputs + 2 ≤ depthLimit
    · rw [if_pos fits] at hread
      exact ⟨⟨fun _ => fits, fun _ => hread⟩, fun deep => absurd fits (Nat.not_le_of_lt deep)⟩
    · rw [if_neg fits] at hread
      refine ⟨⟨fun haccepted => ?_, fun hfits => absurd hfits fits⟩, fun _ => hread⟩
      rw [hread] at haccepted
      cases haccepted
  · intro few
    have hdots : ∀ capture ∈ captures, capture.1.toList.count '.' ≤ depthLimit - 2 :=
      fun capture hmem => Nat.le_sub_of_add_le (few capture hmem)
    have hfits := (Context.portable_captureAll captures hdots (hempty _)).fits
    have hlimit : depthLimit = 127 := rfl
    change nestingMembers _ + 1 ≤ _ at hfits
    omega

/-- A captured title and two refused attempts do not matter to the summary. -/
theorem result_read_iff_title :
    ReportSummary.ofText (result (.push .empty "Firefox" []) ((Context.new .standard).captureAll
      [("page.title", "Welcome"), ("page.title.", "lost"), ("", "lost")]).outputs).prettyText =
      .ok (.push .empty "Firefox" []) := by
  have hwords : (ReportSummary.push .empty "Firefox" []).InWords :=
    ⟨List.forall_mem_nil _, by decide⟩
  have hresult := result_read_iff hwords (show (Context.new .standard).outputs = [] from rfl)
    [("page.title", "Welcome"), ("page.title.", "lost"), ("", "lost")]
  exact (hresult.1 _ (by simp)).1.mpr (hresult.2 (by decide +kernel))

/-- The characters of a name with 126 dots. -/
def steep : List Char := 'a' :: (List.replicate 126 ['.', 'a']).flatten

/-- A text captured under a name with 126 dots keeps the result from being read. -/
theorem result_refused_steep :
    ReportSummary.ofText (result .empty
      ((Context.new .standard).captureAll [(String.ofList steep, "Welcome")]).outputs).text =
      .error (.json (.malformed .tooDeep)) := by
  have hwords : ReportSummary.empty.InWords := ⟨List.forall_mem_nil _, by decide⟩
  have hnamed : ∀ part ∈ Store.nameParts (String.ofList steep), part ≠ "" := by
    rw [Store.nameParts, String.toList_ofList]
    decide +kernel
  have hdots : (String.ofList steep).toList.count '.' = 126 := by
    rw [String.toList_ofList]
    decide +kernel
  have hnesting := Store.nestingMembers_place_nil (String.ofList steep) "Welcome" hnamed
  obtain ⟨depth, hwithin⟩ := Context.exists_dots_le [(String.ofList steep, "Welcome")]
  have hempty : Portable (depth + 1) (.object (Context.new .standard).outputs) :=
    Portable.object List.nodup_nil (List.forall_mem_nil _)
  have hcapture : ∀ name, ((Context.new .standard).captureAll [(name, "Welcome")]).outputs =
      (Store.place name (.string "Welcome") []).store := fun _ => rfl
  rw [ofText_result hwords (Context.portable_captureAll _ hwithin hempty) List.mem_cons_self,
    hcapture, hnesting, hdots]
  rfl

end PageCheck.Run
