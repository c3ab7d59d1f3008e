import PageCheck.Proofs.Json.Grammar

/-!
# Written documents

Whatever value is written, compactly or indented, the text is a document of the grammar. Neither
deep nesting nor a double makes a difference to that.
-/

namespace PageCheck.Json

/-! ### Written strings -/

/-- A written character is a part of a string. -/
theorem isPart_escapeChar (c : Char) : IsPart (escapeChar c) := by
  rw [escapeChar]
  split
  next => exact .short (by decide)
  next hquote =>
  split
  next => exact .short (by decide)
  next hescape =>
  split
  next => exact .short (by decide)
  split
  next => exact .short (by decide)
  split
  next => exact .short (by decide)
  split
  next => exact .short (by decide)
  split
  next => exact .short (by decide)
  split
  next hcontrol =>
    refine .code rfl fun d hd => ?_
    simp only [List.mem_cons, List.not_mem_nil, or_false] at hd
    rcases hd with rfl | rfl | rfl | rfl
    · rfl
    · rfl
    · rw [hexDigit?_hexDigit (by omega)]
      rfl
    · rw [hexDigit?_hexDigit (by omega)]
      rfl
  next hvisible => exact .plain (by omega) hquote hescape

/-- A written string is a string. -/
theorem isString_writeString (text : String) : IsString (writeString text) := by
  have hquoted : IsString ('"' :: (text.toList.map escapeChar).flatten ++ ['"']) :=
    .quoted (List.forall_mem_map.mpr fun c _ => isPart_escapeChar c)
  rwa [← List.flatMap_def] at hquoted

/-! ### Written values -/

/-- A written key and a value behind a colon and blanks are a member. -/
theorem member_writeString (key : String) {after text : List Char} (hafter : Blanks after)
    (hvalue : IsValue text) : Member IsValue (writeString key ++ ':' :: (after ++ text)) :=
  .colon (isString_writeString key) blanks_nil hafter hvalue

mutual

/-- The compact text of a value is a value. -/
theorem isValue_write : ∀ value : Json, IsValue value.write
  | .null => .null
  | .bool true => .holds
  | .bool false => .fails
  | .number n => .number (isNumber_writeNumber n)
  | .string text => .string (isString_writeString text)
  | .array items => .array (sequence_writeItems items)
  | .object members => .object (sequence_writeMembers members)

/-- The compact text of items is a sequence. -/
theorem sequence_writeItems : ∀ items : List Json, Sequence IsValue ']' true (writeItems items)
  | [] => .close blanks_nil
  | item :: rest => .first blanks_nil (isValue_write item) (sequence_writeMoreItems rest)

/-- So is that of items after the first one. -/
theorem sequence_writeMoreItems :
    ∀ items : List Json, Sequence IsValue ']' false (writeMoreItems items)
  | [] => .close blanks_nil
  | item :: rest => .next blanks_nil blanks_nil (isValue_write item) (sequence_writeMoreItems rest)

/-- The compact text of members is a sequence. -/
theorem sequence_writeMembers : ∀ members : List (String × Json),
    Sequence (Member IsValue) '}' true (writeMembers members)
  | [] => .close blanks_nil
  | (key, value) :: rest => by
    have hfirst := Sequence.first blanks_nil
      (member_writeString key blanks_nil (isValue_write value)) (sequence_writeMoreMembers rest)
    simpa [writeMembers] using hfirst

/-- So is that of members after the first one. -/
theorem sequence_writeMoreMembers : ∀ members : List (String × Json),
    Sequence (Member IsValue) '}' false (writeMoreMembers members)
  | [] => .close blanks_nil
  | (key, value) :: rest => by
    have hnext := Sequence.next blanks_nil blanks_nil
      (member_writeString key blanks_nil (isValue_write value)) (sequence_writeMoreMembers rest)
    simpa [writeMoreMembers] using hnext

end

mutual

/-- The indented text of a value is a value. -/
theorem isValue_writeIndented : ∀ (depth : Nat) (value : Json), IsValue (writeIndented depth value)
  | _, .null => .null
  | _, .bool true => .holds
  | _, .bool false => .fails
  | _, .number n => .number (isNumber_writeNumber n)
  | _, .string text => .string (isString_writeString text)
  | _, .array [] => .array (.close blanks_nil)
  | depth, .array (item :: rest) => by
    have hfirst := Sequence.first (blanks_lineStart (depth + 1))
      (isValue_writeIndented (depth + 1) item) (sequence_writeIndentedItems depth rest)
    simpa [writeIndented] using IsValue.array hfirst
  | _, .object [] => .object (.close blanks_nil)
  | depth, .object ((key, value) :: rest) => by
    have hfirst := Sequence.first (blanks_lineStart (depth + 1))
      (member_writeString key blanks_blank (isValue_writeIndented (depth + 1) value))
      (sequence_writeIndentedMembers depth rest)
    simpa [writeIndented] using IsValue.object hfirst

/-- The indented text of items after the first one is a sequence. -/
theorem sequence_writeIndentedItems : ∀ (depth : Nat) (items : List Json),
    Sequence IsValue ']' false (writeIndentedItems depth items)
  | depth, [] => .close (blanks_lineStart depth)
  | depth, item :: rest => by
    have hnext := Sequence.next blanks_nil (blanks_lineStart (depth + 1))
      (isValue_writeIndented (depth + 1) item) (sequence_writeIndentedItems depth rest)
    simpa [writeIndentedItems] using hnext

/-- So is that of members. -/
theorem sequence_writeIndentedMembers : ∀ (depth : Nat) (members : List (String × Json)),
    Sequence (Member IsValue) '}' false (writeIndentedMembers depth members)
  | depth, [] => .close (blanks_lineStart depth)
  | depth, (key, value) :: rest => by
    have hnext := Sequence.next blanks_nil (blanks_lineStart (depth + 1))
      (member_writeString key blanks_blank (isValue_writeIndented (depth + 1) value))
      (sequence_writeIndentedMembers depth rest)
    simpa [writeIndentedMembers] using hnext

end

/-- Both texts of a value are documents, also at the end of a line. -/
theorem document_of_mem {value : Json} {text : String}
    (written : text ∈ [value.text, value.prettyText]) : Document (text ++ "\n").toList := by
  have hline : Blanks ['\n'] := by simp [Blanks, isGap]
  rw [String.toList_append]
  simp only [List.mem_cons, List.not_mem_nil, or_false] at written
  rcases written with rfl | rfl
  · rw [Json.text, String.toList_ofList]
    exact .blanks blanks_nil (isValue_write value) hline
  · rw [Json.prettyText, String.toList_ofList]
    exact .blanks blanks_nil (isValue_writeIndented 0 value) hline

end PageCheck.Json
