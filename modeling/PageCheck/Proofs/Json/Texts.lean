import PageCheck.Proofs.Json.Members
import PageCheck.Proofs.Json.Tokens

/-!
# Texts inside values

The texts of a value are its strings, at any depth; keys are not among them. What is found inside a
value has no texts but those of the value. A value that is no string has a text of its own when it
is shown, and that begins with a bracket, a letter, a digit or a minus sign.
-/

namespace PageCheck

namespace Json

mutual

/-- The strings inside a value. -/
def texts : Json → List String
  | .string text => [text]
  | .array items => textsItems items
  | .object members => textsMembers members
  | _ => []

/-- The strings inside the items of an array. -/
def textsItems : List Json → List String
  | [] => []
  | item :: rest => item.texts ++ textsItems rest

/-- The strings inside the values of an object. -/
def textsMembers : List (String × Json) → List String
  | [] => []
  | (_, value) :: rest => value.texts ++ textsMembers rest

end

/-- The texts of a string are the string itself. -/
@[simp]
theorem mem_texts_string {text inner : String} : inner ∈ (Json.string text).texts ↔ inner = text :=
  List.mem_singleton

/-- A text of an item is one of the array. -/
theorem mem_textsItems {items : List Json} {position : Nat} {item : Json}
    (found : items[position]? = some item) {text : String} (mem : text ∈ item.texts) :
    text ∈ textsItems items := by
  induction items generalizing position with
  | nil => cases found
  | cons first rest ih =>
    rw [textsItems, List.mem_append]
    cases position with
    | zero =>
      cases found
      exact .inl mem
    | succ position => exact .inr (ih found)

/-- A text of a member is one of the object. -/
theorem mem_textsMembers {members : Members} {key : String} {value : Json}
    (found : members.get? key = some value) {text : String} (mem : text ∈ value.texts) :
    text ∈ textsMembers members := by
  have hmember := Members.mem_of_get?_eq_some found
  clear found
  induction members with
  | nil => cases hmember
  | cons member rest ih =>
    obtain ⟨other, first⟩ := member
    rw [textsMembers, List.mem_append]
    rcases List.mem_cons.mp hmember with heq | hrest
    · cases heq
      exact .inl mem
    · exact .inr (ih hrest)

end Json

/-! ### Shown values -/

/-- Digits are no dollar signs. -/
theorem Decimal.dollar_notMem_toDigits (n : Nat) : '$' ∉ Nat.toDigits 10 n := by
  intro hmem
  cases Nat.isDigit_of_mem_toDigits (by decide) (by decide) hmem

namespace Decimal.Double

/-- Neither are the other characters of the positional form. -/
theorem dollar_notMem_positional {digits : List Char} (plain : '$' ∉ digits) (point : Int) :
    '$' ∉ positional digits point := by
  have hzeros : ∀ count, '$' ∉ zeros count := fun count hmem =>
    absurd (List.eq_of_mem_replicate hmem) (by decide)
  rw [positional]
  split
  · simp [hzeros, plain]
  split
  · simp [hzeros, plain]
  · have htake : '$' ∉ digits.take point.toNat := fun hmem => plain (List.mem_of_mem_take hmem)
    have hdrop : '$' ∉ digits.drop point.toNat := fun hmem => plain (List.mem_of_mem_drop hmem)
    simp [htake, hdrop]

/-- And neither are those of the scientific one. -/
theorem dollar_notMem_scientificForm {digits : List Char} (plain : '$' ∉ digits) (exponent : Int) :
    '$' ∉ scientificForm digits exponent := by
  have htake : '$' ∉ digits.take 1 := fun hmem => plain (List.mem_of_mem_take hmem)
  have hdrop : '$' ∉ digits.drop 1 := fun hmem => plain (List.mem_of_mem_drop hmem)
  have hpower : '$' ∉ decimalDigits exponent.natAbs := dollar_notMem_toDigits _
  have hsign : '$' ≠ if exponent < 0 then '-' else '+' := by split <;> decide
  have hmantissa : '$' ∉ if (digits.drop 1).isEmpty then digits.take 1
      else digits.take 1 ++ ['.'] ++ digits.drop 1 := by
    split
    · exact htake
    · simp only [List.mem_append, not_or]
      exact ⟨⟨htake, by decide⟩, hdrop⟩
  rw [scientificForm]
  simp only [List.mem_append, List.mem_cons, List.not_mem_nil, or_false, not_or]
  exact ⟨⟨hmantissa, by decide, hsign⟩, hpower⟩

/-- No character of a written double is a dollar sign. -/
theorem dollar_notMem_toChars (x : Double) : '$' ∉ x.toChars := by
  have hdigits : '$' ∉ decimalDigits x.shortest.digits := dollar_notMem_toDigits _
  have hsign : '$' ∉ if x.negative then ['-'] else [] := by split <;> decide
  rw [toChars]
  split
  · simp only [List.mem_append, not_or]
    exact ⟨hsign, by decide⟩
  · dsimp only
    split
    · simp only [List.mem_append, not_or]
      exact ⟨hsign, dollar_notMem_positional hdigits _⟩
    · simp only [List.mem_append, not_or]
      exact ⟨hsign, dollar_notMem_scientificForm hdigits _⟩

end Decimal.Double

namespace Json

/-- Nor is one of a written number. -/
theorem dollar_notMem_writeNumber (n : Number) : '$' ∉ writeNumber n := by
  cases n with
  | integer value =>
    cases value with
    | ofNat n =>
      rw [writeNumber]
      exact (toList_toString_natCast n).symm ▸ Decimal.dollar_notMem_toDigits n
    | negSucc n =>
      rw [writeNumber, toList_toString_negSucc, List.mem_cons, not_or]
      exact ⟨by decide, Decimal.dollar_notMem_toDigits _⟩
  | double x => exact x.dollar_notMem_toChars

/-- A value that is shown with a leading dollar sign is a string. -/
theorem eq_string_of_head_plainText {value : Json}
    (head : value.plainText.toList.head? = some '$') : ∃ text, value = .string text := by
  cases value with
  | string text => exact ⟨text, rfl⟩
  | null => simp [plainText, Json.text, write] at head
  | bool holds => cases holds <;> simp [plainText, Json.text, write] at head
  | number n =>
    rw [plainText, Json.text, String.toList_ofList, write] at head
    · exact absurd (List.mem_of_mem_head? head) (dollar_notMem_writeNumber n)
    · simp
  | array items => simp [plainText, Json.text, write] at head
  | object members => simp [plainText, Json.text, write] at head

end Json

end PageCheck
