import Mathlib.Data.List.Basic
import PageCheck.Browser.WebDriver
import PageCheck.Unicode.CodePoints

/-!
# Selectors for identifiers and names

Identifiers and names are looked up by selectors of the style sheet language: the attribute in
brackets, with its value as a string in double quotes. How such a string is read is laid down here:
it goes up to the first double quote that no backslash escapes, a line cannot end inside it, and a
backslash makes a character of the one after it or of up to six hexadecimal digits. The main
statement says for which locators the text that is sent is the selector of the very value that the
locator asks for.
-/

namespace PageCheck

namespace Css

open Unicode (hexDigit? hexValue)

/-- A text as it is before anything is read: line ends are all written the same, and no character
has the number zero. -/
def filtered : List Char → List Char
  | [] => []
  | '\r' :: '\n' :: rest => '\n' :: filtered rest
  | c :: rest =>
    (if c = '\r' ∨ c = '\x0c' then '\n' else if c = '\x00' then '\ufffd' else c) :: filtered rest

/-- The character with a number, if there is one. -/
def characterOf (number : Nat) : Char :=
  if number ≠ 0 ∧ number.isValidChar then Char.ofNat number else '\ufffd'

/-- A text without the blank that it begins with. -/
def withoutBlank : List Char → List Char
  | ' ' :: rest | '\t' :: rest | '\n' :: rest => rest
  | text => text

/-- The character that stands for an escape and what follows the escape, of which `first` is the
character after the backslash. A blank after hexadecimal digits belongs to them. -/
def escaped (first : Char) (rest : List Char) : Char × List Char :=
  if (hexDigit? first).isSome then
    let digits := (rest.take 5).takeWhile fun c => (hexDigit? c).isSome
    (characterOf (hexValue (first :: digits)), withoutBlank (rest.drop digits.length))
  else (first, rest)

/-- Nothing is added in front. -/
theorem length_withoutBlank (text : List Char) : (withoutBlank text).length ≤ text.length := by
  rw [withoutBlank.eq_def]
  split <;> simp

/-- An escape takes nothing back. -/
theorem length_escaped (first : Char) (rest : List Char) :
    (escaped first rest).2.length ≤ rest.length := by
  rw [escaped]
  split
  · refine Nat.le_trans (length_withoutBlank _) ?_
    rw [List.length_drop]
    exact Nat.sub_le _ _
  · exact Nat.le_refl _

/-- What a string denotes and what follows it, the text beginning after the first quote. There is
nothing if the string is not closed. -/
def readString : List Char → Option (List Char × List Char)
  | [] => none
  | '"' :: rest => some ([], rest)
  | '\n' :: _ => none
  | ['\\'] => none
  | '\\' :: '\n' :: rest => readString rest
  | '\\' :: first :: rest =>
    (readString (escaped first rest).2).map fun (denoted, after) =>
      ((escaped first rest).1 :: denoted, after)
  | c :: rest => (readString rest).map fun (denoted, after) => (c :: denoted, after)
termination_by text => text.length
decreasing_by
  · rw [List.length_cons, List.length_cons]
    omega
  · have hescaped := length_escaped first rest
    rw [List.length_cons, List.length_cons]
    omega
  · rw [List.length_cons]
    omega

/-- The value that a text asks an attribute to have, if the text is the selector of that attribute
with its value in double quotes, and nothing else. -/
def attributeValue? (name text : String) : Option String :=
  match (filtered text.toList).dropPrefix? ("[" ++ name ++ "=\"").toList with
  | none => none
  | some rest =>
    match readString rest with
    | some (denoted, [']']) => some (String.ofList denoted)
    | _ => none

/-- A character that stands for itself inside a string. -/
def IsPlain (c : Char) : Prop := c ≠ '"' ∧ c ≠ '\\' ∧ c ≠ '\n'

/-- Plain characters up to the closing quote are read as they are. -/
theorem readString_plain {value : List Char} (plain : ∀ c ∈ value, IsPlain c) (rest : List Char) :
    readString (value ++ '"' :: rest) = some (value, rest) := by
  induction value with
  | nil => rw [List.nil_append, readString]
  | cons c value ih =>
    obtain ⟨⟨hquote, hbackslash, hline⟩, hvalue⟩ := List.forall_mem_cons.mp plain
    rw [List.cons_append, readString, ih hvalue]
    · rfl
    all_goals simp_all

/-- A string denotes no more characters than stand in it, and if it denotes as many, they are those
that stand in it. -/
theorem length_readString {text denoted after : List Char}
    (reads : readString text = some (denoted, after)) :
    denoted.length + after.length + 1 ≤ text.length ∧
      (denoted.length + after.length + 1 = text.length →
        text = denoted ++ '"' :: after ∧ ∀ c ∈ denoted, IsPlain c) := by
  fun_induction readString text generalizing denoted with
  | case1 => cases reads
  | case2 rest =>
    cases reads
    simp
  | case3 => cases reads
  | case4 => cases reads
  | case5 rest ih =>
    obtain ⟨hle, -⟩ := ih reads
    simp only [List.length_cons]
    omega
  | case6 first rest hline ih =>
    obtain ⟨⟨inner, after'⟩, hinner, heq⟩ := Option.map_eq_some_iff.mp reads
    cases heq
    obtain ⟨hle, -⟩ := ih hinner
    have hescaped := length_escaped first rest
    simp only [List.length_cons]
    omega
  | case7 c rest hquote hline hlast hbreak hescape ih =>
    obtain ⟨⟨inner, after'⟩, hinner, heq⟩ := Option.map_eq_some_iff.mp reads
    cases heq
    obtain ⟨hle, hexact⟩ := ih hinner
    simp only [List.length_cons]
    refine ⟨by omega, fun hlength => ?_⟩
    obtain ⟨hrest, hplain⟩ := hexact (by omega)
    have hbackslash : c ≠ '\\' := by
      intro hc
      cases rest with
      | nil => cases inner <;> cases hrest
      | cons first more => exact hescape first more hc rfl
    refine ⟨by rw [hrest, List.cons_append], List.forall_mem_cons.mpr ⟨?_, hplain⟩⟩
    exact ⟨hquote, hbackslash, hline⟩

/-- A character that is read as it is written. -/
def IsKept (c : Char) : Prop := c ≠ '\r' ∧ c ≠ '\x0c' ∧ c ≠ '\x00'

/-- A beginning of characters that are kept stays as it is. -/
theorem filtered_append {beginning : List Char} (kept : ∀ c ∈ beginning, IsKept c)
    (rest : List Char) : filtered (beginning ++ rest) = beginning ++ filtered rest := by
  induction beginning with
  | nil => rfl
  | cons c beginning ih =>
    obtain ⟨⟨hreturn, hfeed, hzero⟩, hbeginning⟩ := List.forall_mem_cons.mp kept
    rw [List.cons_append, filtered]
    · rw [ih hbeginning]
      simp [hreturn, hfeed, hzero]
    · rintro - hc -
      exact hreturn hc

/-- Every character is kept that is left of a text. -/
theorem isKept_filtered (text : List Char) : ∀ c ∈ filtered text, IsKept c := by
  fun_induction filtered text with
  | case1 => nofun
  | case2 rest ih => exact List.forall_mem_cons.mpr ⟨by simp [IsKept], ih⟩
  | case3 c rest _ ih =>
    refine List.forall_mem_cons.mpr ⟨?_, ih⟩
    split
    · simp [IsKept]
    next hline =>
      split
      · simp [IsKept]
      next hzero => exact ⟨fun h => hline (.inl h), fun h => hline (.inr h), hzero⟩

/-- No character is added to a text. -/
theorem length_filtered (text : List Char) : (filtered text).length ≤ text.length := by
  fun_induction filtered text with
  | case1 => exact Nat.le_refl _
  | case2 rest ih =>
    simp only [List.length_cons]
    omega
  | case3 c rest _ ih =>
    simp only [List.length_cons]
    omega

/-- A text that a string in double quotes can hold as it is: without quotes, backslashes, line ends
and the character with the number zero. -/
def Verbatim (text : String) : Prop := ∀ c ∈ text.toList, IsPlain c ∧ IsKept c

/-- What a selector asks of the attribute is what the string between its quotes denotes, if the
bracket comes right after it. -/
theorem attributeValue?_written {name : String} (kept : ∀ c ∈ name.toList, IsKept c)
    (value : String) : attributeValue? name ("[" ++ name ++ "=\"" ++ value ++ "\"]") =
      match readString (filtered (value.toList ++ ['"', ']'])) with
      | some (denoted, [']']) => some (String.ofList denoted)
      | _ => none := by
  have hbeginning : ∀ c ∈ ("[" ++ name ++ "=\"").toList, IsKept c := by
    intro c hc
    simp only [String.toList_append, List.mem_append] at hc
    have hsigns : ∀ c ∈ ['[', '=', '"'], IsKept c := by simp [IsKept]
    rcases hc with (hopen | hname) | hsign
    · exact hsigns c (List.mem_cons.mpr (.inl (List.mem_singleton.mp hopen)))
    · exact kept c hname
    · exact hsigns c (List.mem_cons_of_mem _ hsign)
  have hsplit : ("[" ++ name ++ "=\"" ++ value ++ "\"]").toList =
      ("[" ++ name ++ "=\"").toList ++ (value.toList ++ ['"', ']']) := by
    rw [String.toList_append, String.toList_append, List.append_assoc]
    rfl
  have hdrop : (("[" ++ name ++ "=\"").toList ++ filtered (value.toList ++ ['"', ']'])).dropPrefix?
      ("[" ++ name ++ "=\"").toList = some (filtered (value.toList ++ ['"', ']'])) :=
    List.dropPrefix?_append_of_beq _ (beq_self_eq_true _)
  rw [attributeValue?, hsplit, filtered_append hbeginning, hdrop]

/-- A string up to its closing quote and a bracket denotes the very characters that were written
only if it can hold them as they are. -/
theorem verbatim_of_readString {value : String} {after : List Char}
    (reads : readString (filtered (value.toList ++ ['"', ']'])) = some (value.toList, ']' :: after)) :
    Verbatim value := by
  obtain ⟨hle, hexact⟩ := length_readString reads
  have hlength := length_filtered (value.toList ++ ['"', ']'])
  simp only [List.length_append, List.length_cons, List.length_nil] at hle hexact hlength
  obtain ⟨hsame, hplain⟩ := hexact (by omega)
  intro c hc
  refine ⟨hplain c hc, isKept_filtered (value.toList ++ ['"', ']']) c ?_⟩
  rw [hsame]
  exact List.mem_append_left _ hc

/-- The selector of an attribute has the very value that was put between the quotes exactly if a
string can hold that value as it is. -/
theorem attributeValue?_iff {name : String} (kept : ∀ c ∈ name.toList, IsKept c) (value : String) :
    attributeValue? name ("[" ++ name ++ "=\"" ++ value ++ "\"]") = some value ↔
      Verbatim value := by
  rw [attributeValue?_written kept]
  constructor
  · intro hvalue
    split at hvalue
    next denoted hreads =>
      have hdenoted : denoted = value.toList := by
        rw [← Option.some.inj hvalue, String.toList_ofList]
      rw [hdenoted] at hreads
      exact verbatim_of_readString hreads
    · cases hvalue
  · intro hverbatim
    have hend : filtered ['"', ']'] = ['"', ']'] := by simp [filtered]
    rw [filtered_append fun c hc => (hverbatim c hc).2, hend,
      readString_plain fun c hc => (hverbatim c hc).1]
    exact congrArg some String.ofList_toList

end Css

/-- The attribute by which a strategy looks elements up, if it does so by one. -/
def Strategy.attribute? : Strategy → Option String
  | .id => some "id"
  | .name => some "name"
  | _ => none

namespace WebDriver

/-- A locator that looks for an identifier or a name is sent as a selector in which its own selector
stands between quotes. -/
theorem lookup_of_attribute {locator : Locator} {name : String}
    (asks : locator.strategy.attribute? = some name) :
    lookup locator = ("css selector", "[" ++ name ++ "=\"" ++ locator.selector ++ "\"]") ∧
      ∀ c ∈ name.toList, Css.IsKept c := by
  obtain ⟨selector, strategy⟩ := locator
  cases strategy with
  | id | name =>
    cases asks
    exact ⟨rfl, by simp [Css.IsKept]⟩
  | _ => cases asks

/-- **Which identifiers and names are looked up as such.** For a locator that looks for an
identifier or a name, the text that is sent is a selector of the attribute. It asks the attribute to
have the very value that the locator has, and asks for nothing else, exactly if the value has no
quote, backslash, line end or character with the number zero. Two locators with such values are sent
as selectors with one value only if they are the same. -/
theorem lookup_exact_iff {locator : Locator} {name : String}
    (asks : locator.strategy.attribute? = some name) :
    ∃ text, (Call.ofCommand (.find locator)).body =
        some (.object [("using", .string "css selector"), ("value", .string text)]) ∧
      (Css.attributeValue? name text = some locator.selector ↔ Css.Verbatim locator.selector) ∧
      ∀ other : Locator, other.strategy = locator.strategy →
        Css.Verbatim locator.selector → Css.Verbatim other.selector →
        Css.attributeValue? name (lookup other).2 = Css.attributeValue? name text →
        other = locator := by
  obtain ⟨hlookup, hkept⟩ := lookup_of_attribute asks
  have hvalue := Css.attributeValue?_iff hkept
  refine ⟨"[" ++ name ++ "=\"" ++ locator.selector ++ "\"]", ?_, hvalue locator.selector, ?_⟩
  · rw [Call.ofCommand, lookupBody, hlookup]
    rfl
  · intro other hstrategy hverbatim hother hsame
    have hasks : other.strategy.attribute? = some name := by rw [hstrategy, asks]
    rw [(lookup_of_attribute hasks).1, (hvalue other.selector).mpr hother,
      (hvalue locator.selector).mpr hverbatim] at hsame
    obtain ⟨selector, strategy⟩ := other
    cases hstrategy
    cases hsame
    rfl

/-- A search field is looked up by its identifier. -/
theorem lookup_exact_iff_search :
    (Strategy.id.attribute? = some "id" ∧ Css.Verbatim "search") ∧
      ∃ text, (Call.ofCommand (.find ⟨"search", .id⟩)).body =
          some (.object [("using", .string "css selector"), ("value", .string text)]) ∧
        Css.attributeValue? "id" text = some "search" := by
  have hverbatim : Css.Verbatim "search" := by simp [Css.Verbatim, Css.IsPlain, Css.IsKept]
  have hasks : (⟨"search", .id⟩ : Locator).strategy.attribute? = some "id" := rfl
  obtain ⟨text, hbody, hvalue, -⟩ := lookup_exact_iff hasks
  exact ⟨⟨rfl, hverbatim⟩, text, hbody, hvalue.mpr hverbatim⟩

/-- A selector with a quote ends the string early and goes on as it likes: what is sent for this
identifier is the list of the selectors for an identifier and for a name. -/
theorem lookup_strays :
    (lookup ⟨"a\"],[name=\"b", .id⟩).2 = (lookup ⟨"a", .id⟩).2 ++ "," ++ (lookup ⟨"b", .name⟩).2 ∧
      Css.attributeValue? "id" (lookup ⟨"a\"],[name=\"b", .id⟩).2 = none := by
  have hprefix : (Css.filtered (lookup ⟨"a\"],[name=\"b", .id⟩).2.toList).dropPrefix?
      ("[" ++ "id" ++ "=\"").toList =
        some (['a'] ++ '"' :: [']', ',', '[', 'n', 'a', 'm', 'e', '=', '"', 'b', '"', ']']) := by
    decide
  have hplain : ∀ c ∈ ['a'], Css.IsPlain c := by simp [Css.IsPlain]
  refine ⟨rfl, ?_⟩
  rw [Css.attributeValue?, hprefix]
  dsimp only
  rw [Css.readString_plain hplain]
  rfl

end WebDriver

end PageCheck
