import PageCheck.Expression.Path

/-!
# Texts of paths

A text is read as a path exactly if it is a field followed by parts that are a dot and a field or an
index in brackets, and it is read as those parts. Each of the readers takes the characters of one
part and leaves the rest of the text to the reader of what follows a part, so the whole is by
induction on the parts in one direction and on the length of the text in the other.
-/

namespace PageCheck.Expression.Path

open Decimal (digitsValue isDigits wordLimit)
open Unicode (isBlank)

/-- The characters of a field name: at least one, and none that means something else. -/
def IsField (name : List Char) : Prop := name ≠ [] ∧ ∀ c ∈ name, isFieldChar c = true

/-- The texts of the parts that follow another one. -/
inductive SpellsNext : List Segment → List Char → Prop
  | done : SpellsNext [] []
  | field {name text : List Char} {rest : List Segment} (named : IsField name)
      (next : SpellsNext rest text) :
      SpellsNext (.field (String.ofList name) :: rest) ('.' :: (name ++ text))
  | index {digits text : List Char} {rest : List Segment} (decimal : isDigits digits = true)
      (small : digitsValue digits < wordLimit) (next : SpellsNext rest text) :
      SpellsNext (.index (digitsValue digits) :: rest) ('[' :: (digits ++ ']' :: text))

/-- The texts of a path: a field and the parts that follow it. -/
inductive Spells : List Segment → List Char → Prop
  | start {name text : List Char} {rest : List Segment} (named : IsField name)
      (next : SpellsNext rest text) : Spells (.field (String.ofList name) :: rest) (name ++ text)

/-! ### Characters -/

/-- A character of a field name is none that ends a field. -/
theorem isFieldChar_iff {c : Char} :
    isFieldChar c = true ↔ c ≠ '.' ∧ c ≠ '[' ∧ c ≠ ']' ∧ isBlank c = false := by
  simp [isFieldChar, and_assoc]

/-- Digits between brackets are a position if they are a word. -/
theorem index?_eq_some_iff {digits : List Char} {position : Nat} :
    index? digits = some position ↔
      isDigits digits = true ∧ digitsValue digits < wordLimit ∧ position = digitsValue digits := by
  rw [index?]
  split
  next fits =>
    rw [Bool.and_eq_true, decide_eq_true_eq] at fits
    simp only [Option.some.injEq, fits, true_and, eq_comm]
  next fits =>
    rw [Bool.and_eq_true, decide_eq_true_eq] at fits
    exact ⟨nofun, fun h => absurd ⟨h.1, h.2.1⟩ fits⟩

/-! ### One part -/

/-- A character of its name belongs to a field. -/
theorem readField_cons {c : Char} (named : isFieldChar c = true) (name rest : List Char) :
    readField name (c :: rest) = readField (c :: name) rest := by
  obtain ⟨hdot, hopen, hclose, hblank⟩ := isFieldChar_iff.mp named
  rw [readField, if_neg hdot, if_neg hopen, if_neg hclose, if_neg (by simp [hblank])]

/-- A field ends at any other character, which must start what follows it. -/
theorem readField_stop {c : Char} (stop : isFieldChar c = false) (name rest : List Char) :
    readField name (c :: rest) =
      (readAfterIndex (c :: rest)).map (.field (String.ofList name.reverse) :: ·) := by
  rw [readField, readAfterIndex]
  by_cases hdot : c = '.'
  · rw [if_pos hdot, if_pos hdot]
  by_cases hopen : c = '['
  · rw [if_neg hdot, if_neg hdot, if_pos hopen, if_pos hopen]
  by_cases hclose : c = ']'
  · rw [if_neg hdot, if_neg hdot, if_neg hopen, if_neg hopen, if_pos hclose, if_pos hclose]
    rfl
  cases hblank : isBlank c with
  | true =>
    rw [if_neg hdot, if_neg hdot, if_neg hopen, if_neg hopen, if_neg hclose, if_neg hclose]
    rfl
  | false =>
    rw [isFieldChar_iff.mpr ⟨hdot, hopen, hclose, hblank⟩] at stop
    cases stop

/-- A field cannot follow an index without a dot. -/
theorem readAfterIndex_cons {c : Char} (named : isFieldChar c = true) (rest : List Char) :
    readAfterIndex (c :: rest) = .error (.strayAfterIndex c) := by
  obtain ⟨hdot, hopen, hclose, hblank⟩ := isFieldChar_iff.mp named
  rw [readAfterIndex, if_neg hdot, if_neg hopen, if_neg hclose, if_neg (by simp [hblank])]

/-- A mapped result is the image of a result. -/
theorem ok_of_map {ε α β : Type} {result : Except ε α} {f : α → β} {value : β}
    (ok : result.map f = .ok value) : ∃ inner, result = .ok inner ∧ f inner = value := by
  cases result with
  | error error => cases ok
  | ok inner => exact ⟨inner, rfl, Except.ok.inj ok⟩

/-- What is read as a field is its characters up to something that may follow it. -/
theorem of_readField {name text : List Char} {segments : List Segment}
    (read : readField name text = .ok segments) : ∃ more left rest, text = more ++ left ∧
      (∀ c ∈ more, isFieldChar c = true) ∧ readAfterIndex left = .ok rest ∧
      segments = .field (String.ofList (name.reverse ++ more)) :: rest := by
  induction text generalizing name with
  | nil =>
    rw [readField] at read
    cases read
    exact ⟨[], [], [], rfl, List.forall_mem_nil _, by rw [readAfterIndex],
      by rw [List.append_nil]⟩
  | cons c chars ih =>
    cases hc : isFieldChar c with
    | true =>
      rw [readField_cons hc] at read
      obtain ⟨more, left, rest, rfl, hmore, hleft, rfl⟩ := ih read
      refine ⟨c :: more, left, rest, rfl, List.forall_mem_cons.mpr ⟨hc, hmore⟩, hleft, ?_⟩
      rw [List.reverse_cons, List.append_assoc, List.singleton_append]
    | false =>
      rw [readField_stop hc] at read
      obtain ⟨rest, hleft, rfl⟩ := ok_of_map read
      exact ⟨[], c :: chars, rest, rfl, List.forall_mem_nil _, hleft, by rw [List.append_nil]⟩

/-- A field is read up to something that may follow it. -/
theorem readField_append {more left : List Char} {rest : List Segment}
    (named : ∀ c ∈ more, isFieldChar c = true) (read : readAfterIndex left = .ok rest)
    (name : List Char) :
    readField name (more ++ left) =
      .ok (.field (String.ofList (name.reverse ++ more)) :: rest) := by
  induction more generalizing name with
  | nil =>
    rw [List.nil_append, List.append_nil]
    cases left with
    | nil =>
      rw [readAfterIndex] at read
      cases read
      rw [readField]
    | cons c chars =>
      cases hc : isFieldChar c with
      | true =>
        rw [readAfterIndex_cons hc] at read
        cases read
      | false =>
        rw [readField_stop hc, read]
        rfl
  | cons c more ih =>
    obtain ⟨hc, hmore⟩ := List.forall_mem_cons.mp named
    rw [List.cons_append, readField_cons hc, ih hmore, List.reverse_cons, List.append_assoc,
      List.singleton_append]

/-- After a dot, a character of its name starts a field. -/
theorem readAfterDot_cons {c : Char} (named : isFieldChar c = true) (rest : List Char) :
    readAfterDot (c :: rest) = readField [c] rest := by
  obtain ⟨hdot, hopen, hclose, hblank⟩ := isFieldChar_iff.mp named
  rw [readAfterDot, if_neg (not_or.mpr ⟨hdot, hopen⟩), if_neg hclose, if_neg (by simp [hblank])]

/-- After a dot, any other character is refused. -/
theorem readAfterDot_stop {c : Char} (stop : isFieldChar c = false) (rest : List Char) :
    ∃ fault, readAfterDot (c :: rest) = .error fault := by
  rw [readAfterDot]
  by_cases hempty : c = '.' ∨ c = '['
  · exact ⟨_, if_pos hempty⟩
  by_cases hclose : c = ']'
  · exact ⟨_, by rw [if_neg hempty, if_pos hclose]⟩
  cases hblank : isBlank c with
  | true => exact ⟨_, by rw [if_neg hempty, if_neg hclose, if_pos rfl]⟩
  | false =>
    obtain ⟨hdot, hopen⟩ := not_or.mp hempty
    rw [isFieldChar_iff.mpr ⟨hdot, hopen, hclose, hblank⟩] at stop
    cases stop

/-- What is read after a dot is a field and something that may follow it. -/
theorem of_readAfterDot {text : List Char} {segments : List Segment}
    (read : readAfterDot text = .ok segments) : ∃ name left rest, text = name ++ left ∧
      IsField name ∧ readAfterIndex left = .ok rest ∧
      segments = .field (String.ofList name) :: rest := by
  cases text with
  | nil =>
    rw [readAfterDot] at read
    cases read
  | cons c chars =>
    cases hc : isFieldChar c with
    | false =>
      obtain ⟨fault, hfault⟩ := readAfterDot_stop hc chars
      rw [hfault] at read
      cases read
    | true =>
      rw [readAfterDot_cons hc] at read
      obtain ⟨more, left, rest, rfl, hmore, hleft, rfl⟩ := of_readField read
      exact ⟨c :: more, left, rest, rfl,
        ⟨List.cons_ne_nil _ _, List.forall_mem_cons.mpr ⟨hc, hmore⟩⟩, hleft, rfl⟩

/-- A field after a dot is read up to something that may follow it. -/
theorem readAfterDot_append {name left : List Char} {rest : List Segment} (named : IsField name)
    (read : readAfterIndex left = .ok rest) :
    readAfterDot (name ++ left) = .ok (.field (String.ofList name) :: rest) := by
  obtain ⟨hname, hchars⟩ := named
  obtain ⟨c, more, rfl⟩ := List.exists_cons_of_ne_nil hname
  obtain ⟨hc, hmore⟩ := List.forall_mem_cons.mp hchars
  rw [List.cons_append, readAfterDot_cons hc, readField_append hmore read]
  rfl

/-- What is read after an opening bracket is an index and something that may follow it. -/
theorem of_readIndex {digits text : List Char} {segments : List Segment}
    (read : readIndex digits text = .ok segments) : ∃ more left rest, text = more ++ ']' :: left ∧
      isDigits (digits.reverse ++ more) = true ∧
      digitsValue (digits.reverse ++ more) < wordLimit ∧ readAfterIndex left = .ok rest ∧
      segments = .index (digitsValue (digits.reverse ++ more)) :: rest := by
  induction text generalizing digits with
  | nil =>
    rw [readIndex] at read
    cases read
  | cons c chars ih =>
    rw [readIndex] at read
    by_cases hclose : c = ']'
    · rw [if_pos hclose] at read
      cases hindex : index? digits.reverse with
      | none =>
        rw [hindex] at read
        cases read
      | some position =>
        rw [hindex] at read
        obtain ⟨rest, hleft, rfl⟩ := ok_of_map read
        obtain ⟨hdecimal, hsmall, rfl⟩ := index?_eq_some_iff.mp hindex
        refine ⟨[], chars, rest, by rw [hclose, List.nil_append], ?_⟩
        rw [List.append_nil]
        exact ⟨hdecimal, hsmall, hleft, rfl⟩
    · rw [if_neg hclose] at read
      cases hdigit : c.isDigit with
      | false =>
        rw [if_neg (by simp [hdigit])] at read
        cases read
      | true =>
        rw [if_pos hdigit] at read
        obtain ⟨more, left, rest, rfl, hindex⟩ := ih read
        rw [List.reverse_cons, List.append_assoc, List.singleton_append] at hindex
        exact ⟨c :: more, left, rest, rfl, hindex⟩

/-- Reading an index takes its digits one by one. -/
theorem readIndex_append {more : List Char} (decimal : ∀ c ∈ more, c.isDigit = true)
    (digits text : List Char) :
    readIndex digits (more ++ text) = readIndex (more.reverse ++ digits) text := by
  induction more generalizing digits with
  | nil => rfl
  | cons c rest ih =>
    obtain ⟨hc, hrest⟩ := List.forall_mem_cons.mp decimal
    have hclose : c ≠ ']' := by
      rintro rfl
      exact absurd hc (by decide)
    rw [List.cons_append, readIndex, if_neg hclose, if_pos hc, ih hrest, List.reverse_cons,
      List.append_assoc, List.singleton_append]

/-- An index in brackets is read up to something that may follow it. -/
theorem readIndex_close {digits left : List Char} {rest : List Segment}
    (decimal : isDigits digits = true) (small : digitsValue digits < wordLimit)
    (read : readAfterIndex left = .ok rest) :
    readIndex [] (digits ++ ']' :: left) = .ok (.index (digitsValue digits) :: rest) := by
  have hdigits : ∀ c ∈ digits, c.isDigit = true := by
    rw [isDigits, Bool.and_eq_true, List.all_eq_true] at decimal
    exact decimal.2
  rw [readIndex_append hdigits, List.append_nil, readIndex, if_pos rfl, List.reverse_reverse,
    index?_eq_some_iff.mpr ⟨decimal, small, rfl⟩]
  simp only [read]
  rfl

/-! ### Whole paths -/

/-- What is read after a part is the text of further parts, by induction on its length, since a part
takes any number of characters. -/
theorem of_readAfterIndex {text : List Char} {segments : List Segment}
    (read : readAfterIndex text = .ok segments) : SpellsNext segments text := by
  induction hlength : text.length using Nat.strongRecOn generalizing text segments with
  | ind length ih =>
    cases text with
    | nil =>
      rw [readAfterIndex] at read
      cases read
      exact .done
    | cons c chars =>
      rw [readAfterIndex] at read
      by_cases hdot : c = '.'
      · rw [if_pos hdot] at read
        obtain ⟨name, left, rest, rfl, hname, hleft, rfl⟩ := of_readAfterDot read
        have hshorter : left.length < length := by
          rw [← hlength, List.length_cons, List.length_append]
          omega
        exact hdot ▸ .field hname (ih _ hshorter hleft rfl)
      by_cases hopen : c = '['
      · rw [if_neg hdot, if_pos hopen] at read
        obtain ⟨digits, left, rest, rfl, hdecimal, hsmall, hleft, rfl⟩ := of_readIndex read
        have hshorter : left.length < length := by
          rw [← hlength, List.length_cons, List.length_append, List.length_cons]
          omega
        exact hopen ▸ .index hdecimal hsmall (ih _ hshorter hleft rfl)
      rw [if_neg hdot, if_neg hopen] at read
      split at read
      · cases read
      · split at read <;> cases read

/-- The text of further parts is read after a part. -/
theorem SpellsNext.read {text : List Char} {segments : List Segment}
    (spells : SpellsNext segments text) : readAfterIndex text = .ok segments := by
  induction spells with
  | done => rw [readAfterIndex]
  | field named next ih => rw [readAfterIndex, if_pos rfl, readAfterDot_append named ih]
  | index decimal small next ih =>
    rw [readAfterIndex, if_neg (by decide), if_pos rfl, readIndex_close decimal small ih]

/-- A text is read as a path exactly if it is the text of one. -/
theorem parse_eq_ok_iff {text : String} {segments : List Segment} :
    parse text = .ok segments ↔ Spells segments text.toList := by
  have hread : parse text = .ok segments ↔ readAfterDot text.toList = .ok segments := by
    rw [parse]
    split
    next hchars => simp [hchars, readAfterDot]
    next hchars => simp [hchars, readAfterDot]
    next hchars => simp [hchars, readAfterDot]
    next => rfl
  rw [hread]
  constructor
  · intro read
    obtain ⟨name, left, rest, hchars, hname, hleft, rfl⟩ := of_readAfterDot read
    rw [hchars]
    exact .start hname (of_readAfterIndex hleft)
  · generalize text.toList = chars
    rintro ⟨hname, hnext⟩
    exact readAfterDot_append hname hnext.read

end PageCheck.Expression.Path
