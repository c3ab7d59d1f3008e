import PageCheck.Proofs.Expression.Rendering
import PageCheck.Proofs.Store.Recall

/-!
# Positions in paths

A position in an array is written in brackets or, as a field, after a dot. The two meet in one
direction: where a path with brackets has a value, the path with the same number after a dot has it
too. In the other direction a field leads into an array if it is read as a number, and numbers are
read with a plus in front as well, which brackets refuse. So a field that leads into an array is
made of digits alone exactly if it is none with a plus.
-/

namespace PageCheck.Expression

open Decimal (digitsValue isDigits word? wordLimit)
open Unicode (isBlank)

/-! ### Following paths part by part -/

/-- Segments after others are followed from where the others lead. -/
theorem follow_append (start : Json) (first second : List Segment) :
    follow start (first ++ second) = (follow start first).bind (follow · second) := by
  induction first generalizing start with
  | nil => rfl
  | cons segment rest ih =>
    rw [List.cons_append, follow, follow]
    cases descend start segment with
    | none => rfl
    | some next => exact ih next

/-- A path that goes on after a first part is followed from what stands there. -/
theorem lookup_append (members : Members) {first : List Segment} (started : first ≠ [])
    (second : List Segment) :
    lookup members (first ++ second) = (lookup members first).bind (follow · second) := by
  have hboth : first ++ second ≠ [] := List.append_ne_nil_of_left_ne_nil started second
  rw [← follow_object members hboth, ← follow_object members started, follow_append]

/-- A path with a further segment leads where the segment leads from what stands before it. -/
theorem lookup_concat (members : Members) {first : List Segment} (started : first ≠ [])
    (segment : Segment) :
    lookup members (first ++ [segment]) = (lookup members first).bind (descend · segment) := by
  rw [lookup_append members started]
  refine Option.bind_congr fun value _ => ?_
  rw [follow]
  cases descend value segment <;> rfl

/-- No path without segments has a value. -/
theorem ne_nil_of_lookup {members : Members} {segments : List Segment} {value : Json}
    (found : lookup members segments = some value) : segments ≠ [] := by
  rintro rfl
  cases found

/-! ### Numbers as fields -/

/-- Without a plus in front, a number is read from what are digits and write a word. -/
theorem word?_of_unsigned {chars : List Char} (unsigned : ∀ digits, chars ≠ '+' :: digits) (n : Nat) :
    word? chars = some n ↔
      isDigits chars = true ∧ digitsValue chars < wordLimit ∧ digitsValue chars = n := by
  have hword : word? chars = if isDigits chars && digitsValue chars < wordLimit then
      some (digitsValue chars) else none := by
    rw [Decimal.word?.eq_def]
    split
    next digits => exact absurd rfl (unsigned digits)
    next => rfl
  rw [hword]
  simp [and_assoc]

/-- With a plus in front, it is read from what follows the plus. -/
theorem word?_plus (digits : List Char) (n : Nat) :
    word? ('+' :: digits) = some n ↔
      isDigits digits = true ∧ digitsValue digits < wordLimit ∧ digitsValue digits = n := by
  simp [word?, and_assoc]

/-- Digits have no plus in front. -/
theorem unsigned_of_isDigits {chars : List Char} (decimal : isDigits chars = true)
    (digits : List Char) : chars ≠ '+' :: digits := by
  rintro rfl
  simp [isDigits, show Char.isDigit '+' = false from rfl] at decimal

/-- A number is read from digits, and from digits with a plus in front. -/
theorem word?_eq_some_iff {chars : List Char} {n : Nat} :
    word? chars = some n ↔ ∃ digits, (chars = digits ∨ chars = '+' :: digits) ∧
      isDigits digits = true ∧ digitsValue digits < wordLimit ∧ digitsValue digits = n := by
  constructor
  · intro hword
    by_cases hplus : ∃ digits, chars = '+' :: digits
    · obtain ⟨digits, rfl⟩ := hplus
      exact ⟨digits, .inr rfl, (word?_plus digits n).mp hword⟩
    · exact ⟨chars, .inl rfl, (word?_of_unsigned (not_exists.mp hplus) n).mp hword⟩
  · rintro ⟨digits, rfl | rfl, hdigits⟩
    · exact (word?_of_unsigned (unsigned_of_isDigits hdigits.1) n).mpr hdigits
    · exact (word?_plus digits n).mpr hdigits

/-- A field leads from an array to the item at the position that it writes. -/
theorem descend_field_iff {items : List Json} {name : String} {value : Json} :
    descend (.array items) (.field name) = some value ↔
      ∃ digits, (name.toList = digits ∨ name.toList = '+' :: digits) ∧ isDigits digits = true ∧
        digitsValue digits < wordLimit ∧ items[digitsValue digits]? = some value := by
  have hdescend : descend (.array items) (.field name) =
      (word? name.toList).bind (items[·]?) := rfl
  rw [hdescend, Option.bind_eq_some_iff]
  constructor
  · rintro ⟨n, hword, hitem⟩
    obtain ⟨digits, hname, hdigits, hsmall, rfl⟩ := word?_eq_some_iff.mp hword
    exact ⟨digits, hname, hdigits, hsmall, hitem⟩
  · rintro ⟨digits, hname, hdigits, hsmall, hitem⟩
    exact ⟨_, word?_eq_some_iff.mpr ⟨digits, hname, hdigits, hsmall, rfl⟩, hitem⟩

/-- Where a position leads somewhere, the field with the same number leads to the same. -/
theorem descend_field_of_index {start value : Json} {n : Nat} (small : n < wordLimit)
    (found : descend start (.index n) = some value) :
    descend start (.field (Nat.repr n)) = some value := by
  cases start with
  | array items =>
    have hdigits : (Nat.repr n).toList = Nat.toDigits 10 n := String.toList_ofList
    have hfound : items[n]? = some value := found
    refine descend_field_iff.mpr ⟨Nat.toDigits 10 n, .inl hdigits, Path.isDigits_toDigits n, ?_⟩
    rw [Path.digitsValue_toDigits]
    exact ⟨small, hfound⟩
  | _ => cases found

/-- So a path with the field in place of the position has the same value. -/
theorem lookup_field_of_index {members : Members} {before after : List Segment} {n : Nat}
    {value : Json} (small : n < wordLimit)
    (found : lookup members (before ++ .index n :: after) = some value) :
    lookup members (before ++ .field (Nat.repr n) :: after) = some value := by
  cases before with
  | nil => cases found
  | cons segment rest =>
    have hstarted := List.cons_ne_nil segment rest
    rw [lookup_append members hstarted] at found ⊢
    obtain ⟨start, hstart, hfollow⟩ := Option.bind_eq_some_iff.mp found
    obtain ⟨next, hnext, hrest⟩ := Option.bind_eq_some_iff.mp hfollow
    refine Option.bind_eq_some_iff.mpr ⟨start, hstart, ?_⟩
    exact Option.bind_eq_some_iff.mpr ⟨next, descend_field_of_index small hnext, hrest⟩

/-! ### Texts with brackets -/

namespace Path

/-- A sign that does not stand in the first part of a text stands in what follows it. -/
theorem append_of_notMem {sign : Char} {first second head rest : List Char}
    (clean : sign ∉ first) (split : first ++ second = head ++ sign :: rest) :
    ∃ more, head = first ++ more ∧ second = more ++ sign :: rest := by
  obtain ⟨more, hhead, hsecond⟩ | ⟨more, hfirst, hrest⟩ := List.append_eq_append_iff.mp split
  · exact ⟨more, hhead, hsecond⟩
  · cases more with
    | nil => exact ⟨[], by rw [hfirst, List.append_nil, List.append_nil], hrest.symm⟩
    | cons c more =>
      cases hrest
      exact absurd (hfirst ▸ List.mem_append_right head List.mem_cons_self) clean

/-- A bracket stands in no field. -/
theorem IsField.bracket_notMem {name : List Char} (named : IsField name) : '[' ∉ name :=
  fun mem => absurd (named.2 '[' mem) (by decide)

/-- A sign that is no digit stands in no digits. -/
theorem notMem_of_isDigits {digits : List Char} (decimal : isDigits digits = true) {sign : Char}
    (other : sign.isDigit = false) : sign ∉ digits := by
  intro mem
  rw [isDigits, Bool.and_eq_true, List.all_eq_true] at decimal
  rw [decimal.2 sign mem] at other
  cases other

/-- Parts after others are spelled one after the other. -/
theorem SpellsNext.append {first second : List Segment} {head tail : List Char}
    (before : SpellsNext first head) (after : SpellsNext second tail) :
    SpellsNext (first ++ second) (head ++ tail) := by
  induction before with
  | done => exact after
  | field named _ ih =>
    rw [List.cons_append, List.cons_append, List.append_assoc]
    exact .field named ih
  | index decimal small _ ih =>
    rw [List.cons_append, List.cons_append, List.append_assoc, List.cons_append]
    exact .index decimal small ih

/-- A path and further parts are spelled one after the other. -/
theorem Spells.append {first second : List Segment} {head tail : List Char}
    (before : Spells first head) (after : SpellsNext second tail) :
    Spells (first ++ second) (head ++ tail) := by
  cases before with
  | start named next =>
    rw [List.cons_append, List.append_assoc]
    exact .start named (next.append after)

/-- Further parts end where a bracket opens, and others begin there. -/
theorem SpellsNext.split {segments : List Segment} {text head rest : List Char}
    (spells : SpellsNext segments text) (opens : text = head ++ '[' :: rest) :
    ∃ first second, segments = first ++ second ∧ SpellsNext first head ∧
      SpellsNext second ('[' :: rest) := by
  induction spells generalizing head with
  | done => simp at opens
  | @field name text segments named next ih =>
    cases head with
    | nil => cases opens
    | cons c head =>
      obtain ⟨rfl, hname⟩ := List.cons_eq_cons.mp opens
      obtain ⟨more, rfl, hmore⟩ := append_of_notMem named.bracket_notMem hname
      obtain ⟨first, second, rfl, hfirst, hsecond⟩ := ih hmore
      exact ⟨_ :: first, second, rfl, .field named hfirst, hsecond⟩
  | @index digits text segments decimal small next ih =>
    cases head with
    | nil =>
      obtain ⟨-, rfl⟩ := List.cons_eq_cons.mp opens
      exact ⟨[], _, rfl, .done, .index decimal small next⟩
    | cons c head =>
      obtain ⟨rfl, hdigits⟩ := List.cons_eq_cons.mp opens
      obtain ⟨more, rfl, hmore⟩ :=
        append_of_notMem (notMem_of_isDigits decimal (by decide)) hdigits
      cases more with
      | nil => cases hmore
      | cons c more =>
        obtain ⟨rfl, hrest⟩ := List.cons_eq_cons.mp hmore
        obtain ⟨first, second, rfl, hfirst, hsecond⟩ := ih hrest
        exact ⟨_ :: first, second, rfl, .index decimal small hfirst, hsecond⟩

/-- A path ends where a bracket opens, and further parts begin there. -/
theorem Spells.split {segments : List Segment} {head rest : List Char}
    (spells : Spells segments (head ++ '[' :: rest)) :
    ∃ first second, segments = first ++ second ∧ Spells first head ∧
      SpellsNext second ('[' :: rest) := by
  generalize htext : head ++ '[' :: rest = text at spells
  cases spells with
  | start named next =>
    obtain ⟨more, rfl, hmore⟩ := append_of_notMem named.bracket_notMem htext.symm
    obtain ⟨first, second, rfl, hfirst, hsecond⟩ := next.split hmore
    exact ⟨_ :: first, second, rfl, .start named hfirst, hsecond⟩

/-- Digits in brackets are the position that they write, and further parts follow it. The bracket that
closes is the first one. -/
theorem SpellsNext.of_bracket {segments : List Segment} {digits tail : List Char}
    (decimal : isDigits digits = true)
    (spells : SpellsNext segments ('[' :: (digits ++ ']' :: tail))) :
    ∃ rest, segments = .index (digitsValue digits) :: rest ∧ digitsValue digits < wordLimit ∧
      SpellsNext rest tail := by
  generalize htext : '[' :: (digits ++ ']' :: tail) = text at spells
  cases spells with
  | done => cases htext
  | field named next => cases htext
  | @index others left rest written small next =>
    obtain ⟨-, hdigits⟩ := List.cons_eq_cons.mp htext
    obtain ⟨more, rfl, hmore⟩ :=
      append_of_notMem (notMem_of_isDigits decimal (by decide)) hdigits
    cases more with
    | nil =>
      cases hmore
      exact ⟨rest, by rw [List.append_nil], by rwa [List.append_nil] at small, next⟩
    | cons c more =>
      obtain ⟨rfl, -⟩ := List.cons_eq_cons.mp hmore
      have hmem : ']' ∈ digits ++ ']' :: more :=
        List.mem_append_right digits List.mem_cons_self
      exact absurd hmem (notMem_of_isDigits written (by decide))

/-- Digits can be written as a field. -/
theorem isField_toDigits (n : Nat) : IsField (Nat.toDigits 10 n) := by
  refine ⟨Nat.toDigits_ne_nil, fun c hmem => ?_⟩
  have hdigit : c.isDigit = true := Nat.isDigit_of_mem_toDigits (by decide) (by decide) hmem
  have hrange : 48 ≤ c.toNat ∧ c.toNat ≤ 57 := Char.isDigit_iff_toNat.mp hdigit
  have hblank : isBlank c = false := by
    simp [isBlank]
    omega
  refine isFieldChar_iff.mpr ⟨?_, ?_, ?_, hblank⟩ <;> rintro rfl <;> simp at hdigit

/-- A text with digits in brackets spells a path with their position, and with the number after a dot
in their place it spells the path with the field. -/
theorem Spells.dotted {segments : List Segment} {head digits tail : List Char}
    (decimal : isDigits digits = true)
    (spells : Spells segments (head ++ '[' :: (digits ++ ']' :: tail))) :
    ∃ before after, segments = before ++ .index (digitsValue digits) :: after ∧
      digitsValue digits < wordLimit ∧
      Spells (before ++ .field (Nat.repr (digitsValue digits)) :: after)
        (head ++ '.' :: (Nat.toDigits 10 (digitsValue digits) ++ tail)) := by
  obtain ⟨before, second, rfl, hbefore, hsecond⟩ := spells.split
  obtain ⟨after, rfl, hsmall, hafter⟩ := hsecond.of_bracket decimal
  exact ⟨before, after, rfl, hsmall, hbefore.append (.field (isField_toDigits _) hafter)⟩

end Path

/-! ### Both spellings -/

/-- **Positions in paths.** Where a path with a position in brackets has a value, the path with that
number after a dot has the same value. A field leads from the array at a path to an item exactly if
it is digits, or digits after a plus, that write the position of the item. So the fields that lead
into an array are digits and below its length, unless one is such a position after a plus. -/
theorem positions_read_iff (members : Members) :
    (∀ (head digits tail : String) (segments : List Segment) (value : Json),
      isDigits digits.toList = true →
      Path.parse (head ++ "[" ++ digits ++ "]" ++ tail) = .ok segments →
      lookup members segments = some value →
      ∃ dotted, Path.parse (head ++ "." ++ Nat.repr (digitsValue digits.toList) ++ tail) =
          .ok dotted ∧ lookup members dotted = some value) ∧
    (∀ (path : List Segment) (items : List Json) (name : String),
      lookup members path = some (.array items) →
      (∀ value, lookup members (path ++ [.field name]) = some value ↔
        ∃ digits, (name.toList = digits ∨ name.toList = '+' :: digits) ∧
          isDigits digits = true ∧ digitsValue digits < wordLimit ∧
          items[digitsValue digits]? = some value) ∧
      ((∀ value, lookup members (path ++ [.field name]) = some value →
          isDigits name.toList = true ∧ digitsValue name.toList < items.length) ↔
        ¬ ∃ digits, name.toList = '+' :: digits ∧ isDigits digits = true ∧
          digitsValue digits < wordLimit ∧ digitsValue digits < items.length)) := by
  refine ⟨fun head digits tail segments value decimal hparse hfound => ?_,
    fun path items name harray => ?_⟩
  · have hspells := Path.parse_eq_ok_iff.mp hparse
    have hbracketed : (head ++ "[" ++ digits ++ "]" ++ tail).toList =
        head.toList ++ '[' :: (digits.toList ++ ']' :: tail.toList) := by simp
    rw [hbracketed] at hspells
    obtain ⟨before, after, rfl, hsmall, hdotted⟩ := hspells.dotted decimal
    refine ⟨_, Path.parse_eq_ok_iff.mpr ?_, lookup_field_of_index hsmall hfound⟩
    have hwritten : (head ++ "." ++ Nat.repr (digitsValue digits.toList) ++ tail).toList =
        head.toList ++ '.' ::
          (Nat.toDigits 10 (digitsValue digits.toList) ++ tail.toList) := by
      simp [Nat.repr]
    rw [hwritten]
    exact hdotted
  · have hstep : ∀ value, lookup members (path ++ [.field name]) = some value ↔
        ∃ digits, (name.toList = digits ∨ name.toList = '+' :: digits) ∧
          isDigits digits = true ∧ digitsValue digits < wordLimit ∧
          items[digitsValue digits]? = some value := by
      intro value
      rw [lookup_concat members (ne_nil_of_lookup harray), harray]
      exact descend_field_iff
    refine ⟨hstep, ?_, ?_⟩
    · rintro hpure ⟨digits, hname, hdigits, hsmall, hbelow⟩
      have hitem : items[digitsValue digits]? = some items[digitsValue digits] :=
        List.getElem?_eq_getElem hbelow
      have hname' := (hpure _ ((hstep _).mpr ⟨digits, .inr hname, hdigits, hsmall, hitem⟩)).1
      exact unsigned_of_isDigits hname' digits hname
    · intro hnone value hfound
      obtain ⟨digits, hname | hname, hdigits, hsmall, hitem⟩ := (hstep value).mp hfound
      · rw [hname]
        exact ⟨hdigits, (List.getElem?_eq_some_iff.mp hitem).1⟩
      · have hbelow := (List.getElem?_eq_some_iff.mp hitem).1
        exact absurd ⟨digits, hname, hdigits, hsmall, hbelow⟩ hnone

/-- Members with an array of objects. -/
def linked : Members :=
  [("Links", .array [.object [("href", .string "/a")], .object [("href", .string "/b")]])]

/-- A text is read as the segments that it spells. -/
theorem parse_of_spells {text : String} {segments : List Segment} {chars : List Char}
    (spells : Path.Spells segments chars) (written : text.toList = chars) :
    Path.parse text = .ok segments :=
  Path.parse_eq_ok_iff.mpr (written ▸ spells)

/-- The second item, once in brackets with a zero in front and once after a dot; and a field that
leads to it. -/
theorem positions_read_iff_linked :
    Path.parse ("Links" ++ "[" ++ "01" ++ "]" ++ ".href") =
        .ok [.field "Links", .index 1, .field "href"] ∧
      lookup linked [.field "Links", .index 1, .field "href"] = some (.string "/b") ∧
      (∃ dotted, Path.parse "Links.1.href" = .ok dotted ∧
        lookup linked dotted = some (.string "/b")) ∧
      ∀ value, lookup linked [.field "Links", .field "1"] = some value →
        isDigits "1".toList = true ∧ digitsValue "1".toList < 2 := by
  have hlinks : Path.IsField "Links".toList := ⟨by decide, List.all_eq_true.mp (by decide)⟩
  have hhref : Path.IsField "href".toList := ⟨by decide, List.all_eq_true.mp (by decide)⟩
  have hdigits : isDigits ['0', '1'] = true := by decide
  have hparse : Path.parse ("Links" ++ "[" ++ "01" ++ "]" ++ ".href") =
      .ok [.field "Links", .index 1, .field "href"] :=
    parse_of_spells (.start hlinks (.index hdigits (by decide) (.field hhref .done))) (by decide)
  have hfound : lookup linked [.field "Links", .index 1, .field "href"] =
      some (.string "/b") := rfl
  have hdot : "Links" ++ "." ++ Nat.repr (digitsValue "01".toList) ++ ".href" =
      "Links.1.href" := by decide
  obtain ⟨hdotted, hfields⟩ := positions_read_iff linked
  refine ⟨hparse, hfound, ?_, ?_⟩
  · rw [← hdot]
    exact hdotted "Links" "01" ".href" _ _ (by decide) hparse hfound
  · refine (hfields [.field "Links"] _ "1" rfl).2.mpr ?_
    rintro ⟨digits, hplus, -⟩
    exact absurd hplus (unsigned_of_isDigits (by decide) digits)

/-- A field with a plus leads into an array, and is not made of digits alone. -/
theorem position_after_plus :
    Path.parse "Links.+1" = .ok [.field "Links", .field "+1"] ∧
      lookup linked [.field "Links"] =
        some (.array [.object [("href", .string "/a")], .object [("href", .string "/b")]]) ∧
      lookup linked [.field "Links", .field "+1"] = some (.object [("href", .string "/b")]) ∧
      isDigits "+1".toList = false := by
  have hlinks : Path.IsField "Links".toList := ⟨by decide, List.all_eq_true.mp (by decide)⟩
  have hplus : Path.IsField "+1".toList := ⟨by decide, List.all_eq_true.mp (by decide)⟩
  exact ⟨parse_of_spells (.start hlinks (.field hplus .done)) (by decide), rfl, rfl, by decide⟩

end PageCheck.Expression
