import PageCheck.Proofs.Json.Spelling
import PageCheck.Proofs.Json.Tokens

/-!
# Reading spellings

Whatever blanks stand between its parts, a spelling of a value is read as the draft of that value,
and the reader stops where the spelling ends, as long as no more containers are open at once than it
allows. The induction is on the value; its measure for the fuel is the length of the text, of which
four units for each character are enough.
-/

namespace PageCheck.Json

open Decimal (Double wordLimit)

mutual

/-- The most containers of a value that are open at once. -/
def nesting : Json → Nat
  | .array items => nestingItems items + 1
  | .object members => nestingMembers members + 1
  | _ => 0

/-- The greatest `nesting` of an item. -/
def nestingItems : List Json → Nat
  | [] => 0
  | item :: rest => max item.nesting (nestingItems rest)

/-- The greatest `nesting` of a member's value. -/
def nestingMembers : List (String × Json) → Nat
  | [] => 0
  | (_, value) :: rest => max value.nesting (nestingMembers rest)

end

mutual

/-- The draft that a spelling of a value is read as. -/
def asRead : Json → Draft
  | .null => .null
  | .bool value => .bool value
  | .number value => .number value
  | .string value => .string value
  | .array items => .array (asReadItems items) .closed
  | .object members => .object (asReadMembers members) .closed

/-- `asRead` of every item. -/
def asReadItems : List Json → List Draft
  | [] => []
  | item :: rest => item.asRead :: asReadItems rest

/-- `asRead` of every member's value. -/
def asReadMembers : List (String × Json) → List (String × Draft)
  | [] => []
  | (key, value) :: rest => (key, value.asRead) :: asReadMembers rest

end

/-! ### Blanks -/

/-- Blanks are passed over. -/
theorem skipBlanks_append {blanks : List Char} (hblanks : Blanks blanks) (text : List Char) :
    skipBlanks (blanks ++ text) = skipBlanks text :=
  List.dropWhile_append_of_pos hblanks

/-- Other characters are not. -/
theorem skipBlanks_solid {c : Char} (solid : isGap c = false) (text : List Char) :
    skipBlanks (c :: text) = c :: text :=
  List.dropWhile_cons_of_neg (by simpa [isGap] using solid)

/-- What comes after blanks. -/
theorem skipBlanks_append_solid {blanks : List Char} (hblanks : Blanks blanks) {c : Char}
    (solid : isGap c = false) (text : List Char) :
    skipBlanks (blanks ++ c :: text) = c :: text := by
  rw [skipBlanks_append hblanks, skipBlanks_solid solid]

/-- A digit is no blank. -/
theorem isGap_of_isDigit {c : Char} (digit : c.isDigit = true) : isGap c = false := by
  simp [isGap, digit_ne digit (d := ' ') rfl, digit_ne digit (d := '\n') rfl,
    digit_ne digit (d := '\t') rfl, digit_ne digit (d := '\r') rfl]

/-- A spelling begins with a character that is no blank and closes nothing. -/
theorem Spells.head {value : Json} {text : List Char} (spells : Spells value text) :
    ∃ c tail, text = c :: tail ∧ isGap c = false ∧ c ≠ ']' := by
  cases spells with
  | @integer n inRange =>
    cases n with
    | ofNat n =>
      obtain ⟨d, more, hdigits, hdigit⟩ := toDigits_head n
      exact ⟨d, more, (toList_toString_natCast n).trans hdigits, isGap_of_isDigit hdigit,
        digit_ne hdigit rfl⟩
    | negSucc n => exact ⟨'-', _, toList_toString_negSucc n, rfl, by decide⟩
  | string value => exact ⟨'"', _, rfl, rfl, by decide⟩
  | _ => exact ⟨_, _, rfl, rfl, by decide⟩

/-- A spelling is not empty. -/
theorem Spells.length_pos {value : Json} {text : List Char} (spells : Spells value text) :
    0 < text.length := by
  obtain ⟨c, tail, rfl, -⟩ := spells.head
  simp

/-- Spelled items end with a bracket. -/
theorem SpellsItems.length_pos {first : Bool} {items : List Json} {text : List Char}
    (spells : SpellsItems first items text) : 0 < text.length := by
  cases spells with
  | close hblanks =>
    rw [List.length_append, List.length_singleton]
    omega
  | first hblanks value others =>
    have h := value.length_pos
    rw [List.length_append, List.length_append]
    omega
  | next hbefore hafter value others =>
    rw [List.length_append, List.length_cons]
    omega

/-- A spelled member begins with a quotation mark. -/
theorem SpellsMember.length_pos {key : String} {value : Json} {text : List Char}
    (spells : SpellsMember key value text) : 0 < text.length := by
  cases spells with
  | colon hbefore hafter contents =>
    rw [List.length_append, List.length_append, List.length_cons]
    omega

/-- Spelled members end with a brace. -/
theorem SpellsMembers.length_pos {first : Bool} {members : List (String × Json)}
    {text : List Char} (spells : SpellsMembers first members text) : 0 < text.length := by
  cases spells with
  | close hblanks =>
    rw [List.length_append, List.length_singleton]
    omega
  | first hblanks member others =>
    have h := member.length_pos
    rw [List.length_append, List.length_append]
    omega
  | next hbefore hafter member others =>
    rw [List.length_append, List.length_cons]
    omega

/-! ### Values -/

/-- A spelled integer is read as itself. -/
theorem readValue_integer {n : Int} (inRange : InRange n) (fuel depth : Nat) {rest : List Char}
    (stops : Stops rest) : readValue (fuel + 1) depth ((toString n).toList ++ rest) =
      (.number (.integer n), some rest) := by
  cases n with
  | ofNat n =>
    have hsmall : n < wordLimit := Int.ofNat_lt.mp inRange.2
    have hnumber := readNumber_toDigits hsmall stops
    have htext : (toString (Int.ofNat n)).toList = Nat.toDigits 10 n := toList_toString_natCast n
    obtain ⟨d, more, hdigits, hdigit⟩ := toDigits_head n
    rw [hdigits, List.cons_append] at hnumber
    rw [htext, hdigits, List.cons_append, readValue, skipBlanks_solid (isGap_of_isDigit hdigit)]
    simp [digit_ne hdigit (d := 'n') rfl, digit_ne hdigit (d := 't') rfl,
      digit_ne hdigit (d := 'f') rfl, digit_ne hdigit (d := '"') rfl,
      digit_ne hdigit (d := '[') rfl, digit_ne hdigit (d := '{') rfl,
      digit_ne hdigit (d := '-') rfl, hdigit, hnumber]
  | negSucc n =>
    have hsmall : n + 1 ≤ Nat.pow 2 63 := by
      have h := inRange.1
      omega
    have hnumber := readNumber_toDigits_negative (Nat.succ_pos n) hsmall stops
    have hnegative : -((n.succ : Nat) : Int) = Int.negSucc n := rfl
    rw [hnegative] at hnumber
    rw [toList_toString_negSucc, List.cons_append, readValue, skipBlanks_solid rfl]
    simp [hnumber]

/-- So is minus zero. -/
theorem readValue_minusZero (fuel depth : Nat) {rest : List Char} (stops : Stops rest) :
    readValue (fuel + 1) depth (['-', '0', '.', '0'] ++ rest) =
      (.number (.double (Double.zero true)), some rest) := by
  rw [List.cons_append, readValue, skipBlanks_solid rfl]
  simp [readNumber_minusZero stops]

/-- A spelled string is read as itself. -/
theorem readString_writeString (value : String) (rest : List Char) :
    ∃ tail, writeString value ++ rest = '"' :: tail ∧
      readString .plain tail = .ok (value.toList, rest) := by
  refine ⟨value.toList.flatMap escapeChar ++ '"' :: rest, ?_, readString_flatMap _ _⟩
  simp [writeString]

/-- Before blanks a number ends, if it does before what comes after them. -/
theorem Stops.blanks_append {blanks rest : List Char} (hblanks : Blanks blanks)
    (stops : Stops rest) : Stops (blanks ++ rest) := by
  cases blanks with
  | nil => exact stops
  | cons b more =>
    rintro d tail h
    cases h
    have hb := hblanks b List.mem_cons_self
    simp only [isGap, Bool.or_eq_true, beq_iff_eq] at hb
    rcases hb with ((rfl | rfl) | rfl) | rfl <;> decide

/-- Before blanks up to the end of the text a number ends. -/
theorem stops_blanks {blanks : List Char} (hblanks : Blanks blanks) : Stops blanks := by
  rw [← List.append_nil blanks]
  exact stops_nil.blanks_append hblanks

/-- Before a comma, a closing bracket or a closing brace a number ends. -/
theorem Stops.of_blanks {blanks : List Char} (hblanks : Blanks blanks) {c : Char}
    (closes : c = ',' ∨ c = ']' ∨ c = '}') (rest : List Char) : Stops (blanks ++ c :: rest) := by
  refine Stops.blanks_append hblanks ?_
  rintro d tail h
  cases h
  rcases closes with rfl | rfl | rfl <;> decide

/-- After an item a number ends. -/
theorem SpellsItems.stops {items : List Json} {text : List Char}
    (spells : SpellsItems false items text) (rest : List Char) : Stops (text ++ rest) := by
  cases spells with
  | close hblanks =>
    rw [List.append_assoc]
    exact .of_blanks hblanks (.inr (.inl rfl)) _
  | next hbefore hafter value others =>
    rw [List.append_assoc, List.cons_append]
    exact .of_blanks hbefore (.inl rfl) _

/-- After a member a number ends. -/
theorem SpellsMembers.stops {members : List (String × Json)} {text : List Char}
    (spells : SpellsMembers false members text) (rest : List Char) : Stops (text ++ rest) := by
  cases spells with
  | close hblanks =>
    rw [List.append_assoc]
    exact .of_blanks hblanks (.inr (.inr rfl)) _
  | next hbefore hafter member others =>
    rw [List.append_assoc, List.cons_append]
    exact .of_blanks hbefore (.inl rfl) _

/-- Blanks before a value are passed over. -/
theorem readValue_blanks {blanks : List Char} (hblanks : Blanks blanks) (fuel depth : Nat)
    (text : List Char) : readValue fuel depth (blanks ++ text) = readValue fuel depth text := by
  cases fuel with
  | zero => rw [readValue, readValue]
  | succ fuel => rw [readValue, readValue, skipBlanks_append hblanks]

/-! ### Parts of containers -/

/-- The end of an array. -/
theorem readItems_close {blanks : List Char} (hblanks : Blanks blanks) (fuel depth : Nat)
    (first : Bool) (rest : List Char) :
    readItems (fuel + 1) depth first (blanks ++ ']' :: rest) = ([], .closed, some rest) := by
  rw [readItems, skipBlanks_append_solid hblanks rfl]
  rfl

/-- The first item of an array is read where it begins. -/
theorem readItems_first {blanks : List Char} (hblanks : Blanks blanks) {item : Json}
    {text : List Char} (spells : Spells item text) (fuel depth : Nat) (rest : List Char) :
    readItems (fuel + 1) depth true (blanks ++ (text ++ rest)) =
      readItemsFrom fuel depth (text ++ rest) := by
  obtain ⟨c, tail, rfl, hsolid, hopen⟩ := spells.head
  rw [readItems, List.cons_append, skipBlanks_append_solid hblanks hsolid]
  simp [hopen]

/-- An item after a comma is read where it begins. -/
theorem readItems_next {before after : List Char} (hbefore : Blanks before) (hafter : Blanks after)
    {item : Json} {text : List Char} (spells : Spells item text) (fuel depth : Nat)
    (rest : List Char) :
    readItems (fuel + 1) depth false (before ++ ',' :: (after ++ (text ++ rest))) =
      readItemsFrom fuel depth (text ++ rest) := by
  obtain ⟨c, tail, rfl, hsolid, hopen⟩ := spells.head
  rw [readItems, skipBlanks_append_solid hbefore rfl, List.cons_append]
  simp [skipBlanks_append_solid hafter hsolid, hopen]

/-- A spelled item, the first one or one after a comma, is read before the items after it. -/
theorem SpellsItems.readItems_cons {first : Bool} {item : Json} {others : List Json}
    {text : List Char} (spells : SpellsItems first (item :: others) text) :
    ∃ contents more, Spells item contents ∧ SpellsItems false others more ∧
      contents.length + more.length ≤ text.length ∧
      ∀ fuel depth rest, readItems (fuel + 2) depth first (text ++ rest) =
        match readValue fuel depth (contents ++ (more ++ rest)) with
        | (draft, none) => ([draft], .broken .endInList, none)
        | (draft, some left) =>
          let (drafts, ending, left) := readItems fuel depth false left
          (draft :: drafts, ending, left) := by
  cases spells with
  | @first _ _ blanks text more hblanks value others =>
    refine ⟨text, more, value, others, by simp, ?_⟩
    intro fuel depth rest
    rewrite [List.append_assoc, List.append_assoc, readItems_first hblanks value, readItemsFrom]
    rcases readValue fuel depth _ with ⟨draft, _ | left⟩ <;> rfl
  | @next _ _ before after text more hbefore hafter value others =>
    refine ⟨text, more, value, others, by simp; omega, ?_⟩
    intro fuel depth rest
    rewrite [List.append_assoc, List.cons_append, List.append_assoc, List.append_assoc,
      readItems_next hbefore hafter value, readItemsFrom]
    rcases readValue fuel depth _ with ⟨draft, _ | left⟩ <;> rfl

/-- The end of an object. -/
theorem readMembers_close {blanks : List Char} (hblanks : Blanks blanks) (fuel depth : Nat)
    (first : Bool) (rest : List Char) :
    readMembers (fuel + 1) depth first (blanks ++ '}' :: rest) = ([], .closed, some rest) := by
  rw [readMembers, skipBlanks_append_solid hblanks rfl]
  rfl

/-- The first member of an object is read after the quotation mark of its key. -/
theorem readMembers_first {blanks : List Char} (hblanks : Blanks blanks) (fuel depth : Nat)
    (rest : List Char) :
    readMembers (fuel + 1) depth true (blanks ++ '"' :: rest) =
      readMembersFrom fuel depth rest := by
  rw [readMembers, skipBlanks_append_solid hblanks rfl]
  rfl

/-- A member after a comma is read after the quotation mark of its key. -/
theorem readMembers_next {before after : List Char} (hbefore : Blanks before)
    (hafter : Blanks after) (fuel depth : Nat) (rest : List Char) :
    readMembers (fuel + 1) depth false (before ++ ',' :: (after ++ '"' :: rest)) =
      readMembersFrom fuel depth rest := by
  have hkey : skipBlanks (after ++ '"' :: rest) = '"' :: rest :=
    skipBlanks_append_solid hafter rfl rest
  rw [readMembers, skipBlanks_append_solid hbefore rfl]
  simp [hkey]

/-- A spelled member is read as its key and what its value is read as. -/
theorem SpellsMember.readMembersFrom {key : String} {value : Json} {text : List Char}
    (spells : SpellsMember key value text) :
    ∃ contents, Spells value contents ∧ contents.length ≤ text.length ∧
      ∀ rest, ∃ tail, text ++ rest = '"' :: tail ∧
      ∀ fuel depth, readMembersFrom (fuel + 1) depth tail =
        match readValue fuel depth (contents ++ rest) with
        | (draft, none) => ([(key, draft)], .broken .endInObject, none)
        | (draft, some left) =>
          let (members, ending, left) := readMembers fuel depth false left
          ((key, draft) :: members, ending, left) := by
  cases spells with
  | @colon _ _ before after contents hbefore hafter value =>
    refine ⟨contents, value, by simp; omega, ?_⟩
    intro rest
    obtain ⟨tail, htext, hread⟩ := readString_writeString key
      (before ++ ':' :: (after ++ (contents ++ rest)))
    refine ⟨tail, by simpa using htext, ?_⟩
    intro fuel depth
    rw [Json.readMembersFrom, hread]
    simp only [String.ofList_toList]
    rw [skipBlanks_append_solid hbefore rfl]
    simp only [if_true]
    rewrite [readValue_blanks hafter]
    rcases readValue fuel depth (contents ++ rest) with ⟨draft, _ | left⟩ <;> rfl

/-- A spelled member, the first one or one after a comma, is read before the members after it. -/
theorem SpellsMembers.readMembers_cons {first : Bool} {key : String} {value : Json}
    {others : List (String × Json)} {text : List Char}
    (spells : SpellsMembers first ((key, value) :: others) text) :
    ∃ contents more, Spells value contents ∧ SpellsMembers false others more ∧
      contents.length + more.length ≤ text.length ∧
      ∀ fuel depth rest, readMembers (fuel + 2) depth first (text ++ rest) =
        match readValue fuel depth (contents ++ (more ++ rest)) with
        | (draft, none) => ([(key, draft)], .broken .endInObject, none)
        | (draft, some left) =>
          let (members, ending, left) := readMembers fuel depth false left
          ((key, draft) :: members, ending, left) := by
  cases spells with
  | @first _ _ _ blanks text more hblanks member others =>
    obtain ⟨contents, value, hless, hread⟩ := member.readMembersFrom
    refine ⟨contents, more, value, others, by simp; omega, ?_⟩
    intro fuel depth rest
    obtain ⟨tail, htext, hfrom⟩ := hread (more ++ rest)
    rw [List.append_assoc, List.append_assoc, htext, readMembers_first hblanks, hfrom]
  | @next _ _ _ before after text more hbefore hafter member others =>
    obtain ⟨contents, value, hless, hread⟩ := member.readMembersFrom
    refine ⟨contents, more, value, others, by simp; omega, ?_⟩
    intro fuel depth rest
    obtain ⟨tail, htext, hfrom⟩ := hread (more ++ rest)
    rw [List.append_assoc, List.cons_append, List.append_assoc, List.append_assoc, htext,
      readMembers_next hbefore hafter, hfrom]

/-! ### Values that fit -/

mutual

/-- A spelling is read as its value, if no more containers are open at once than may be. -/
theorem readValue_spells : ∀ (value : Json) {text rest : List Char} {fuel depth : Nat},
    Spells value text → value.nesting ≤ depth → Stops rest → 4 * text.length ≤ fuel →
    readValue fuel depth (text ++ rest) = (value.asRead, some rest)
  | value, text, rest, 0, depth, spells, _, _, enough => by
    obtain ⟨c, tail, rfl, _⟩ := spells.head
    simp at enough
  | .null, _, rest, fuel + 1, depth, .null, _, _, _ => by
    simp [readValue, skipBlanks_solid, isGap, readWord, asRead]
  | .bool true, _, rest, fuel + 1, depth, .holds, _, _, _ => by
    simp [readValue, skipBlanks_solid, isGap, readWord, asRead]
  | .bool false, _, rest, fuel + 1, depth, .fails, _, _, _ => by
    simp [readValue, skipBlanks_solid, isGap, readWord, asRead]
  | .number (.integer n), _, rest, fuel + 1, depth, .integer inRange, _, stops, _ =>
    readValue_integer inRange fuel depth stops
  | .number (.double _), _, rest, fuel + 1, depth, .minusZero, _, stops, _ =>
    readValue_minusZero fuel depth stops
  | .string value, _, rest, fuel + 1, depth, .string _, _, _, _ => by
    obtain ⟨tail, htext, hread⟩ := readString_writeString value rest
    rw [htext, readValue, skipBlanks_solid rfl]
    simp [hread, asRead]
  | .array items, _, rest, fuel + 1, 0, .array contents, fits, _, enough => by
    rw [nesting] at fits
    omega
  | .array items, _, rest, fuel + 1, depth + 1, @Spells.array _ text contents, fits, _,
      enough => by
    rw [List.length_cons] at enough
    have hitems : readItems fuel depth true (text ++ rest) =
        (asReadItems items, .closed, some rest) :=
      readItems_spells items contents (Nat.le_of_succ_le_succ fits) (by omega)
    rw [List.cons_append, readValue, skipBlanks_solid rfl]
    simp [hitems, asRead]
  | .object members, _, rest, fuel + 1, 0, .object contents, fits, _, enough => by
    rw [nesting] at fits
    omega
  | .object members, _, rest, fuel + 1, depth + 1, @Spells.object _ text contents, fits, _,
      enough => by
    rw [List.length_cons] at enough
    have hmembers : readMembers fuel depth true (text ++ rest) =
        (asReadMembers members, .closed, some rest) :=
      readMembers_spells members contents (Nat.le_of_succ_le_succ fits) (by omega)
    rw [List.cons_append, readValue, skipBlanks_solid rfl]
    simp [hmembers, asRead]

/-- Spelled items are read as they are. -/
theorem readItems_spells : ∀ (items : List Json) {first : Bool} {text rest : List Char}
    {fuel depth : Nat}, SpellsItems first items text → nestingItems items ≤ depth →
    4 * text.length ≤ fuel →
    readItems fuel depth first (text ++ rest) = (asReadItems items, .closed, some rest)
  | [], first, _, rest, 0, depth, .close hblanks, _, enough => by simp at enough
  | [], first, _, rest, fuel + 1, depth, .close hblanks, _, enough => by
    rw [List.append_assoc]
    exact readItems_close hblanks fuel depth first rest
  | item :: others, first, text, rest, fuel, depth, spells, fits, enough => by
    obtain ⟨contents, more, value, hmore, hlength, hread⟩ := spells.readItems_cons
    have hcontents := value.length_pos
    have hclosed := hmore.length_pos
    obtain ⟨fuel, rfl⟩ : ∃ less, fuel = less + 2 := ⟨fuel - 2, by omega⟩
    rw [nestingItems] at fits
    have hvalue : readValue fuel depth (contents ++ (more ++ rest)) =
        (item.asRead, some (more ++ rest)) :=
      readValue_spells item value (by omega) (hmore.stops rest) (by omega)
    have hothers : readItems fuel depth false (more ++ rest) =
        (asReadItems others, .closed, some rest) :=
      readItems_spells others hmore (by omega) (by omega)
    rw [hread, hvalue]
    simp [hothers, asReadItems]

/-- Spelled members are read as they are. -/
theorem readMembers_spells : ∀ (members : List (String × Json)) {first : Bool}
    {text rest : List Char} {fuel depth : Nat}, SpellsMembers first members text →
    nestingMembers members ≤ depth → 4 * text.length ≤ fuel →
    readMembers fuel depth first (text ++ rest) = (asReadMembers members, .closed, some rest)
  | [], first, _, rest, 0, depth, .close hblanks, _, enough => by simp at enough
  | [], first, _, rest, fuel + 1, depth, .close hblanks, _, enough => by
    rw [List.append_assoc]
    exact readMembers_close hblanks fuel depth first rest
  | (key, value) :: others, first, text, rest, fuel, depth, spells, fits, enough => by
    obtain ⟨contents, more, hspells, hmore, hlength, hread⟩ := spells.readMembers_cons
    have hcontents := hspells.length_pos
    have hclosed := hmore.length_pos
    obtain ⟨fuel, rfl⟩ : ∃ less, fuel = less + 2 := ⟨fuel - 2, by omega⟩
    rw [nestingMembers] at fits
    have hvalue : readValue fuel depth (contents ++ (more ++ rest)) =
        (value.asRead, some (more ++ rest)) :=
      readValue_spells value hspells (by omega) (hmore.stops rest) (by omega)
    have hothers : readMembers fuel depth false (more ++ rest) =
        (asReadMembers others, .closed, some rest) :=
      readMembers_spells others hmore (by omega) (by omega)
    rw [hread, hvalue]
    simp [hothers, asReadMembers]

end

end PageCheck.Json
