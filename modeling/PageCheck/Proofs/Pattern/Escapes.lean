import PageCheck.Pattern.Parser
import PageCheck.Proofs.Pattern.Bare
import PageCheck.Proofs.Pattern.Tails

/-!
# Numbers and escapes before a tail

Numbers and escapes are read in the same way with a tail after the text, up to places. In one case
the second reading goes on without losing the tail where the first one stops: a boundary before an
opening brace after which nothing but the tail comes. The brace is left to be read as the beginning
of a repetition then, which has no number.
-/

namespace PageCheck.Pattern

open Reader
open Unicode (hexDigit?)

variable {α β : Type} {tail : List Char} {plain tailed : Cursor}

/-! ### What is left after a reading -/

/-- What comes of one reader after another comes of both. -/
theorem Reader.bind_ok {first : Reader α} {next : α → Reader β} {cursor after : Cursor} {value : β}
    (ran : (first >>= next).run cursor = .ok (value, after)) :
    ∃ middle between, first.run cursor = .ok (middle, between) ∧
      (next middle).run between = .ok (value, after) := by
  rw [run_bind] at ran
  rcases hfirst : first.run cursor with fault | ⟨middle, between⟩
  · simp [hfirst] at ran
  · rw [hfirst] at ran
    exact ⟨middle, between, rfl, ran⟩

/-- A reader that begins by going past a character takes it. -/
theorem Reader.length_of_advance_bind {next : Unit → Reader α} {cursor after : Cursor} {value : α}
    {c : Char} {rest : List Char} (head : cursor.rest = c :: rest)
    (ran : (advance >>= next).run cursor = .ok (value, after)) :
    after.rest.length ≤ rest.length := by
  obtain ⟨_, between, hfirst, hnext⟩ := bind_ok ran
  have hless := (next _).shrinks hnext
  rwa [length_of_advance head hfirst] at hless

/-- A reader that begins by going past a character and what may be passed over takes it. -/
theorem Reader.length_of_advanceOver_bind {next : Unit → Reader α} {cursor after : Cursor}
    {value : α} {c : Char} {rest : List Char} (head : cursor.rest = c :: rest)
    (ran : (advanceOver >>= next).run cursor = .ok (value, after)) :
    after.rest.length ≤ rest.length := by
  obtain ⟨_, between, hfirst, hnext⟩ := bind_ok ran
  have hless := (next _).shrinks hnext
  exact Nat.le_trans hless (length_of_advanceOver head hfirst)

/-- Every item takes at least one character. -/
def Reader.Takes (item? : Reader (Option α)) : Prop :=
  ∀ before value after, item?.run before = .ok (some value, after) →
    after.rest.length < before.rest.length

/-- Many items end where there is none. -/
theorem Reader.many_ends {item? : Reader (Option α)} (takes : Takes item?) {before after : Cursor}
    {values : List α} (ran : (many item?).run before = .ok (values, after)) :
    ∃ last, item?.run last = .ok (none, after) := by
  rw [many, run_left_bind] at ran
  have henough : before.rest.length < before.rest.length + 1 := Nat.lt_succ_self _
  generalize before.rest.length + 1 = count at ran henough
  induction count generalizing before values with
  | zero => omega
  | succ count ih =>
    obtain ⟨item, between, hitem, hrest⟩ := bind_ok ran
    cases item with
    | none =>
      cases hrest
      exact ⟨before, hitem⟩
    | some item =>
      obtain ⟨others, _, hothers, hdone⟩ := bind_ok hrest
      cases hdone
      have hless := takes _ _ _ hitem
      exact ih hothers (by omega)

/-- The next character that passes a test is taken. -/
theorem takes_takeIf? (test : Char → Bool) : Takes (takeIf? test) := by
  intro before value after ran
  rw [takeIf?, run_next?_bind] at ran
  cases hrest : before.rest with
  | nil => simp [hrest] at ran
  | cons c rest =>
    simp only [hrest, List.head?_cons] at ran
    split at ran
    · exact Nat.lt_succ_of_le (length_of_advanceOver_bind hrest ran)
    · simp at ran

/-! ### Numbers -/

/-- Both readings take the next character if it passes a test that the tail does not pass. -/
theorem follows_takeIf? {test : Char → Bool} (refused : test ')' = false) (closing : Closing tail)
    (plain tailed : Cursor) (meets : Meets tail plain tailed) :
    Follows tail Eq ((takeIf? test).run plain) ((takeIf? test).run tailed) := by
  rw [takeIf?]
  refine .next closing meets (fun c rest hplain _ => ?_) (fun _ _ => .ok rfl meets)
    fun more _ _ _ => ?_
  · dsimp only
    split
    · exact (follows_advanceOver closing meets hplain).bind fun _ _ _ _ _ _ meets' =>
        .ok rfl meets'
    · exact .ok rfl meets
  · simp only [refused]
    exact .ok rfl meets

/-- Both readings read the same characters until there is none. -/
theorem follows_many_eq {item other : Reader (Option Char)} (items : ∀ plain tailed,
      Meets tail plain tailed → Follows tail Eq (item.run plain) (other.run tailed))
    (takes : Takes item) (meets : Meets tail plain tailed) :
    Follows tail Eq ((many item).run plain) ((many other).run tailed) := by
  have hmany := follows_many id (fun plain tailed meets => (items plain tailed meets).mono
    fun _ _ same => by rw [same]) takes meets
  exact hmany.mono fun values values' same => by simpa using same

/-- Both readings read the same number. -/
theorem follows_readDecimal (closing : Closing tail) (meets : Meets tail plain tailed) :
    Follows tail (fun value value' => value.1 = value'.1) (readDecimal.run plain)
      (readDecimal.run tailed) := by
  rw [readDecimal]
  refine (follows_skipAllBlanks closing meets).bind fun _ _ plain tailed _ _ meets => ?_
  rw [run_position_bind, run_position_bind]
  refine (follows_many_eq (follows_takeIf? rfl closing) (takes_takeIf? _) meets).bind
    fun digits _ plain tailed _ same meets => ?_
  subst same
  rw [run_position_bind, run_position_bind]
  refine (follows_skipAllBlanks closing meets).bind fun _ _ plain tailed _ _ meets => ?_
  split
  · exact .ok rfl meets
  · dsimp only
    split
    · exact .ok rfl meets
    · exact .stop

/-! ### Hexadecimal numbers -/

/-- Both readings make the same of hexadecimal digits. -/
theorem follows_charOfHex (digits : List Char) (start stop start' stop' : Nat)
    (meets : Meets tail plain tailed) :
    Follows tail Eq ((charOfHex digits start stop).run plain)
      ((charOfHex digits start' stop').run tailed) := by
  rw [charOfHex, charOfHex]
  by_cases hvalid : (Unicode.hexValue digits).isValidChar
  · rw [dif_pos hvalid, dif_pos hvalid]
    exact .ok rfl meets
  · rw [dif_neg hvalid, dif_neg hvalid]
    exact .stop

/-- Both readings read the same hexadecimal digits, of which there is at least one. -/
theorem follows_readHexDigits (closing : Closing tail) (count : Nat)
    (meets : Meets tail plain tailed) :
    Follows tail Eq ((readHexDigits count).run plain) ((readHexDigits count).run tailed) := by
  induction count generalizing plain tailed with
  | zero => exact .ok rfl meets
  | succ count ih =>
    rw [readHexDigits]
    refine .next closing meets (fun c rest hplain _ => ?_) (fun _ _ => .stop)
      fun more _ _ _ => .stop
    dsimp only
    split
    · exact .stop
    · refine (follows_advanceOver closing meets hplain).bind fun _ _ _ _ _ _ meets' => ?_
      exact (ih meets').bind fun _ _ _ _ _ same meets' => .ok (by rw [same]) meets'

/-- Both readings take the next hexadecimal digit before a closing brace. -/
theorem follows_hexUpToBrace? (closing : Closing tail) (brace brace' : Nat)
    (plain tailed : Cursor) (meets : Meets tail plain tailed) :
    Follows tail Eq ((hexUpToBrace? brace).run plain) ((hexUpToBrace? brace').run tailed) := by
  rw [hexUpToBrace?, hexUpToBrace?]
  refine .next closing meets (fun c rest hplain _ => ?_) (fun _ _ => .stop)
    fun more _ _ _ => .stop
  split
  · rename_i heq
    cases heq
  · exact .ok rfl meets
  · rename_i heq
    cases heq
    split
    · exact .stop
    · exact (follows_advanceOver closing meets hplain).bind fun _ _ _ _ _ _ meets' =>
        .ok rfl meets'

/-- A reader of items that end before a closing brace. -/
structure Reader.Braced (item? : Reader (Option α)) : Prop where
  /-- Every item takes a character. -/
  takes : Takes item?
  /-- A closing brace comes next where there is none. -/
  ends : ∀ before after, item?.run before = .ok (none, after) →
    ∃ rest, after.rest = '\x7d' :: rest

/-- Hexadecimal digits end before a closing brace. -/
theorem braced_hexUpToBrace? (brace : Nat) : Braced (hexUpToBrace? brace) := by
  constructor
  · intro before value after ran
    rw [hexUpToBrace?, run_next?_bind] at ran
    cases hrest : before.rest with
    | nil => simp [hrest] at ran
    | cons c rest =>
      rw [hrest, List.head?_cons] at ran
      split at ran
      · cases ran
      · cases ran
      · split at ran
        · cases ran
        · exact Nat.lt_succ_of_le (length_of_advanceOver_bind hrest ran)
  · intro before after ran
    rw [hexUpToBrace?, run_next?_bind] at ran
    split at ran
    · cases ran
    · rename_i heq
      cases ran
      exact List.head?_eq_some_iff.mp heq
    · split at ran
      · cases ran
      · obtain ⟨_, _, _, hdone⟩ := bind_ok ran
        cases hdone

/-- After items in braces the closing brace comes next. -/
theorem Reader.Braced.many_ok {item? : Reader (Option α)} (braced : Braced item?)
    {before after : Cursor} {values : List α} (ran : (many item?).run before = .ok (values, after)) :
    ∃ rest, after.rest = '\x7d' :: rest := by
  obtain ⟨last, hlast⟩ := many_ends braced.takes ran
  exact braced.ends last after hlast

/-- Both readings read the same hexadecimal number in braces. -/
theorem follows_readHexInBraces (closing : Closing tail) (meets : Meets tail plain tailed) {c : Char}
    {rest : List Char} (brace : plain.rest = c :: rest) :
    Follows tail Eq (readHexInBraces.run plain) (readHexInBraces.run tailed) := by
  rw [readHexInBraces, run_position_bind, run_position_bind]
  refine (follows_advanceOver closing meets brace).bind fun _ _ inner inner' _ _ meets => ?_
  refine (follows_many_eq (follows_hexUpToBrace? closing _ _) (braced_hexUpToBrace? _).takes
    meets).bind fun digits _ stop stop' ran same meets => ?_
  subst same
  obtain ⟨rest, hclosing⟩ := (braced_hexUpToBrace? _).many_ok ran
  rw [run_position_bind, run_position_bind]
  refine (follows_advanceOver closing meets hclosing).bind fun _ _ _ _ _ _ meets => ?_
  split
  · exact .stop
  · exact (follows_charOfHex digits _ _ _ _ meets).bind fun _ _ _ _ _ same meets =>
      .ok (by rw [same]) meets

/-- Both readings read the same hexadecimal number of some digits. -/
theorem follows_readHexOf (closing : Closing tail) (count : Nat) (asByte : Bool)
    (meets : Meets tail plain tailed) :
    Follows tail Eq ((readHexOf count asByte).run plain) ((readHexOf count asByte).run tailed) := by
  rw [readHexOf, run_position_bind, run_position_bind]
  refine (follows_readHexDigits closing count meets).bind fun digits _ _ _ _ same meets => ?_
  subst same
  rw [run_position_bind, run_position_bind]
  exact (follows_charOfHex digits _ _ _ _ meets).bind fun _ _ _ _ _ same meets =>
    .ok (by rw [same]) meets

/-- Both readings read the same hexadecimal escape. -/
theorem follows_readHex (closing : Closing tail) (count : Nat) (asByte : Bool)
    (meets : Meets tail plain tailed) {c : Char} {rest : List Char}
    (letter : plain.rest = c :: rest) :
    Follows tail Eq ((readHex (count + 1) asByte).run plain)
      ((readHex (count + 1) asByte).run tailed) := by
  rw [readHex]
  refine (follows_advanceOver closing meets letter).bind fun _ _ plain tailed _ _ meets => ?_
  refine .next closing meets (fun c rest hplain _ => ?_) (fun _ _ => .stop)
    fun more _ _ htailed => .error ?_
  · split
    · exact .stop
    · exact follows_readHexInBraces closing meets hplain
    · exact follows_readHexOf closing _ _ meets
  · -- The tail does not begin with a hexadecimal digit.
    change Loses tail.length ((readHexOf (count + 1) asByte).run tailed)
    have hdigits : Loses tail.length ((readHexDigits (count + 1)).run tailed) := by
      rw [readHexDigits, run_next?_bind, htailed]
      exact loses_error
    rw [readHexOf, run_position_bind]
    exact hdigits.bind _

/-! ### Properties -/

/-- A part without its place. -/
def Reader.Primitive.bare : Primitive → Primitive
  | .literal char _ => .literal char nowhere
  | .kind letter negated _ => .kind letter negated nowhere
  | .property name value negated _ => .property name value negated nowhere
  | .place spot _ => .place spot nowhere
  | .dot _ => .dot nowhere

/-- Both readings take the next character before a closing brace. -/
theorem follows_upToBrace? (closing : Closing tail) (plain tailed : Cursor)
    (meets : Meets tail plain tailed) :
    Follows tail Eq (upToBrace?.run plain) (upToBrace?.run tailed) := by
  rw [upToBrace?]
  refine .next closing meets (fun c rest hplain _ => ?_) (fun _ _ => .stop)
    fun more htail _ htailed => .error ?_
  · split
    · exact .stop
    · exact .ok rfl meets
    · exact (follows_advanceOver closing meets hplain).bind fun _ _ _ _ _ _ meets' =>
        .ok (by simp_all) meets'
  · exact (loses_advanceOver htail htailed).bind _

/-- The characters in braces end before the closing brace. -/
theorem braced_upToBrace? : Braced upToBrace? := by
  constructor
  · intro before value after ran
    rw [upToBrace?, run_next?_bind] at ran
    cases hrest : before.rest with
    | nil => simp [hrest] at ran
    | cons c rest =>
      rw [hrest, List.head?_cons] at ran
      split at ran
      · cases ran
      · cases ran
      · exact Nat.lt_succ_of_le (length_of_advanceOver_bind hrest ran)
  · intro before after ran
    rw [upToBrace?, run_next?_bind] at ran
    split at ran
    · cases ran
    · rename_i heq
      cases ran
      exact List.head?_eq_some_iff.mp heq
    · obtain ⟨_, _, _, hdone⟩ := bind_ok ran
      cases hdone

/-- Both readings read the same property, up to its place. -/
theorem follows_readProperty (closing : Closing tail) (start start' : Nat) (negated : Bool)
    (meets : Meets tail plain tailed) {c : Char} {rest : List Char}
    (letter : plain.rest = c :: rest) :
    Follows tail (fun part part' => part.bare = part'.bare)
      ((readProperty start negated).run plain) ((readProperty start' negated).run tailed) := by
  rw [readProperty, readProperty]
  refine (follows_advanceOver closing meets letter).bind fun _ _ plain tailed _ _ meets => ?_
  refine .next closing meets (fun c rest hplain _ => ?_) (fun _ _ => .stop)
    fun more htail _ htailed => .error ?_
  · split
    · exact .stop
    · refine (follows_advanceOver closing meets hplain).bind fun _ _ plain tailed _ _ meets => ?_
      refine (follows_many_eq (follows_upToBrace? closing) braced_upToBrace?.takes meets).bind
        fun text _ plain tailed ran same meets => ?_
      subst same
      obtain ⟨rest, hclosing⟩ := braced_upToBrace?.many_ok ran
      refine (follows_advance meets hclosing).bind fun _ _ plain tailed _ _ meets => ?_
      exact .ok rfl meets
    · exact .stop
    · refine (follows_advanceOver closing meets hplain).bind fun _ _ plain tailed _ _ meets => ?_
      exact .ok (by simp_all [Primitive.bare]) meets
  · exact (loses_advanceOver htail htailed).bind _

/-! ### Boundaries -/

/-- The second reading is stuck before an opening brace after which the tail comes, where the first
one has stopped. -/
structure Stuck (tail : List Char) (value : α) (result result' : Except Fault (α × Cursor)) :
    Prop where
  /-- The first reading has stopped. -/
  stopped : ∃ fault, result = .error fault
  /-- The second one has gone on, and the brace comes next. -/
  braced : ∃ cursor rest, result' = .ok (value, cursor) ∧ cursor.rest = '\x7b' :: rest ∧
    secondOverAt cursor = some ')' ∧ ∃ more, tail = ')' :: more

/-- Both readings read the same boundary, unless the second one gets stuck. -/
theorem follows_readBoundary (closing : Closing tail) (start start' : Nat)
    (meets : Meets tail plain tailed) :
    Follows tail Eq ((readBoundary start).run plain) ((readBoundary start').run tailed) ∨
      Stuck tail (.border .boundary) ((readBoundary start).run plain)
        ((readBoundary start').run tailed) := by
  rw [readBoundary, readBoundary, run_next?_bind, run_next?_bind]
  rcases meets.cases closing with ⟨c, rest, hplain, htailed⟩ | ⟨hplain, htailed⟩ |
    ⟨more, htail, hplain, htailed⟩
  · rw [hplain, htailed, List.head?_cons, List.head?_cons]
    split
    · exact .inl (.ok rfl meets)
    · rename_i hbrace
      obtain rfl : c = '\x7b' := by simpa using hbrace
      rw [run_position_bind, run_position_bind, run_secondOver?_bind, run_secondOver?_bind]
      rcases meets.secondOver closing hplain with hsame | ⟨hnone, hclosing, htail⟩
      · rw [hsame]
        refine .inl ?_
        split
        · exact .stop
        · split
          · exact .ok rfl meets
          · refine (follows_advanceOver closing meets hplain).bind
              fun _ _ plain tailed _ _ meets => ?_
            rw [run_position_bind, run_position_bind]
            refine (follows_many_eq (follows_takeIf? rfl closing) (takes_takeIf? _) meets).bind
              fun name _ plain tailed _ same meets => ?_
            subst same
            refine .next closing meets (fun c rest hplain _ => ?_) (fun _ _ => .stop)
              fun more _ _ _ => .stop
            split
            · exact .stop
            · rw [run_position_bind, run_position_bind]
              refine (follows_advance meets hplain).bind fun _ _ plain tailed _ _ meets => ?_
              split
              · exact .ok rfl meets
              · exact .stop
      · rw [hnone, hclosing]
        exact .inr ⟨⟨_, rfl⟩, tailed, _, rfl, htailed, hclosing, htail⟩
  · rw [hplain, htailed]
    exact .inl (.ok rfl meets)
  · rw [hplain, htailed]
    exact .inl (.ok rfl meets)

/-! ### Escapes -/

/-- What a character after a backslash means by itself does not depend on the place. -/
theorem bare_escaped? (c : Char) (span span' : Span) :
    (escaped? c span).map Primitive.bare = (escaped? c span').map Primitive.bare := by
  unfold escaped?
  split
  · rfl
  · split
    · rfl
    · split <;> rfl

/-- Both readings read the same escape of a character up to its place, unless it is a boundary. -/
theorem follows_readEscapeOf (closing : Closing tail) (start start' : Nat)
    (meets : Meets tail plain tailed) {c : Char} {rest : List Char} (letter : plain.rest = c :: rest)
    (other : c ≠ 'b') :
    Follows tail (fun part part' => part.bare = part'.bare) ((readEscapeOf start c).run plain)
      ((readEscapeOf start' c).run tailed) := by
  unfold readEscapeOf
  have hliteral : ∀ count asByte, Follows tail (fun part part' => part.bare = part'.bare)
      ((readHex (count + 1) asByte >>= fun literal => position >>= fun stop =>
        pure (Primitive.literal literal ⟨start, stop⟩)).run plain)
      ((readHex (count + 1) asByte >>= fun literal => position >>= fun stop =>
        pure (Primitive.literal literal ⟨start', stop⟩)).run tailed) := by
    intro count asByte
    refine (follows_readHex closing count asByte meets letter).bind fun _ _ _ _ _ same meets => ?_
    subst same
    exact .ok rfl meets
  dsimp only
  split
  · exact .stop
  · split
    · exact hliteral 1 true
    · exact hliteral 3 false
    · exact hliteral 7 false
    · exact follows_readProperty closing start start' false meets letter
    · exact follows_readProperty closing start start' true meets letter
    · exact absurd rfl other
    · refine (follows_advance meets letter).bind fun _ _ plain tailed _ _ meets => ?_
      rw [run_position_bind, run_position_bind]
      have hbare := bare_escaped? c ⟨start, plain.position⟩ ⟨start', tailed.position⟩
      cases hescaped : escaped? c ⟨start, plain.position⟩ with
      | none =>
        have hnone : escaped? c ⟨start', tailed.position⟩ = none := by
          simpa [hescaped] using hbare.symm
        rw [hnone]
        exact .stop
      | some part =>
        rw [hescaped] at hbare
        obtain ⟨part', hpart, hsame⟩ := Option.map_eq_some_iff.mp hbare.symm
        rw [hpart]
        exact .ok hsame.symm meets

/-- A character of the text is gone past by both readings at once. -/
theorem Meets.advance (meets : Meets tail plain tailed) {c : Char} {rest : List Char}
    (next : plain.rest = c :: rest) :
    ∃ plain' tailed', Reader.advance.run plain = .ok ((), plain') ∧
      Reader.advance.run tailed = .ok ((), tailed') ∧ plain'.rest = rest ∧
        Meets tail plain' tailed' :=
  ⟨_, _, rfl, rfl, by simp [next], meets.skip (by simp [next]) rfl rfl⟩

/-- Both readings read the same escape that is a boundary up to its place, unless the second one gets
stuck. -/
theorem follows_readEscapeOf_boundary (closing : Closing tail) (start start' : Nat)
    (meets : Meets tail plain tailed) {rest : List Char} (letter : plain.rest = 'b' :: rest) :
    Follows tail (fun part part' => part.bare = part'.bare) ((readEscapeOf start 'b').run plain)
        ((readEscapeOf start' 'b').run tailed) ∨
      ∃ span, Stuck tail (.place (.border .boundary) span) ((readEscapeOf start 'b').run plain)
        ((readEscapeOf start' 'b').run tailed) := by
  have hread : ∀ start, readEscapeOf start 'b' = (do
      advance
      let place ← readBoundary start
      return .place place ⟨start, ← position⟩) := fun _ => rfl
  obtain ⟨inner, inner', hrun, hrun', -, hmeets⟩ := meets.advance letter
  rw [hread, hread, run_bind, run_bind, hrun, hrun']
  dsimp only
  rcases follows_readBoundary closing start start' hmeets with hfollows | ⟨hstopped, hbraced⟩
  · refine .inl (hfollows.bind fun _ _ _ _ _ same meets => ?_)
    subst same
    exact .ok rfl meets
  · obtain ⟨fault, hfault⟩ := hstopped
    obtain ⟨cursor, rest, hok, hrest⟩ := hbraced
    rw [run_bind, run_bind, hfault, hok]
    exact .inr ⟨_, ⟨fault, rfl⟩, cursor, rest, rfl, hrest⟩

/-- Both readings read the same escape up to its place, unless the second one gets stuck at a
boundary. -/
theorem follows_readEscape (closing : Closing tail) (meets : Meets tail plain tailed) {c : Char}
    {rest : List Char} (backslash : plain.rest = c :: rest) :
    Follows tail (fun part part' => part.bare = part'.bare) (readEscape.run plain)
        (readEscape.run tailed) ∨
      ∃ span, Stuck tail (.place (.border .boundary) span) (readEscape.run plain)
        (readEscape.run tailed) := by
  obtain ⟨inner, inner', hrun, hrun', -, hmeets⟩ := meets.advance backslash
  rw [readEscape, run_position_bind, run_position_bind, run_bind, run_bind, hrun, hrun']
  dsimp only
  rw [run_next?_bind, run_next?_bind]
  rcases hmeets.cases closing with ⟨c, rest, hplain, htailed⟩ | ⟨hplain, htailed⟩ |
    ⟨more, htail, hplain, htailed⟩
  · rw [hplain, htailed]
    by_cases hb : c = 'b'
    · subst hb
      exact follows_readEscapeOf_boundary closing _ _ hmeets hplain
    · exact .inl (follows_readEscapeOf closing _ _ hmeets hplain hb)
  · rw [hplain, htailed]
    exact .inl .stop
  · rw [hplain, htailed]
    exact .inl (.error ((loses_advance htail htailed).bind _))

end PageCheck.Pattern
