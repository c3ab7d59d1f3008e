import PageCheck.Proofs.Pattern.Classes

/-!
# Repetitions before a tail

Repetitions, and the parts of a pattern that they can repeat, are read in the same way with a tail
after the text, up to places. The tail has no number and no brace, so that it does not go on with a
repetition that the text leaves open. A second reading that is stuck before a brace stops there.
-/

namespace PageCheck.Pattern

open Reader

variable {α β : Type} {tail : List Char} {limit : Nat} {plain tailed : Cursor}

/-! ### Repetitions -/

/-- Whether a part can be repeated does not depend on places. -/
theorem isRepeatable_of_bare {part part' : Syntax} (same : part.bare = part'.bare) :
    isRepeatable part = isRepeatable part' := by
  cases part <;> cases part' <;> simp [Syntax.bare] at same <;> rfl

/-- Both readings take the same part for repeating, up to places. -/
theorem follows_takeRepeated {parts parts' : List Syntax}
    (same : parts.map Syntax.bare = parts'.map Syntax.bare) (meets : Meets tail plain tailed) :
    FollowsWithin tail limit
      (fun taken taken' => taken.1.bare = taken'.1.bare ∧
        taken.2.map Syntax.bare = taken'.2.map Syntax.bare)
      ((takeRepeated parts).run plain) ((takeRepeated parts').run tailed) := by
  cases parts with
  | nil =>
    obtain rfl : parts' = [] := by simpa using same.symm
    exact .stop
  | cons part others =>
    cases parts' with
    | nil => simp at same
    | cons part' others' =>
      obtain ⟨hpart, hothers⟩ := List.cons.inj same
      rw [takeRepeated, takeRepeated, isRepeatable_of_bare hpart]
      split
      · exact .ok ⟨hpart, hothers⟩ meets
      · exact .stop

/-- Nothing is read when a part is taken for repeating. -/
theorem cursor_of_takeRepeated {parts : List Syntax} {cursor after : Cursor}
    {taken : Syntax × List Syntax} (ran : (takeRepeated parts).run cursor = .ok (taken, after)) :
    after = cursor := by
  unfold takeRepeated at ran
  split at ran
  · cases ran
  · split at ran
    · cases ran
      rfl
    · cases ran

/-- Both readings go past the same question mark. -/
theorem follows_skipLazy (closing : Closing tail) (meets : Meets tail plain tailed) :
    FollowsWithin tail limit Eq (skipLazy.run plain) (skipLazy.run tailed) := by
  rw [skipLazy]
  refine .next closing meets (fun c rest hplain _ => ?_) (fun _ _ => .ok rfl meets)
    fun more _ _ _ => .ok rfl meets
  split
  · exact follows_advance meets hplain
  · exact .ok rfl meets

/-- Both readings require the same number. -/
theorem follows_required {number number' : Option Nat × Span} (same : number.1 = number'.1)
    (meets : Meets tail plain tailed) :
    FollowsWithin tail limit Eq ((required number).run plain) ((required number').run tailed) := by
  unfold required
  rw [same]
  split
  · exact .ok rfl meets
  · exact .stop

/-- Both readings expect the closing brace. -/
theorem follows_expectBrace (closing : Closing tail) (start start' : Nat)
    (meets : Meets tail plain tailed) :
    FollowsWithin tail limit Eq ((expectBrace start).run plain)
      ((expectBrace start').run tailed) := by
  rw [expectBrace, expectBrace]
  refine .next closing meets (fun c rest hplain _ => ?_) (fun _ _ => .stop)
    fun more _ _ _ => .stop
  split
  · exact .stop
  · exact .ok rfl meets

/-- The closing brace comes next where it was expected. -/
theorem rest_of_expectBrace {start : Nat} {before after : Cursor}
    (ran : (expectBrace start).run before = .ok ((), after)) : ∃ rest, after.rest = '\x7d' :: rest := by
  rw [expectBrace, run_next?_bind] at ran
  split at ran
  · cases ran
  · rename_i hbrace
    cases ran
    exact List.head?_eq_some_iff.mp (by simpa using hbrace)

/-- No number comes next where a closing parenthesis does. -/
theorem run_readDecimal_of_parenthesis {cursor : Cursor} {more : List Char}
    (next : cursor.rest = ')' :: more) :
    ∃ span, readDecimal.run cursor = .ok ((none, span), cursor) := by
  have hskip : skipAllBlanks.run cursor = .ok ((), cursor) := by
    have hblank : Unicode.isBlank ')' = false := by decide
    obtain ⟨rest, position, verbose, names⟩ := cursor
    subst next
    simp [skipAllBlanks, move, hblank]
  have hdigits : (many (takeIf? Char.isDigit)).run cursor = .ok ([], cursor) := by
    rw [many, run_left_bind, atMost, takeIf?, run_bind, run_next?_bind, next]
    rfl
  refine ⟨⟨cursor.position, cursor.position⟩, ?_⟩
  rw [readDecimal, run_bind, hskip]
  dsimp only
  rw [run_position_bind, run_bind, hdigits]
  dsimp only
  rw [run_position_bind, run_bind, hskip]
  rfl

/-- Nothing is read when a number is required. -/
theorem cursor_of_required {number : Option Nat × Span} {cursor after : Cursor} {value : Nat}
    (ran : (required number).run cursor = .ok (value, after)) : after = cursor := by
  unfold required at ran
  split at ran
  · cases ran
    rfl
  · cases ran

/-- A closing parenthesis stops the reading of counts after the first number. -/
theorem loses_readFurtherCounts {cursor : Cursor} {more : List Char}
    (next : cursor.rest = ')' :: more) (start : Nat) (first : Option Nat × Span) :
    Loses limit ((readFurtherCounts start first).run cursor) := by
  intro counts after ran
  rw [readFurtherCounts, run_next?_bind, next] at ran
  obtain ⟨count, between, hcount, hbrace⟩ := bind_ok ran
  rw [cursor_of_required hcount, expectBrace, run_bind, run_next?_bind, next] at hbrace
  cases hbrace

/-- Both readings read the same counts after the comma. -/
theorem follows_readMost (closing : Closing tail) (start start' : Nat)
    {first first' : Option Nat × Span} (same : first.1 = first'.1)
    (meets : Meets tail plain tailed) :
    Follows tail Eq ((readMost start first).run plain) ((readMost start' first').run tailed) := by
  rw [readMost, readMost]
  refine .next closing meets (fun c rest hplain _ => ?_) (fun _ _ => .stop)
    fun more _ _ htailed => .error ?_
  · dsimp only
    refine (follows_required same meets).bind fun least _ plain tailed _ same meets => ?_
    subst same
    split
    · exact .ok rfl meets
    · refine (follows_readDecimal closing meets).bind fun _ _ plain tailed _ same meets => ?_
      refine (follows_required same meets).bind fun most _ plain tailed _ same meets => ?_
      subst same
      exact (follows_expectBrace closing start start' meets).bind fun _ _ _ _ _ _ meets =>
        .ok rfl meets
  · -- The tail does not begin with a number.
    intro value after hok
    obtain ⟨least, cursor, hleast, hmost⟩ := bind_ok hok
    rw [cursor_of_required hleast, if_neg (by decide), run_bind] at hmost
    obtain ⟨span, hnumber⟩ := run_readDecimal_of_parenthesis htailed
    rw [hnumber] at hmost
    cases hmost

/-- The closing brace comes next after the counts that follow the comma. -/
theorem rest_of_readMost {start : Nat} {first : Option Nat × Span} {before after : Cursor}
    {counts : Nat × Option Nat} (ran : (readMost start first).run before = .ok (counts, after)) :
    ∃ rest, after.rest = '\x7d' :: rest := by
  rw [readMost, run_next?_bind] at ran
  split at ran
  · cases ran
  · rename_i c hhead
    obtain ⟨least, between, hleast, hmost⟩ := bind_ok ran
    rw [cursor_of_required hleast] at hmost
    split at hmost
    · rename_i hbrace
      cases hmost
      exact List.head?_eq_some_iff.mp (hbrace ▸ hhead)
    · obtain ⟨number, _, _, hrequired⟩ := bind_ok hmost
      obtain ⟨most, _, _, hclosed⟩ := bind_ok hrequired
      obtain ⟨_, last, hbrace, hdone⟩ := bind_ok hclosed
      cases hdone
      exact rest_of_expectBrace hbrace

/-- Both readings read the same counts after the first number. -/
theorem follows_readFurtherCounts (closing : Closing tail) (start start' : Nat)
    {first first' : Option Nat × Span} (same : first.1 = first'.1)
    (meets : Meets tail plain tailed) :
    Follows tail Eq ((readFurtherCounts start first).run plain)
      ((readFurtherCounts start' first').run tailed) := by
  rw [readFurtherCounts, readFurtherCounts]
  refine .next closing meets (fun c rest hplain _ => ?_) (fun _ _ => .stop)
    fun more _ _ htailed => .error ?_
  · dsimp only
    split
    · refine (follows_advanceOver closing meets hplain).bind fun _ _ plain tailed _ _ meets => ?_
      exact follows_readMost closing start start' same meets
    · refine (follows_required same meets).bind fun count _ plain tailed _ same meets => ?_
      subst same
      exact (follows_expectBrace closing start start' meets).bind fun _ _ _ _ _ _ meets =>
        .ok rfl meets
  · have hlost : Loses tail.length ((readFurtherCounts start' first').run tailed) :=
      loses_readFurtherCounts htailed start' first'
    rwa [readFurtherCounts, run_next?_bind, htailed] at hlost

/-- The closing brace comes next after the counts. -/
theorem rest_of_readFurtherCounts {start : Nat} {first : Option Nat × Span} {before after : Cursor}
    {counts : Nat × Option Nat}
    (ran : (readFurtherCounts start first).run before = .ok (counts, after)) :
    ∃ rest, after.rest = '\x7d' :: rest := by
  rw [readFurtherCounts, run_next?_bind] at ran
  split at ran
  · cases ran
  · split at ran
    · obtain ⟨_, between, _, ran⟩ := bind_ok ran
      exact rest_of_readMost ran
    · obtain ⟨count, _, _, hclosed⟩ := bind_ok ran
      obtain ⟨_, last, hbrace, hdone⟩ := bind_ok hclosed
      cases hdone
      exact rest_of_expectBrace hbrace

/-- Both readings read the same counts of a repetition. -/
theorem follows_readCounts (closing : Closing tail) (meets : Meets tail plain tailed) {c : Char}
    {rest : List Char} (brace : plain.rest = c :: rest) :
    Follows tail Eq (readCounts.run plain) (readCounts.run tailed) := by
  rw [readCounts, run_position_bind, run_position_bind]
  refine (follows_advanceOver closing meets brace).bind fun _ _ plain tailed _ _ meets => ?_
  refine .next closing meets (fun c rest hplain _ => ?_) (fun _ _ => .stop)
    fun more _ _ htailed => .error ?_
  · dsimp only
    refine (follows_readDecimal closing meets).bind fun _ _ plain tailed _ same meets => ?_
    exact follows_readFurtherCounts closing _ _ same meets
  · obtain ⟨span, hnumber⟩ := run_readDecimal_of_parenthesis htailed
    dsimp only
    rw [run_bind, hnumber]
    exact loses_readFurtherCounts htailed _ _

/-- The closing brace comes next after the counts of a repetition. -/
theorem rest_of_readCounts {before after : Cursor} {counts : Nat × Option Nat}
    (ran : readCounts.run before = .ok (counts, after)) : ∃ rest, after.rest = '\x7d' :: rest := by
  rw [readCounts, run_position_bind] at ran
  obtain ⟨_, between, _, hcounts⟩ := bind_ok ran
  rw [run_next?_bind] at hcounts
  split at hcounts
  · cases hcounts
  · obtain ⟨number, last, _, hfurther⟩ := bind_ok hcounts
    exact rest_of_readFurtherCounts hfurther

/-- Both readings read the same counts of the same sign for a repetition. -/
theorem follows_readRepetition (closing : Closing tail) (sign : Char)
    (meets : Meets tail plain tailed) {c : Char} {rest : List Char} (next : plain.rest = c :: rest) :
    Follows tail Eq ((readRepetition sign).run plain) ((readRepetition sign).run tailed) := by
  rw [readRepetition]
  split
  · refine (follows_readCounts closing meets next).bind fun counts _ plain tailed hran same meets => ?_
    subst same
    obtain ⟨rest, hbrace⟩ := rest_of_readCounts hran
    exact (follows_advanceOver closing meets hbrace).bind fun _ _ _ _ _ _ meets => .ok rfl meets
  · exact (follows_advance meets next).bind fun _ _ _ _ _ _ meets => .ok rfl meets

/-- The sign for a repetition is taken. -/
theorem length_of_readRepetition {sign : Char} {cursor after : Cursor} {counts : Nat × Option Nat}
    {c : Char} {rest : List Char} (next : cursor.rest = c :: rest)
    (ran : (readRepetition sign).run cursor = .ok (counts, after)) :
    after.rest.length ≤ rest.length := by
  rw [readRepetition] at ran
  split at ran
  · obtain ⟨counts, between, hcounts, hclosed⟩ := bind_ok ran
    rw [readCounts, run_position_bind] at hcounts
    exact Nat.le_trans (Reader.shrinks _ hclosed) (length_of_advanceOver_bind next hcounts)
  · exact length_of_advance_bind next ran

/-- Both readings repeat the last part in the same way, up to places. -/
theorem follows_repeatLast (closing : Closing tail) (sign : Char) {parts parts' : List Syntax}
    (same : parts.map Syntax.bare = parts'.map Syntax.bare) (meets : Meets tail plain tailed)
    {c : Char} {rest : List Char} (next : plain.rest = c :: rest) :
    Follows tail (fun parts parts' => parts.map Syntax.bare = parts'.map Syntax.bare)
      ((repeatLast sign parts).run plain) ((repeatLast sign parts').run tailed) := by
  rw [repeatLast, repeatLast, run_position_bind, run_position_bind]
  refine (follows_takeRepeated same meets).bind fun taken taken' plain' tailed' hran htaken meets => ?_
  obtain ⟨part, others⟩ := taken
  obtain ⟨part', others'⟩ := taken'
  obtain ⟨hpart, hothers⟩ := htaken
  have hnext : plain'.rest = c :: rest := by rw [cursor_of_takeRepeated hran, next]
  refine (follows_readRepetition closing sign meets hnext).bind
    fun counts _ plain tailed _ same meets => ?_
  subst same
  obtain ⟨least, most⟩ := counts
  refine (follows_skipLazy closing meets).bind fun _ _ plain tailed _ _ meets => ?_
  split
  · exact .stop
  · refine .ok ?_ meets
    rw [List.map_cons, List.map_cons, Syntax.bare, Syntax.bare, hpart, hothers]

/-- A repetition takes a character. -/
theorem length_of_repeatLast {sign : Char} {parts repeated : List Syntax} {cursor after : Cursor}
    {c : Char} {rest : List Char} (next : cursor.rest = c :: rest)
    (ran : (repeatLast sign parts).run cursor = .ok (repeated, after)) :
    after.rest.length ≤ rest.length := by
  rw [repeatLast, run_position_bind] at ran
  obtain ⟨taken, first, htaken, hcounts⟩ := bind_ok ran
  obtain ⟨counts, second, hread, hdone⟩ := bind_ok hcounts
  have hnext : first.rest = c :: rest := by rw [cursor_of_takeRepeated htaken, next]
  exact Nat.le_trans (Reader.shrinks _ hdone) (length_of_readRepetition hnext hread)

/-- What is passed over does not depend on the position. -/
theorem fst_dropBlanks (inComment : Bool) (position position' : Nat) (chars : List Char) :
    (dropBlanks inComment position chars).1 = (dropBlanks inComment position' chars).1 := by
  have happend := dropBlanks_append (.inl rfl) inComment position' position chars
  simp only [List.append_nil] at happend
  rcases happend with hsame | ⟨hnil, hnil'⟩
  · exact hsame
  · rw [hnil, hnil']

/-- What comes after the next character comes next once that has been gone past. -/
theorem rest_of_advanceOver {cursor next : Cursor} {c : Char} (after : secondOverAt cursor = some c)
    (ran : advanceOver.run cursor = .ok ((), next)) : ∃ more, next.rest = c :: more := by
  cases ran
  apply List.head?_eq_some_iff.mp
  rw [secondOverAt] at after
  cases hverbose : cursor.verbose with
  | true =>
    simp only [hverbose, if_true] at after ⊢
    rwa [fst_dropBlanks false _ 0]
  | false => simpa [hverbose] using after

/-- Where the second reading is stuck before a brace, there is no number after the brace. -/
theorem loses_repeatLast_of_stuck {parts : List Syntax} {cursor : Cursor}
    (after : secondOverAt cursor = some ')') :
    Loses limit ((repeatLast '\x7b' parts).run cursor) := by
  intro repeated last ran
  rw [repeatLast, run_position_bind] at ran
  obtain ⟨taken, between, htaken, hcounts⟩ := bind_ok ran
  rw [cursor_of_takeRepeated htaken] at hcounts
  obtain ⟨counts, _, hread, -⟩ := bind_ok hcounts
  rw [readRepetition, if_pos rfl] at hread
  obtain ⟨counts, _, hinner, -⟩ := bind_ok hread
  rw [readCounts, run_position_bind] at hinner
  obtain ⟨_, inner, hadvance, hfirst⟩ := bind_ok hinner
  obtain ⟨more, hmore⟩ := rest_of_advanceOver after hadvance
  obtain ⟨span, hnumber⟩ := run_readDecimal_of_parenthesis hmore
  rw [run_next?_bind, hmore] at hfirst
  dsimp only [List.head?_cons] at hfirst
  rw [run_bind, hnumber] at hfirst
  have hstopped : Loses 0 ((readFurtherCounts cursor.position (none, span)).run inner) :=
    loses_readFurtherCounts hmore _ _
  exact absurd (hstopped _ _ hfirst) (Nat.not_lt_zero _)

/-! ### Parts -/

/-- A part that a character or an escape means does not depend on its place. -/
theorem bare_partOf {part part' : Primitive} (same : part.bare = part'.bare) :
    (partOf part).bare = (partOf part').bare := by
  cases part <;> cases part' <;> simp [Primitive.bare] at same <;> simp [partOf, Syntax.bare, same]

/-- What a character means by itself does not depend on its place. -/
theorem bare_plainPart (c : Char) (span span' : Span) :
    (plainPart c span).bare = (plainPart c span').bare := by
  unfold plainPart
  split <;> rfl

/-- Both readings read the same part up to places, unless the second one gets stuck at a boundary. -/
theorem follows_readPart (closing : Closing tail) (meets : Meets tail plain tailed) {c : Char}
    {rest : List Char} (next : plain.rest = c :: rest) :
    Follows tail (fun part part' => part.bare = part'.bare) ((readPart c).run plain)
        ((readPart c).run tailed) ∨
      Stuck tail (.place (.border .boundary)) ((readPart c).run plain) ((readPart c).run tailed) := by
  rw [readPart]
  split
  · rcases follows_readEscape closing meets next with hfollows | ⟨span, hstopped, hbraced⟩
    · exact .inl (hfollows.bind fun _ _ _ _ _ same meets => .ok (bare_partOf same) meets)
    · obtain ⟨fault, hfault⟩ := hstopped
      obtain ⟨cursor, rest, hok, hrest⟩ := hbraced
      rw [run_bind, run_bind, hfault, hok]
      exact .inr ⟨⟨fault, rfl⟩, cursor, rest, rfl, hrest⟩
  · rw [run_position_bind, run_position_bind]
    exact .inl ((follows_advance meets next).bind fun _ _ _ _ _ _ meets =>
      .ok (bare_plainPart c _ _) meets)

/-- A part takes a character. -/
theorem length_of_readPart {cursor after : Cursor} {part : Syntax} {c first : Char} {rest : List Char}
    (next : cursor.rest = c :: rest) (ran : (readPart first).run cursor = .ok (part, after)) :
    after.rest.length ≤ rest.length := by
  rw [readPart] at ran
  split at ran
  · obtain ⟨part, between, hescape, hdone⟩ := bind_ok ran
    exact Nat.le_trans (Reader.shrinks _ hdone) (length_of_readEscape next hescape)
  · rw [run_position_bind] at ran
    exact length_of_advance_bind next ran

end PageCheck.Pattern
