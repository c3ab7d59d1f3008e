import PageCheck.Pattern.Reader

/-!
# Reading on into a tail

A text is read twice: as it is, and with a tail after it that begins with a closing parenthesis. As
long as neither reading stops, both do the same, up to the end of the text. There the tail is left to
the second reading, unless a comment that the text leaves open has swallowed it. Where the first
reading stops with a fault, the second one stops as well or loses the tail: it goes on, but has read
a part of the tail. What it has read is never put back, so the tail stays lost.
-/

namespace PageCheck.Pattern

open Unicode (isBlank)

/-- What can be written after a text to close a group: a closing parenthesis and more on the same
line, without a colon. Nothing at all will do as well. -/
def Closing (tail : List Char) : Prop :=
  tail = [] ∨ ∃ more, tail = ')' :: more ∧ '\n' ∉ more ∧ ':' ∉ more

/-- Two readings of a text are equally far, the second one with a tail after the text, which can
have been swallowed at the end. -/
structure Meets (tail : List Char) (plain tailed : Cursor) : Prop where
  /-- The second reading has the tail left as well. -/
  rest : tailed.rest = plain.rest ++ tail ∨ (plain.rest = [] ∧ tailed.rest = [])
  /-- Both pass over the same. -/
  verbose : tailed.verbose = plain.verbose
  /-- Both know the same names, which can stand at different places. -/
  names : tailed.names.map Prod.fst = plain.names.map Prod.fst

/-- If the reading goes on, less than some number of characters is left after it. -/
def Loses {α : Type} (limit : Nat) (result : Except Fault (α × Cursor)) : Prop :=
  ∀ value cursor, result = .ok (value, cursor) → cursor.rest.length < limit

/-- What comes of the second reading after what came of the first one, where a reading that goes on
alone has less than some number of characters left. -/
inductive FollowsWithin {α : Type} (tail : List Char) (limit : Nat) (alike : α → α → Prop) :
    Except Fault (α × Cursor) → Except Fault (α × Cursor) → Prop
  /-- Both go on. -/
  | ok {value other : α} {plain tailed : Cursor} (same : alike value other)
      (meets : Meets tail plain tailed) :
      FollowsWithin tail limit alike (.ok (value, plain)) (.ok (other, tailed))
  /-- The first one stops. -/
  | error {fault : Fault} {result : Except Fault (α × Cursor)} (lost : Loses limit result) :
      FollowsWithin tail limit alike (.error fault) result

/-- What comes of the second reading after what came of the first one. A reading that goes on alone
has lost a part of the tail. -/
abbrev Follows {α : Type} (tail : List Char) (alike : α → α → Prop) :
    Except Fault (α × Cursor) → Except Fault (α × Cursor) → Prop :=
  FollowsWithin tail tail.length alike

variable {α β : Type} {tail : List Char} {limit : Nat} {plain tailed : Cursor}

/-! ### Running readers -/

namespace Reader

/-- Running one reader after another. -/
theorem run_bind (first : Reader α) (next : α → Reader β) (cursor : Cursor) :
    (first >>= next).run cursor = match first.run cursor with
      | .ok (value, between) => (next value).run between
      | .error fault => .error fault := rfl

/-- Two readers and a third one after them run as the first one and the other two after it. -/
theorem run_bind_assoc {γ : Type} (first : Reader α) (next : α → Reader β) (last : β → Reader γ)
    (cursor : Cursor) :
    (first >>= next >>= last).run cursor = (first >>= fun value => next value >>= last).run cursor := by
  rw [run_bind, run_bind, run_bind]
  rcases first.run cursor with fault | ⟨value, between⟩ <;> rfl

@[simp]
theorem run_pure (value : α) (cursor : Cursor) :
    (pure value : Reader α).run cursor = .ok (value, cursor) := rfl

@[simp]
theorem run_fault (kind : FaultKind) (start stop : Nat) (cursor : Cursor) :
    (fault kind start stop : Reader α).run cursor = .error ⟨kind, ⟨start, stop⟩⟩ := rfl

@[simp]
theorem run_faultHere (kind : FaultKind) (cursor : Cursor) : (faultHere kind : Reader α).run cursor =
    .error ⟨kind, ⟨cursor.position, cursor.position + 1⟩⟩ := rfl

@[simp]
theorem run_faultBefore (kind : FaultKind) (cursor : Cursor) :
    (faultBefore kind : Reader α).run cursor = .error ⟨kind, ⟨cursor.position, cursor.position⟩⟩ :=
  rfl

@[simp]
theorem run_look_bind (view : Cursor → α) (next : α → Reader β) (cursor : Cursor) :
    (look view >>= next).run cursor = (next (view cursor)).run cursor := rfl

@[simp]
theorem run_position_bind (next : Nat → Reader β) (cursor : Cursor) :
    (position >>= next).run cursor = (next cursor.position).run cursor := rfl

@[simp]
theorem run_left_bind (next : Nat → Reader β) (cursor : Cursor) :
    (left >>= next).run cursor = (next cursor.rest.length).run cursor := rfl

@[simp]
theorem run_next?_bind (next : Option Char → Reader β) (cursor : Cursor) :
    (next? >>= next).run cursor = (next cursor.rest.head?).run cursor := rfl

@[simp]
theorem run_second?_bind (next : Option Char → Reader β) (cursor : Cursor) :
    (second? >>= next).run cursor = (next (cursor.rest.drop 1).head?).run cursor := rfl

@[simp]
theorem run_secondOver?_bind (next : Option Char → Reader β) (cursor : Cursor) :
    (secondOver? >>= next).run cursor = (next (secondOverAt cursor)).run cursor := rfl

@[simp]
theorem run_isVerbose_bind (next : Bool → Reader β) (cursor : Cursor) :
    (isVerbose >>= next).run cursor = (next cursor.verbose).run cursor := rfl

@[simp]
theorem run_placeOfName?_bind (name : List Char) (next : Option Span → Reader β) (cursor : Cursor) :
    (placeOfName? name >>= next).run cursor = (next (cursor.names.lookup name)).run cursor := rfl

end Reader

/-! ### The tail is lost -/

/-- A reading that stops does not go on. -/
theorem loses_error {fault : Fault} : Loses limit (.error fault : Except Fault (α × Cursor)) := by
  intro value cursor hok
  cases hok

/-- Both readings stop. -/
theorem FollowsWithin.stop {alike : α → α → Prop} {fault other : Fault} :
    FollowsWithin tail limit alike (.error fault) (.error other) := .error loses_error

/-- A tail that is lost stays lost. -/
theorem loses_of_length (reader : Reader α) (short : tailed.rest.length < limit) :
    Loses limit (reader.run tailed) := by
  intro value cursor hok
  exact Nat.lt_of_le_of_lt (reader.shrinks hok) short

/-- A tail that is lost by a first step stays lost. -/
theorem Loses.bind {first : Reader α} (lost : Loses limit (first.run tailed))
    (next : α → Reader β) : Loses limit ((first >>= next).run tailed) := by
  rw [Reader.run_bind]
  cases hfirst : first.run tailed with
  | error fault => exact loses_error
  | ok result => exact loses_of_length _ (lost _ _ hfirst)

/-- Going past the beginning of the tail loses it. -/
theorem loses_advance {more : List Char} (closing : tail = ')' :: more)
    (rest : tailed.rest = ')' :: more) : Loses tail.length (Reader.advance.run tailed) := by
  intro value cursor hok
  cases hok
  simp [rest, closing]

/-- Going past the beginning of the tail and what may be passed over loses it. -/
theorem loses_advanceOver {more : List Char} (closing : tail = ')' :: more)
    (rest : tailed.rest = ')' :: more) : Loses tail.length (Reader.advanceOver.run tailed) :=
  (loses_advance closing rest).bind _

/-! ### Steps of both readings -/

/-- The text ends for the first reading where it ends for the second one, or the tail begins
there. -/
theorem Meets.cases (meets : Meets tail plain tailed) (closing : Closing tail) :
    (∃ c rest, plain.rest = c :: rest ∧ tailed.rest = c :: (rest ++ tail)) ∨
      (plain.rest = [] ∧ tailed.rest = []) ∨
      ∃ more, tail = ')' :: more ∧ plain.rest = [] ∧ tailed.rest = ')' :: more := by
  cases hplain : plain.rest with
  | cons c rest =>
    have hrest := meets.rest
    simp only [hplain, List.cons_append, reduceCtorEq, false_and, or_false] at hrest
    exact .inl ⟨c, rest, rfl, hrest⟩
  | nil =>
    rcases meets.rest with hrest | ⟨-, hrest⟩
    · rw [hplain, List.nil_append] at hrest
      rcases closing with rfl | ⟨more, rfl, -⟩
      · exact .inr (.inl ⟨rfl, hrest⟩)
      · exact .inr (.inr ⟨more, rfl, rfl, hrest⟩)
    · exact .inr (.inl ⟨rfl, hrest⟩)

/-- A reading that has less left in the text has less left with the tail, too. -/
theorem Meets.length_lt (before : Meets tail plain tailed) {plain' tailed' : Cursor}
    (after : Meets tail plain' tailed') (less : plain'.rest.length < plain.rest.length) :
    tailed'.rest.length < tailed.rest.length := by
  rcases before.rest with hbefore | ⟨hbefore, -⟩
  · rcases after.rest with hafter | ⟨-, hafter⟩
    · simp only [hbefore, hafter, List.length_append]
      omega
    · simp only [hbefore, hafter, List.length_append, List.length_nil]
      omega
  · simp [hbefore] at less

/-- What is alike in one way is alike in a weaker one. -/
theorem FollowsWithin.mono {alike alike' : α → α → Prop} {result result' : Except Fault (α × Cursor)}
    (follows : FollowsWithin tail limit alike result result')
    (weaker : ∀ value value', alike value value' → alike' value value') :
    FollowsWithin tail limit alike' result result' := by
  cases follows with
  | ok same meets => exact .ok (weaker _ _ same) meets
  | error lost => exact .error lost

/-- Less is left than a greater number, too. -/
theorem FollowsWithin.weaken {alike : α → α → Prop} {result result' : Except Fault (α × Cursor)}
    (follows : FollowsWithin tail limit alike result result') {limit' : Nat}
    (within : limit ≤ limit') : FollowsWithin tail limit' alike result result' := by
  cases follows with
  | ok same meets => exact .ok same meets
  | error lost =>
    exact .error fun value cursor hok => Nat.lt_of_lt_of_le (lost value cursor hok) within

/-- One step of both readings after another. The second reading may go on alone with more left if the
other step takes that. -/
theorem FollowsWithin.bind_over {alike : α → α → Prop} {alike' : β → β → Prop} {limit' : Nat}
    {first second : Reader α} {next other : α → Reader β}
    (step : FollowsWithin tail limit' alike (first.run plain) (second.run tailed))
    (alone : ∀ value cursor, second.run tailed = .ok (value, cursor) → cursor.rest.length < limit' →
      Loses limit ((other value).run cursor))
    (further : ∀ value value' plain' tailed', first.run plain = .ok (value, plain') →
      alike value value' → Meets tail plain' tailed' →
      FollowsWithin tail limit alike' ((next value).run plain') ((other value').run tailed')) :
    FollowsWithin tail limit alike' ((first >>= next).run plain)
      ((second >>= other).run tailed) := by
  rw [Reader.run_bind, Reader.run_bind]
  rcases hfirst : first.run plain with fault | ⟨value, plain'⟩
  · rw [hfirst] at step
    cases step with
    | error lost =>
      refine .error ?_
      rcases hsecond : second.run tailed with fault' | ⟨value, cursor⟩
      · exact loses_error
      · exact alone value cursor hsecond (lost value cursor hsecond)
  · rw [hfirst] at step
    generalize hsecond : second.run tailed = result at step
    cases step with
    | ok same meets => exact further _ _ _ _ hfirst same meets

/-- One step of both readings after another. -/
theorem FollowsWithin.bind {alike : α → α → Prop} {alike' : β → β → Prop} {first second : Reader α}
    {next other : α → Reader β}
    (step : FollowsWithin tail limit alike (first.run plain) (second.run tailed))
    (further : ∀ value value' plain' tailed', first.run plain = .ok (value, plain') →
      alike value value' → Meets tail plain' tailed' →
      FollowsWithin tail limit alike' ((next value).run plain') ((other value').run tailed')) :
    FollowsWithin tail limit alike' ((first >>= next).run plain) ((second >>= other).run tailed) :=
  step.bind_over (fun _ _ _ short => loses_of_length _ short) further

/-- Both readings look at what comes next. -/
theorem FollowsWithin.next {alike : α → α → Prop} (closing : Closing tail)
    (meets : Meets tail plain tailed) {next other : Option Char → Reader α}
    (character : ∀ c rest, plain.rest = c :: rest → tailed.rest = c :: (rest ++ tail) →
      FollowsWithin tail limit alike ((next (some c)).run plain) ((other (some c)).run tailed))
    (ended : plain.rest = [] → tailed.rest = [] →
      FollowsWithin tail limit alike ((next none).run plain) ((other none).run tailed))
    (closed : ∀ more, tail = ')' :: more → plain.rest = [] → tailed.rest = ')' :: more →
      FollowsWithin tail limit alike ((next none).run plain) ((other (some ')')).run tailed)) :
    FollowsWithin tail limit alike ((Reader.next? >>= next).run plain)
      ((Reader.next? >>= other).run tailed) := by
  rw [Reader.run_next?_bind, Reader.run_next?_bind]
  rcases meets.cases closing with ⟨c, rest, hplain, htailed⟩ | ⟨hplain, htailed⟩ |
    ⟨more, htail, hplain, htailed⟩
  · rw [hplain, htailed]
    exact character c rest hplain htailed
  · rw [hplain, htailed]
    exact ended hplain htailed
  · rw [hplain, htailed]
    exact closed more htail hplain htailed

/-- Both readings go past some characters of the text. -/
theorem Meets.skip (meets : Meets tail plain tailed) {count : Nat}
    (within : count ≤ plain.rest.length) {plain' tailed' : Cursor}
    (plain_skip : (Reader.skip count).run plain = .ok ((), plain'))
    (tailed_skip : (Reader.skip count).run tailed = .ok ((), tailed')) :
    Meets tail plain' tailed' := by
  cases plain_skip
  cases tailed_skip
  refine ⟨?_, meets.verbose, meets.names⟩
  rcases meets.rest with hrest | ⟨hplain, htailed⟩
  · exact .inl (by simp [hrest, List.drop_append_of_le_length within])
  · exact .inr (by simp [hplain, htailed])

/-- Both readings go past some characters of the text. -/
theorem follows_skip (meets : Meets tail plain tailed) {count : Nat}
    (within : count ≤ plain.rest.length) :
    FollowsWithin tail limit Eq ((Reader.skip count).run plain) ((Reader.skip count).run tailed) :=
  .ok rfl (meets.skip within rfl rfl)

/-- Both readings go past a character of the text. -/
theorem follows_advance (meets : Meets tail plain tailed) {c : Char} {rest : List Char}
    (next : plain.rest = c :: rest) :
    FollowsWithin tail limit Eq (Reader.advance.run plain) (Reader.advance.run tailed) :=
  follows_skip meets (by simp [next])

/-- A comment goes on to the end where no line ends. -/
theorem dropBlanks_comment {chars : List Char} (line : '\n' ∉ chars) (position : Nat) :
    (Reader.dropBlanks true position chars).1 = [] := by
  induction chars generalizing position with
  | nil => rfl
  | cons c rest ih =>
    have hc : c ≠ '\n' := fun heq => line (by simp [heq])
    simp only [Reader.dropBlanks, if_true, bne_iff_ne.mpr hc]
    exact ih (fun hmem => line (List.mem_cons_of_mem c hmem)) _

/-- Blanks and comments are passed over in the same way with the tail, unless they swallow it. -/
theorem dropBlanks_append (closing : Closing tail) (inComment : Bool) (position position' : Nat)
    (chars : List Char) :
    (Reader.dropBlanks inComment position' (chars ++ tail)).1 =
        (Reader.dropBlanks inComment position chars).1 ++ tail ∨
      ((Reader.dropBlanks inComment position chars).1 = [] ∧
        (Reader.dropBlanks inComment position' (chars ++ tail)).1 = []) := by
  induction chars generalizing inComment position position' with
  | nil =>
    rcases closing with rfl | ⟨more, rfl, hline, -⟩
    · exact .inl (by simp [Reader.dropBlanks])
    · cases inComment with
      | true =>
        refine .inr ⟨rfl, dropBlanks_comment ?_ _⟩
        simpa using hline
      | false =>
        have hblank : isBlank ')' = false := by decide
        exact .inl (by simp [Reader.dropBlanks, hblank])
  | cons c rest ih =>
    simp only [List.cons_append, Reader.dropBlanks]
    split
    · exact ih _ _ _
    · split
      · exact ih _ _ _
      · split
        · exact ih _ _ _
        · exact .inl rfl

/-- Both readings pass over blanks and comments. -/
theorem Meets.skipBlanks (closing : Closing tail) (meets : Meets tail plain tailed) :
    ∃ plain' tailed', Reader.skipBlanks.run plain = .ok ((), plain') ∧
      Reader.skipBlanks.run tailed = .ok ((), tailed') ∧ Meets tail plain' tailed' := by
  refine ⟨_, _, rfl, rfl, ?_⟩
  simp only [meets.verbose]
  split
  · refine ⟨?_, rfl, meets.names⟩
    rcases meets.rest with hrest | ⟨hplain, htailed⟩
    · simpa only [hrest] using dropBlanks_append closing false plain.position tailed.position _
    · exact .inr (by simp [hplain, htailed, Reader.dropBlanks])
  · exact meets

/-- Both readings pass over blanks and comments. -/
theorem follows_skipBlanks (closing : Closing tail) (meets : Meets tail plain tailed) :
    FollowsWithin tail limit Eq (Reader.skipBlanks.run plain) (Reader.skipBlanks.run tailed) := by
  obtain ⟨plain', tailed', hrun, hrun', hmeets⟩ := meets.skipBlanks closing
  rw [hrun, hrun']
  exact .ok rfl hmeets

/-- Both readings go past a character of the text and what may be passed over after it. -/
theorem follows_advanceOver (closing : Closing tail) (meets : Meets tail plain tailed) {c : Char}
    {rest : List Char} (next : plain.rest = c :: rest) :
    FollowsWithin tail limit Eq (Reader.advanceOver.run plain) (Reader.advanceOver.run tailed) :=
  (follows_advance meets next).bind fun _ _ _ _ _ _ meets' => follows_skipBlanks closing meets'

/-- After a character nothing is left but what came after it. -/
theorem length_of_advance {c : Char} {rest : List Char} (next : plain.rest = c :: rest)
    {after : Cursor} (ran : Reader.advance.run plain = .ok ((), after)) : after.rest = rest := by
  cases ran
  simp [next]

/-- Both readings go past a character of the text and then do the same with less of it. -/
theorem follows_advance_bind {alike : α → α → Prop} (meets : Meets tail plain tailed) {c : Char}
    {rest : List Char} (next : plain.rest = c :: rest) {further other : Reader α}
    (same : ∀ plain' tailed', plain'.rest.length < plain.rest.length →
      tailed'.rest.length < tailed.rest.length → Meets tail plain' tailed' →
      FollowsWithin tail limit alike (further.run plain') (other.run tailed')) :
    FollowsWithin tail limit alike ((Reader.advance >>= fun _ => further).run plain)
      ((Reader.advance >>= fun _ => other).run tailed) := by
  refine (follows_advance meets next).bind fun _ _ plain' tailed' ran _ meets' => ?_
  have hless : plain'.rest.length < plain.rest.length := by simp [length_of_advance next ran, next]
  exact same plain' tailed' hless (meets.length_lt meets' hless) meets'

/-- After a character and what may be passed over no more is left than what came after it. -/
theorem length_of_advanceOver {c : Char} {rest : List Char} (next : plain.rest = c :: rest)
    {after : Cursor} (ran : Reader.advanceOver.run plain = .ok ((), after)) :
    after.rest.length ≤ rest.length := by
  have hskip := Reader.skipBlanks.shrinks ran
  simpa [next] using hskip

/-- Blanks are passed over in the same way with the tail. -/
theorem follows_skipAllBlanks (closing : Closing tail) (meets : Meets tail plain tailed) :
    FollowsWithin tail limit Eq (Reader.skipAllBlanks.run plain) (Reader.skipAllBlanks.run tailed) := by
  refine .ok rfl ⟨?_, meets.verbose, meets.names⟩
  have htail : tail.dropWhile isBlank = tail := by
    rcases closing with rfl | ⟨more, rfl, -⟩
    · rfl
    · exact List.dropWhile_cons_of_neg (by decide)
  rcases meets.rest with hrest | ⟨hplain, htailed⟩
  · dsimp only
    rw [hrest, List.dropWhile_append]
    split
    · rename_i hnone
      rw [htail, List.isEmpty_iff.mp hnone]
      exact .inl rfl
    · exact .inl rfl
  · exact .inr (by simp [hplain, htailed])

/-- The character after the next one is the same for both readings, or the text ends before it and
the tail begins with it. -/
theorem Meets.secondOver (closing : Closing tail) (meets : Meets tail plain tailed) {c : Char}
    {rest : List Char} (next : plain.rest = c :: rest) :
    Reader.secondOverAt tailed = Reader.secondOverAt plain ∨
      Reader.secondOverAt plain = none ∧ Reader.secondOverAt tailed = some ')' ∧
        ∃ more, tail = ')' :: more := by
  have hrest : tailed.rest = c :: (rest ++ tail) := by simpa [next] using meets.rest
  have hafter : ∀ chars chars' : List Char,
      chars' = chars ++ tail ∨ (chars = [] ∧ chars' = []) →
      chars'.head? = chars.head? ∨
        chars.head? = none ∧ chars'.head? = some ')' ∧ ∃ more, tail = ')' :: more := by
    rintro chars chars' (rfl | ⟨rfl, rfl⟩)
    · cases chars with
      | cons c chars => exact .inl rfl
      | nil =>
        rcases closing with rfl | ⟨more, rfl, -⟩
        · exact .inl rfl
        · exact .inr ⟨rfl, rfl, more, rfl⟩
    · exact .inl rfl
  simp only [Reader.secondOverAt, hrest, next, meets.verbose, List.drop_succ_cons, List.drop_zero]
  split
  · exact hafter _ _ (dropBlanks_append closing false 0 0 rest)
  · exact hafter _ _ (.inl rfl)

/-- Characters without a closing parenthesis begin a text with the tail just if they begin the
text. -/
theorem isPrefixOf_append (closing : Closing tail) {chars : List Char} (absent : ')' ∉ chars)
    (text : List Char) : chars.isPrefixOf (text ++ tail) = chars.isPrefixOf text := by
  induction chars generalizing text with
  | nil => simp
  | cons c chars ih =>
    have hc : c ≠ ')' := fun heq => absent (by simp [heq])
    cases text with
    | cons first text =>
      rw [List.cons_append, List.isPrefixOf_cons_cons, List.isPrefixOf_cons_cons,
        ih (fun hmem => absent (List.mem_cons_of_mem c hmem))]
    | nil =>
      rcases closing with rfl | ⟨more, rfl, -⟩
      · rfl
      · simp [List.isPrefixOf, hc]

/-- Both readings go past some characters if they come next. -/
theorem follows_skipIf (closing : Closing tail) (meets : Meets tail plain tailed)
    {chars : List Char} (absent : ')' ∉ chars) :
    FollowsWithin tail limit Eq ((Reader.skipIf chars).run plain) ((Reader.skipIf chars).run tailed) := by
  have hsame : chars.isPrefixOf tailed.rest = chars.isPrefixOf plain.rest := by
    rcases meets.rest with hrest | ⟨hplain, htailed⟩
    · rw [hrest, isPrefixOf_append closing absent]
    · rw [hplain, htailed]
  rw [Reader.skipIf, Reader.run_look_bind, Reader.run_look_bind, hsame]
  split
  · rename_i hprefix
    have hlength := (List.isPrefixOf_iff_prefix.mp hprefix).length_le
    exact (follows_skip meets hlength).bind fun _ _ _ _ _ _ meets' => .ok rfl meets'
  · exact .ok rfl meets

/-- Both readings read items until there is none, if they agree on each item. -/
theorem follows_atMost {γ : Type} (view : α → γ) {item other : Reader (Option α)}
    (items : ∀ plain tailed, Meets tail plain tailed →
      FollowsWithin tail limit (fun value value' => value.map view = value'.map view)
        (item.run plain) (other.run tailed))
    (takes : ∀ before value after, item.run before = .ok (some value, after) →
      after.rest.length < before.rest.length)
    {count count' : Nat} (enough : plain.rest.length < count)
    (enough' : tailed.rest.length < count') (meets : Meets tail plain tailed) :
    FollowsWithin tail limit (fun values values' => values.map view = values'.map view)
      ((Reader.atMost item count).run plain) ((Reader.atMost other count').run tailed) := by
  induction count generalizing count' plain tailed with
  | zero => omega
  | succ count ih =>
    cases count' with
    | zero => omega
    | succ count' =>
      refine (items _ _ meets).bind fun value value' plain' tailed' ran same meets' => ?_
      cases value with
      | none =>
        obtain rfl : value' = none := by simpa using same.symm
        exact .ok rfl meets'
      | some value =>
        obtain ⟨value', rfl, hview⟩ := Option.map_eq_some_iff.mp same.symm
        have hless := takes _ _ _ ran
        have hless' := meets.length_lt meets' hless
        refine (ih (by omega) (by omega) meets').bind fun _ _ _ _ _ same' meets' => ?_
        exact .ok (by rw [List.map_cons, List.map_cons, hview, same']) meets'

/-- Both readings read items until there is none, however many there are. -/
theorem follows_many {γ : Type} (view : α → γ) {item other : Reader (Option α)}
    (items : ∀ plain tailed, Meets tail plain tailed →
      FollowsWithin tail limit (fun value value' => value.map view = value'.map view)
        (item.run plain) (other.run tailed))
    (takes : ∀ before value after, item.run before = .ok (some value, after) →
      after.rest.length < before.rest.length) (meets : Meets tail plain tailed) :
    FollowsWithin tail limit (fun values values' => values.map view = values'.map view)
      ((Reader.many item).run plain) ((Reader.many other).run tailed) := by
  rw [Reader.many, Reader.many, Reader.run_left_bind, Reader.run_left_bind]
  exact follows_atMost view items takes (Nat.lt_succ_self _) (Nat.lt_succ_self _) meets

end PageCheck.Pattern
