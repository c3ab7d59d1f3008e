import PageCheck.Proofs.Pattern.Escapes

/-!
# Classes before a tail

A class is read in the same way with a tail after the text, up to places. A class that the text
leaves open is not closed by the tail, which has no bracket: the second reading reads on into it, and
loses it.
-/

namespace PageCheck.Pattern

open Reader

variable {α β : Type} {tail : List Char} {limit : Nat} {plain tailed : Cursor}

/-! ### Items and ranges -/

/-- A character that stands for itself is taken. -/
theorem length_of_readPlain {cursor after : Cursor} {part : Primitive} {c first : Char}
    {rest : List Char} (next : cursor.rest = c :: rest)
    (ran : (readPlain first).run cursor = .ok (part, after)) : after.rest.length ≤ rest.length := by
  rw [readPlain, run_position_bind] at ran
  exact length_of_advance_bind next ran

/-- A reader that takes the beginning of the tail loses it. -/
theorem loses_of_takes {reader : Reader α} {more : List Char} (closing : tail = ')' :: more)
    (takes : ∀ value cursor, reader.run tailed = .ok (value, cursor) →
      cursor.rest.length ≤ more.length) : Loses tail.length (reader.run tailed) := by
  intro value cursor hok
  rw [closing, List.length_cons]
  exact Nat.lt_succ_of_le (takes value cursor hok)

/-- An escape takes a character. -/
theorem length_of_readEscape {cursor after : Cursor} {part : Primitive} {c : Char}
    {rest : List Char} (next : cursor.rest = c :: rest)
    (ran : readEscape.run cursor = .ok (part, after)) : after.rest.length ≤ rest.length := by
  rw [readEscape, run_position_bind] at ran
  exact length_of_advance_bind next ran

/-- Both readings read the same character that stands for itself, up to its place. -/
theorem follows_readPlain (meets : Meets tail plain tailed) {c first : Char} {rest : List Char}
    (next : plain.rest = c :: rest) :
    FollowsWithin tail limit (fun part part' => part.bare = part'.bare)
      ((readPlain first).run plain) ((readPlain first).run tailed) := by
  rw [readPlain, run_position_bind, run_position_bind]
  exact (follows_advance meets next).bind fun _ _ _ _ _ _ meets => .ok rfl meets

/-- An item or an end of a range takes a character. -/
theorem length_of_readClassPrimitive {cursor after : Cursor} {part : Primitive} {c : Char}
    {rest : List Char} (next : cursor.rest = c :: rest)
    (ran : readClassPrimitive.run cursor = .ok (part, after)) :
    after.rest.length ≤ rest.length := by
  rw [readClassPrimitive, run_next?_bind, next] at ran
  dsimp only [List.head?_cons] at ran
  split at ran
  · exact length_of_readEscape next ran
  · exact length_of_readPlain next ran

/-- Both readings read the same item or end of a range up to its place, unless the second one gets
stuck at a boundary. -/
theorem follows_readClassPrimitive (closing : Closing tail) (meets : Meets tail plain tailed) :
    Follows tail (fun part part' => part.bare = part'.bare) (readClassPrimitive.run plain)
        (readClassPrimitive.run tailed) ∨
      ∃ span, Stuck tail (.place (.border .boundary) span) (readClassPrimitive.run plain)
        (readClassPrimitive.run tailed) := by
  rw [readClassPrimitive, run_next?_bind, run_next?_bind]
  rcases meets.cases closing with ⟨c, rest, hplain, htailed⟩ | ⟨hplain, htailed⟩ |
    ⟨more, htail, hplain, htailed⟩
  · rw [hplain, htailed]
    dsimp only [List.head?_cons]
    split
    · exact follows_readEscape closing meets hplain
    · exact .inl (follows_readPlain meets hplain)
  · rw [hplain, htailed]
    exact .inl .stop
  · rw [hplain, htailed]
    have hlost : Loses tail.length ((readPlain ')').run tailed) :=
      loses_of_takes htail fun _ _ hok => length_of_readPlain htailed hok
    exact .inl (.error hlost)

/-- Both readings make the same item of a part, up to its place. -/
theorem follows_classItem (meets : Meets tail plain tailed) {part part' : Primitive}
    (same : part.bare = part'.bare) :
    FollowsWithin tail limit (fun item item' => item.bare = item'.bare)
      ((classItem part).run plain) ((classItem part').run tailed) := by
  cases part <;> cases part' <;> cases same
  case place => exact .stop
  case dot => exact .stop
  all_goals exact .ok rfl meets

/-- Both readings make the same end of a range of a part. -/
theorem follows_classBound (meets : Meets tail plain tailed) {part part' : Primitive}
    (same : part.bare = part'.bare) :
    FollowsWithin tail limit Eq ((classBound part).run plain) ((classBound part').run tailed) := by
  cases part <;> cases part' <;> cases same
  case literal => exact .ok rfl meets
  all_goals exact .stop

/-- Both readings make the same range of its ends, up to places. -/
theorem follows_classRange (meets : Meets tail plain tailed) {first first' second second' : Primitive}
    (same : first.bare = first'.bare) (same' : second.bare = second'.bare) :
    FollowsWithin tail limit (fun item item' => item.bare = item'.bare)
      ((classRange first second).run plain) ((classRange first' second').run tailed) := by
  rw [classRange, classRange]
  refine (follows_classBound meets same).bind fun low _ plain tailed _ hlow meets => ?_
  refine (follows_classBound meets same').bind fun high _ plain tailed _ hhigh meets => ?_
  subst hlow hhigh
  dsimp only
  split
  · exact .ok rfl meets
  · exact .stop

/-- A boundary is no end of a range. -/
theorem loses_classRange (first : Primitive) (border : WordBorder) (span : Span) (cursor : Cursor) :
    Loses limit ((classRange first (.place (.border border) span)).run cursor) := by
  rw [classRange]
  intro value after hok
  obtain ⟨low, between, _, hrest⟩ := bind_ok hok
  cases hrest

/-- Both readings read the same range from its first end on, up to places. -/
theorem follows_readClassRangeFrom (closing : Closing tail) (opening opening' : Span)
    (meets : Meets tail plain tailed) {first first' : Primitive} (same : first.bare = first'.bare)
    {c : Char} {rest : List Char} (hyphen : plain.rest = c :: rest) :
    Follows tail (fun item item' => item.bare = item'.bare)
      ((readClassRangeFrom opening first).run plain)
      ((readClassRangeFrom opening' first').run tailed) := by
  rw [readClassRangeFrom, readClassRangeFrom]
  refine (follows_advanceOver closing meets hyphen).bind fun _ _ plain tailed _ _ meets => ?_
  refine .next closing meets (fun c rest hplain htailed => ?_) (fun _ _ => .stop)
    fun more htail _ htailed => .error ?_
  · dsimp only
    rcases follows_readClassPrimitive closing meets with hfollows | ⟨span, hstuck⟩
    · exact hfollows.bind fun second _ plain tailed _ same' meets =>
        follows_classRange meets same same'
    · obtain ⟨fault, hfault⟩ := hstuck.stopped
      obtain ⟨cursor, rest, hok, -⟩ := hstuck.braced
      rw [run_bind, run_bind, hfault, hok]
      exact .error (loses_classRange first' _ span cursor)
  · have hlost : Loses tail.length (readClassPrimitive.run tailed) :=
      loses_of_takes htail fun _ _ hok => length_of_readClassPrimitive htailed hok
    exact hlost.bind _

/-- Passing over blanks and comments stops before a character that is neither. -/
theorem run_skipBlanks_of_next {cursor : Cursor} {c : Char} {rest : List Char}
    (next : cursor.rest = c :: rest) (blank : Unicode.isBlank c = false) (sign : c ≠ '#') :
    skipBlanks.run cursor = .ok ((), cursor) := by
  have hdrop : dropBlanks false cursor.position cursor.rest = (cursor.rest, cursor.position) := by
    simp [next, dropBlanks, blank, sign]
  change Except.ok ((), if cursor.verbose then _ else cursor) = _
  rw [hdrop]
  split <;> rfl

/-- Where the second reading is stuck before a brace, it makes no item of the boundary. -/
theorem loses_readClassRange_of_stuck {opening : Span} {span : Span}
    {result : Except Fault (Primitive × Cursor)}
    (stuck : Stuck tail (.place (.border .boundary) span) result (readClassPrimitive.run tailed)) :
    Loses limit ((readClassRange opening).run tailed) := by
  obtain ⟨cursor, rest, hok, hbrace, hafter, -⟩ := stuck.braced
  intro value after hrange
  have hskip := run_skipBlanks_of_next hbrace (by decide) (by decide)
  have hfault : (readClassRange opening).run tailed =
      .error ⟨.escapeInClass, ⟨span.start, span.stop⟩⟩ := by
    rw [readClassRange, run_bind, hok]
    dsimp only
    rw [run_bind, hskip]
    dsimp only
    rw [run_next?_bind, hbrace]
    rfl
  rw [hfault] at hrange
  cases hrange

/-- An item or a range takes a character. -/
theorem length_of_readClassRange {cursor after : Cursor} {opening : Span} {item : ClassSyntax}
    {c : Char} {rest : List Char} (next : cursor.rest = c :: rest)
    (ran : (readClassRange opening).run cursor = .ok (item, after)) :
    after.rest.length ≤ rest.length := by
  rw [readClassRange] at ran
  obtain ⟨first, between, hfirst, hrest⟩ := bind_ok ran
  exact Nat.le_trans (Reader.shrinks _ hrest) (length_of_readClassPrimitive next hfirst)

/-- Both readings read the same item or range up to places, unless the text ends in it. A second
reading that goes on alone has read on to the tail. -/
theorem follows_readClassRange (closing : Closing tail) (opening opening' : Span)
    (meets : Meets tail plain tailed) :
    FollowsWithin tail (tail.length + 1) (fun item item' => item.bare = item'.bare)
      ((readClassRange opening).run plain) ((readClassRange opening').run tailed) := by
  rcases follows_readClassPrimitive closing meets with hfollows | ⟨span, hstuck⟩
  · rw [readClassRange, readClassRange]
    refine (hfollows.weaken (Nat.le_succ _)).bind fun first first' plain tailed _ same meets => ?_
    refine (follows_skipBlanks closing meets).bind fun _ _ plain tailed _ _ meets => ?_
    refine .next closing meets (fun c rest hplain htailed => ?_) (fun _ _ => .stop)
      fun more htail _ htailed => .error ?_
    · dsimp only
      rw [run_secondOver?_bind, run_secondOver?_bind]
      have hcondition : (c != '-' || secondOverAt tailed == some ']' ||
          secondOverAt tailed == some '-') = (c != '-' || secondOverAt plain == some ']' ||
          secondOverAt plain == some '-') := by
        rcases meets.secondOver closing hplain with hsame | ⟨hnone, hclosing, -⟩
        · rw [hsame]
        · rw [hnone, hclosing]
          rfl
      rw [hcondition]
      split
      · exact follows_classItem meets same
      · exact (follows_readClassRangeFrom closing opening opening' meets same hplain).weaken
          (Nat.le_succ _)
    · intro value cursor hok
      have hless := Reader.shrinks _ hok
      simp only [htailed, htail, List.length_cons] at hless ⊢
      omega
  · obtain ⟨fault, hfault⟩ := hstuck.stopped
    rw [readClassRange, run_bind, hfault]
    exact .error (loses_readClassRange_of_stuck hstuck)

/-! ### Named sets -/

/-- What comes before the first colon takes no more than there is. -/
theorem length_upToColon (text : List Char) : (upToColon text).length ≤ text.length := by
  induction text with
  | nil => exact Nat.le_refl _
  | cons c rest ih =>
    rw [upToColon]
    split
    · exact Nat.zero_le _
    · exact Nat.succ_le_succ ih

/-- A text without a colon comes before the first one as a whole. -/
theorem upToColon_of_notMem {text : List Char} (absent : ':' ∉ text) : upToColon text = text := by
  induction text with
  | nil => rfl
  | cons c rest ih =>
    have hc : c ≠ ':' := fun heq => absent (by simp [heq])
    rw [upToColon, if_neg hc, ih fun hmem => absent (List.mem_cons_of_mem c hmem)]

/-- A text with a colon is the same up to it with the tail; one without is the same as a whole. -/
theorem upToColon_append (closing : Closing tail) (text : List Char) :
    upToColon (text ++ tail) = upToColon text ∨
      (upToColon text = text ∧ upToColon (text ++ tail) = text ++ tail) := by
  induction text with
  | nil =>
    rcases closing with rfl | ⟨more, rfl, -, hcolon⟩
    · exact .inl rfl
    · exact .inr ⟨rfl, upToColon_of_notMem (by simpa using hcolon)⟩
  | cons c rest ih =>
    rw [List.cons_append, upToColon, upToColon]
    split
    · exact .inl rfl
    · rcases ih with hsame | ⟨hwhole, hwhole'⟩
      · exact .inl (by rw [hsame])
      · exact .inr ⟨by rw [hwhole], by rw [hwhole']⟩

/-- The tail does not change the name of a set with which a text begins. -/
theorem setName?_append (closing : Closing tail) (text : List Char) :
    setName? (text ++ tail) = setName? text := by
  unfold setName?
  dsimp only
  rcases upToColon_append closing text with hsame | ⟨hwhole, hwhole'⟩
  · have habsent : ')' ∉ [':', ']'] := by decide
    rw [hsame, List.drop_append_of_le_length (length_upToColon text),
      isPrefixOf_append closing habsent]
  · simp [hwhole, hwhole']

/-- The tail does not change the named set with which a text begins. -/
theorem namedSet?_append (closing : Closing tail) (text : List Char) :
    namedSet? (text ++ tail) = namedSet? text := by
  unfold namedSet?
  rw [isPrefixOf_append closing (by decide), isPrefixOf_append closing (by decide)]
  split
  · rename_i hprefix
    have hlength : 3 ≤ text.length := (List.isPrefixOf_iff_prefix.mp hprefix).length_le
    rw [List.drop_append_of_le_length hlength, setName?_append closing]
  · split
    · rename_i hprefix
      have hlength : 2 ≤ text.length := (List.isPrefixOf_iff_prefix.mp hprefix).length_le
      rw [List.drop_append_of_le_length hlength, setName?_append closing]
    · rfl

/-- A name of a set is followed by two more characters. -/
theorem length_of_setName? {text : List Char} {name : String} (found : setName? text = some name) :
    name.length + 2 ≤ text.length := by
  unfold setName? at found
  dsimp only at found
  split at found
  · rename_i hknown
    cases found
    have hprefix := (Bool.and_eq_true_iff.mp hknown).2
    have hlength := (List.isPrefixOf_iff_prefix.mp hprefix).length_le
    rw [List.length_drop] at hlength
    have hname := length_upToColon text
    simp only [List.length_cons, List.length_nil, String.length_ofList] at hlength ⊢
    omega
  · cases found

/-- A named set takes characters, and no more than there are. -/
theorem length_of_namedSet? {text : List Char} {name : String} {negated : Bool} {length : Nat}
    (found : namedSet? text = some (name, negated, length)) : 0 < length ∧ length ≤ text.length := by
  unfold namedSet? at found
  split at found
  · rename_i hprefix
    have hlength := (List.isPrefixOf_iff_prefix.mp hprefix).length_le
    obtain ⟨_, hname, heq⟩ := Option.map_eq_some_iff.mp found
    cases heq
    have hname := length_of_setName? hname
    simp only [List.length_drop, List.length_cons, List.length_nil] at hname hlength
    omega
  · split at found
    · rename_i hprefix
      have hlength := (List.isPrefixOf_iff_prefix.mp hprefix).length_le
      obtain ⟨_, hname, heq⟩ := Option.map_eq_some_iff.mp found
      cases heq
      have hname := length_of_setName? hname
      simp only [List.length_drop, List.length_cons, List.length_nil] at hname hlength
      omega
    · cases found

/-- Both readings read the same named set up to its place, if one comes next. -/
theorem follows_readNamedSet? (closing : Closing tail) (meets : Meets tail plain tailed) :
    FollowsWithin tail limit (fun item item' => item.map ClassSyntax.bare = item'.map ClassSyntax.bare)
      (readNamedSet?.run plain) (readNamedSet?.run tailed) := by
  have hsame : namedSet? tailed.rest = namedSet? plain.rest := by
    rcases meets.rest with hrest | ⟨hplain, htailed⟩
    · rw [hrest, namedSet?_append closing]
    · rw [hplain, htailed]
  rw [readNamedSet?, run_look_bind, run_look_bind, hsame]
  cases hfound : namedSet? plain.rest with
  | none => exact .ok rfl meets
  | some found =>
    obtain ⟨name, negated, length⟩ := found
    rw [run_position_bind, run_position_bind]
    exact (follows_skip meets (length_of_namedSet? hfound).2).bind fun _ _ _ _ _ _ meets =>
      .ok rfl meets

/-- A named set takes a character. -/
theorem takes_readNamedSet? : Takes readNamedSet? := by
  intro before value after ran
  rw [readNamedSet?, run_look_bind] at ran
  cases hfound : namedSet? before.rest with
  | none => simp [hfound] at ran
  | some found =>
    obtain ⟨name, negated, length⟩ := found
    obtain ⟨hpositive, hwithin⟩ := length_of_namedSet? hfound
    rw [hfound] at ran
    dsimp only at ran
    rw [run_position_bind] at ran
    obtain ⟨_, between, hskip, hdone⟩ := bind_ok ran
    cases hskip
    cases hdone
    simp only [List.length_drop]
    omega

/-- Nothing is read where no named set comes next. -/
theorem eq_of_readNamedSet?_none {cursor after : Cursor}
    (ran : readNamedSet?.run cursor = .ok (none, after)) : after = cursor := by
  rw [readNamedSet?, run_look_bind] at ran
  cases hfound : namedSet? cursor.rest with
  | none =>
    rw [hfound] at ran
    cases ran
    rfl
  | some found =>
    obtain ⟨name, negated, length⟩ := found
    rw [hfound] at ran
    dsimp only at ran
    rw [run_position_bind] at ran
    obtain ⟨_, between, _, hdone⟩ := bind_ok ran
    cases hdone

/-! ### The opening of a class -/

/-- Both readings find that a class goes on, unless the text ends. -/
theorem follows_expectMore (closing : Closing tail) (start start' : Nat)
    (meets : Meets tail plain tailed) :
    FollowsWithin tail (tail.length + 1) Eq ((expectMore start).run plain)
      ((expectMore start').run tailed) := by
  rw [expectMore, expectMore]
  refine .next closing meets (fun c rest hplain _ => .ok rfl meets) (fun _ _ => .stop)
    fun more htail _ htailed => .error ?_
  intro value cursor hok
  cases hok
  simp [htailed, htail]

/-- Both readings read the same sign that negates a class. -/
theorem follows_readNegation (closing : Closing tail) (meets : Meets tail plain tailed) :
    FollowsWithin tail limit Eq (readNegation.run plain) (readNegation.run tailed) := by
  rw [readNegation]
  refine .next closing meets (fun c rest hplain _ => ?_) (fun _ _ => .ok rfl meets)
    fun more _ _ _ => .ok rfl meets
  split
  · exact (follows_advanceOver closing meets hplain).bind fun _ _ _ _ _ _ meets => .ok rfl meets
  · exact .ok rfl meets

/-- Both readings read the same hyphen with which a class starts, up to its place, unless the text
ends after it. -/
theorem follows_hyphen? (closing : Closing tail) (opening opening' : Nat) (plain tailed : Cursor)
    (meets : Meets tail plain tailed) :
    FollowsWithin tail (tail.length + 1)
      (fun item item' => item.map ClassSyntax.bare = item'.map ClassSyntax.bare)
      ((hyphen? opening).run plain) ((hyphen? opening').run tailed) := by
  rw [hyphen?, hyphen?]
  refine .next closing meets (fun c rest hplain _ => ?_) (fun _ _ => .ok rfl meets)
    fun more _ _ _ => .ok rfl meets
  split
  · rw [run_position_bind, run_position_bind]
    refine (follows_advanceOver closing meets hplain).bind fun _ _ plain tailed _ _ meets => ?_
    refine .next closing meets (fun c rest hplain _ => .ok rfl meets) (fun _ _ => .stop)
      fun more htail _ htailed => .error ?_
    intro value cursor hok
    cases hok
    simp [htailed, htail]
  · exact .ok rfl meets

/-- A hyphen with which a class starts takes a character. -/
theorem takes_hyphen? (opening : Nat) : Takes (hyphen? opening) := by
  intro before value after ran
  rw [hyphen?, run_next?_bind] at ran
  cases hrest : before.rest with
  | nil => simp [hrest] at ran
  | cons c rest =>
    rw [hrest, List.head?_cons] at ran
    split at ran
    · rw [run_position_bind] at ran
      exact Nat.lt_succ_of_le (length_of_advanceOver_bind hrest ran)
    · cases ran

/-- Both readings read the same items with which a class starts, up to places, unless the text ends
in them. -/
theorem follows_readFirstItems (closing : Closing tail) (start start' : Nat)
    (meets : Meets tail plain tailed) :
    FollowsWithin tail (tail.length + 1)
      (fun items items' => items.map ClassSyntax.bare = items'.map ClassSyntax.bare)
      ((readFirstItems start).run plain) ((readFirstItems start').run tailed) := by
  rw [readFirstItems, readFirstItems]
  refine (follows_many ClassSyntax.bare (follows_hyphen? closing start start') (takes_hyphen? _)
    meets).bind fun hyphens hyphens' plain tailed _ same meets => ?_
  have hempty : hyphens'.isEmpty = hyphens.isEmpty := by
    have hlength := congrArg List.length same
    simp only [List.length_map] at hlength
    cases hyphens <;> cases hyphens' <;> simp_all
  rw [hempty]
  refine .next closing meets (fun c rest hplain _ => ?_) (fun _ _ => ?_) fun more _ _ _ => ?_
  · split
    · rw [run_position_bind, run_position_bind]
      refine (follows_advanceOver closing meets hplain).bind fun _ _ plain tailed _ _ meets => ?_
      exact (follows_expectMore closing start start' meets).bind fun _ _ _ _ _ _ meets =>
        .ok rfl meets
    · exact .ok same meets
  · rw [if_neg (by simp), if_neg (by simp)]
    exact .ok same meets
  · rw [if_neg (by simp), if_neg (by simp)]
    exact .ok same meets

/-- Both readings read the same opening of a class up to places, unless the text ends in it. -/
theorem follows_readClassOpening (closing : Closing tail) (start start' : Nat)
    (meets : Meets tail plain tailed) {c : Char} {rest : List Char} (bracket : plain.rest = c :: rest) :
    FollowsWithin tail (tail.length + 1)
      (fun opening opening' => opening.1 = opening'.1 ∧
        opening.2.map ClassSyntax.bare = opening'.2.map ClassSyntax.bare)
      ((readClassOpening start).run plain) ((readClassOpening start').run tailed) := by
  rw [readClassOpening, readClassOpening]
  refine (follows_advanceOver closing meets bracket).bind fun _ _ plain tailed _ _ meets => ?_
  refine (follows_expectMore closing start start' meets).bind fun _ _ plain tailed _ _ meets => ?_
  refine (follows_readNegation closing meets).bind fun negated _ plain tailed _ hnegated meets => ?_
  refine (follows_expectMore closing start start' meets).bind fun _ _ plain tailed _ _ meets => ?_
  exact (follows_readFirstItems closing start start' meets).bind fun _ _ _ _ _ same meets =>
    .ok ⟨hnegated, same⟩ meets

/-! ### Classes -/

/-- What stands before the items so far, without places. -/
def Reader.Pending.bare (pending : Pending) : Pending :=
  pending.map fun (operator, first) => (operator, first.bare)

/-- An operation is completed in the same way up to places. -/
theorem bare_complete {pending pending' : Pending} {items items' : List ClassSyntax}
    (same : pending.bare = pending'.bare)
    (sameItems : items.map ClassSyntax.bare = items'.map ClassSyntax.bare) :
    (complete pending items).bare = (complete pending' items').bare := by
  have hsecond : (ClassSyntax.ofItems items.reverse).bare =
      (ClassSyntax.ofItems items'.reverse).bare := by
    rw [ClassSyntax.bare_ofItems, ClassSyntax.bare_ofItems, List.map_reverse, List.map_reverse,
      sameItems]
  unfold complete
  rcases pending with _ | ⟨operator, first⟩ <;> rcases pending' with _ | ⟨operator', first'⟩
  · exact hsecond
  · simp [Pending.bare] at same
  · simp [Pending.bare] at same
  · obtain ⟨rfl, hfirst⟩ : operator = operator' ∧ first.bare = first'.bare := by
      simpa [Pending.bare] using same
    simp only [ClassSyntax.bare, hsecond, hfirst]

/-- An item of a class that begins with a character: a named set or a class in brackets, or else what
stands for itself. -/
def Reader.readClassItem (opening : Span) (c : Char) (fuel : Nat) : Reader ClassSyntax :=
  if c = '[' then do
    match ← readNamedSet? with
    | some item => return item
    | none => readClass fuel
  else readClassRange opening

section Items

variable {opening : Span} {pending : Pending} {items : List ClassSyntax} {fuel : Nat}
  {cursor inner after : Cursor}

/-- Where nothing is left but what may be passed over, a class is not closed. -/
theorem run_readClassItems_of_nil (skipped : skipBlanks.run cursor = .ok ((), inner))
    (ended : inner.rest = []) : (readClassItems opening pending items (fuel + 1)).run cursor =
      .error ⟨.unclosedClass, ⟨opening.start, opening.stop⟩⟩ := by
  rw [readClassItems, run_bind, skipped]
  dsimp only
  rw [run_next?_bind, ended]
  rfl

/-- Where a character comes next, it writes an operator, closes the class or begins an item. -/
theorem run_readClassItems_of_cons (skipped : skipBlanks.run cursor = .ok ((), inner)) {c : Char}
    {rest : List Char} (next : inner.rest = c :: rest) :
    (readClassItems opening pending items (fuel + 1)).run cursor =
      match operator? c (inner.rest.drop 1).head? with
      | some operator => (advance >>= fun _ => advance >>= fun _ =>
          readClassItems opening (some (operator, complete pending items)) [] fuel).run inner
      | none =>
        if c = ']' then (advance >>= fun _ => pure (complete pending items)).run inner
        else (readClassItem opening c fuel >>= fun item =>
          readClassItems opening pending (item :: items) fuel).run inner := by
  rw [readClassItems, run_bind, skipped]
  dsimp only
  rw [run_next?_bind, next, List.head?_cons]
  dsimp only
  rw [run_second?_bind, next]
  cases operator? c ((c :: rest).drop 1).head? with
  | some operator => rfl
  | none =>
    dsimp only
    rw [readClassItem]
    split
    · rfl
    · split
      · rw [run_bind, run_bind, run_bind]
        rcases readNamedSet?.run inner with _ | ⟨_ | item, between⟩ <;> rfl
      · rfl

/-- The items of a class take a character after what may be passed over, since the closing bracket
is read. -/
theorem length_of_readClassItems {contents : ClassSyntax}
    (ran : (readClassItems opening pending items fuel).run cursor = .ok (contents, after)) :
    ∃ between, skipBlanks.run cursor = .ok ((), between) ∧
      after.rest.length < between.rest.length := by
  induction fuel generalizing pending items cursor with
  | zero => cases ran
  | succ fuel ih =>
    have hfurther : ∀ {pending items cursor},
        (readClassItems opening pending items fuel).run cursor = .ok (contents, after) →
        after.rest.length < cursor.rest.length := by
      intro pending items cursor hran
      obtain ⟨between, hskip, hlength⟩ := ih hran
      exact Nat.lt_of_lt_of_le hlength (skipBlanks.shrinks hskip)
    have hitems := ran
    rw [readClassItems] at hitems
    obtain ⟨_, between, hskip, -⟩ := bind_ok hitems
    refine ⟨between, hskip, ?_⟩
    cases hrest : between.rest with
    | nil =>
      rw [run_readClassItems_of_nil hskip hrest] at ran
      cases ran
    | cons c rest =>
      rw [run_readClassItems_of_cons hskip hrest] at ran
      rw [← hrest]
      split at ran
      · obtain ⟨_, first, hfirst, ran⟩ := bind_ok ran
        obtain ⟨_, second, hsecond, ran⟩ := bind_ok ran
        have hadvance := advance.shrinks hfirst
        have hadvance' := advance.shrinks hsecond
        have hlast := hfurther ran
        omega
      · split at ran
        · have hadvance := length_of_advance_bind hrest ran
          simp only [hrest, List.length_cons]
          omega
        · obtain ⟨item, first, hitem, ran⟩ := bind_ok ran
          have hshrinks := (readClassItem opening c fuel).shrinks hitem
          have hlast := hfurther ran
          omega

end Items

/-- A class takes a character. -/
theorem length_of_readClass {fuel : Nat} {cursor after : Cursor} {item : ClassSyntax}
    (ran : (readClass fuel).run cursor = .ok (item, after)) :
    after.rest.length < cursor.rest.length := by
  cases fuel with
  | zero => cases ran
  | succ fuel =>
    rw [readClass, run_position_bind] at ran
    obtain ⟨opening, first, hopening, ran⟩ := bind_ok ran
    rw [run_position_bind] at ran
    obtain ⟨contents, second, hcontents, ran⟩ := bind_ok ran
    cases ran
    obtain ⟨between, hskip, hlength⟩ := length_of_readClassItems hcontents
    have hfirst := (readClassOpening _).shrinks hopening
    have hbetween := skipBlanks.shrinks hskip
    omega

/-- An item of a class takes a character. -/
theorem length_of_readClassItem {opening : Span} {fuel : Nat} {cursor after : Cursor} {c : Char}
    {rest : List Char} {item : ClassSyntax} (next : cursor.rest = c :: rest)
    (ran : (readClassItem opening c fuel).run cursor = .ok (item, after)) :
    after.rest.length < cursor.rest.length := by
  rw [readClassItem] at ran
  split at ran
  · obtain ⟨named, between, hnamed, hitem⟩ := bind_ok ran
    cases named with
    | some item =>
      cases hitem
      exact takes_readNamedSet? _ _ _ hnamed
    | none =>
      obtain rfl := eq_of_readNamedSet?_none hnamed
      exact length_of_readClass hitem
  · rw [next]
    exact Nat.lt_succ_of_le (length_of_readClassRange next ran)

/-- Both readings find the same operator. -/
theorem Meets.operator (closing : Closing tail) (meets : Meets tail plain tailed) {c : Char}
    {rest : List Char} (next : plain.rest = c :: rest) :
    operator? c (tailed.rest.drop 1).head? = operator? c (plain.rest.drop 1).head? := by
  have hrest : tailed.rest = c :: (rest ++ tail) := by simpa [next] using meets.rest
  rw [hrest, next, List.drop_succ_cons, List.drop_zero, List.drop_succ_cons, List.drop_zero]
  cases rest with
  | cons second rest => rfl
  | nil =>
    rcases closing with rfl | ⟨more, rfl, -⟩
    · rfl
    · simp only [List.nil_append, List.head?_cons, List.head?_nil, operator?]
      by_cases hc : c = ')'
      · subst hc
        rfl
      · have hne : (some ')' != some c) = true := by simpa using fun heq => hc heq.symm
        simp [hne]

/-- An operator is written by two characters. -/
theorem second_of_operator? {c : Char} {second : Option Char} {operator : ClassOperator}
    (found : operator? c second = some operator) : second = some c := by
  unfold operator? at found
  split at found
  · cases found
  · rename_i hsecond
    simpa using hsecond

/-- Both readings go past the two characters of an operator. -/
theorem follows_operator {alike : α → α → Prop} (meets : Meets tail plain tailed) {c : Char}
    {rest : List Char} (next : plain.rest = c :: rest) {operator : ClassOperator}
    (found : operator? c (plain.rest.drop 1).head? = some operator) {reader other : Reader α}
    (further : ∀ plain' tailed', Meets tail plain' tailed' →
      plain'.rest.length < plain.rest.length →
      FollowsWithin tail limit alike (reader.run plain') (other.run tailed')) :
    FollowsWithin tail limit alike
      ((advance >>= fun _ => advance >>= fun _ => reader).run plain)
      ((advance >>= fun _ => advance >>= fun _ => other).run tailed) := by
  have hsecond := second_of_operator? found
  rw [next, List.drop_succ_cons, List.drop_zero] at hsecond
  obtain ⟨others, rfl⟩ := List.head?_eq_some_iff.mp hsecond
  refine (follows_advance meets next).bind fun _ _ first _ hran _ hfirst => ?_
  have hrest : first.rest = c :: others := length_of_advance next hran
  refine (follows_advance hfirst hrest).bind fun _ _ second _ hran' _ hmeets => ?_
  have hlast : second.rest = others := length_of_advance hrest hran'
  refine further _ _ hmeets ?_
  rw [hlast, next, List.length_cons, List.length_cons]
  omega

/-- A reading that has read on to the tail loses it in the items of a class. -/
theorem loses_readClassItems {opening : Span} {pending : Pending} {items : List ClassSyntax}
    {fuel : Nat} {cursor : Cursor} (short : cursor.rest.length < tail.length + 1) :
    Loses tail.length ((readClassItems opening pending items fuel).run cursor) := by
  intro contents after hok
  obtain ⟨between, hskip, hless⟩ := length_of_readClassItems hok
  have hbetween := skipBlanks.shrinks hskip
  omega

section Fuel

variable (tail) (fuel : Nat)

/-- Both readings read the same class, if they may take steps enough. -/
def SameClass : Prop :=
  ∀ (fuel' : Nat) (plain tailed : Cursor), Meets tail plain tailed → plain.rest ≠ [] →
    2 * plain.rest.length ≤ fuel + 1 → 2 * tailed.rest.length ≤ fuel' + 1 →
    Follows tail (fun item item' => item.bare = item'.bare) ((readClass fuel).run plain)
      ((readClass fuel').run tailed)

/-- Both readings read the same items of a class, if they may take steps enough. -/
def SameItems : Prop :=
  ∀ (fuel' : Nat) (plain tailed : Cursor) (opening opening' : Span) (pending pending' : Pending)
    (items items' : List ClassSyntax), Meets tail plain tailed → pending.bare = pending'.bare →
    items.map ClassSyntax.bare = items'.map ClassSyntax.bare →
    2 * plain.rest.length ≤ fuel → 2 * tailed.rest.length ≤ fuel' →
    Follows tail (fun item item' => item.bare = item'.bare)
      ((readClassItems opening pending items fuel).run plain)
      ((readClassItems opening' pending' items' fuel').run tailed)

variable {tail} {fuel}

/-- A class is read in the same way if its items are. -/
theorem sameClass_succ (closing : Closing tail) (same : SameItems tail fuel) :
    SameClass tail (fuel + 1) := by
  intro fuel' plain tailed meets hnonempty henough henough'
  obtain ⟨c, rest, hplain⟩ := List.exists_cons_of_ne_nil hnonempty
  have htailed : tailed.rest = c :: (rest ++ tail) := by simpa [hplain] using meets.rest
  cases fuel' with
  | zero =>
    simp only [htailed, List.length_cons] at henough'
    omega
  | succ fuel' =>
    rw [readClass, readClass, run_position_bind, run_position_bind]
    refine (follows_readClassOpening closing _ _ meets hplain).bind_over
      (fun opening cursor _ hshort => (loses_readClassItems hshort).bind _)
      fun opening opening' inner inner' hrun hopening meets' => ?_
    have hless : inner.rest.length < plain.rest.length := by
      rw [readClassOpening] at hrun
      have hrest := length_of_advanceOver_bind hplain hrun
      rw [hplain]
      exact Nat.lt_succ_of_le hrest
    have hless' := meets.length_lt meets' hless
    obtain ⟨hnegated, hitems⟩ := hopening
    rw [run_position_bind, run_position_bind]
    refine (same fuel' inner inner' _ _ _ _ _ _ meets' rfl ?_ (by omega) (by omega)).bind
      fun contents contents' plain tailed _ hcontents meets => ?_
    · rw [List.map_reverse, List.map_reverse, hitems]
    · exact .ok (by simp only [ClassSyntax.bare, hnegated, hcontents]) meets

/-- An item of a class is read in the same way if the classes are. A second reading that goes on
alone has read on to the tail. Where there is no named set the readings stand where they stood. -/
theorem follows_readClassItem (closing : Closing tail) (sameClass : SameClass tail fuel)
    {fuel' : Nat} (opening opening' : Span) (meets : Meets tail plain tailed) {c : Char}
    {rest : List Char} (next : plain.rest = c :: rest) (enough : 2 * plain.rest.length ≤ fuel + 1)
    (enough' : 2 * tailed.rest.length ≤ fuel' + 1) :
    FollowsWithin tail (tail.length + 1) (fun item item' => item.bare = item'.bare)
      ((readClassItem opening c fuel).run plain) ((readClassItem opening' c fuel').run tailed) := by
  rw [readClassItem, readClassItem]
  split
  · refine (follows_readNamedSet? closing meets).bind
      fun named named' inner inner' hran hnamed hinner => ?_
    cases named with
    | some item =>
      obtain ⟨item', rfl, hitem⟩ := Option.map_eq_some_iff.mp hnamed.symm
      exact .ok hitem.symm hinner
    | none =>
      obtain rfl : named' = none := by simpa using hnamed.symm
      obtain rfl := eq_of_readNamedSet?_none hran
      have htailed : tailed.rest = c :: (rest ++ tail) := by simpa [next] using meets.rest
      have hinner' : inner'.rest = c :: (rest ++ tail) := by simpa [next] using hinner.rest
      refine (sameClass fuel' inner inner' hinner (by simp [next]) enough ?_).weaken (Nat.le_succ _)
      rw [hinner', ← htailed]
      exact enough'
  · exact follows_readClassRange closing opening opening' meets

/-- Where nothing is left of the text but what may be passed over, the first reading stops, and a
second one that is closed has read a part of the tail. -/
theorem follows_readClassItems_of_nil {fuel' : Nat} {opening opening' : Span}
    {pending pending' : Pending} {items items' : List ClassSyntax} {inner inner' : Cursor}
    (skipped : skipBlanks.run plain = .ok ((), inner))
    (skipped' : skipBlanks.run tailed = .ok ((), inner')) (ended : inner.rest = [])
    (short : inner'.rest.length ≤ tail.length) :
    Follows tail (fun item item' => item.bare = item'.bare)
      ((readClassItems opening pending items (fuel + 1)).run plain)
      ((readClassItems opening' pending' items' fuel').run tailed) := by
  rw [run_readClassItems_of_nil skipped ended]
  refine .error fun contents after hok => ?_
  obtain ⟨between, hbetween, hless⟩ := length_of_readClassItems hok
  rw [skipped'] at hbetween
  cases hbetween
  exact Nat.lt_of_lt_of_le hless short

/-- The items of a class are read in the same way if its classes and the further items are. An item
takes a character, so that there are steps enough for the further ones. -/
theorem sameItems_succ (closing : Closing tail) (sameClass : SameClass tail fuel)
    (same : SameItems tail fuel) : SameItems tail (fuel + 1) := by
  intro fuel' plain tailed opening opening' pending pending' items items' meets hpending hitems
    henough henough'
  obtain ⟨inner, inner', hskip, hskip', hmeets⟩ := meets.skipBlanks closing
  have hinner := skipBlanks.shrinks hskip
  have hinner' := skipBlanks.shrinks hskip'
  rcases hmeets.cases closing with ⟨c, rest, hplain, htailed⟩ | ⟨hplain, htailed⟩ |
    ⟨more, htail, hplain, htailed⟩
  · cases fuel' with
    | zero =>
      simp only [htailed, List.length_cons] at hinner'
      omega
    | succ fuel' =>
      rw [run_readClassItems_of_cons hskip hplain, run_readClassItems_of_cons hskip' htailed,
        hmeets.operator closing hplain]
      cases hoperator : operator? c (inner.rest.drop 1).head? with
      | some operator =>
        dsimp only
        refine follows_operator hmeets hplain hoperator fun next next' hnext hless => ?_
        have hless' := hmeets.length_lt hnext hless
        refine same fuel' next next' _ _ _ _ [] [] hnext ?_ rfl (by omega) (by omega)
        simp only [Pending.bare, Option.map_some, bare_complete hpending hitems]
      | none =>
        dsimp only
        split
        · exact (follows_advance hmeets hplain).bind fun _ _ _ _ _ _ meets =>
            .ok (bare_complete hpending hitems) meets
        · refine (follows_readClassItem closing sameClass opening opening' hmeets hplain
            (by omega) (by omega)).bind_over (fun item cursor _ hshort => loses_readClassItems hshort)
            fun item item' next next' hran hitem hnext => ?_
          have hless := length_of_readClassItem hplain hran
          have hless' := hmeets.length_lt hnext hless
          refine same fuel' next next' _ _ _ _ _ _ hnext hpending ?_ (by omega) (by omega)
          rw [List.map_cons, List.map_cons, hitem, hitems]
  · exact follows_readClassItems_of_nil hskip hskip' hplain (by simp [htailed])
  · exact follows_readClassItems_of_nil hskip hskip' hplain (by simp [htailed, htail])

end Fuel

/-- **Classes before a tail.** Both readings read the same class and the same items of a class up to
places, if they may take steps enough. -/
theorem sameClass_and_sameItems (closing : Closing tail) (fuel : Nat) :
    SameClass tail fuel ∧ SameItems tail fuel := by
  induction fuel with
  | zero =>
    constructor
    · intro fuel' plain tailed _ hnonempty henough _
      obtain ⟨c, rest, hplain⟩ := List.exists_cons_of_ne_nil hnonempty
      simp only [hplain, List.length_cons] at henough
      omega
    · intro fuel' plain tailed opening opening' pending pending' items items' meets _ _ henough _
      have hshort : tailed.rest.length < tail.length + 1 := by
        have hnil : plain.rest = [] := List.eq_nil_of_length_eq_zero (by omega)
        rcases meets.rest with hrest | ⟨-, hrest⟩ <;> simp [hrest, hnil]
      exact .error (loses_readClassItems hshort)
  | succ fuel ih =>
    exact ⟨sameClass_succ closing ih.2, sameItems_succ closing ih.1 ih.2⟩

end PageCheck.Pattern
