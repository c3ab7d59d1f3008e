import PageCheck.Pattern.Compile
import PageCheck.Proofs.Pattern.Groups
import PageCheck.Proofs.Pattern.Matching

/-!
# Matching the whole of a text

To match all of a text, a pattern is read between `^(?:` and `)$`, as one text, and means the framed
pattern there, if it survives the company. It does not if a comment that it leaves open swallows the
closing parenthesis, if the group makes it nest too deep or the signs make it too large, and a
parenthesis that it does not open itself closes the group instead of being refused. The other way
round, a pattern that is just too large by itself need not be so between the signs, since its machine
begins without a loop over any bytes.
-/

namespace PageCheck.Pattern

open Reader

/-- What comes of reading a whole pattern, however deep it nests. -/
def read (chars : List Char) : Except Fault Syntax :=
  (readPattern.run ⟨chars, 0, false, []⟩).map Prod.fst

/-- A pattern is what is read of it, unless it nests too deep. -/
theorem parse_eq (pattern : String) : parse pattern = read pattern.toList >>= fun part =>
    if nestLimit < part.depth then .error ⟨.tooDeep, ⟨0, pattern.toList.length⟩⟩ else .ok part := by
  rw [parse, read]
  rcases readPattern.run ⟨pattern.toList, 0, false, []⟩ with fault | ⟨part, cursor⟩
  · rfl
  · rfl

/-- A whole pattern is read if its choices are and nothing is left. -/
theorem read_eq (chars : List Char) : read chars =
    match (readChoices [] [] (2 * chars.length + 2)).run ⟨chars, 0, false, []⟩ with
    | .error fault => .error fault
    | .ok (part, cursor) =>
      match cursor.rest with
      | [] => .ok part
      | _ :: _ => .error ⟨.unopenedGroup, ⟨cursor.position, cursor.position + 1⟩⟩ := by
  rw [read, readPattern, run_left_bind, run_bind]
  rcases (readChoices [] [] (2 * chars.length + 2)).run ⟨chars, 0, false, []⟩ with
    fault | ⟨part, cursor⟩
  · rfl
  · dsimp only
    rw [run_next?_bind]
    cases cursor.rest <;> rfl

/-! ### Reading between the signs -/

/-- What is written after a pattern. -/
def closingSign : List Char := [')', '$']

/-- What is written after a pattern closes a group. -/
theorem closing_closingSign : Closing closingSign :=
  .inr ⟨['$'], rfl, by decide, by decide⟩

/-- The characters that are read where a pattern has to match all of a text. -/
theorem toList_anchored (pattern : String) :
    (anchored pattern).toList =
      '^' :: '(' :: '?' :: ':' :: (pattern.toList ++ closingSign) := by
  simp [anchored, closingSign]

/-- The syntax of a part between the signs for the start and the end of a line. -/
def between (part : Syntax) : Syntax :=
  .sequence [.place .lineStart, .group false [] part, .place .lineEnd]

/-- The group that is written before a pattern opens. -/
theorem run_readOpening_plain (chars : List Char) :
    readOpening.run ⟨'(' :: '?' :: ':' :: chars, 1, false, []⟩ =
      .ok (.group false [], ⟨chars, 4, false, []⟩) := rfl

/-- The choices that are read inside the group between the signs. -/
def inside (chars : List Char) : Except Fault (Syntax × Cursor) :=
  (readChoices [] [] (2 * chars.length + 7)).run ⟨chars, 4, false, []⟩

/-- The group between the signs is what its choices are, if it is closed. -/
theorem run_readGroup_plain (chars : List Char) :
    (readGroup (2 * chars.length + 8)).run ⟨'(' :: '?' :: ':' :: chars, 1, false, []⟩ =
      match inside chars with
      | .error fault => .error fault
      | .ok (part, cursor) =>
        match cursor.rest with
        | [] => .error ⟨.unclosedGroup, ⟨1, 2⟩⟩
        | _ :: _ => (advance >>= fun _ => pure (.group false [] part)).run
          { cursor with verbose := false } := by
  have happly : (applyVerbose []).run ⟨chars, 4, false, []⟩ = .ok ((), ⟨chars, 4, false, []⟩) := rfl
  rw [readGroup, run_position_bind, run_bind, run_readOpening_plain]
  dsimp only
  rw [run_isVerbose_bind, run_bind, happly]
  dsimp only
  rw [run_bind, inside]
  rcases (readChoices [] [] (2 * chars.length + 7)).run ⟨chars, 4, false, []⟩ with
    fault | ⟨part, rest, position, verbose, names⟩
  · rfl
  · dsimp only
    rw [run_next?_bind]
    cases rest <;> rfl

/-- Nothing is passed over unless that has been turned on. -/
theorem run_skipBlanks_plain (rest : List Char) (position : Nat) (names : List (List Char × Span)) :
    skipBlanks.run ⟨rest, position, false, names⟩ = .ok ((), ⟨rest, position, false, names⟩) := rfl

/-- Between the signs, the group is read first. -/
theorem run_readChoices_anchored (chars : List Char) (fuel : Nat) :
    (readChoices [] [] (fuel + 2)).run ⟨'^' :: '(' :: '?' :: ':' :: chars, 0, false, []⟩ =
      (readGroup fuel >>= fun part => readChoices [] [part, .place .lineStart] fuel).run
        ⟨'(' :: '?' :: ':' :: chars, 1, false, []⟩ := by
  have hsign : ∀ rest, (readPart '^').run ⟨'^' :: rest, 0, false, []⟩ =
      .ok (.place .lineStart, ⟨rest, 1, false, []⟩) := fun rest => rfl
  have hpart : ∀ rest, (readChoices [] [] (fuel + 2)).run ⟨'^' :: rest, 0, false, []⟩ =
      (readPart '^' >>= fun part => readChoices [] [part] (fuel + 1)).run
        ⟨'^' :: rest, 0, false, []⟩ := by
    intro rest
    rw [readChoices, run_bind, run_skipBlanks_plain]
    simp [isRepetition]
  rw [hpart, run_bind, hsign]
  dsimp only
  rw [readChoices, run_bind, run_skipBlanks_plain]
  simp [isRepetition]

/-- The sign for the end of a line comes last. -/
theorem run_readChoices_closing (part : Syntax) (fuel position : Nat) (names : List (List Char × Span)) :
    ∃ cursor, (readChoices [] [.group false [] part, .place .lineStart] (fuel + 8)).run
        ⟨['$'], position, false, names⟩ = .ok (between part, cursor) ∧ cursor.rest = [] :=
  ⟨_, rfl, rfl⟩

/-- Between the signs the choices inside the group are read, and then the sign for the end. -/
theorem read_anchored (chars : List Char) : read ('^' :: '(' :: '?' :: ':' :: chars) =
    match inside chars with
    | .error fault => .error fault
    | .ok (part, cursor) =>
      match cursor.rest with
      | [] => .error ⟨.unclosedGroup, ⟨1, 2⟩⟩
      | _ :: rest =>
        match (readChoices [] [.group false [] part, .place .lineStart]
            (2 * chars.length + 8)).run ⟨rest, cursor.position + 1, false, cursor.names⟩ with
        | .error fault => .error fault
        | .ok (part, cursor) =>
          match cursor.rest with
          | [] => .ok part
          | _ :: _ => .error ⟨.unopenedGroup, ⟨cursor.position, cursor.position + 1⟩⟩ := by
  have hfuel : 2 * ('^' :: '(' :: '?' :: ':' :: chars).length + 2 = 2 * chars.length + 8 + 2 := by
    simp only [List.length_cons]
    omega
  rw [read_eq, hfuel, run_readChoices_anchored, run_bind, run_readGroup_plain]
  rcases inside chars with fault | ⟨part, rest, position, verbose, names⟩
  · rfl
  · cases rest <;> rfl

/-- How a pattern fares between the signs. -/
inductive Fares (chars : List Char) : Prop
  /-- It is the same in the group. -/
  | kept {part part' : Syntax} {span : Span} (plain : read chars = .ok part)
      (closed : read (chars ++ closingSign) = .error ⟨.unopenedGroup, span⟩)
      (anchored : read ('^' :: '(' :: '?' :: ':' :: (chars ++ closingSign)) = .ok (between part'))
      (same : part.bare = part'.bare)
  /-- It swallows the sign that closes the group. -/
  | swallowed {part part' : Syntax} {fault : Fault} (plain : read chars = .ok part)
      (closed : read (chars ++ closingSign) = .ok part')
      (anchored : read ('^' :: '(' :: '?' :: ':' :: (chars ++ closingSign)) = .error fault)
      (same : part.bare = part'.bare)
  /-- It closes a group that it does not open. -/
  | unopened {span : Span} (plain : read chars = .error ⟨.unopenedGroup, span⟩)
  /-- It is refused either way. -/
  | refused {fault fault' : Fault} (plain : read chars = .error fault)
      (anchored : read ('^' :: '(' :: '?' :: ':' :: (chars ++ closingSign)) = .error fault')

/-- Nothing but the sign for the end is shorter than what is written after a pattern. -/
theorem rest_eq_nil_of_short {chars rest : List Char} (suffix : rest <:+ chars ++ closingSign)
    (short : rest.length < closingSign.length) (ends : rest = [] ∨ ∃ more, rest = ')' :: more) :
    rest = [] := by
  rcases ends with hnil | ⟨more, rfl⟩
  · exact hnil
  · cases more with
    | cons c more =>
      simp only [closingSign, List.length_cons, List.length_nil] at short
      omega
    | nil =>
      have hlast := suffix.getLast (by simp)
      simp [closingSign] at hlast

/-- The choices of a text that is read alone against those that are read inside the group, with a tail
after the text. -/
theorem follows_inside {tail : List Char} (closing : Closing tail) (chars : List Char) :
    Follows tail (fun part part' => part.bare = part'.bare)
      ((readChoices [] [] (2 * chars.length + 2)).run ⟨chars, 0, false, []⟩)
      (inside (chars ++ tail)) :=
  (sameChoices_and_sameGroup closing (2 * chars.length + 2)).1 (2 * (chars ++ tail).length + 7)
    ⟨chars, 0, false, []⟩ ⟨chars ++ tail, 4, false, []⟩ [] [] [] [] ⟨.inl rfl, rfl, rfl⟩ rfl rfl
    (by simp) (by dsimp only; omega)

/-- What is read inside the group is read of the same text alone, and the same is left. -/
theorem alone_of_inside {chars : List Char} {inner : Syntax} {tailed : Cursor}
    (ran : inside chars = .ok (inner, tailed)) : ∃ part cursor,
      (readChoices [] [] (2 * chars.length + 2)).run ⟨chars, 0, false, []⟩ = .ok (part, cursor) ∧
        part.bare = inner.bare ∧ cursor.rest = tailed.rest := by
  have hfollows := follows_inside (.inl rfl) chars
  rw [List.append_nil, ran] at hfollows
  generalize (readChoices [] [] (2 * chars.length + 2)).run ⟨chars, 0, false, []⟩ = result
    at hfollows
  cases hfollows with
  | error lost => exact absurd (lost _ _ rfl) (Nat.not_lt_zero _)
  | @ok part _ cursor _ same meets =>
    refine ⟨part, cursor, rfl, same, ?_⟩
    rcases meets.rest with hrest | ⟨hnil, hnil'⟩
    · rw [hrest, List.append_nil]
    · rw [hnil, hnil']

/-- A pattern is refused between the signs if the closing one is lost inside the group. -/
theorem refused_of_loses {chars : List Char}
    (lost : Loses closingSign.length (inside (chars ++ closingSign))) :
    ∃ fault, read ('^' :: '(' :: '?' :: ':' :: (chars ++ closingSign)) = .error fault := by
  rw [read_anchored]
  cases hinside : inside (chars ++ closingSign) with
  | error fault => exact ⟨fault, rfl⟩
  | ok result =>
    have hnil := rest_eq_nil_of_short (Reader.suffix _ hinside) (lost _ _ hinside)
      (rest_of_readChoices hinside)
    dsimp only
    rw [hnil]
    exact ⟨_, rfl⟩

/-- A pattern is read between the signs if the closing one is left after what is inside the group. -/
theorem read_anchored_of_kept {chars : List Char} {inner : Syntax} {tailed : Cursor}
    (ran : inside chars = .ok (inner, tailed)) (kept : tailed.rest = closingSign) :
    read ('^' :: '(' :: '?' :: ':' :: chars) = .ok (between inner) := by
  obtain ⟨cursor, hdone, hend⟩ := run_readChoices_closing inner (2 * chars.length)
    (tailed.position + 1) tailed.names
  rw [read_anchored, ran]
  dsimp only
  rw [kept]
  dsimp only [closingSign]
  rw [hdone]
  dsimp only
  rw [hend]

/-- **Reading between the signs.** A pattern that is read alone is read in the same way between the
signs, unless it swallows the closing one; one that is refused alone is refused, unless it closes a
group that it does not open. -/
theorem fares (chars : List Char) : Fares chars := by
  have hfollows := follows_inside closing_closingSign chars
  have hplain := read_eq chars
  have hclosed := read_eq (chars ++ closingSign)
  rcases hrun : (readChoices [] [] (2 * chars.length + 2)).run ⟨chars, 0, false, []⟩ with
    fault | ⟨part, cursor⟩
  · rw [hrun] at hfollows hplain
    generalize hinside : inside (chars ++ closingSign) = result at hfollows
    cases hfollows with
    | error lost =>
      rw [← hinside] at lost
      obtain ⟨fault', hanchored⟩ := refused_of_loses lost
      exact .refused hplain hanchored
  · rw [hrun] at hfollows hplain
    generalize hinside : inside (chars ++ closingSign) = result at hfollows
    cases hfollows with
    | @ok _ inner _ tailed same meets =>
      obtain ⟨closedPart, closed, hran, hsame, hleft⟩ := alone_of_inside hinside
      rw [hran] at hclosed
      dsimp only at hplain hclosed
      rw [hleft] at hclosed
      rcases rest_of_readChoices hrun with hnil | ⟨more, hmore⟩
      · rw [hnil] at hplain
        rcases meets.rest with hkept | ⟨-, hswallowed⟩
        · rw [hnil, List.nil_append] at hkept
          rw [hkept] at hclosed
          exact .kept hplain hclosed (read_anchored_of_kept hinside hkept) same
        · have hanchored := read_anchored (chars ++ closingSign)
          rw [hinside] at hanchored
          dsimp only at hanchored
          rw [hswallowed] at hclosed hanchored
          exact .swallowed hplain hclosed hanchored (same.trans hsame.symm)
      · rw [hmore] at hplain
        exact .unopened hplain

/-! ### Depth, meaning and size -/

/-- Between the signs a pattern nests by two deeper. -/
theorem depth_between (part : Syntax) : (between part).depth = part.depth + 2 := by
  simp [between, Syntax.depth, Syntax.depths]

/-- Between the signs a pattern means the framed pattern. -/
theorem meaning_between (part : Syntax) : meaning Flags.start (between part) =
    (meaning Flags.start part).map fun result => (framed result.1, Flags.start) := by
  have hunchanged : Flags.start.changeAll [] = Flags.start := rfl
  simp only [between, meaning, meaningOfSequence, bind, Except.bind, hunchanged]
  cases meaning Flags.start part <;> rfl

/-- A pattern is what is read of it, if that does not nest too deep. -/
theorem parse_ok_iff {pattern : String} {part : Syntax} :
    parse pattern = .ok part ↔ read pattern.toList = .ok part ∧ part.depth ≤ nestLimit := by
  rw [parse_eq]
  cases read pattern.toList with
  | error fault => simp [bind, Except.bind]
  | ok other =>
    simp only [bind, Except.bind, Except.ok.injEq]
    split
    · rename_i hdeep
      constructor
      · rintro ⟨⟩
      · rintro ⟨rfl, hwithin⟩
        omega
    · rename_i hwithin
      constructor
      · rintro ⟨⟩
        exact ⟨rfl, by omega⟩
      · rintro ⟨rfl, -⟩
        rfl

/-- A pattern is compiled if it is read, does not nest too deep, means something and is not too
large. -/
theorem compile_ok_iff {source : String} {pattern : Pattern} :
    compile source = .ok pattern ↔ ∃ part flags, parse source = .ok part ∧
      meaning Flags.start part = .ok (pattern, flags) ∧ isTooLarge pattern = false := by
  rw [compile]
  cases hparse : parse source with
  | error fault => simp
  | ok part =>
    dsimp only
    rcases hmeaning : meaning Flags.start part with fault | ⟨meant, flags⟩
    · simp [hmeaning]
    · dsimp only
      constructor
      · intro hok
        split at hok
        · cases hok
        · rename_i hlarge
          cases hok
          exact ⟨part, flags, rfl, hmeaning, by simpa using hlarge⟩
      · rintro ⟨_, _, ⟨⟩, hmeant, hlarge⟩
        rw [hmeaning] at hmeant
        cases hmeant
        simp [hlarge]

/-- Syntax that differs only in places means the same, and the same flags are in force after it. -/
theorem meaning_ok_of_bare {part part' : Syntax} (same : part.bare = part'.bare) {flags : Flags}
    {result : Pattern × Flags} (means : meaning flags part = .ok result) :
    meaning flags part' = .ok result := by
  have hoption := toOption_meaning_of_bare same flags
  rw [means] at hoption
  rcases hmeaning : meaning flags part' with fault | other
  · simp [hmeaning, Except.toOption] at hoption
  · simpa [hmeaning, Except.toOption, eq_comm] using hoption

/-- What is compiled of a pattern that is the same between the signs. -/
theorem compile_anchored_iff {pattern : String} {part part' : Syntax} {compiled' : Pattern}
    (anchored : read (anchored pattern).toList = .ok (between part')) (same : part.bare = part'.bare) :
    compile (Pattern.anchored pattern) = .ok compiled' ↔ ∃ compiled flags,
      compiled' = framed compiled ∧ part.depth + 2 ≤ nestLimit ∧
        meaning Flags.start part = .ok (compiled, flags) ∧ isTooLarge (framed compiled) = false := by
  have hdepth : (between part').depth = part.depth + 2 := by
    rw [depth_between, depth_eq_of_bare same]
  simp only [compile_ok_iff, parse_ok_iff, anchored, Except.ok.injEq]
  constructor
  · rintro ⟨_, flags, ⟨rfl, hwithin⟩, hmeaning, hlarge⟩
    rw [meaning_between] at hmeaning
    rcases hpart : meaning Flags.start part' with fault | ⟨compiled, flags'⟩
    · simp [hpart, Except.map] at hmeaning
    · rw [hpart] at hmeaning
      cases hmeaning
      exact ⟨compiled, flags', rfl, hdepth ▸ hwithin, meaning_ok_of_bare same.symm hpart, hlarge⟩
  · rintro ⟨compiled, flags, rfl, hwithin, hmeaning, hlarge⟩
    refine ⟨_, Flags.start, ⟨rfl, hdepth.symm ▸ hwithin⟩, ?_, hlarge⟩
    rw [meaning_between, meaning_ok_of_bare same hmeaning]
    rfl

/-! ### Agreement -/

/-- Why a pattern and the anchored one do not match alike. -/
inductive Severed (pattern : String) : Prop
  /-- It leaves a comment open, which the sign that closes the group does not end: with that sign
  after it, it is a pattern still. -/
  | swallowed {compiled : Pattern} {part : Syntax} (plain : compile pattern = .ok compiled)
      (closed : parse (pattern ++ ")$") = .ok part)
  /-- With the group around it, it nests too deep. -/
  | tooDeep {compiled : Pattern} {part : Syntax} (plain : compile pattern = .ok compiled)
      (parsed : parse pattern = .ok part) (deep : nestLimit < part.depth + 2)
  /-- With the signs, it is too large. -/
  | tooLarge {compiled : Pattern} (plain : compile pattern = .ok compiled)
      (large : isTooLarge (framed compiled) = true)
  /-- A parenthesis that it does not open closes the group around it. -/
  | unopened {span : Span} {compiled : Pattern}
      (plain : parse pattern = .error ⟨.unopenedGroup, span⟩)
      (anchored : compile (anchored pattern) = .ok compiled)
  /-- By itself it is too large, but not with the signs. -/
  | relieved {compiled : Pattern} (plain : compile pattern = .error .tooLarge)
      (anchored : compile (anchored pattern) = .ok compiled)

/-- Matching all of a text and searching it are what they are meant to be. -/
structure Agrees (pattern text : String) : Prop where
  /-- Both refuse the same patterns. -/
  refused : (∃ reason, fullMatch pattern text = .error (.invalidPattern pattern reason)) ↔
    ∃ reason, search pattern text = .error (.invalidPattern pattern reason)
  /-- All of a text is matched just if the pattern by itself spans it. -/
  spans : fullMatch pattern text = .ok true ↔ ∃ compiled, compile pattern = .ok compiled ∧
    Spans text.toList compiled 0 text.toList.length
  /-- What matches all of a text is found in it. -/
  found : fullMatch pattern text = .ok true → search pattern text = .ok true

/-- A text is not tried just if what is read is not compiled. -/
theorem tried_error_iff {source pattern : String} {text : List Char} :
    (∃ reason, (ofText source pattern >>= fun compiled => pure (compiled.occursIn text)) =
        .error (.invalidPattern pattern reason)) ↔ ¬∃ compiled, compile source = .ok compiled := by
  rw [ofText]
  cases compile source <;> simp [Except.mapError, bind, Except.bind, pure, Except.pure]

/-- A text is tried with success if what is compiled occurs in it. -/
theorem tried_ok_iff {source pattern : String} {text : List Char} :
    (ofText source pattern >>= fun compiled => pure (compiled.occursIn text)) = .ok true ↔
      ∃ compiled, compile source = .ok compiled ∧ compiled.occursIn text = true := by
  rw [ofText]
  cases compile source <;> simp [Except.mapError, bind, Except.bind, pure, Except.pure]

/-- The signs around a pattern, before and after its characters. -/
theorem toList_closed (pattern : String) :
    (pattern ++ ")$").toList = pattern.toList ++ closingSign := by
  simp [closingSign]

/-- What is not read is not compiled. -/
theorem not_compiled_of_error {source : String} {fault : Fault}
    (refused : read source.toList = .error fault) (compiled : Pattern) :
    compile source ≠ .ok compiled := by
  intro hok
  obtain ⟨part, flags, hparse, -⟩ := compile_ok_iff.mp hok
  rw [(parse_ok_iff.mp hparse).1] at refused
  cases refused

/-- A pattern that is the same between the signs, and not severed, is compiled to the framed pattern
there. -/
theorem compile_anchored_of_kept {pattern : String} (whole : ¬Severed pattern) {part part' : Syntax}
    (plain : read pattern.toList = .ok part)
    (kept : read (anchored pattern).toList = .ok (between part')) (same : part.bare = part'.bare)
    {compiled' : Pattern} : compile (anchored pattern) = .ok compiled' ↔
      ∃ compiled, compile pattern = .ok compiled ∧ compiled' = framed compiled := by
  constructor
  · intro hok
    obtain ⟨compiled, flags, rfl, hwithin, hmeaning, -⟩ := (compile_anchored_iff kept same).mp hok
    have hparse : parse pattern = .ok part := parse_ok_iff.mpr ⟨plain, by omega⟩
    refine ⟨compiled, compile_ok_iff.mpr ⟨part, flags, hparse, hmeaning, ?_⟩, rfl⟩
    by_contra hlarge
    have htooLarge : compile pattern = .error .tooLarge := by
      rw [compile, hparse]
      simp [hmeaning, hlarge]
    exact whole (.relieved htooLarge hok)
  · rintro ⟨compiled, hplain, rfl⟩
    obtain ⟨other, flags, hparse, hmeaning, -⟩ := compile_ok_iff.mp hplain
    obtain rfl := Except.ok.inj (plain.symm.trans (parse_ok_iff.mp hparse).1)
    refine (compile_anchored_iff kept same).mpr ⟨compiled, flags, rfl, ?_, hmeaning, ?_⟩
    · by_contra hdeep
      exact whole (.tooDeep hplain hparse (by omega))
    · by_contra hlarge
      exact whole (.tooLarge hplain (by simpa using hlarge))

/-- A pattern that is not severed is compiled to the framed pattern between the signs, and refused
there if it is refused alone. -/
theorem compile_anchored_of_not_severed {pattern : String} (whole : ¬Severed pattern)
    {compiled' : Pattern} : compile (anchored pattern) = .ok compiled' ↔
      ∃ compiled, compile pattern = .ok compiled ∧ compiled' = framed compiled := by
  have hsigns := toList_anchored pattern
  have hrefused : ∀ {fault}, read pattern.toList = .error fault →
      ¬∃ compiled, compile pattern = .ok compiled ∧ compiled' = framed compiled := by
    rintro fault hread ⟨compiled, hplain, -⟩
    exact not_compiled_of_error hread compiled hplain
  cases fares pattern.toList with
  | kept plain closed anchored same =>
    rw [← hsigns] at anchored
    exact compile_anchored_of_kept whole plain anchored same
  | swallowed plain closed anchored same =>
    rw [← hsigns] at anchored
    refine iff_of_false (not_compiled_of_error anchored _) ?_
    rintro ⟨compiled, hplain, -⟩
    obtain ⟨other, flags, hparse, -⟩ := compile_ok_iff.mp hplain
    obtain ⟨hread, hwithin⟩ := parse_ok_iff.mp hparse
    obtain rfl := Except.ok.inj (plain.symm.trans hread)
    rw [← toList_closed] at closed
    have hdepth := depth_eq_of_bare same
    exact whole (.swallowed hplain (parse_ok_iff.mpr ⟨closed, by omega⟩))
  | @unopened span plain =>
    refine iff_of_false (fun hok => ?_) (hrefused plain)
    have hparse : parse pattern = .error ⟨.unopenedGroup, span⟩ := by
      rw [parse_eq, plain]
      rfl
    exact whole (.unopened hparse hok)
  | refused plain anchored =>
    rw [← hsigns] at anchored
    exact iff_of_false (not_compiled_of_error anchored _) (hrefused plain)

/-- A pattern that is compiled alone and between the signs bears the signs. -/
theorem fits_of_compiled {pattern : String} {compiled compiled' : Pattern}
    (plain : compile pattern = .ok compiled) (framed : compile (anchored pattern) = .ok compiled') :
    ∃ part, parse pattern = .ok part ∧ part.depth + 2 ≤ nestLimit ∧
      isTooLarge compiled.framed = false ∧ ∃ fault, parse (pattern ++ ")$") = .error fault := by
  obtain ⟨part, flags, hparse, hmeaning, -⟩ := compile_ok_iff.mp plain
  have hread := (parse_ok_iff.mp hparse).1
  have hsigns := toList_anchored pattern
  cases fares pattern.toList with
  | kept plain closed anchored same =>
    rw [plain] at hread
    cases hread
    rw [← hsigns] at anchored
    obtain ⟨meant, flags', rfl, hwithin, hmeant, hlarge⟩ :=
      (compile_anchored_iff anchored same).mp framed
    rw [hmeaning] at hmeant
    cases hmeant
    refine ⟨part, hparse, hwithin, hlarge, ?_⟩
    rw [parse_eq, toList_closed, closed]
    exact ⟨_, rfl⟩
  | swallowed _ _ anchored _ =>
    rw [← hsigns] at anchored
    exact absurd framed (not_compiled_of_error anchored _)
  | unopened refused =>
    rw [hread] at refused
    cases refused
  | refused refused _ =>
    rw [hread] at refused
    cases refused

/-- A severed pattern is compiled either alone or between the signs, not both. -/
theorem Severed.compile_iff_not {pattern : String} (severed : Severed pattern) :
    (∃ compiled, compile (anchored pattern) = .ok compiled) ↔
      ¬∃ compiled, compile pattern = .ok compiled := by
  cases severed with
  | swallowed plain closed =>
    refine iff_of_false ?_ (not_not_intro ⟨_, plain⟩)
    rintro ⟨compiled', hanchored⟩
    obtain ⟨_, -, -, -, fault, hfault⟩ := fits_of_compiled plain hanchored
    rw [closed] at hfault
    cases hfault
  | tooDeep plain parsed deep =>
    refine iff_of_false ?_ (not_not_intro ⟨_, plain⟩)
    rintro ⟨compiled', hanchored⟩
    obtain ⟨part, hparse, hwithin, -⟩ := fits_of_compiled plain hanchored
    rw [parsed] at hparse
    cases hparse
    omega
  | tooLarge plain large =>
    refine iff_of_false ?_ (not_not_intro ⟨_, plain⟩)
    rintro ⟨compiled', hanchored⟩
    obtain ⟨_, -, -, hlarge, -⟩ := fits_of_compiled plain hanchored
    rw [large] at hlarge
    cases hlarge
  | unopened plain anchored =>
    refine iff_of_true ⟨_, anchored⟩ ?_
    rintro ⟨compiled, hplain⟩
    obtain ⟨_, _, hparse, -⟩ := compile_ok_iff.mp hplain
    rw [plain] at hparse
    cases hparse
  | relieved plain anchored =>
    refine iff_of_true ⟨_, anchored⟩ ?_
    rintro ⟨compiled, hplain⟩
    rw [plain] at hplain
    cases hplain

/-- **Anchored and unanchored matching.** Matching all of a text refuses the patterns that searching
refuses, matches what the pattern by itself spans and is found by searching, for every pattern that is
not severed and for no other. -/
theorem agrees_iff (pattern text : String) : Agrees pattern text ↔ ¬Severed pattern := by
  constructor
  · intro agrees severed
    have hrefused := agrees.refused
    rw [fullMatch, search, tried_error_iff, tried_error_iff, severed.compile_iff_not] at hrefused
    exact iff_not_self hrefused.symm
  · intro whole
    have hcompiled := @compile_anchored_of_not_severed pattern whole
    refine ⟨?_, ?_, ?_⟩
    · rw [fullMatch, search, tried_error_iff, tried_error_iff]
      simp only [hcompiled]
      simp
    · rw [fullMatch, tried_ok_iff]
      simp only [hcompiled]
      constructor
      · rintro ⟨_, ⟨compiled, hplain, rfl⟩, hoccurs⟩
        exact ⟨compiled, hplain, occursIn_framed_iff.mp hoccurs⟩
      · rintro ⟨compiled, hplain, hspans⟩
        exact ⟨_, ⟨compiled, hplain, rfl⟩, occursIn_framed_iff.mpr hspans⟩
    · rw [fullMatch, search, tried_ok_iff, tried_ok_iff]
      simp only [hcompiled]
      rintro ⟨_, ⟨compiled, hplain, rfl⟩, hoccurs⟩
      have hspans := occursIn_framed_iff.mp hoccurs
      exact ⟨compiled, hplain, occursIn_iff.mpr ⟨0, _, Nat.zero_le _, hspans⟩⟩

/-- A comment at the end of a verbose pattern swallows the sign after it, and a parenthesis that a
pattern does not open closes the group around it. -/
theorem severed_by_comment_and_parenthesis :
    (search "(?x)a # note" "a" = .ok true ∧
      ∃ reason, fullMatch "(?x)a # note" "a" = .error (.invalidPattern "(?x)a # note" reason)) ∧
    (fullMatch "a)|(b" "ax" = .ok true ∧
      ∃ reason, search "a)|(b" "ax" = .error (.invalidPattern "a)|(b" reason)) := by
  have hfound : search "(?x)a # note" "a" = .ok true := by decide +kernel
  have hmatched : fullMatch "a)|(b" "ax" = .ok true := by decide +kernel
  exact ⟨⟨hfound, _, rfl⟩, hmatched, _, rfl⟩

end PageCheck.Pattern
