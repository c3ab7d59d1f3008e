import PageCheck.Proofs.Pattern.Openings
import PageCheck.Proofs.Pattern.Repetitions

/-!
# Groups before a tail

Choices and groups are read in the same way with a tail after the text, up to places. A group that
the text leaves open is closed by the tail, and then the tail is lost to what is around the group.
-/

namespace PageCheck.Pattern

open Reader

variable {α β : Type} {tail : List Char} {limit : Nat} {plain tailed : Cursor}

/-! ### Choices -/

/-- What a character makes of the choices before the last one and of the parts of that one, where it
does not end the group: it begins a choice, repeats the last part or begins another part. -/
def Reader.readMore (earlier parts : List Syntax) (c : Char) (fuel : Nat) :
    Reader (List Syntax × List Syntax) :=
  if c = '|' then do
    advance
    return (addChoice earlier parts, [])
  else if isRepetition c then return (earlier, ← repeatLast c parts)
  else if c = '(' then return (earlier, (← readGroup fuel) :: parts)
  else if c = '[' then return (earlier, addClass (← readClass fuel) parts)
  else return (earlier, (← readPart c) :: parts)

section Choices

variable {earlier parts : List Syntax} {fuel : Nat} {cursor inner after : Cursor}

/-- Where nothing is left but what may be passed over, the choices end. -/
theorem run_readChoices_of_nil (skipped : skipBlanks.run cursor = .ok ((), inner))
    (ended : inner.rest = []) : (readChoices earlier parts (fuel + 1)).run cursor =
      .ok (Syntax.ofChoices (addChoice earlier parts).reverse, inner) := by
  rw [readChoices, run_bind, skipped]
  dsimp only
  rw [run_next?_bind, ended]
  rfl

/-- Where a character comes next, it ends the choices or more of them is read. -/
theorem run_readChoices_of_cons (skipped : skipBlanks.run cursor = .ok ((), inner)) {c : Char}
    {rest : List Char} (next : inner.rest = c :: rest) :
    (readChoices earlier parts (fuel + 1)).run cursor =
      if c = ')' then .ok (Syntax.ofChoices (addChoice earlier parts).reverse, inner)
      else (readMore earlier parts c fuel >>= fun choices =>
        readChoices choices.1 choices.2 fuel).run inner := by
  rw [readChoices, run_bind, skipped]
  dsimp only
  rw [run_next?_bind, next, List.head?_cons]
  dsimp only
  rw [readMore]
  split
  · rfl
  · split
    · rw [run_bind_assoc]
      rfl
    · split
      · rw [run_bind_assoc]
        rfl
      · split
        · rw [run_bind_assoc]
          rfl
        · split
          · rw [run_bind_assoc]
            rfl
          · rw [run_bind_assoc]
            rfl

/-- Choices end where the text ends or before a closing parenthesis. -/
theorem rest_of_readChoices {part : Syntax}
    (ran : (readChoices earlier parts fuel).run cursor = .ok (part, after)) :
    after.rest = [] ∨ ∃ rest, after.rest = ')' :: rest := by
  induction fuel generalizing earlier parts cursor with
  | zero => cases ran
  | succ fuel ih =>
    have hchoices := ran
    rw [readChoices] at hchoices
    obtain ⟨_, inner, hskip, -⟩ := bind_ok hchoices
    cases hrest : inner.rest with
    | nil =>
      rw [run_readChoices_of_nil hskip hrest] at ran
      cases ran
      exact .inl hrest
    | cons c rest =>
      rw [run_readChoices_of_cons hskip hrest] at ran
      split at ran
      · rename_i hparenthesis
        cases ran
        exact .inr ⟨rest, by rw [hrest, hparenthesis]⟩
      · obtain ⟨choices, between, _, hfurther⟩ := bind_ok ran
        exact ih hfurther

end Choices

/-- A choice more is added in the same way, up to places. -/
theorem bare_addChoice {earlier earlier' parts parts' : List Syntax}
    (sameEarlier : earlier.map Syntax.bare = earlier'.map Syntax.bare)
    (sameParts : parts.map Syntax.bare = parts'.map Syntax.bare) :
    (addChoice earlier parts).map Syntax.bare = (addChoice earlier' parts').map Syntax.bare := by
  rw [addChoice, addChoice, List.map_cons, List.map_cons, Syntax.bare_ofParts, Syntax.bare_ofParts,
    List.map_reverse, List.map_reverse, sameEarlier, sameParts]

/-- Choices are put together in the same way, up to places. -/
theorem bare_ofChoices_addChoice {earlier earlier' parts parts' : List Syntax}
    (sameEarlier : earlier.map Syntax.bare = earlier'.map Syntax.bare)
    (sameParts : parts.map Syntax.bare = parts'.map Syntax.bare) :
    (Syntax.ofChoices (addChoice earlier parts).reverse).bare =
      (Syntax.ofChoices (addChoice earlier' parts').reverse).bare := by
  rw [Syntax.bare_ofChoices, Syntax.bare_ofChoices, List.map_reverse, List.map_reverse,
    bare_addChoice sameEarlier sameParts]

/-- A class is added in the same way, up to places. -/
theorem bare_addClass {item item' : ClassSyntax} {parts parts' : List Syntax}
    (sameItem : item.bare = item'.bare) (sameParts : parts.map Syntax.bare = parts'.map Syntax.bare) :
    (addClass item parts).map Syntax.bare = (addClass item' parts').map Syntax.bare := by
  cases item <;> cases item' <;> simp [ClassSyntax.bare] at sameItem <;>
    simp [addClass, Syntax.bare, sameParts, sameItem]

/-- Where the second reading is stuck before a brace, no choices come of it. -/
theorem loses_readChoices_of_stuck {earlier parts : List Syntax} {fuel : Nat} {cursor : Cursor}
    {rest : List Char} (brace : cursor.rest = '\x7b' :: rest)
    (after : secondOverAt cursor = some ')') :
    Loses limit ((readChoices earlier parts fuel).run cursor) := by
  cases fuel with
  | zero => exact loses_error
  | succ fuel =>
    have hskip := run_skipBlanks_of_next brace (by decide) (by decide)
    rw [readChoices, run_bind, hskip]
    dsimp only
    rw [run_next?_bind, brace]
    exact (loses_repeatLast_of_stuck after).bind _

/-! ### Groups -/

section Fuel

variable (tail) (fuel : Nat)

/-- Both readings read the same choices, if they may take steps enough. -/
def SameChoices : Prop :=
  ∀ (fuel' : Nat) (plain tailed : Cursor) (earlier earlier' parts parts' : List Syntax),
    Meets tail plain tailed → earlier.map Syntax.bare = earlier'.map Syntax.bare →
    parts.map Syntax.bare = parts'.map Syntax.bare →
    2 * plain.rest.length < fuel → 2 * tailed.rest.length < fuel' →
    Follows tail (fun part part' => part.bare = part'.bare)
      ((readChoices earlier parts fuel).run plain)
      ((readChoices earlier' parts' fuel').run tailed)

/-- Both readings read the same group, if they may take steps enough. -/
def SameGroup : Prop :=
  ∀ (fuel' : Nat) (plain tailed : Cursor), Meets tail plain tailed → plain.rest ≠ [] →
    2 * plain.rest.length ≤ fuel → 2 * tailed.rest.length ≤ fuel' →
    Follows tail (fun part part' => part.bare = part'.bare) ((readGroup fuel).run plain)
      ((readGroup fuel').run tailed)

variable {tail} {fuel}

/-- A group takes a character. -/
theorem length_of_readGroup {cursor after : Cursor} {part : Syntax} {c : Char} {rest : List Char}
    (next : cursor.rest = c :: rest) (ran : (readGroup fuel).run cursor = .ok (part, after)) :
    after.rest.length ≤ rest.length := by
  cases fuel with
  | zero => cases ran
  | succ fuel =>
    rw [readGroup, run_position_bind] at ran
    obtain ⟨opening, between, hopening, hgroup⟩ := bind_ok ran
    exact Nat.le_trans (Reader.shrinks _ hgroup) (length_of_readOpening next hopening)

/-- A group is read in the same way if its choices are. -/
theorem sameGroup_succ (closing : Closing tail) (same : SameChoices tail fuel) :
    SameGroup tail (fuel + 1) := by
  intro fuel' plain tailed meets hnonempty henough henough'
  obtain ⟨c, rest, hplain⟩ := List.exists_cons_of_ne_nil hnonempty
  have htailed : tailed.rest = c :: (rest ++ tail) := by simpa [hplain] using meets.rest
  cases fuel' with
  | zero =>
    simp only [htailed, List.length_cons] at henough'
    omega
  | succ fuel' =>
    rw [readGroup, readGroup, run_position_bind, run_position_bind]
    refine (follows_readOpening closing meets hplain).bind
      fun opening _ inner inner' hran hsame hmeets => ?_
    subst hsame
    have hless : inner.rest.length < plain.rest.length := by
      rw [hplain]
      exact Nat.lt_succ_of_le (length_of_readOpening hplain hran)
    have hless' := meets.length_lt hmeets hless
    cases opening with
    | changes changes =>
      exact (follows_applyVerbose changes hmeets).bind fun _ _ _ _ _ _ meets => .ok rfl meets
    | group captures changes =>
      dsimp only
      rw [run_isVerbose_bind, run_isVerbose_bind, hmeets.verbose]
      refine (follows_applyVerbose changes hmeets).bind fun _ _ first first' hfirst _ hmeets' => ?_
      have hlength := Reader.shrinks _ hfirst
      have hlength' := meets.length_lt hmeets' (by omega)
      refine (same fuel' first first' [] [] [] [] hmeets' rfl rfl (by omega) (by omega)).bind
        fun part part' plain tailed _ hpart meets => ?_
      refine .next closing meets (fun c rest hplain _ => ?_) (fun _ _ => .stop)
        fun more htail _ htailed => .error ?_
      · refine (follows_setVerbose _ meets).bind fun _ _ plain tailed hset _ meets => ?_
        cases hset
        refine (follows_advance meets hplain).bind fun _ _ plain tailed _ _ meets => ?_
        exact .ok (by rw [Syntax.bare, Syntax.bare, hpart]) meets
      · intro value after hok
        obtain ⟨_, closed, hset, hclose⟩ := bind_ok hok
        have hclosed : closed.rest = ')' :: more := by
          cases hset
          exact htailed
        exact (loses_advance htail hclosed).bind _ value after hclose

/-- More of the choices takes a character. -/
theorem length_of_readMore {earlier parts : List Syntax} {choices : List Syntax × List Syntax}
    {cursor after : Cursor} {c : Char} {rest : List Char} (next : cursor.rest = c :: rest)
    (ran : (readMore earlier parts c fuel).run cursor = .ok (choices, after)) :
    after.rest.length ≤ rest.length := by
  rw [readMore] at ran
  split at ran
  · exact length_of_advance_bind next ran
  · split at ran
    · obtain ⟨repeated, _, hrepeated, hdone⟩ := bind_ok ran
      cases hdone
      exact length_of_repeatLast next hrepeated
    · split at ran
      · obtain ⟨part, _, hpart, hdone⟩ := bind_ok ran
        cases hdone
        exact length_of_readGroup next hpart
      · split at ran
        · obtain ⟨item, _, hitem, hdone⟩ := bind_ok ran
          cases hdone
          have hlength := length_of_readClass hitem
          rw [next] at hlength
          exact Nat.le_of_lt_succ hlength
        · obtain ⟨part, _, hpart, hdone⟩ := bind_ok ran
          cases hdone
          exact length_of_readPart next hpart

/-- More of the choices is read in the same way up to places if the groups are, unless the second
reading gets stuck at a boundary. -/
theorem follows_readMore (closing : Closing tail) (sameGroup : SameGroup tail fuel) (fuel' : Nat)
    {earlier earlier' parts parts' : List Syntax}
    (sameEarlier : earlier.map Syntax.bare = earlier'.map Syntax.bare)
    (sameParts : parts.map Syntax.bare = parts'.map Syntax.bare) (meets : Meets tail plain tailed)
    {c : Char} {rest : List Char} (next : plain.rest = c :: rest)
    (enough : 2 * plain.rest.length ≤ fuel) (enough' : 2 * tailed.rest.length ≤ fuel') :
    Follows tail (fun choices choices' => choices.1.map Syntax.bare = choices'.1.map Syntax.bare ∧
        choices.2.map Syntax.bare = choices'.2.map Syntax.bare)
      ((readMore earlier parts c fuel).run plain) ((readMore earlier' parts' c fuel').run tailed) ∨
    ∃ choices, Stuck tail choices ((readMore earlier parts c fuel).run plain)
      ((readMore earlier' parts' c fuel').run tailed) := by
  rw [readMore, readMore]
  split
  · exact .inl ((follows_advance meets next).bind fun _ _ _ _ _ _ meets =>
      .ok ⟨bare_addChoice sameEarlier sameParts, rfl⟩ meets)
  · split
    · exact .inl ((follows_repeatLast closing c sameParts meets next).bind
        fun _ _ _ _ _ hrepeated meets => .ok ⟨sameEarlier, hrepeated⟩ meets)
    · split
      · exact .inl ((sameGroup fuel' plain tailed meets (by simp [next]) enough enough').bind
          fun _ _ _ _ _ hpart meets => .ok ⟨sameEarlier, by simp [hpart, sameParts]⟩ meets)
      · split
        · exact .inl (((sameClass_and_sameItems closing fuel).1 fuel' plain tailed meets
            (by simp [next]) (by omega) (by omega)).bind
            fun _ _ _ _ _ hitem meets => .ok ⟨sameEarlier, bare_addClass hitem sameParts⟩ meets)
        · rcases follows_readPart closing meets next with hfollows | ⟨⟨fault, hfault⟩, hbraced⟩
          · exact .inl (hfollows.bind fun _ _ _ _ _ hpart meets =>
              .ok ⟨sameEarlier, by simp [hpart, sameParts]⟩ meets)
          · obtain ⟨cursor, others, hok, hrest⟩ := hbraced
            rw [run_bind, run_bind, hfault, hok]
            exact .inr ⟨_, ⟨fault, rfl⟩, cursor, others, rfl, hrest⟩

/-- Choices are read in the same way if their groups and the further choices are. A part takes a
character, so that there are steps enough for the further choices. -/
theorem sameChoices_succ (closing : Closing tail) (sameGroup : SameGroup tail fuel)
    (same : SameChoices tail fuel) : SameChoices tail (fuel + 1) := by
  intro fuel' plain tailed earlier earlier' parts parts' meets hearlier hparts henough henough'
  cases fuel' with
  | zero => omega
  | succ fuel' =>
    obtain ⟨inner, inner', hskip, hskip', hmeets⟩ := meets.skipBlanks closing
    have hinner := skipBlanks.shrinks hskip
    have hinner' := skipBlanks.shrinks hskip'
    have hended : Follows tail (fun part part' => part.bare = part'.bare)
        (.ok (Syntax.ofChoices (addChoice earlier parts).reverse, inner))
        (.ok (Syntax.ofChoices (addChoice earlier' parts').reverse, inner')) :=
      .ok (bare_ofChoices_addChoice hearlier hparts) hmeets
    rcases hmeets.cases closing with ⟨c, rest, hplain, htailed⟩ | ⟨hplain, htailed⟩ |
      ⟨more, htail, hplain, htailed⟩
    · rw [run_readChoices_of_cons hskip hplain, run_readChoices_of_cons hskip' htailed]
      split
      · exact hended
      · rcases follows_readMore closing sameGroup fuel' hearlier hparts hmeets hplain (by omega)
          (by omega) with hfollows | ⟨choices, hstuck⟩
        · refine hfollows.bind fun choices choices' next next' hran hchoices hnext => ?_
          have hless : next.rest.length < inner.rest.length := by
            rw [hplain]
            exact Nat.lt_succ_of_le (length_of_readMore hplain hran)
          have hless' := hmeets.length_lt hnext hless
          exact same fuel' next next' _ _ _ _ hnext hchoices.1 hchoices.2 (by omega) (by omega)
        · obtain ⟨fault, hfault⟩ := hstuck.stopped
          obtain ⟨cursor, others, hok, hbrace, hafter, -⟩ := hstuck.braced
          rw [run_bind, run_bind, hfault, hok]
          exact .error (loses_readChoices_of_stuck hbrace hafter)
    · rw [run_readChoices_of_nil hskip hplain, run_readChoices_of_nil hskip' htailed]
      exact hended
    · rw [run_readChoices_of_nil hskip hplain, run_readChoices_of_cons hskip' htailed, if_pos rfl]
      exact hended

end Fuel

/-- **Groups before a tail.** Both readings read the same choices and the same group up to places, if
they may take steps enough. -/
theorem sameChoices_and_sameGroup (closing : Closing tail) (fuel : Nat) :
    SameChoices tail fuel ∧ SameGroup tail fuel := by
  induction fuel with
  | zero =>
    constructor
    · intro fuel' plain tailed earlier earlier' parts parts' _ _ _ henough _
      omega
    · intro fuel' plain tailed _ hnonempty henough _
      obtain ⟨c, rest, hplain⟩ := List.exists_cons_of_ne_nil hnonempty
      simp only [hplain, List.length_cons] at henough
      omega
  | succ fuel ih =>
    exact ⟨sameChoices_succ closing ih.2 ih.1, sameGroup_succ closing ih.1⟩

end PageCheck.Pattern
