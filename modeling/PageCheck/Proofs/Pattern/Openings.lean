import PageCheck.Proofs.Pattern.Classes

/-!
# Openings of groups before a tail

The names and the changes of flags with which groups open are read in the same way with a tail after
the text. Changes of flags that the text leaves open are closed by the tail, whose parenthesis is
gone past.
-/

namespace PageCheck.Pattern

open Reader

variable {α β : Type} {tail : List Char} {limit : Nat} {plain tailed : Cursor}

/-! ### Names -/

/-- Both readings read the same character of a name. -/
theorem follows_nameChar? (closing : Closing tail) (first : Bool) (plain tailed : Cursor)
    (meets : Meets tail plain tailed) :
    Follows tail Eq ((nameChar? first).run plain) ((nameChar? first).run tailed) := by
  rw [nameChar?]
  refine .next closing meets (fun c rest hplain _ => ?_) (fun _ _ => .stop)
    fun more htail _ htailed => .error ?_
  · split
    · exact .stop
    · exact .ok rfl meets
    · rename_i heq
      cases heq
      split
      · exact (follows_advance meets hplain).bind fun _ _ _ _ _ _ meets => .ok rfl meets
      · exact .stop
  · change Loses tail.length (Reader.run (if isNameChar first ')' then _ else _) tailed)
    split
    · exact (loses_advance htail htailed).bind _
    · exact loses_error

/-- A character of a name is taken. -/
theorem takes_nameChar? (first : Bool) : Takes (nameChar? first) := by
  intro before value after ran
  rw [nameChar?, run_next?_bind] at ran
  cases hrest : before.rest with
  | nil => simp [hrest] at ran
  | cons c rest =>
    rw [hrest, List.head?_cons] at ran
    split at ran
    · cases ran
    · cases ran
    · split at ran
      · exact Nat.lt_succ_of_le (length_of_advance_bind hrest ran)
      · cases ran

/-- A name ends before a closing angle bracket. -/
theorem rest_of_nameChar?_none {first : Bool} {before after : Cursor}
    (ran : (nameChar? first).run before = .ok (none, after)) : ∃ rest, after.rest = '>' :: rest := by
  rw [nameChar?, run_next?_bind] at ran
  split at ran
  · cases ran
  · rename_i heq
    cases ran
    exact List.head?_eq_some_iff.mp heq
  · split at ran
    · obtain ⟨_, _, _, hdone⟩ := bind_ok ran
      cases hdone
    · cases ran

/-- The closing angle bracket comes next after a name. -/
theorem rest_of_readName {before after : Cursor} {name : List Char}
    (ran : readName.run before = .ok (name, after)) : ∃ rest, after.rest = '>' :: rest := by
  rw [readName] at ran
  obtain ⟨first, between, hfirst, ran⟩ := bind_ok ran
  cases first with
  | none =>
    cases ran
    exact rest_of_nameChar?_none hfirst
  | some c =>
    obtain ⟨others, last, hothers, hdone⟩ := bind_ok ran
    cases hdone
    obtain ⟨end', hend⟩ := many_ends (takes_nameChar? false) hothers
    exact rest_of_nameChar?_none hend

/-- Both readings read the same name. -/
theorem follows_readName (closing : Closing tail) (meets : Meets tail plain tailed) :
    Follows tail Eq (readName.run plain) (readName.run tailed) := by
  rw [readName]
  refine (follows_nameChar? closing true _ _ meets).bind fun first _ plain tailed _ same meets => ?_
  subst same
  cases first with
  | none => exact .ok rfl meets
  | some c =>
    exact (follows_many_eq (follows_nameChar? closing false) (takes_nameChar? false) meets).bind
      fun _ _ _ _ _ same meets => .ok (by rw [same]) meets

/-- The names alone decide whether a name has a place. -/
theorem isSome_lookup_of_names (name : List Char) {names names' : List (List Char × Span)}
    (same : names'.map Prod.fst = names.map Prod.fst) :
    (names'.lookup name).isSome = (names.lookup name).isSome := by
  have hmem : ∀ names : List (List Char × Span),
      (names.lookup name).isSome = (names.map Prod.fst).contains name := by
    intro names
    induction names with
    | nil => rfl
    | cons entry names ih =>
      rw [List.lookup_cons, List.map_cons, List.contains_cons, ← ih]
      cases name == entry.1 <;> rfl
  rw [hmem, hmem, same]

/-- Both readings read the same name of a group, and know it afterwards. -/
theorem follows_readGroupName (closing : Closing tail) (meets : Meets tail plain tailed) :
    Follows tail Eq (readGroupName.run plain) (readGroupName.run tailed) := by
  rw [readGroupName, run_position_bind, run_position_bind]
  refine (follows_readName closing meets).bind fun name _ plain tailed hran same meets => ?_
  subst same
  obtain ⟨rest, hbracket⟩ := rest_of_readName hran
  rw [run_position_bind, run_position_bind]
  refine (follows_advance meets hbracket).bind fun _ _ plain tailed _ _ meets => ?_
  split
  · exact .stop
  · have hknown := isSome_lookup_of_names name meets.names
    rw [run_placeOfName?_bind, run_placeOfName?_bind]
    cases hplain : plain.names.lookup name <;> cases htailed : tailed.names.lookup name <;>
      simp only [hplain, htailed, Option.isSome_some, Option.isSome_none, reduceCtorEq] at hknown
    · exact .ok rfl ⟨meets.rest, meets.verbose, congrArg (name :: ·) meets.names⟩
    · exact .stop

/-! ### Flags -/

/-- Something comes next after changes of flags. -/
theorem rest_of_readFlags {minus : Option Nat} {last : Bool} {changes : List FlagChange} {fuel : Nat}
    {before after : Cursor} {result : List FlagChange × Bool}
    (ran : (readFlags minus last changes fuel).run before = .ok (result, after)) :
    after.rest ≠ [] := by
  induction fuel generalizing minus last changes before with
  | zero => cases ran
  | succ fuel ih =>
    unfold readFlags at ran
    rw [run_next?_bind] at ran
    cases hrest : before.rest with
    | nil => simp [hrest] at ran
    | cons c rest =>
      simp only [hrest, List.head?_cons] at ran
      split at ran
      · split at ran
        · cases ran
        · cases ran
          simp [hrest]
      · split at ran
        · cases minus with
          | some earlier => cases ran
          | none =>
            rw [run_position_bind] at ran
            obtain ⟨_, between, _, ran⟩ := bind_ok ran
            exact ih ran
        · split at ran
          · cases ran
          · split at ran
            · cases ran
            · obtain ⟨_, between, _, ran⟩ := bind_ok ran
              exact ih ran

/-- Both readings read the same changes of flags, unless the text ends in them. -/
theorem follows_readFlags (closing : Closing tail) {minus minus' : Option Nat}
    (same : minus.isSome = minus'.isSome) (last : Bool) (changes : List FlagChange) {fuel fuel' : Nat}
    (enough : plain.rest.length < fuel) (enough' : tailed.rest.length < fuel')
    (meets : Meets tail plain tailed) :
    FollowsWithin tail (tail.length + 1) Eq ((readFlags minus last changes fuel).run plain)
      ((readFlags minus' last changes fuel').run tailed) := by
  induction fuel generalizing minus minus' last changes plain tailed fuel' with
  | zero => omega
  | succ fuel ih =>
    cases fuel' with
    | zero => omega
    | succ fuel' =>
      have hfurther : ∀ {minus minus' : Option Nat} {c : Char} {rest : List Char} (last : Bool)
          (changes : List FlagChange), minus.isSome = minus'.isSome → plain.rest = c :: rest →
          FollowsWithin tail (tail.length + 1) Eq
            ((advance >>= fun _ => readFlags minus last changes fuel).run plain)
            ((advance >>= fun _ => readFlags minus' last changes fuel').run tailed) := by
        intro minus minus' c rest last changes hsame hplain
        exact follows_advance_bind meets hplain fun _ _ hless hless' hmeets =>
          ih hsame last changes (by omega) (by omega) hmeets
      unfold readFlags
      refine .next closing meets (fun c rest hplain _ => ?_) (fun _ _ => .stop)
        fun more htail _ htailed => .error ?_
      · dsimp only
        split
        · rcases minus with _ | minus <;> rcases minus' with _ | minus' <;> simp at same
          · cases last <;> exact .ok rfl meets
          · cases last
            · exact .ok rfl meets
            · exact .stop
        · split
          · rcases minus with _ | minus <;> rcases minus' with _ | minus' <;> simp at same
            · rw [run_position_bind, run_position_bind]
              exact hfurther true changes rfl hplain
            · exact .stop
          · split
            · exact .stop
            · split
              · exact .stop
              · have hsame : minus.isNone = minus'.isNone := by
                  cases minus <;> cases minus' <;> simp_all
                rw [hsame]
                exact hfurther false _ same hplain
      · intro value cursor hok
        have hshort := Reader.shrinks _ hok
        simp only [htailed, htail, List.length_cons] at hshort ⊢
        omega

/-- Where the tail may come next, going past a character loses it. -/
theorem loses_advance_of_rest {cursor : Cursor} (next : cursor.rest ≠ [])
    (short : cursor.rest.length < limit + 1) : Loses limit (advance.run cursor) := by
  obtain ⟨c, rest, hrest⟩ := List.exists_cons_of_ne_nil next
  intro value after hok
  rw [length_of_advance hrest hok]
  rw [hrest, List.length_cons] at short
  omega

/-- Both readings read the same changes of flags as the opening of a group. The sign after the
changes is gone past, whichever it is. -/
theorem follows_readFlagOpening (closing : Closing tail) (start start' inner inner' : Nat)
    (meets : Meets tail plain tailed) :
    Follows tail Eq ((readFlagOpening start inner).run plain)
      ((readFlagOpening start' inner').run tailed) := by
  have hlost : ∀ (result : List FlagChange × Bool) (cursor : Cursor), cursor.rest ≠ [] →
      cursor.rest.length < tail.length + 1 → ∀ next : Option Char → Unit → Reader Opening,
      Loses tail.length ((next? >>= fun closing => advance >>= next closing).run cursor) := by
    intro result cursor hnext hshort next
    rw [run_next?_bind]
    exact (loses_advance_of_rest hnext hshort).bind _
  rw [readFlagOpening, readFlagOpening]
  refine .next closing meets (fun c rest hplain _ => ?_) (fun _ _ => .stop)
    fun more htail _ htailed => .error ?_
  · dsimp only
    rw [run_left_bind, run_left_bind]
    refine (follows_readFlags closing rfl false [] (Nat.lt_succ_self _) (Nat.lt_succ_self _)
      meets).bind_over (fun result cursor hran hshort => ?_)
      fun result _ plain tailed hran same meets => ?_
    · exact hlost result cursor (rest_of_readFlags hran) hshort _
    · subst same
      obtain ⟨sign, others, hsign⟩ := List.exists_cons_of_ne_nil (rest_of_readFlags hran)
      have hhead : tailed.rest.head? = plain.rest.head? := by
        have hsign' : tailed.rest = sign :: (others ++ tail) := by simpa [hsign] using meets.rest
        rw [hsign, hsign', List.head?_cons, List.head?_cons]
      rw [run_next?_bind, run_next?_bind, hhead]
      refine (follows_advance meets hsign).bind fun _ _ plain tailed _ _ meets => ?_
      split
      · split
        · exact .stop
        · exact .ok rfl meets
      · exact .ok rfl meets
  · dsimp only
    rw [run_left_bind]
    intro value after hok
    obtain ⟨result, cursor, hran, hok⟩ := bind_ok hok
    have hshort := Reader.shrinks _ hran
    rw [htailed] at hshort
    refine hlost result cursor (rest_of_readFlags hran) ?_ _ value after hok
    rw [htail]
    exact Nat.lt_succ_of_le hshort

/-! ### The opening of a group -/

/-- Both readings go past the first of some texts that comes next. -/
theorem follows_skipAny (closing : Closing tail) {texts : List (List Char)}
    (absent : ∀ chars ∈ texts, ')' ∉ chars) (meets : Meets tail plain tailed) :
    FollowsWithin tail limit Eq ((skipAny texts).run plain) ((skipAny texts).run tailed) := by
  induction texts generalizing plain tailed with
  | nil => exact .ok rfl meets
  | cons chars others ih =>
    rw [skipAny]
    refine (follows_skipIf closing meets (absent chars (by simp))).bind
      fun found _ plain tailed _ same meets => ?_
    subst same
    cases found with
    | true => exact .ok rfl meets
    | false => exact ih (fun other hmem => absent other (List.mem_cons_of_mem chars hmem)) meets

/-- Both readings read the same opening of a group. -/
theorem follows_readOpening (closing : Closing tail) (meets : Meets tail plain tailed) {c : Char}
    {rest : List Char} (parenthesis : plain.rest = c :: rest) :
    Follows tail Eq (readOpening.run plain) (readOpening.run tailed) := by
  rw [readOpening, run_position_bind, run_position_bind]
  refine (follows_advanceOver closing meets parenthesis).bind fun _ _ plain tailed _ _ meets => ?_
  rw [run_position_bind, run_position_bind]
  refine (follows_skipAny closing (by decide) meets).bind fun found _ plain tailed _ same meets => ?_
  subst same
  split
  · exact .stop
  · refine (follows_skipAny closing (by decide) meets).bind
      fun found _ plain tailed _ same meets => ?_
    subst same
    split
    · exact (follows_readGroupName closing meets).bind fun _ _ _ _ _ _ meets => .ok rfl meets
    · refine (follows_skipIf closing meets (by decide)).bind
        fun found _ plain tailed _ same meets => ?_
      subst same
      split
      · exact follows_readFlagOpening closing _ _ _ _ meets
      · exact .ok rfl meets

/-- The opening of a group takes a character. -/
theorem length_of_readOpening {cursor after : Cursor} {opening : Opening} {c : Char}
    {rest : List Char} (parenthesis : cursor.rest = c :: rest)
    (ran : readOpening.run cursor = .ok (opening, after)) : after.rest.length ≤ rest.length := by
  rw [readOpening, run_position_bind] at ran
  exact length_of_advanceOver_bind parenthesis ran

/-- Both readings turn verbose mode in the same way. -/
theorem follows_setVerbose (verbose : Bool) (meets : Meets tail plain tailed) :
    FollowsWithin tail limit Eq ((setVerbose verbose).run plain) ((setVerbose verbose).run tailed) :=
  .ok rfl ⟨meets.rest, rfl, meets.names⟩

/-- Both readings turn verbose mode as changes of flags say. -/
theorem follows_applyVerbose (changes : List FlagChange) (meets : Meets tail plain tailed) :
    FollowsWithin tail limit Eq ((applyVerbose changes).run plain)
      ((applyVerbose changes).run tailed) := by
  unfold applyVerbose
  split
  · exact follows_setVerbose _ meets
  · exact .ok rfl meets

end PageCheck.Pattern
