import Mathlib.Tactic.SplitIfs
import PageCheck.CommandLine.Arguments
import PageCheck.Proofs.Fallible

/-!
# Reading on from different places

Once a level has its operand, what further arguments come to does not depend on what the operand is,
and on the options before them only where an option cannot be given again. So what is read after
some options is read after fewer of them too, and it adds the same options there. Arguments that are
read in one go are read in two as well, if the first part can stand alone.
-/

namespace PageCheck.CommandLine

/-- Whether a level has an option of a name that can be given again. -/
def Level.Repeats (level : Level) (name : String) : Prop :=
  ∃ option ∈ level.options, option.long = name ∧ option.kind.repeats = true

/-- An argument whose value does not count yet belongs to an option of the level. -/
def Pending.IsOption (level : Level) : Pending → Prop
  | .awaiting option => option ∈ level.options
  | .given option _ => option ∈ level.options
  | .operand _ => False

/-- Read the arguments of a level without subcommands. -/
def readArguments (level : Level) : List String → Reading → Halted Reading
  | [], reading => .ok reading
  | argument :: rest, reading =>
    if argument = "--" then
      rest.foldlM (fun reading argument => reading.takeOperand level true argument) reading
    else do readArguments level rest (← reading.take level argument)

/-- Read the arguments of a level without subcommands, and close the level. -/
def readToEnd (level : Level) (arguments : List String) (reading : Reading) : Halted Reading := do
  closeLevel level (← readArguments level arguments reading)

/-- A level without subcommands is read to its end. -/
theorem readLevel_of_plain {level : Level} (plain : level.subcommands = [])
    (arguments : List String) (reading : Reading) :
    readLevel level arguments reading = (readArguments level arguments reading).map (·, none) := by
  induction arguments generalizing reading with
  | nil => rfl
  | cons argument rest ih =>
    rw [readLevel, readArguments, plain, List.contains_nil, Bool.and_false,
      if_neg Bool.false_ne_true]
    split_ifs
    · cases rest.foldlM (fun reading argument => reading.takeOperand level true argument) reading
        <;> rfl
    · cases reading.take level argument with
      | error stop => rfl
      | ok next => exact ih next

namespace Reading

/-- Once a level has its operand, no further argument has a place. -/
theorem takeOperand_of_operand {level : Level} {reading : Reading}
    (operand : reading.operand.isSome) (afterHyphens : Bool) (argument : String) :
    reading.takeOperand level afterHyphens argument =
      .error (.fault (misplaced level afterHyphens argument)) := by
  obtain ⟨value, hvalue⟩ := Option.isSome_iff_exists.mp operand
  rw [takeOperand.eq_def, hvalue]
  cases level.operand <;> rfl

/-- Both readings have their operand, and the first one has every option that the other one has. -/
structure Covers (start other : Reading) : Prop where
  /-- The first one has its operand. -/
  operand : start.operand.isSome
  /-- So does the other one. -/
  otherOperand : other.operand.isSome
  /-- It has no options beyond those of the first one. -/
  names : ∀ name, other.has name = true → start.has name = true

/-- Two readings that the same arguments lead to, after a start each. -/
structure Alongside (level : Level) (start other reading beside : Reading) : Prop where
  /-- The same options were added, and none that was there unless it can be given again. -/
  given : ∃ since, reading.given = start.given ++ since ∧ beside.given = other.given ++ since ∧
    ∀ option ∈ since, start.has option.1 = true → level.Repeats option.1
  /-- The first reading has its operand still. -/
  operand : reading.operand = start.operand
  /-- So does the other one. -/
  otherOperand : beside.operand = other.operand
  /-- The same argument does not count yet. -/
  pending : beside.pending = reading.pending
  /-- It belongs to an option. -/
  isOption : ∀ pending, reading.pending = some pending → pending.IsOption level

/-- If the first computation comes to a reading, the other one comes to one alongside it. -/
def KeepsUp (level : Level) (start other : Reading) (first second : Halted Reading) : Prop :=
  ∀ reading, first = .ok reading →
    ∃ beside, second = .ok beside ∧ Alongside level start other reading beside

section

variable {level : Level} {start other reading beside : Reading}

/-! ### Computations that keep up -/

namespace KeepsUp

variable {first second : Halted Reading} {next more : Reading → Halted Reading}

/-- Nothing has to keep up with a computation that halts. -/
theorem halted (stop : Stop) : KeepsUp level start other (.error stop) second := nofun

/-- Computations in two parts keep up if both parts do. -/
theorem bind (keeps : KeepsUp level start other first second)
    (then_keeps : ∀ {reading beside}, Alongside level start other reading beside →
      KeepsUp level start other (next reading) (more beside)) :
    KeepsUp level start other (first >>= next) (second >>= more) := by
  intro final hfinal
  obtain ⟨reading, hreading, hnext⟩ := ok_of_bind hfinal
  obtain ⟨beside, hbeside, along⟩ := keeps reading hreading
  rw [hbeside]
  exact then_keeps along final hnext

end KeepsUp

/-! ### Readings alongside each other -/

/-- An option is given if it was at the start or has been since. -/
theorem has_of_given {since : List (String × String)}
    (given : reading.given = start.given ++ since) (name : String) :
    reading.has name = (start.has name || since.any (·.1 == name)) := by
  rw [has, given, List.any_append, has]

namespace Alongside

/-- Nothing has been read yet. -/
theorem refl (settled : start.pending = none) (otherSettled : other.pending = none) :
    Alongside level start other start other where
  given := ⟨[], by simp⟩
  operand := rfl
  otherOperand := rfl
  pending := by rw [settled, otherSettled]
  isOption := by simp [settled]

variable (along : Alongside level start other reading beside)

include along

/-- Readings alongside each other are come to alongside each other. -/
theorem keepsUp : KeepsUp level start other (.ok reading) (.ok beside) := by
  rintro _ ⟨⟩
  exact ⟨beside, rfl, along⟩

/-- Forget the argument that does not count yet. -/
theorem withoutPending : Alongside level start other { reading with pending := none }
    { beside with pending := none } :=
  ⟨along.given, along.operand, along.otherOperand, rfl, nofun⟩

/-- Have an option wait for its value, or its value for the next argument. -/
theorem withPending (pending : Pending) (isOption : pending.IsOption level) :
    Alongside level start other { reading with pending := some pending }
      { beside with pending := some pending } := by
  refine ⟨along.given, along.operand, along.otherOperand, rfl, ?_⟩
  rintro _ ⟨⟩
  exact isOption

variable (covers : Covers start other)

include covers

/-- The options of the other reading are among those of the first one. -/
theorem has_of_has {name : String} (held : beside.has name = true) : reading.has name = true := by
  obtain ⟨since, hgiven, hbeside, _⟩ := along.given
  rw [has_of_given hbeside, Bool.or_eq_true] at held
  rw [has_of_given hgiven, Bool.or_eq_true]
  exact held.imp_left (covers.names name)

/-- An option that counts in the first reading counts in the other one. -/
theorem accept {option : OptionSpec} (known : option ∈ level.options) (value : String) :
    KeepsUp level start other (reading.accept option value) (beside.accept option value) := by
  intro next accepted
  rw [Reading.accept] at accepted ⊢
  split_ifs at accepted with hhelp hversion hagain hadmits
  cases accepted
  have hbeside : ¬ (beside.has option.long && !option.kind.repeats) = true := by
    rw [Bool.and_eq_true] at hagain ⊢
    exact fun h => hagain ⟨along.has_of_has covers h.1, h.2⟩
  rw [if_neg hhelp, if_neg hversion, if_neg hbeside, if_pos hadmits]
  refine ⟨_, rfl, ?_, along.operand, along.otherOperand, along.pending, along.isOption⟩
  obtain ⟨since, hgiven, hother, hfresh⟩ := along.given
  refine ⟨since ++ [(option.long, value)], ?_, ?_, ?_⟩
  · rw [← List.append_assoc, ← hgiven]
  · rw [← List.append_assoc, ← hother]
  · refine List.forall_mem_append.mpr ⟨hfresh, List.forall_mem_singleton.mpr fun hheld => ?_⟩
    have hhas : reading.has option.long = true := by rw [has_of_given hgiven, hheld, Bool.true_or]
    rw [hhas, Bool.true_and, Bool.not_eq_true', Bool.not_eq_false] at hagain
    exact ⟨option, known, rfl, hagain⟩

/-! ### Arguments -/

/-- What was looked at last counts in both readings. -/
theorem settle : KeepsUp level start other (reading.settle level) (beside.settle level) := by
  rw [Reading.settle, Reading.settle, along.pending]
  cases hpending : reading.pending with
  | none => exact along.withoutPending.keepsUp
  | some pending =>
    have hoption := along.isOption pending hpending
    cases pending with
    | awaiting option => exact .halted _
    | given option value => exact along.withoutPending.accept covers hoption value
    | operand value => exact hoption.elim

/-- An option is taken in both readings. -/
theorem takeOption {option : OptionSpec} (known : option ∈ level.options)
    (attached : Option String) :
    KeepsUp level start other (reading.takeOption level option attached)
      (beside.takeOption level option attached) := by
  refine (along.settle covers).bind fun along => ?_
  cases attached with
  | some value => exact along.accept covers known value
  | none =>
    dsimp only
    split_ifs
    · exact (along.withPending (.awaiting option) known).keepsUp
    · exact along.accept covers known ""

/-- An argument that begins with two hyphens is taken in both readings. -/
theorem takeLong (name : String) (attached : Option String) :
    KeepsUp level start other (reading.takeLong level name attached)
      (beside.takeLong level name attached) := by
  rw [Reading.takeLong.eq_def, Reading.takeLong.eq_def]
  cases hfind : level.options.find? (·.long == name) with
  | none => exact .halted _
  | some option =>
    have hknown := List.mem_of_find?_eq_some hfind
    cases attached with
    | none => exact along.takeOption covers hknown none
    | some value =>
      dsimp only
      split_ifs
      · exact along.takeOption covers hknown (some value)
      · exact .halted _

omit along in
/-- The letters after one hyphen are taken in both readings. -/
theorem takeShorts (letters : List Char) :
    ∀ {reading beside}, Alongside level start other reading beside →
      KeepsUp level start other (reading.takeShorts level letters)
        (beside.takeShorts level letters) := by
  induction letters with
  | nil => exact fun along => along.keepsUp
  | cons c rest ih =>
    intro reading beside along
    rw [Reading.takeShorts.eq_def, Reading.takeShorts.eq_def]
    dsimp only
    cases hfind : level.options.find? (·.short == some c) with
    | none => exact .halted _
    | some option =>
      have hknown := List.mem_of_find?_eq_some hfind
      dsimp only
      split_ifs
      · split <;> exact along.takeOption covers hknown _
      · exact (along.takeOption covers hknown none).bind ih

/-- An argument that is no option has no place any more. -/
theorem takeOperand (afterHyphens : Bool) (argument : String) :
    KeepsUp level start other (reading.takeOperand level afterHyphens argument)
      (beside.takeOperand level afterHyphens argument) := by
  rw [takeOperand_of_operand (along.operand ▸ covers.operand)]
  exact .halted _

/-- An argument that does not begin with a hyphen is the value of an option in both readings. -/
theorem takePlain (argument : String) :
    KeepsUp level start other (reading.takePlain level argument)
      (beside.takePlain level argument) := by
  have htaken := along.takeOperand covers false argument
  rw [Reading.takePlain.eq_def, Reading.takePlain.eq_def, along.pending]
  cases hpending : reading.pending with
  | none => exact htaken
  | some pending =>
    have hoption := along.isOption pending hpending
    cases pending with
    | awaiting option =>
      exact (along.withPending (.given option argument) hoption).keepsUp
    | given option value => exact htaken
    | operand value => exact hoption.elim

/-- Any argument before two hyphens that stand alone is taken in both readings. -/
theorem take (argument : String) :
    KeepsUp level start other (reading.take level argument) (beside.take level argument) := by
  rw [Reading.take.eq_def, Reading.take.eq_def]
  split
  · exact along.takeLong covers _ _
  · exact takeShorts covers _ along
  · exact along.takePlain covers argument

/-! ### Whole levels -/

/-- Arguments after two hyphens that stand alone have no place, if there are any. -/
theorem foldlM_takeOperand (arguments : List String) :
    KeepsUp level start other
      (arguments.foldlM (fun reading argument => reading.takeOperand level true argument) reading)
      (arguments.foldlM (fun reading argument => reading.takeOperand level true argument)
        beside) := by
  cases arguments with
  | nil => exact along.keepsUp
  | cons argument rest =>
    rw [List.foldlM_cons, takeOperand_of_operand (along.operand ▸ covers.operand)]
    exact .halted _

omit along in
/-- Arguments are read from both readings on. -/
theorem readArguments (arguments : List String) :
    ∀ {reading beside}, Alongside level start other reading beside →
      KeepsUp level start other (readArguments level arguments reading)
        (readArguments level arguments beside) := by
  induction arguments with
  | nil => exact fun along => along.keepsUp
  | cons argument rest ih =>
    intro reading beside along
    rw [CommandLine.readArguments, CommandLine.readArguments]
    split_ifs
    · exact along.foldlM_takeOperand covers rest
    · exact (along.take covers argument).bind ih

/-- The level is closed after both readings. -/
theorem closeLevel : KeepsUp level start other (closeLevel level reading)
    (closeLevel level beside) := by
  refine (along.settle covers).bind fun {reading beside} along => ?_
  have hexclusive : (level.exclusive.any fun pair => beside.has pair.1 && beside.has pair.2) →
      level.exclusive.any fun pair => reading.has pair.1 && reading.has pair.2 := by
    rw [List.any_eq_true, List.any_eq_true]
    rintro ⟨pair, hmem, hpair⟩
    rw [Bool.and_eq_true] at hpair
    exact ⟨pair, hmem, Bool.and_eq_true_iff.mpr
      ⟨along.has_of_has covers hpair.1, along.has_of_has covers hpair.2⟩⟩
  split_ifs with hreading hbeside hbeside
  · exact .halted _
  · exact .halted _
  · exact absurd (hexclusive hbeside) hreading
  · exact along.keepsUp

/-- Arguments are read to the end from both readings on. -/
theorem readToEnd (arguments : List String) :
    KeepsUp level start other (readToEnd level arguments reading)
      (readToEnd level arguments beside) :=
  (readArguments covers arguments along).bind fun along => along.closeLevel covers

end Alongside

/-! ### Reading in two parts -/

variable {settled : Reading}

/-- An option that counts is added to what is given, and that is all. -/
theorem accept_eq_ok {option : OptionSpec} {value : String}
    (accepted : reading.accept option value = .ok settled) :
    settled = { reading with given := reading.given ++ [(option.long, value)] } := by
  rw [accept] at accepted
  split_ifs at accepted
  cases accepted
  rfl

/-- After what was looked at last is counted, nothing is left to count. -/
theorem pending_of_settle (settles : reading.settle level = .ok settled) :
    settled.pending = none := by
  rw [settle.eq_def] at settles
  cases hpending : reading.pending with
  | none =>
    rw [hpending] at settles
    cases settles
    rfl
  | some pending =>
    rw [hpending] at settles
    cases pending with
    | awaiting option => cases settles
    | given option value => rw [accept_eq_ok settles]
    | operand value =>
      dsimp only at settles
      split_ifs at settles
      cases settles
      rfl

/-- What counts already is not counted again. -/
theorem settle_of_pending (none : reading.pending = none) :
    reading.settle level = .ok reading := by
  obtain ⟨given, operand, pending⟩ := reading
  cases none
  rfl

/-- An option is taken as it is once what was looked at last is counted. -/
theorem takeOption_of_settle (settles : reading.settle level = .ok settled) (option : OptionSpec)
    (attached : Option String) :
    settled.takeOption level option attached = reading.takeOption level option attached := by
  rw [takeOption, takeOption, settles, settle_of_pending (pending_of_settle settles)]

/-- So is an argument, unless it is the value of an option. -/
theorem take_of_settle (settles : reading.settle level = .ok settled)
    (operand : reading.operand.isSome) (settledOperand : settled.operand.isSome)
    (argument : String) : settled.take level argument = reading.take level argument := by
  have hnone := pending_of_settle settles
  rw [take.eq_def, take.eq_def]
  split
  · dsimp only
    rw [takeLong.eq_def, takeLong.eq_def]
    simp only [takeOption_of_settle settles]
  · rw [takeShorts.eq_def, takeShorts.eq_def]
    simp only [takeOption_of_settle settles]
  · rw [takePlain.eq_def, takePlain.eq_def, hnone, takeOperand_of_operand settledOperand]
    cases hpending : reading.pending with
    | none => rw [takeOperand_of_operand operand]
    | some pending =>
      cases pending with
      | awaiting option =>
        rw [settle, hpending] at settles
        cases settles
      | given option value => exact (takeOperand_of_operand operand false argument).symm
      | operand value => exact (takeOperand_of_operand operand false argument).symm

/-- So is a level. -/
theorem closeLevel_of_settle (settles : reading.settle level = .ok settled) :
    closeLevel level settled = closeLevel level reading := by
  rw [closeLevel, closeLevel, settles,
    settle_of_pending (pending_of_settle settles)]

/-- So are all arguments that follow. -/
theorem readToEnd_of_settle (settles : reading.settle level = .ok settled)
    (operand : reading.operand.isSome) (settledOperand : settled.operand.isSome)
    (arguments : List String) :
    readToEnd level arguments settled =
      readToEnd level arguments reading := by
  rw [readToEnd, readToEnd]
  cases arguments with
  | nil => exact closeLevel_of_settle settles
  | cons argument rest =>
    rw [readArguments, readArguments,
      take_of_settle settles operand settledOperand]
    split_ifs
    · cases rest with
      | nil => exact closeLevel_of_settle settles
      | cons argument rest =>
        rw [List.foldlM_cons, List.foldlM_cons, takeOperand_of_operand operand,
          takeOperand_of_operand settledOperand]
    · rfl

/-- A level that is closed is settled, and it stays as it is when it is closed again. -/
theorem settle_of_closeLevel {closed : Reading}
    (closes : closeLevel level reading = .ok closed) :
    reading.settle level = .ok closed := by
  obtain ⟨settled, hsettled, hrest⟩ := ok_of_bind closes
  split_ifs at hrest
  · cases hrest
  · cases hrest
    exact hsettled

/-- What is read in one go is read in two parts, unless the second part is empty. After two hyphens
nothing else can come, be it of the first part or of the second one. -/
theorem readArguments_append {first second : List String} {final : Reading}
    (along : Alongside level start other reading beside) (covers : Covers start other)
    (whole : readArguments level (first ++ second) reading = .ok final) :
    second = [] ∨ ∃ middle, readArguments level first reading = .ok middle ∧
      readArguments level second middle = .ok final := by
  induction first generalizing reading beside with
  | nil => exact .inr ⟨reading, rfl, whole⟩
  | cons argument rest ih =>
    rw [List.cons_append, readArguments] at whole
    rw [readArguments]
    split_ifs at whole ⊢
    · left
      cases hafter : rest ++ second with
      | nil => exact (List.append_eq_nil_iff.mp hafter).2
      | cons argument after =>
        rw [hafter, List.foldlM_cons,
          takeOperand_of_operand (along.operand ▸ covers.operand)] at whole
        cases whole
    · obtain ⟨next, hnext, hwhole⟩ := ok_of_bind whole
      obtain ⟨_, _, halong⟩ := along.take covers argument next hnext
      rw [hnext]
      exact ih halong hwhole

/-- Arguments that can stand alone are read first, and what follows them is read after them. -/
theorem readToEnd_append {first second : List String} {middle final : Reading}
    (along : Alongside level start other reading beside) (covers : Covers start other)
    (alone : readToEnd level first reading = .ok middle)
    (whole : readToEnd level (first ++ second) reading = .ok final) :
    readToEnd level second middle = .ok final := by
  obtain ⟨read, hread, hclose⟩ := ok_of_bind alone
  obtain ⟨all, hall, hfinal⟩ := ok_of_bind whole
  have hsettle := settle_of_closeLevel hclose
  rcases readArguments_append along covers hall with rfl | ⟨middle', hfirst, hsecond⟩
  · rw [List.append_nil, hread] at hall
    cases hall
    rw [hclose] at hfinal
    cases hfinal
    exact (closeLevel_of_settle hsettle).trans hclose
  · obtain rfl : read = middle' := Except.ok.inj (hread.symm.trans hfirst)
    obtain ⟨_, _, hread_along⟩ := along.readArguments covers first read hread
    obtain ⟨_, _, hmiddle_along⟩ := hread_along.settle covers middle hsettle
    rw [readToEnd_of_settle hsettle (hread_along.operand ▸ covers.operand)
      (hmiddle_along.operand ▸ covers.operand), readToEnd, hsecond]
    exact hfinal

end

end Reading

end PageCheck.CommandLine
