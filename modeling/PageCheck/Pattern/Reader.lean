import PageCheck.Pattern.Syntax
import PageCheck.Unicode.Prose

/-!
# Readers of patterns

A reader of patterns goes through the text once, from left to right, and stops at the first fault.
In verbose mode blanks and comments between the parts are passed over.
-/

namespace PageCheck.Pattern

open Unicode (isBlank)

/-- How far a pattern has been read. -/
structure Cursor where
  /-- What is left. -/
  rest : List Char
  /-- The number of characters read. -/
  position : Nat
  /-- Whether blanks and comments are passed over. -/
  verbose : Bool
  /-- The names of groups so far, with their places. -/
  names : List (List Char × Span)

/-- A step of reading. It never puts back what has been read. -/
structure Reader (α : Type) where
  /-- What comes of it. -/
  run : Cursor → Except Fault (α × Cursor)
  /-- What is left after it is an end of what was left before. -/
  suffix : ∀ {before after : Cursor} {value : α}, run before = .ok (value, after) →
    after.rest <:+ before.rest

namespace Reader

/-- No more is left after a step than before. -/
theorem shrinks {α : Type} (reader : Reader α) {before after : Cursor} {value : α}
    (ran : reader.run before = .ok (value, after)) : after.rest.length ≤ before.rest.length :=
  (reader.suffix ran).length_le

instance : Monad Reader where
  pure value := ⟨fun cursor => .ok (value, cursor), fun h => by cases h; exact List.suffix_refl _⟩
  bind first next :=
    { run := fun cursor =>
        match first.run cursor with
        | .ok (value, between) => (next value).run between
        | .error fault => .error fault
      suffix := fun {before after value} h => by
        cases hfirst : first.run before with
        | error fault => simp [hfirst] at h
        | ok result =>
          rw [hfirst] at h
          exact ((next result.1).suffix h).trans (first.suffix hfirst) }

/-- Look at the cursor. -/
def look {α : Type} (view : Cursor → α) : Reader α :=
  ⟨fun cursor => .ok (view cursor, cursor), fun h => by cases h; exact List.suffix_refl _⟩

/-- Change the cursor without putting anything back. -/
def move (step : Cursor → Cursor)
    (suffix : ∀ cursor, (step cursor).rest <:+ cursor.rest) : Reader Unit :=
  ⟨fun cursor => .ok ((), step cursor), fun h => by cases h; exact suffix _⟩

/-- Stop with a fault at a place. -/
def fault {α : Type} (kind : FaultKind) (start stop : Nat) : Reader α :=
  ⟨fun _ => .error ⟨kind, ⟨start, stop⟩⟩, fun h => by cases h⟩

/-- The position. -/
def position : Reader Nat := look Cursor.position

/-- The number of characters left. -/
def left : Reader Nat := look (·.rest.length)

/-- The next character. -/
def next? : Reader (Option Char) := look (·.rest.head?)

/-- The character after the next one. -/
def second? : Reader (Option Char) := look fun cursor => (cursor.rest.drop 1).head?

/-- Whether blanks and comments are passed over. -/
def isVerbose : Reader Bool := look Cursor.verbose

/-- Pass over blanks and comments from now on, or no more. -/
def setVerbose (verbose : Bool) : Reader Unit :=
  move (fun cursor => { cursor with verbose }) fun _ => List.suffix_refl _

/-- The place where a group has a name, if one does. -/
def placeOfName? (name : List Char) : Reader (Option Span) := look (·.names.lookup name)

/-- Give a group a name, which stands at a place. -/
def addName (name : List Char) (place : Span) : Reader Unit :=
  move (fun cursor => { cursor with names := (name, place) :: cursor.names })
    fun _ => List.suffix_refl _

/-- Go past some characters. -/
def skip (count : Nat) : Reader Unit :=
  move (fun cursor => { cursor with
      rest := cursor.rest.drop count
      position := cursor.position + min count cursor.rest.length })
    fun cursor => List.drop_suffix count cursor.rest

/-- Go past the next character. -/
def advance : Reader Unit := skip 1

/-- What is left after blanks and comments, with its position. -/
def dropBlanks (inComment : Bool) (position : Nat) : List Char → List Char × Nat
  | [] => ([], position)
  | c :: rest =>
    if inComment then dropBlanks (c != '\n') (position + 1) rest
    else if isBlank c then dropBlanks false (position + 1) rest
    else if c = '#' then dropBlanks true (position + 1) rest
    else (c :: rest, position)

/-- Passing over blanks and comments leaves an end of what there was. -/
theorem dropBlanks_suffix (inComment : Bool) (position : Nat) (chars : List Char) :
    (dropBlanks inComment position chars).1 <:+ chars := by
  induction chars generalizing inComment position with
  | nil => exact List.suffix_refl _
  | cons c rest ih =>
    have hrest : ∀ inComment position, (dropBlanks inComment position rest).1 <:+ c :: rest :=
      fun inComment position => (ih inComment position).trans (List.suffix_cons c rest)
    rw [dropBlanks]
    split
    · exact hrest _ _
    · split
      · exact hrest _ _
      · split
        · exact hrest _ _
        · exact List.suffix_refl _

/-- In verbose mode, go past blanks and comments. -/
def skipBlanks : Reader Unit :=
  move (fun cursor =>
      if cursor.verbose then
        let (rest, position) := dropBlanks false cursor.position cursor.rest
        { cursor with rest, position }
      else cursor)
    fun cursor => by
      split
      · exact dropBlanks_suffix false cursor.position cursor.rest
      · exact List.suffix_refl _

/-- Go past the next character and what may be passed over after it. -/
def advanceOver : Reader Unit := do
  advance
  skipBlanks

/-- The character after the next one at a cursor, blanks and comments passed over. -/
def secondOverAt (cursor : Cursor) : Option Char :=
  let after := cursor.rest.drop 1
  (if cursor.verbose then (dropBlanks false 0 after).1 else after).head?

/-- The character after the next one, blanks and comments passed over. -/
def secondOver? : Reader (Option Char) := look secondOverAt

/-- Go past blanks, in every mode. -/
def skipAllBlanks : Reader Unit :=
  move (fun cursor => { cursor with
      rest := cursor.rest.dropWhile isBlank
      position := cursor.position + (cursor.rest.takeWhile isBlank).length })
    fun _ => List.dropWhile_suffix isBlank

/-- Go past some characters if they come next. -/
def skipIf (chars : List Char) : Reader Bool := do
  if ← look fun cursor => chars.isPrefixOf cursor.rest then
    skip chars.length
    return true
  else return false

/-- Go past the first of some texts that comes next. -/
def skipAny : List (List Char) → Reader Bool
  | [] => return false
  | chars :: others => do
    if ← skipIf chars then return true else skipAny others

/-- Stop with a fault over the next character. -/
def faultHere {α : Type} (kind : FaultKind) : Reader α := do
  let here ← position
  fault kind here (here + 1)

/-- Stop with a fault that has no width. -/
def faultBefore {α : Type} (kind : FaultKind) : Reader α := do
  let here ← position
  fault kind here here

/-- Take the next character if it passes a test, and pass over what may be passed over after it. -/
def takeIf? (test : Char → Bool) : Reader (Option Char) := do
  match ← next? with
  | some c =>
    if test c then do
      advanceOver
      return some c
    else return none
  | none => return none

/-- Read items until there is none, at most as many as given. -/
def atMost {α : Type} (item? : Reader (Option α)) : Nat → Reader (List α)
  | 0 => return []
  | count + 1 => do
    match ← item? with
    | some item => return item :: (← atMost item? count)
    | none => return []

/-- Read items until there is none. Each of them takes a character. -/
def many {α : Type} (item? : Reader (Option α)) : Reader (List α) := do
  atMost item? ((← left) + 1)

end Reader

end PageCheck.Pattern
