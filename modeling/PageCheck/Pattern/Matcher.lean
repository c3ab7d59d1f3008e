import PageCheck.Pattern.Basic

/-!
# Matching

A set of positions of a text is a number whose bits are the positions. Against a given text, a
pattern takes every set of starting positions to the set of positions where a match that starts at
one of them can end. Sets of characters and places become masks, which are computed once for a
text; repetitions go on until nothing new is reached.
-/

namespace PageCheck.Pattern

/-- The number whose bits are the given ones, lowest first. -/
def bitsOf : List Bool → Nat
  | [] => 0
  | bit :: rest => 2 * bitsOf rest + (if bit then 1 else 0)

/-- The positions whose character is in a set. -/
def setMask (set : CharSet) (text : List Char) : Nat := bitsOf (text.map set.contains)

/-- Whether each position from the current one on passes a test, `before` being the character before
it. -/
def lookBits (look : Look) (before : Option Char) : List Char → List Bool
  | [] => [look.passes before none]
  | c :: rest => look.passes before (some c) :: lookBits look (some c) rest

/-- The positions that pass a test. -/
def lookMask (look : Look) (text : List Char) : Nat := bitsOf (lookBits look none text)

/-- A pattern against a given text. -/
inductive Moves
  /-- Stay at every position. -/
  | stay
  /-- Go one position on from the positions of a mask. -/
  | step (mask : Nat)
  /-- Stay at the positions of a mask. -/
  | hold (mask : Nat)
  | seq (first second : Moves)
  | alt (first second : Moves)
  | repeated (part : Moves) (least : Nat) (most : Option Nat)

/-- A pattern against a text. -/
def moves (text : List Char) : Pattern → Moves
  | .empty => .stay
  | .one set => .step (setMask set text)
  | .look test => .hold (lookMask test text)
  | .group part => moves text part
  | .seq first second => .seq (moves text first) (moves text second)
  | .alt first second => .alt (moves text first) (moves text second)
  | .repeated part least most => .repeated (moves text part) least most

/-- Apply a map of sets some number of times, or until it changes nothing. -/
def applyTimes (map : Nat → Nat) : Nat → Nat → Nat
  | 0, starts => starts
  | count + 1, starts =>
    let next := map starts
    if next = starts then starts else applyTimes map count next

/-- Everything that at most some number of applications of a map reach. -/
def applyUpTo (map : Nat → Nat) : Nat → Nat → Nat
  | 0, starts => starts
  | count + 1, starts =>
    let next := starts ||| map starts
    if next = starts then starts else applyUpTo map count next

/-- Where matches that start at given positions can end. A repetition without upper bound needs no
more rounds than there are positions. -/
def Moves.reach (positions : Nat) : Moves → Nat → Nat
  | .stay, starts => starts
  | .step mask, starts => (starts &&& mask) <<< 1
  | .hold mask, starts => starts &&& mask
  | .seq first second, starts => second.reach positions (first.reach positions starts)
  | .alt first second, starts => first.reach positions starts ||| second.reach positions starts
  | .repeated part least most, starts =>
    let after := applyTimes (part.reach positions) least starts
    applyUpTo (part.reach positions) (match most with
      | some most => most - least
      | none => positions) after

/-- Whether a pattern matches somewhere in a text. -/
def occursIn (pattern : Pattern) (text : List Char) : Bool :=
  let positions := text.length + 1
  (moves text pattern).reach positions (Nat.pow 2 positions - 1) != 0

end PageCheck.Pattern
