import PageCheck.Pattern.Compile

/-!
# Comparisons

Six states compare a text that is there with one that is expected: three comparisons, each with its
negation.
-/

namespace PageCheck

/-- A way to compare two texts. -/
inductive Comparison
  /-- They are the same. -/
  | equals
  /-- One contains the other. -/
  | contains
  /-- One is matched by the other as a pattern, from end to end. -/
  | matching
deriving Repr, DecidableEq

namespace Comparison

/-- The name of a comparison. -/
def name : Comparison → String
  | equals => "Equals"
  | contains => "Contains"
  | matching => "Matches"

/-- The comparison behind a state and whether its result is negated. -/
def ofState? : ValidationState → Option (Comparison × Bool)
  | .equals => some (equals, false)
  | .notEquals => some (equals, true)
  | .contains => some (contains, false)
  | .notContains => some (contains, true)
  | .matches => some (matching, false)
  | .notMatches => some (matching, true)
  | _ => none

/-- Whether a text contains another one. -/
def containsChars (part : List Char) : List Char → Bool
  | [] => part.isEmpty
  | c :: rest => part.isPrefixOf (c :: rest) || containsChars part rest

/-- Compare a text with an expected one. -/
def evaluate (comparison : Comparison) (actual expected : String) : Result Bool :=
  match comparison with
  | equals => .ok (actual == expected)
  | contains => .ok (containsChars expected.toList actual.toList)
  | matching => Pattern.fullMatch expected actual

end Comparison

end PageCheck
