/-!
# Faults of patterns

Everything that can be wrong with a pattern, and the text that points at it. The text shows the
pattern with a row of carets under every line that has something wrong in it. Lines have numbers if
there are several, and a place that goes over more than one of them is described in words.
-/

namespace PageCheck.Pattern

/-- A stretch of a pattern: from one position up to, but not including, another. -/
structure Span where
  /-- The first position. -/
  start : Nat
  /-- The position after the last one. -/
  stop : Nat
deriving Repr, DecidableEq

/-- The ways in which a text can fail to be a pattern. What may not be repeated is known with the
place where it stands first. -/
inductive FaultKind
  | escapeInClass
  | badClassRange
  | classRangeBound
  | unclosedClass
  | badDecimal
  | emptyHex
  | badHex
  | badHexDigit
  | endInEscape
  | unknownEscape
  | danglingNegation
  | repeatedFlag (earlier : Span)
  | repeatedNegation (earlier : Span)
  | endInFlags
  | unknownFlag
  | repeatedName (earlier : Span)
  | emptyName
  | badName
  | endInName
  | unclosedGroup
  | unopenedGroup
  | tooDeep
  | badRepetition
  | repetitionWithoutNumber
  | unclosedRepetition
  | nothingToRepeat
  | unclosedBoundary
  | unknownBoundary
  | endInBoundary
  | badProperty
  | backreference
  | lookAround
  | unicodeNotAllowed
  | partOfCharacter
  | unknownProperty
  | unknownPropertyValue
deriving Repr, DecidableEq

/-- The greatest nesting depth of a pattern. -/
def nestLimit : Nat := 250

/-- The place where something stands first that is repeated. -/
def FaultKind.earlier? : FaultKind → Option Span
  | repeatedFlag earlier => some earlier
  | repeatedNegation earlier => some earlier
  | repeatedName earlier => some earlier
  | _ => none

/-- The wording of a fault. -/
def FaultKind.message : FaultKind → String
  | escapeInClass => "invalid escape sequence found in character class"
  | badClassRange => "invalid character class range, the start must be <= the end"
  | classRangeBound => "invalid range boundary, must be a literal"
  | unclosedClass => "unclosed character class"
  | badDecimal => "decimal literal invalid"
  | emptyHex => "hexadecimal literal empty"
  | badHex => "hexadecimal literal is not a Unicode scalar value"
  | badHexDigit => "invalid hexadecimal digit"
  | endInEscape => "incomplete escape sequence, reached end of pattern prematurely"
  | unknownEscape => "unrecognized escape sequence"
  | danglingNegation => "dangling flag negation operator"
  | repeatedFlag _ => "duplicate flag"
  | repeatedNegation _ => "flag negation operator repeated"
  | endInFlags => "expected flag but got end of regex"
  | unknownFlag => "unrecognized flag"
  | repeatedName _ => "duplicate capture group name"
  | emptyName => "empty capture group name"
  | badName => "invalid capture group character"
  | endInName => "unclosed capture group name"
  | unclosedGroup => "unclosed group"
  | unopenedGroup => "unopened group"
  | tooDeep =>
    "exceed the maximum number of nested parentheses/brackets (" ++ toString nestLimit ++ ")"
  | badRepetition => "invalid repetition count range, the start must be <= the end"
  | repetitionWithoutNumber => "repetition quantifier expects a valid decimal"
  | unclosedRepetition => "unclosed counted repetition"
  | nothingToRepeat => "repetition operator missing expression"
  | unclosedBoundary =>
    "special word boundary assertion is either unclosed or contains an invalid character"
  | unknownBoundary => "unrecognized special word boundary assertion, valid choices are: " ++
      "start, end, start-half or end-half"
  | endInBoundary => "found either the beginning of a special word boundary or a bounded " ++
      "repetition on a \\b with an opening brace, but no closing brace"
  | badProperty => "invalid Unicode character class"
  | backreference => "backreferences are not supported"
  | lookAround => "look-around, including look-ahead and look-behind, is not supported"
  | unicodeNotAllowed => "Unicode not allowed here"
  | partOfCharacter => "pattern can match invalid UTF-8"
  | unknownProperty => "Unicode property not found"
  | unknownPropertyValue => "Unicode property value not found"

/-- What is wrong with a pattern, and where. -/
structure Fault where
  /-- What is wrong. -/
  kind : FaultKind
  /-- Where. -/
  span : Span
deriving Repr, DecidableEq

/-- The places that the text about a fault points at, the first one first. -/
def Fault.places (fault : Fault) : List Span := fault.kind.earlier?.toList ++ [fault.span]

/-- The line and the column of a position, both counted from 1. -/
def lineAndColumn (chars : List Char) (position : Nat) : Nat × Nat :=
  let before := chars.take position
  (before.count '\n' + 1, (before.reverse.takeWhile (· != '\n')).length + 1)

/-- The lines of a text without their breaks, the one that `line` begins, last character first,
before the others. What stands after the last break is a line if it is anything. -/
def linesFrom (line : List Char) : List Char → List (List Char)
  | [] => if line.isEmpty then [] else [line.reverse]
  | c :: rest =>
    if c = '\n' then
      (match line with
        | '\r' :: before => before.reverse
        | _ => line.reverse) :: linesFrom [] rest
    else linesFrom (c :: line) rest

/-- Carets under the columns of places in a line, at least one for each, from a column on. -/
def caretsFrom (column : Nat) : List (Nat × Nat) → List Char
  | [] => []
  | (start, stop) :: rest =>
    let width := max 1 (stop - start)
    List.replicate (start - column) ' ' ++ List.replicate width '^' ++
      caretsFrom (max column start + width) rest

/-- The columns of a place that is in one line. -/
def columnsIn? (chars : List Char) (line : Nat) (place : Span) : Option (Nat × Nat) :=
  let start := lineAndColumn chars place.start
  let stop := lineAndColumn chars place.stop
  if start.1 = line ∧ stop.1 = line then some (start.2, stop.2) else none

/-- A line of a pattern with its number, for which there is a width unless it is the only one, and
the carets under it. -/
def markedLine (chars : List Char) (places : List Span) (width number : Nat) (line : List Char) :
    String :=
  let margin :=
    if width = 0 then "    "
    else String.ofList (List.replicate (width - (toString number).length) ' ') ++
      toString number ++ ": "
  let columns := places.filterMap (columnsIn? chars number)
  let carets :=
    if columns.isEmpty then ""
    else String.ofList (List.replicate margin.length ' ' ++ caretsFrom 1 columns) ++ "\n"
  margin ++ String.ofList line ++ "\n" ++ carets

/-- The lines of a pattern, the first of which has the given number, with carets under them. -/
def markedLines (chars : List Char) (places : List Span) (width : Nat) :
    Nat → List (List Char) → String
  | _, [] => ""
  | number, line :: rest =>
    markedLine chars places width number line ++ markedLines chars places width (number + 1) rest

/-- A place in words that is in more than one line. -/
def describe? (chars : List Char) (place : Span) : Option String :=
  let start := lineAndColumn chars place.start
  let stop := lineAndColumn chars place.stop
  if start.1 = stop.1 then none
  else some ("on line " ++ toString start.1 ++ " (column " ++ toString start.2 ++
    ") through line " ++ toString stop.1 ++ " (column " ++ toString (stop.2 - 1) ++ ")")

/-- The text that shows a pattern and points at a fault. -/
def Fault.text (fault : Fault) (pattern : String) : String :=
  let chars := pattern.toList
  let lines := linesFrom [] chars
  let count := lines.length + if chars.getLast? = some '\n' then 1 else 0
  let width := if count ≤ 1 then 0 else (toString count).length
  let shown := markedLines chars fault.places width 1 lines
  let divider := String.ofList (List.replicate 79 '~') ++ "\n"
  let described := fault.places.filterMap (describe? chars)
  let notes := if described.isEmpty then "" else "\n".intercalate described ++ "\n"
  "regex parse error:\n" ++
    (if chars.contains '\n' then divider ++ shown ++ divider ++ notes else shown) ++
    "error: " ++ fault.kind.message

end PageCheck.Pattern
