import PageCheck.Unicode.Age
import PageCheck.Unicode.Letters

/-!
# Sets of characters

A set of characters as closed ranges of code points in increasing order, no two of which touch.
Besides the operations of set algebra there is closure under case variants.

Patterns know edition 16.0 of the standard. A set that comes from a table of edition 17.0 leaves out
what that edition brought, and the one letter that it moved to another category is moved back.
-/

namespace PageCheck.Pattern

open Unicode (CodePoints GeneralCategory foldTable newcomers otherAlphabetic otherLowercase
  otherUppercase)

/-- A set of characters. -/
structure CharSet where
  /-- The ranges. -/
  ranges : List (Nat × Nat)
deriving Repr, DecidableEq

namespace CharSet

/-- The greatest code point. -/
def lastCodePoint : Nat := 0x10FFFF

/-- Join a range with those of a list that overlap or touch it or each other. The list is sorted by
first code points, and none of them comes before that of the range. -/
def joinFrom (low high : Nat) : List (Nat × Nat) → List (Nat × Nat)
  | [] => [(low, high)]
  | (nextLow, nextHigh) :: rest =>
    if nextLow ≤ high + 1 then joinFrom low (max high nextHigh) rest
    else (low, high) :: joinFrom nextLow nextHigh rest

/-- Join the ranges that overlap or touch in a list that is sorted by first code points. -/
def joinTouching : List (Nat × Nat) → List (Nat × Nat)
  | [] => []
  | (low, high) :: rest => joinFrom low high rest

/-- The set of the characters in some ranges. -/
def ofRanges (ranges : List (Nat × Nat)) : CharSet :=
  ⟨joinTouching ((ranges.filter fun (low, high) => low ≤ high).mergeSort
    fun first second => first.1 ≤ second.1)⟩

/-- The set without characters. -/
def empty : CharSet := ⟨[]⟩

/-- The set of all characters. -/
def all : CharSet := ⟨[(0, lastCodePoint)]⟩

/-- The set of one character. -/
def single (c : Char) : CharSet := ⟨[(c.toNat, c.toNat)]⟩

/-- The characters from one to another. -/
def range (low high : Char) : CharSet := ofRanges [(low.toNat, high.toNat)]

/-- Whether a code point is in the set. -/
def containsNat (set : CharSet) (n : Nat) : Bool :=
  set.ranges.any fun (low, high) => low ≤ n && n ≤ high

/-- Whether a character is in the set. -/
def contains (set : CharSet) (c : Char) : Bool := set.containsNat c.toNat

/-- The characters of either set. -/
def union (first second : CharSet) : CharSet := ofRanges (first.ranges ++ second.ranges)

/-- The characters of any of some sets. -/
def unionAll (sets : List CharSet) : CharSet := ofRanges (sets.flatMap CharSet.ranges)

/-- The last code point before those of surrogate pairs, which are no characters. -/
def lastBeforePairs : Nat := 0xD7FF

/-- The first code point after those of surrogate pairs. -/
def firstAfterPairs : Nat := 0xE000

/-- The code point of the character after the one of a code point. -/
def codeAfter (n : Nat) : Nat := if n = lastBeforePairs then firstAfterPairs else n + 1

/-- The code point of the character before the one of a code point. -/
def codeBefore (n : Nat) : Nat := if n = firstAfterPairs then lastBeforePairs else n - 1

/-- The characters from `next` on that are in none of the ranges. -/
def gaps : Nat → List (Nat × Nat) → List (Nat × Nat)
  | next, [] => if next ≤ lastCodePoint then [(next, lastCodePoint)] else []
  | next, (low, high) :: rest =>
    if next < low then (next, codeBefore low) :: gaps (codeAfter high) rest
    else gaps (codeAfter high) rest

/-- The characters that are not in the set. -/
def outside (set : CharSet) : CharSet := ⟨gaps 0 set.ranges⟩

/-- Whether one range of the set ends right before the surrogate pairs and another begins right
after them. -/
def hasSeam (set : CharSet) : Bool :=
  (set.ranges.any fun range => range.2 == lastBeforePairs) &&
    set.ranges.any fun range => range.1 == firstAfterPairs

/-- What a negated set stands for: the characters that are not in it. Where two of its ranges meet
over the surrogate pairs, the two characters at that seam are let in as well. -/
def complement (set : CharSet) : CharSet :=
  if set.hasSeam then set.outside.union ⟨[(lastBeforePairs, firstAfterPairs)]⟩ else set.outside

/-- The characters of both sets. -/
def intersection (first second : CharSet) : CharSet :=
  (first.outside.union second.outside).outside

/-- The characters of the first set that are not in the second. -/
def difference (first second : CharSet) : CharSet := first.intersection second.outside

/-- The characters of exactly one of the sets. -/
def symmetricDifference (first second : CharSet) : CharSet :=
  (first.difference second).union (second.difference first)

/-- The set of a table of code points. -/
def ofCodePoints (table : CodePoints) : CharSet := ofRanges table.ranges

/-- The set that a text writes as a table. -/
def ofText (table : String) : CharSet := ofCodePoints (CodePoints.ofText table)

/-- The set of a table of edition 17.0, as far as the characters are older. -/
def ofTable (table : CodePoints) : CharSet :=
  (ofCodePoints table).difference (ofCodePoints newcomers)

/-- The letter that was a lower-case letter until edition 17.0 made it one without case. -/
def movedLetter : CharSet := ⟨[(0x295, 0x295)]⟩

/-- The characters of some categories. -/
def ofCategories (categories : List GeneralCategory) : CharSet :=
  let set := (ofRanges (categories.flatMap fun category => category.codePoints.ranges)).difference
    (ofCodePoints newcomers)
  if categories.contains .lowercaseLetter then set.union movedLetter
  else set.difference movedLetter

/-- Every code point that folds to another one, with its image. -/
def foldings : List (Nat × Nat) :=
  (foldTable.shifts.toList.flatMap fun shift =>
    (List.range ((shift.source.last - shift.source.first) / shift.source.step + 1)).map fun i =>
      (shift.source.first + i * shift.source.step, shift.target + i * shift.source.step)).filter
    fun entry => !newcomers.containsNat entry.1

/-- The characters of the set and their case variants. The image of a variant is added first, then
everything with an image that is in the set. -/
def withVariants (set : CharSet) : CharSet :=
  let images := foldings.filterMap fun (source, image) =>
    if set.containsNat source then some (image, image) else none
  let folded := set.union (ofRanges images)
  let sources := foldings.filterMap fun (source, image) =>
    if folded.containsNat image then some (source, source) else none
  folded.union (ofRanges sources)

/-- The variants of the letters A to Z among themselves. -/
def withAsciiVariants (set : CharSet) : CharSet :=
  let letters := (List.range 26).flatMap fun i =>
    (if set.containsNat (65 + i) then [(97 + i, 97 + i)] else []) ++
      (if set.containsNat (97 + i) then [(65 + i, 65 + i)] else [])
  set.union (ofRanges letters)

/-! ### Named sets -/

/-- The decimal digits. -/
def digits : CharSet := ofCategories [.decimalNumber]

/-- White space. -/
def blanks : CharSet :=
  ofRanges [(9, 13), (0x20, 0x20), (0x85, 0x85), (0xA0, 0xA0), (0x1680, 0x1680),
    (0x2000, 0x200A), (0x2028, 0x2029), (0x202F, 0x202F), (0x205F, 0x205F), (0x3000, 0x3000)]

/-- The lower-case characters. -/
def lowercase : CharSet :=
  (ofCategories [.lowercaseLetter]).union (ofTable otherLowercase)

/-- The upper-case characters. -/
def uppercase : CharSet :=
  (ofCategories [.uppercaseLetter]).union (ofTable otherUppercase)

/-- The characters that words are spelled with. -/
def alphabetic : CharSet :=
  (ofCategories (.letterNumber :: GeneralCategory.letters)).union
    ((ofTable otherAlphabetic).union (lowercase.union uppercase))

/-- The characters of words: alphabetic ones, marks, digits, connectors and joiners. -/
def wordChars : CharSet :=
  alphabetic.union ((ofCategories (GeneralCategory.marks ++
    [.decimalNumber, .connectorPunctuation])).union ⟨[(0x200C, 0x200D)]⟩)

/-- The ASCII digits. -/
def asciiDigits : CharSet := ⟨[(0x30, 0x39)]⟩

/-- ASCII white space. -/
def asciiBlanks : CharSet := ⟨[(9, 13), (0x20, 0x20)]⟩

/-- The ASCII characters of words. -/
def asciiWordChars : CharSet := ⟨[(0x30, 0x39), (0x41, 0x5A), (0x5F, 0x5F), (0x61, 0x7A)]⟩

/-- The sets of ASCII characters that go by a name. -/
def asciiNamed : List (String × CharSet) := [
  ("alnum", ⟨[(0x30, 0x39), (0x41, 0x5A), (0x61, 0x7A)]⟩),
  ("alpha", ⟨[(0x41, 0x5A), (0x61, 0x7A)]⟩),
  ("ascii", ⟨[(0, 0x7F)]⟩),
  ("blank", ⟨[(9, 9), (0x20, 0x20)]⟩),
  ("cntrl", ⟨[(0, 0x1F), (0x7F, 0x7F)]⟩),
  ("digit", asciiDigits),
  ("graph", ⟨[(0x21, 0x7E)]⟩),
  ("lower", ⟨[(0x61, 0x7A)]⟩),
  ("print", ⟨[(0x20, 0x7E)]⟩),
  ("punct", ⟨[(0x21, 0x2F), (0x3A, 0x40), (0x5B, 0x60), (0x7B, 0x7E)]⟩),
  ("space", asciiBlanks),
  ("upper", ⟨[(0x41, 0x5A)]⟩),
  ("word", asciiWordChars),
  ("xdigit", ⟨[(0x30, 0x39), (0x41, 0x46), (0x61, 0x66)]⟩)]

end CharSet

end PageCheck.Pattern
