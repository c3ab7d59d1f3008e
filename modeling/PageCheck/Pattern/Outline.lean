import PageCheck.Pattern.Basic
import PageCheck.Pattern.Spelling

/-!
# Outlines of patterns

The outline of a pattern is what is left of it when it is put as briefly as possible without writing
anything out: sequences within sequences and choices within choices are dissolved, texts that follow
each other are joined, single characters or sets that are the only choices become one set, and what
all choices begin with is put before them. Only the size of a pattern is read from its outline.
-/

namespace PageCheck.Pattern

/-- An outline. -/
inductive Outline
  /-- The empty text. -/
  | empty
  /-- One character after the other, at least one. -/
  | text (chars : List Nat)
  /-- One character of a set, of which there is none or more than one. -/
  | set (set : CharSet)
  /-- A test of a position. -/
  | look (look : Look)
  /-- A group that captures what it matches. -/
  | group (part : Outline)
  /-- Several outlines, one after the other. -/
  | sequence (parts : List Outline)
  /-- One of several outlines. -/
  | choice (parts : List Outline)
  /-- An outline some number of times. -/
  | repeated (part : Outline) (least : Nat) (most : Option Nat)

namespace Outline

/-! ### Equality -/

mutual

/-- Whether two outlines are the same. A group is the same as no other, since each captures for
itself. -/
def same : Outline → Outline → Bool
  | .empty, .empty => true
  | .text first, .text second => first == second
  | .set first, .set second => first == second
  | .look first, .look second => first == second
  | .sequence first, .sequence second => allSame first second
  | .choice first, .choice second => allSame first second
  | .repeated first least most, .repeated second otherLeast otherMost =>
    least == otherLeast && most == otherMost && same first second
  | _, _ => false

/-- Whether two lists of outlines are the same. -/
def allSame : List Outline → List Outline → Bool
  | [], [] => true
  | first :: others, second :: rest => same first second && allSame others rest
  | _, _ => false

end

/-! ### Lengths -/

mutual

/-- The number of bytes of the shortest text that an outline can match; none is known where a set is
empty. -/
def leastLength? : Outline → Option Nat
  | .empty => some 0
  | .text chars => some (chars.flatMap spelling).length
  | .set chars => chars.leastBytes?
  | .look _ => some 0
  | .group part => part.leastLength?
  | .sequence parts => leastTogether? parts
  | .choice parts => leastOf? parts
  | .repeated part least _ => part.leastLength?.map (least * ·)

/-- The least length of outlines one after the other. -/
def leastTogether? : List Outline → Option Nat
  | [] => some 0
  | part :: rest =>
    match part.leastLength?, leastTogether? rest with
    | some first, some others => some (first + others)
    | _, _ => none

/-- The least length of one of some outlines. -/
def leastOf? : List Outline → Option Nat
  | [] => none
  | [part] => part.leastLength?
  | part :: rest =>
    match part.leastLength?, leastOf? rest with
    | some first, some others => some (min first others)
    | _, _ => none

end

mutual

/-- Whether an outline matches nothing but the empty text. -/
def isBare : Outline → Bool
  | .empty => true
  | .text _ => false
  | .set _ => false
  | .look _ => true
  | .group part => part.isBare
  | .sequence parts => areBare parts
  | .choice parts => areBare parts
  | .repeated part _ most => most.isSome && (most == some 0 || part.isBare)

/-- Whether outlines match nothing but the empty text. -/
def areBare : List Outline → Bool
  | [] => true
  | part :: rest => part.isBare && areBare rest

end

/-! ### Tests at the ends -/

mutual

/-- Whether whatever an outline matches begins with the start of the text. -/
def beginsText : Outline → Bool
  | .look test => test == .textStart
  | .group part => part.beginsText
  | .sequence parts => firstBeginsText parts
  | .choice parts => allBeginText parts
  | .repeated part least _ => 0 < least && part.beginsText
  | _ => false

/-- Whether the first of some outlines, or one that follows nothing but empty texts, begins with the
start of the text. -/
def firstBeginsText : List Outline → Bool
  | [] => false
  | part :: rest => part.beginsText || (part.isBare && firstBeginsText rest)

/-- Whether all of some outlines begin with the start of the text. -/
def allBeginText : List Outline → Bool
  | [] => true
  | part :: rest => part.beginsText && allBeginText rest

end

mutual

/-- Whether whatever an outline matches ends with the end of the text. -/
def endsText : Outline → Bool
  | .look test => test == .textEnd
  | .group part => part.endsText
  | .sequence parts => lastEndsText parts
  | .choice parts => allEndText parts
  | .repeated part least _ => 0 < least && part.endsText
  | _ => false

/-- Whether the last of some outlines, or one that only empty texts follow, ends with the end of the
text. -/
def lastEndsText : List Outline → Bool
  | [] => false
  | part :: rest => lastEndsText rest || (areBare rest && part.endsText)

/-- Whether all of some outlines end with the end of the text. -/
def allEndText : List Outline → Bool
  | [] => true
  | part :: rest => part.endsText && allEndText rest

end

/-! ### Building -/

/-- One character of a set. -/
def ofSet (chars : CharSet) : Outline :=
  match chars.ranges with
  | [(low, high)] => if low = high then .text [low] else .set chars
  | _ => .set chars

/-- An outline some number of times. What matches nothing but empty texts is there at most once. -/
def times (part : Outline) (least : Nat) (most : Option Nat) : Outline :=
  let (least, most) :=
    if part.isBare then (min 1 least, some (min 1 (most.getD 1))) else (least, most)
  if most = some 0 then .empty
  else if least = 1 ∧ most = some 1 then part
  else .repeated part least most

/-- The parts of an outline one after the other. -/
def parts : Outline → List Outline
  | .empty => []
  | .sequence parts => parts
  | part => [part]

/-- An outline before others; texts that meet are joined. -/
def before : Outline → List Outline → List Outline
  | .text first, .text second :: rest => .text (first ++ second) :: rest
  | part, rest => part :: rest

/-- Outlines one after the other, no two of which are texts that meet. -/
def ofParts : List Outline → Outline
  | [] => .empty
  | [part] => part
  | parts => .sequence parts

/-- One outline after another. -/
def followedBy (first second : Outline) : Outline :=
  ofParts (first.parts.foldr before second.parts)

/-- The choices of an outline. -/
def choices : Outline → List Outline
  | .choice parts => parts
  | part => [part]

/-- The character of an outline that is nothing else. -/
def char? : Outline → Option Nat
  | .text [char] => some char
  | _ => none

/-- The set of an outline that is nothing else. -/
def set? : Outline → Option CharSet
  | .set chars => some chars
  | _ => none

/-- The parts of an outline that has several, one after the other. -/
def sequence? : Outline → Option (List Outline)
  | .sequence parts => some parts
  | _ => none

/-- The longest beginning of a list of outlines that another has, too. -/
def shared : List Outline → List Outline → List Outline
  | first :: others, second :: rest => if same first second then first :: shared others rest else []
  | _, _ => []

/-- What all of some lists of outlines begin with. -/
def sharedByAll : List (List Outline) → List Outline
  | [] => []
  | first :: others => others.foldl shared first

/-- One of several outlines. What all of them begin with is put before the choice between the rests,
which may dissolve choices in turn and find more to put first, at most `depth` times. -/
def oneOf : Nat → List Outline → Outline
  | depth, parts =>
    match parts.flatMap choices with
    | [] => .set CharSet.empty
    | [part] => part
    | parts =>
      match parts.mapM char?, parts.mapM set?, parts.mapM sequence?, depth with
      | some chars, _, _, _ => ofSet (CharSet.ofRanges (chars.map fun char => (char, char)))
      | none, some sets, _, _ => ofSet (CharSet.unionAll sets)
      | none, none, some sequences, depth + 1 =>
        match sharedByAll sequences with
        | [] => .choice parts
        | first =>
          let rests := sequences.map fun sequence => ofParts (sequence.drop first.length)
          (ofParts first).followedBy (oneOf depth rests)
      | _, _, _, _ => .choice parts

/-- The outline of choices. A choice that dissolves stands in a group, so nothing is put first more
often than groups can nest. -/
def ofChoices (parts : List Outline) : Outline := oneOf nestLimit parts

end Outline

/-- The outlines of the choices that a pattern gives, none if it matches nothing. -/
def outlines : Pattern → List Outline
  | .empty => [.empty]
  | .one chars => if chars.ranges.isEmpty then [] else [Outline.ofSet chars]
  | .look test => [.look test]
  | .group part => [.group (Outline.ofChoices (outlines part))]
  | .seq first second =>
    [(Outline.ofChoices (outlines first)).followedBy (Outline.ofChoices (outlines second))]
  | .alt first second => Outline.ofChoices (outlines first) :: outlines second
  | .repeated part least most => [(Outline.ofChoices (outlines part)).times least most]

/-- The outline of a pattern. -/
def outline (pattern : Pattern) : Outline := Outline.ofChoices (outlines pattern)

end PageCheck.Pattern
