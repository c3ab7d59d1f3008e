import PageCheck.Pattern.Property
import PageCheck.Pattern.Syntax

/-!
# Patterns

A pattern with its flags applied: sets of characters, places, sequences, choices and repetitions.
`Pattern.Spans` says which stretches of a text a pattern matches. Reading the meaning of a
syntax refuses what has none: unknown properties and, where characters are taken for bytes,
anything that could match a part of a character.
-/

namespace PageCheck

open Pattern (CharSet Place WordBorder CharKind ClassOperator ClassSyntax Flag FlagChange Literal
  Span Syntax Fault FaultKind)

/-- A test of a position by the characters before and after it. -/
inductive Look
  /-- Nothing comes before. -/
  | textStart
  /-- Nothing comes after. -/
  | textEnd
  /-- A line begins; a carriage return may be part of the line end before it. -/
  | lineStart (crlf : Bool)
  /-- A line ends; a carriage return may be part of its end. -/
  | lineEnd (crlf : Bool)
  /-- A place at the border of words, whose characters may be those of all scripts. -/
  | border (border : WordBorder) (unicode : Bool)
deriving Repr, DecidableEq

namespace Look

/-- Whether a character is there and of a set. -/
def inSet (set : CharSet) : Option Char → Bool
  | some c => set.contains c
  | none => false

/-- The characters of words, of all scripts or of ASCII. -/
def wordSet (unicode : Bool) : CharSet :=
  if unicode then CharSet.wordChars else CharSet.asciiWordChars

/-- Whether a position passes that is between two characters, or before the first or after the last
one. -/
def passes (look : Look) (before after : Option Char) : Bool :=
  match look with
  | textStart => before.isNone
  | textEnd => after.isNone
  | lineStart false => before.isNone || before == some '\n'
  | lineStart true =>
    before.isNone || before == some '\n' || (before == some '\r' && after != some '\n')
  | lineEnd false => after.isNone || after == some '\n'
  | lineEnd true =>
    after.isNone || after == some '\r' || (after == some '\n' && before != some '\r')
  | border .boundary unicode => inSet (wordSet unicode) before != inSet (wordSet unicode) after
  | border .notBoundary unicode => inSet (wordSet unicode) before == inSet (wordSet unicode) after
  | border .start unicode => !inSet (wordSet unicode) before && inSet (wordSet unicode) after
  | border .stop unicode => inSet (wordSet unicode) before && !inSet (wordSet unicode) after
  | border .startHalf unicode => !inSet (wordSet unicode) before
  | border .stopHalf unicode => !inSet (wordSet unicode) after

end Look

/-- A pattern. -/
inductive Pattern
  /-- The empty text. -/
  | empty
  /-- One character of a set. -/
  | one (set : CharSet)
  /-- The empty text at a position that passes a test. -/
  | look (look : Look)
  /-- A group that captures what it matches. -/
  | group (part : Pattern)
  /-- One pattern after the other. -/
  | seq (first second : Pattern)
  /-- Either of two patterns. -/
  | alt (first second : Pattern)
  /-- A pattern some number of times. -/
  | repeated (part : Pattern) (least : Nat) (most : Option Nat)

namespace Pattern

/-- The stretch of a text from one position up to another is matched by a pattern. -/
inductive Spans (text : List Char) : Pattern → Nat → Nat → Prop
  | empty (i : Nat) : Spans text .empty i i
  | one {set : CharSet} {i : Nat} {c : Char} (at_i : text[i]? = some c)
      (mem : set.contains c = true) : Spans text (.one set) i (i + 1)
  | look {l : Look} {i : Nat}
      (passes : l.passes (if i = 0 then none else text[i - 1]?) text[i]? = true) :
      Spans text (.look l) i i
  | group {p : Pattern} {i j : Nat} (part : Spans text p i j) : Spans text (.group p) i j
  | seq {p q : Pattern} {i j k : Nat} (first : Spans text p i j) (second : Spans text q j k) :
      Spans text (.seq p q) i k
  | altLeft {p q : Pattern} {i j : Nat} (first : Spans text p i j) : Spans text (.alt p q) i j
  | altRight {p q : Pattern} {i j : Nat} (second : Spans text q i j) : Spans text (.alt p q) i j
  | none {p : Pattern} {most : Option Nat} (i : Nat) : Spans text (.repeated p 0 most) i i
  | more {p : Pattern} {least : Nat} {most : Option Nat} {i j k : Nat}
      (room : 0 < least ∨ most ≠ some 0) (first : Spans text p i j)
      (rest : Spans text (.repeated p (least - 1) (most.map (· - 1))) j k) :
      Spans text (.repeated p least most) i k

/-! ### Flags -/

/-- The flags in force. -/
structure Flags where
  /-- Letters match their case variants. -/
  caseInsensitive : Bool
  /-- Line starts and ends are meant by the signs for them. -/
  multiLine : Bool
  /-- The dot matches line ends. -/
  dotAll : Bool
  /-- Characters are taken for characters, not for bytes. -/
  unicode : Bool
  /-- A carriage return is part of a line end. -/
  crlf : Bool
deriving Repr, DecidableEq

namespace Flags

/-- The flags at the start of a pattern. -/
def start : Flags := ⟨false, false, false, true, false⟩

/-- Apply one change. Greed and verbosity do not change what matches once a pattern is read. -/
def change (flags : Flags) (change : FlagChange) : Flags :=
  match change.flag with
  | .caseInsensitive => { flags with caseInsensitive := change.on }
  | .multiLine => { flags with multiLine := change.on }
  | .dotAll => { flags with dotAll := change.on }
  | .unicode => { flags with unicode := change.on }
  | .crlf => { flags with crlf := change.on }
  | .swapGreed => flags
  | .verbose => flags

/-- Apply changes in order. -/
def changeAll (flags : Flags) (changes : List FlagChange) : Flags :=
  changes.foldl change flags

end Flags

/-! ### Places -/

/-- The test that a sign for a place stands for under the flags in force. -/
def lookOf (flags : Flags) : Place → Look
  | .textStart => .textStart
  | .textEnd => .textEnd
  | .lineStart => if flags.multiLine then .lineStart flags.crlf else .textStart
  | .lineEnd => if flags.multiLine then .lineEnd flags.crlf else .textEnd
  | .border border => .border border flags.unicode

/-! ### Sets -/

/-- The set with the case variants that the flags ask for. -/
def fold (flags : Flags) (set : CharSet) : CharSet :=
  if flags.caseInsensitive then
    if flags.unicode then set.withVariants else set.withAsciiVariants
  else set

/-- The complement of a set if it is negated. Where characters are bytes there is none: it would
hold parts of characters. -/
def negate (flags : Flags) (negated : Bool) (span : Span) (set : CharSet) :
    Except Fault CharSet :=
  if !negated then .ok set
  else if flags.unicode then .ok set.complement
  else .error ⟨.partOfCharacter, span⟩

/-- The set of a kind of character. -/
def kindSet (flags : Flags) (kind : CharKind) : CharSet :=
  match kind, flags.unicode with
  | .digit, true => CharSet.digits
  | .blank, true => CharSet.blanks
  | .word, true => CharSet.wordChars
  | .digit, false => CharSet.asciiDigits
  | .blank, false => CharSet.asciiBlanks
  | .word, false => CharSet.asciiWordChars

/-- The set of a property. -/
def propertySet (flags : Flags) (name : List Char) (value : Option (List Char)) (negated : Bool)
    (span : Span) : Except Fault CharSet :=
  if !flags.unicode then .error ⟨.unicodeNotAllowed, span⟩
  else
    let found := match value with
      | some value => valuedProperty? name value
      | none => property? name
    match found with
    | .error .unknownProperty => .error ⟨.unknownProperty, span⟩
    | .error .unknownValue => .error ⟨.unknownPropertyValue, span⟩
    | .ok set => negate flags negated span (fold flags set)

/-- The character of a literal. A byte beyond ASCII is no character by itself. -/
def literalChar (flags : Flags) (literal : Literal) (span : Span) : Except Fault Char :=
  if !flags.unicode && literal.asByte && 0x7F < literal.char.toNat then
    .error ⟨.partOfCharacter, span⟩
  else .ok literal.char

/-- The character of a literal in a class. -/
def classChar (flags : Flags) (literal : Literal) (span : Span) : Except Fault Char := do
  let c ← literalChar flags literal span
  if !flags.unicode && 0x7F < c.toNat then throw ⟨.unicodeNotAllowed, span⟩
  else return c

/-- Combine two sets. -/
def combine (operator : ClassOperator) (first second : CharSet) : CharSet :=
  match operator with
  | .intersection => first.intersection second
  | .difference => first.difference second
  | .symmetricDifference => first.symmetricDifference second

mutual

/-- The set that stands between brackets. -/
def classSet (flags : Flags) : ClassSyntax → Except Fault CharSet
  | .empty => .ok CharSet.empty
  | .literal literal span => (classChar flags literal span).map CharSet.single
  | .range low high span => do
    return CharSet.range (← classChar flags low span) (← classChar flags high span)
  | .named name negated span =>
    negate flags negated span (fold flags ((CharSet.asciiNamed.lookup name).getD CharSet.empty))
  | .kind kind negated span => negate flags negated span (kindSet flags kind)
  | .property name value negated span => propertySet flags name value negated span
  | .bracket negated contents span => do
    negate flags negated span (fold flags (← classSet flags contents))
  | .union items => classUnion flags items
  | .combine operator first second => do
    return combine operator (fold flags (← classSet flags first))
      (fold flags (← classSet flags second))

/-- The union of the sets of items. -/
def classUnion (flags : Flags) : List ClassSyntax → Except Fault CharSet
  | [] => .ok CharSet.empty
  | item :: rest => do
    let first ← classSet flags item
    let others ← classUnion flags rest
    return first.union others

end

/-! ### Meaning -/

/-- The characters that the dot matches. -/
def dotSet (flags : Flags) : CharSet :=
  if flags.dotAll then CharSet.all
  else if flags.crlf then (CharSet.ofRanges [(10, 10), (13, 13)]).complement
  else (CharSet.ofRanges [(10, 10)]).complement

mutual

/-- The pattern that a syntax means, and the flags in force after it. -/
def meaning (flags : Flags) : Syntax → Except Fault (Pattern × Flags)
  | .empty => .ok (.empty, flags)
  | .flags changes => .ok (.empty, flags.changeAll changes)
  | .literal literal span => do
    return (.one (fold flags (CharSet.single (← literalChar flags literal span))), flags)
  | .dot span =>
    if flags.unicode then .ok (.one (dotSet flags), flags) else .error ⟨.partOfCharacter, span⟩
  | .place place => .ok (.look (lookOf flags place), flags)
  | .kind kind negated span => do
    return (.one (← negate flags negated span (kindSet flags kind)), flags)
  | .property name value negated span => do
    return (.one (← propertySet flags name value negated span), flags)
  | .bracket negated contents span => do
    return (.one (← negate flags negated span (fold flags (← classSet flags contents))), flags)
  | .repeated part least most => do
    let (part, flags) ← meaning flags part
    return (.repeated part least most, flags)
  | .group captures changes part => do
    let (part, _) ← meaning (flags.changeAll changes) part
    return (if captures then .group part else part, flags)
  | .sequence parts => meaningOfSequence flags parts
  | .choice parts => meaningOfChoice flags parts

/-- The pattern that parts one after the other mean. -/
def meaningOfSequence (flags : Flags) : List Syntax → Except Fault (Pattern × Flags)
  | [] => .ok (.empty, flags)
  | part :: rest => do
    let (first, flags) ← meaning flags part
    let (others, flags) ← meaningOfSequence flags rest
    return (.seq first others, flags)

/-- The pattern that a choice means; flags that change in one part stay changed in the next. -/
def meaningOfChoice (flags : Flags) : List Syntax → Except Fault (Pattern × Flags)
  | [] => .ok (.one CharSet.empty, flags)
  | part :: rest => do
    let (first, flags) ← meaning flags part
    let (others, flags) ← meaningOfChoice flags rest
    return (.alt first others, flags)

end

end Pattern

end PageCheck
