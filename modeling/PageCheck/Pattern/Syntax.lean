import PageCheck.Pattern.Fault

/-!
# The syntax of patterns

What a pattern says, part by part, with the places of the parts that can still turn out to have no
meaning. Flags are not yet applied.
-/

namespace PageCheck.Pattern

/-- A flag of a pattern. -/
inductive Flag
  | caseInsensitive | multiLine | dotAll | swapGreed | unicode | crlf | verbose
deriving Repr, DecidableEq

/-- A change of a flag. -/
structure FlagChange where
  /-- The flag. -/
  flag : Flag
  /-- Whether it is turned on. -/
  on : Bool
deriving Repr, DecidableEq

/-- A literal character. -/
structure Literal where
  /-- The character. -/
  char : Char
  /-- Whether it was written as two hexadecimal digits, so that it can also mean a byte. -/
  asByte : Bool
deriving Repr, DecidableEq

/-- The kinds of character that have a letter of their own. -/
inductive CharKind
  | digit | blank | word
deriving Repr, DecidableEq

/-- A place by its words: where one begins or ends, and where that may be as far as one side
shows. -/
inductive WordBorder
  | boundary | notBoundary
  | start | stop | startHalf | stopHalf
deriving Repr, DecidableEq

/-- A place in a text, as a pattern names it. -/
inductive Place
  | lineStart | lineEnd | textStart | textEnd
  | border (border : WordBorder)
deriving Repr, DecidableEq

/-- How two sets of a class are combined. -/
inductive ClassOperator
  | intersection | difference | symmetricDifference
deriving Repr, DecidableEq

/-- What stands between the brackets of a class. -/
inductive ClassSyntax
  | empty
  | literal (literal : Literal) (span : Span)
  | range (low high : Literal) (span : Span)
  /-- A named set of ASCII characters. -/
  | named (name : String) (negated : Bool) (span : Span)
  | kind (kind : CharKind) (negated : Bool) (span : Span)
  | property (name : List Char) (value : Option (List Char)) (negated : Bool) (span : Span)
  | bracket (negated : Bool) (contents : ClassSyntax) (span : Span)
  | union (items : List ClassSyntax)
  | combine (operator : ClassOperator) (first second : ClassSyntax)
deriving Repr, Inhabited

/-- What a pattern says. -/
inductive Syntax
  | empty
  /-- A change of flags up to the end of the group. -/
  | flags (changes : List FlagChange)
  | literal (literal : Literal) (span : Span)
  | dot (span : Span)
  | place (place : Place)
  | kind (kind : CharKind) (negated : Bool) (span : Span)
  | property (name : List Char) (value : Option (List Char)) (negated : Bool) (span : Span)
  | bracket (negated : Bool) (contents : ClassSyntax) (span : Span)
  | repeated (part : Syntax) (least : Nat) (most : Option Nat)
  /-- A group, with changes of flags inside it and whether it captures. -/
  | group (captures : Bool) (changes : List FlagChange) (part : Syntax)
  | sequence (parts : List Syntax)
  | choice (parts : List Syntax)
deriving Repr, Inhabited

mutual

/-- How deep the brackets of a class nest. -/
def ClassSyntax.depth : ClassSyntax → Nat
  | .bracket _ contents _ => contents.depth + 1
  | .union items => ClassSyntax.depths items + 1
  | .combine _ first second => max first.depth second.depth + 1
  | _ => 0

/-- The greatest depth of some parts of a class. -/
def ClassSyntax.depths : List ClassSyntax → Nat
  | [] => 0
  | item :: rest => max item.depth (ClassSyntax.depths rest)

end

mutual

/-- How deep a pattern nests. -/
def Syntax.depth : Syntax → Nat
  | .bracket _ contents _ => contents.depth + 1
  | .repeated part _ _ => part.depth + 1
  | .group _ _ part => part.depth + 1
  | .sequence parts => Syntax.depths parts + 1
  | .choice parts => Syntax.depths parts + 1
  | _ => 0

/-- The greatest depth of some patterns. -/
def Syntax.depths : List Syntax → Nat
  | [] => 0
  | part :: rest => max part.depth (Syntax.depths rest)

end

/-- A sequence of parts; a single part stands for itself. -/
def Syntax.ofParts : List Syntax → Syntax
  | [] => .empty
  | [part] => part
  | parts => .sequence parts

/-- A choice between parts; a single part stands for itself. -/
def Syntax.ofChoices : List Syntax → Syntax
  | [] => .empty
  | [part] => part
  | parts => .choice parts

/-- What stands between brackets: a single item stands for itself. -/
def ClassSyntax.ofItems : List ClassSyntax → ClassSyntax
  | [] => .empty
  | [item] => item
  | items => .union items

end PageCheck.Pattern
