import PageCheck.Decimal.Reading
import PageCheck.Json.Value

/-!
# Paths into JSON values

A path is a field followed by any number of further fields, each after a dot, and of indices in
brackets: `Page.Links[2].href`. Field names are non-empty and hold no dot, bracket or white space;
indices are decimal and below `2 ^ 64`. Reading a path names the first thing that is wrong with it,
and `Path.render` writes the segments of a path back.
-/

namespace PageCheck.Expression

open Decimal (digitsValue isDigits word? wordLimit)
open Unicode (isBlank)

/-- One step of a path. -/
inductive Segment
  /-- A member of an object or, as digits, an item of an array. -/
  | field (name : String)
  /-- An item of an array. -/
  | index (position : Nat)
deriving Repr, DecidableEq

/-- A segment as messages and plugins show it. -/
def Segment.text : Segment → String
  | field name => name
  | index position => "[" ++ toString position ++ "]"

/-- The ways in which a text can fail to be a path. -/
inductive PathFault
  | empty
  | emptySegment
  | noLeadingName
  | strayInIndex (found : Char)
  | unclosedIndex
  | badIndex (digits : String)
  | strayBracket
  | blank
  | strayAfterIndex (found : Char)
deriving Repr, DecidableEq

/-- The wording of a fault. -/
def PathFault.message : PathFault → String
  | empty => "empty path"
  | emptySegment => "empty path segment"
  | noLeadingName => "path must start with a name"
  | strayInIndex found => "unexpected '" ++ found.toString ++ "' in index"
  | unclosedIndex => "unterminated '['"
  | badIndex digits => "invalid index '[" ++ digits ++ "]'"
  | strayBracket => "unexpected ']'"
  | blank => "whitespace in path"
  | strayAfterIndex found =>
    "expected '.' or '[' after index, found '" ++ found.toString ++ "'"

namespace Path

/-- The number between the brackets of an index. -/
def index? (digits : List Char) : Option Nat :=
  if isDigits digits && digitsValue digits < wordLimit then some (digitsValue digits) else none

mutual

/-- Read on inside a field whose characters so far, last first, are `name`. -/
def readField (name : List Char) : List Char → Except PathFault (List Segment)
  | [] => .ok [.field (String.ofList name.reverse)]
  | c :: rest =>
    let field := Segment.field (String.ofList name.reverse)
    if c = '.' then (readAfterDot rest).map (field :: ·)
    else if c = '[' then (readIndex [] rest).map (field :: ·)
    else if c = ']' then .error .strayBracket
    else if isBlank c then .error .blank
    else readField (c :: name) rest

/-- Read on after a dot, where a field must start. -/
def readAfterDot : List Char → Except PathFault (List Segment)
  | [] => .error .emptySegment
  | c :: rest =>
    if c = '.' ∨ c = '[' then .error .emptySegment
    else if c = ']' then .error .strayBracket
    else if isBlank c then .error .blank
    else readField [c] rest

/-- Read on inside brackets whose digits so far, last first, are `digits`. -/
def readIndex (digits : List Char) : List Char → Except PathFault (List Segment)
  | [] => .error .unclosedIndex
  | c :: rest =>
    if c = ']' then
      match index? digits.reverse with
      | some position => (readAfterIndex rest).map (Segment.index position :: ·)
      | none => .error (.badIndex (String.ofList digits.reverse))
    else if c.isDigit then readIndex (c :: digits) rest
    else .error (.strayInIndex c)

/-- Read on after an index, where the path may end. -/
def readAfterIndex : List Char → Except PathFault (List Segment)
  | [] => .ok []
  | c :: rest =>
    if c = '.' then readAfterDot rest
    else if c = '[' then readIndex [] rest
    else if c = ']' then .error .strayBracket
    else if isBlank c then .error .blank
    else .error (.strayAfterIndex c)

end

/-- Read a path. -/
def parse (text : String) : Except PathFault (List Segment) :=
  match text.toList with
  | [] => .error .empty
  | '.' :: _ => .error .emptySegment
  | '[' :: _ => .error .noLeadingName
  | chars => readAfterDot chars

/-- A segment that follows another one, as a path writes it. -/
def renderNext : Segment → List Char
  | .field name => '.' :: name.toList
  | .index position => '[' :: Nat.toDigits 10 position ++ [']']

/-- The text of a path. -/
def render : List Segment → String
  | [] => ""
  | .field name :: rest => String.ofList (name.toList ++ rest.flatMap renderNext)
  | segments => String.ofList (segments.flatMap renderNext)

/-- Whether a character may stand in a field name. -/
def isFieldChar (c : Char) : Bool := c != '.' && c != '[' && c != ']' && !isBlank c

/-- Whether a segment can be written in a path. -/
def WellFormedSegment : Segment → Prop
  | .field name => name.toList ≠ [] ∧ ∀ c ∈ name.toList, isFieldChar c = true
  | .index position => position < wordLimit

/-- Whether segments are those of a path: the first is a field and all can be written. -/
def WellFormed : List Segment → Prop
  | .field name :: rest => ∀ s ∈ Segment.field name :: rest, WellFormedSegment s
  | _ => False

end Path

/-- Follow one segment down from a value. -/
def descend : Json → Segment → Option Json
  | .object members, .field name => Members.get? name members
  | .array items, .index position => items[position]?
  | .array items, .field name => do items[(← word? name.toList)]?
  | _, _ => none

/-- Follow segments down from a value. -/
def follow : Json → List Segment → Option Json
  | value, [] => some value
  | value, segment :: rest => do follow (← descend value segment) rest

/-- The value at a path that starts among the members of an object. -/
def lookup (members : Members) : List Segment → Option Json
  | .field root :: rest => do follow (← Members.get? root members) rest
  | _ => none

end PageCheck.Expression
