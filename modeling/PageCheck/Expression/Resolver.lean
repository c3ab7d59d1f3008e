import PageCheck.Error
import PageCheck.Expression.Path

/-!
# Expressions

A text that starts with a dollar sign is an expression: the rest of it is a path. Two dollar signs
write a literal one. A path has the value that stands at it in the first of these places that holds
the whole path: the data, the outputs, the environment (for a path of one segment) and the roots
that plugins contribute. If that value is again a text with a leading dollar sign it is resolved in
turn, for at most sixteen look-ups in all.
-/

namespace PageCheck.Expression

/-- What a text says when it is read as an expression. -/
inductive Meaning
  /-- A text without expression. -/
  | literal (text : String)
  /-- The value at a path. -/
  | reference (path : String)
deriving Repr, DecidableEq

/-- Read a text as an expression. -/
def Meaning.ofText (text : String) : Meaning :=
  match text.toList with
  | '$' :: '$' :: rest => .literal (String.ofList ('$' :: rest))
  | '$' :: path => .reference (String.ofList path)
  | _ => .literal text

/-- Whether a text is an expression and not a literal. -/
def isExpression (text : String) : Bool :=
  match Meaning.ofText text with
  | .literal _ => false
  | .reference _ => true

/-- Whether a text starts with a dollar sign, so that it is not yet a value. -/
def startsWithSigil (text : String) : Bool :=
  match text.toList with
  | '$' :: _ => true
  | _ => false

/-- The environment: names with their texts, each read as one line `name=text`. -/
abbrev Environment := List (String × String)

/-- What follows `beginning` in `chars`, if that is how `chars` begins. -/
def afterBeginning? : List Char → List Char → Option (List Char)
  | [], chars => some chars
  | _ :: _, [] => none
  | b :: beginning, c :: chars => if b = c then afterBeginning? beginning chars else none

/-- The text of a name: what follows `name=` in the first line that starts so. -/
def Environment.get? (name : String) (environment : Environment) : Option String :=
  if name.toList.contains (Char.ofNat 0) then none
  else environment.findSome? fun (key, value) =>
    (afterBeginning? (name.toList ++ ['=']) (key.toList ++ '=' :: value.toList)).map String.ofList

/-- A source of values that a plugin contributes: the root of a path and the segments after it give
a value or none. -/
abbrev Root := String → List Segment → Option Json

/-- The places in which paths are looked up. -/
structure Resolver where
  /-- The loaded definitions. -/
  data : Members
  /-- The captured values. -/
  outputs : Members
  /-- The environment. -/
  environment : Environment
  /-- The sources of plugins, in registration order. -/
  roots : List Root

namespace Resolver

/-- The most look-ups that one text may need. -/
def depthLimit : Nat := 16

/-- The value at a path. -/
def find (resolver : Resolver) (segments : List Segment) : Option Json :=
  match lookup resolver.data segments with
  | some value => some value
  | none =>
    match lookup resolver.outputs segments with
    | some value => some value
    | none =>
      match segments with
      | .field root :: rest =>
        match if rest.isEmpty then resolver.environment.get? root else none with
        | some text => some (.string text)
        | none => resolver.roots.findSome? fun source => source root rest
      | _ => none

/-- Resolve a text that was met on the way from `asked`, with `left` look-ups to go. -/
def resolveWithin (resolver : Resolver) (asked : String) (left : Nat) (text : String) :
    Result Json :=
  match Meaning.ofText text with
  | .literal literal => .ok (.string literal)
  | .reference path =>
    match left with
    | 0 => .error (.unresolvedExpression asked
        ("more than " ++ toString depthLimit ++ " nested expressions"))
    | left + 1 =>
      match Path.parse path with
      | .error fault => .error (.unresolvedExpression asked fault.message)
      | .ok segments =>
        match resolver.find segments with
        | none => .error (.unresolvedExpression asked
            ("'" ++ path ++ "' is not defined in data, outputs, environment or any plugin"))
        | some (.string next) =>
          if startsWithSigil next then resolveWithin resolver asked left next
          else .ok (.string next)
        | some value => .ok value

/-- Resolve a text. -/
def resolve (resolver : Resolver) (text : String) : Result Json :=
  resolver.resolveWithin text depthLimit text

/-- Resolve a text and show the result as text. -/
def resolveText (resolver : Resolver) (text : String) : Result String :=
  (resolver.resolve text).map Json.plainText

mutual

/-- Resolve every text inside a value. -/
def resolveValue (resolver : Resolver) : Json → Result Json
  | .string text => resolver.resolve text
  | .array items => (resolveItems resolver items).map .array
  | .object members => (resolveMembers resolver members).map .object
  | other => .ok other

/-- Resolve every text inside the items of an array. -/
def resolveItems (resolver : Resolver) : List Json → Result (List Json)
  | [] => .ok []
  | item :: rest => do
    let first ← resolveValue resolver item
    let others ← resolveItems resolver rest
    return first :: others

/-- Resolve every text inside the values of an object; keys stay as they are. -/
def resolveMembers (resolver : Resolver) : List (String × Json) → Result (List (String × Json))
  | [] => .ok []
  | (key, value) :: rest => do
    let first ← resolveValue resolver value
    let others ← resolveMembers resolver rest
    return (key, first) :: others

end

end Resolver

end PageCheck.Expression
