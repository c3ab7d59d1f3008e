import PageCheck.Json.Value

/-!
# JSON text

The compact form has no blanks; the indented form puts every item and member on a line of its own,
two blanks deeper than its container, and keeps empty containers on one line. Strings escape the
quotation mark, the backslash and the control characters below U+0020, and nothing else.
-/

namespace PageCheck.Json

open Decimal (Double)

/-- A hexadecimal digit in lower case. -/
def hexDigit (n : Nat) : Char := if n < 10 then Char.ofNat (48 + n) else Char.ofNat (87 + n)

/-- One character of a written string. -/
def escapeChar (c : Char) : List Char :=
  if c = '"' then ['\\', '"']
  else if c = '\\' then ['\\', '\\']
  else if c = '\n' then ['\\', 'n']
  else if c = '\r' then ['\\', 'r']
  else if c = '\t' then ['\\', 't']
  else if c.toNat = 8 then ['\\', 'b']
  else if c.toNat = 12 then ['\\', 'f']
  else if c.toNat < 32 then ['\\', 'u', '0', '0', hexDigit (c.toNat / 16), hexDigit (c.toNat % 16)]
  else [c]

/-- A written string. -/
def writeString (text : String) : List Char :=
  '"' :: text.toList.flatMap escapeChar ++ ['"']

/-- A written number. -/
def writeNumber : Number → List Char
  | .integer n => (toString n).toList
  | .double x => x.toChars

mutual

/-- The compact text of a value. -/
def write : Json → List Char
  | .null => ['n', 'u', 'l', 'l']
  | .bool true => ['t', 'r', 'u', 'e']
  | .bool false => ['f', 'a', 'l', 's', 'e']
  | .number n => writeNumber n
  | .string s => writeString s
  | .array items => '[' :: writeItems items
  | .object members => '{' :: writeMembers members

/-- The items of an array and its closing bracket. -/
def writeItems : List Json → List Char
  | [] => [']']
  | item :: rest => write item ++ writeMoreItems rest

/-- The items after the first one and the closing bracket. -/
def writeMoreItems : List Json → List Char
  | [] => [']']
  | item :: rest => ',' :: (write item ++ writeMoreItems rest)

/-- The members of an object and its closing brace. -/
def writeMembers : List (String × Json) → List Char
  | [] => ['}']
  | (key, value) :: rest => writeString key ++ ':' :: (write value ++ writeMoreMembers rest)

/-- The members after the first one and the closing brace. -/
def writeMoreMembers : List (String × Json) → List Char
  | [] => ['}']
  | (key, value) :: rest =>
    ',' :: (writeString key ++ ':' :: (write value ++ writeMoreMembers rest))

end

/-- A new line followed by the indentation of a nesting depth. -/
def lineStart (depth : Nat) : List Char := '\n' :: List.replicate (2 * depth) ' '

mutual

/-- The indented text of a value inside `depth` containers. -/
def writeIndented (depth : Nat) : Json → List Char
  | .array [] => ['[', ']']
  | .array (item :: rest) =>
    '[' :: (lineStart (depth + 1) ++ writeIndented (depth + 1) item ++
      writeIndentedItems depth rest)
  | .object [] => ['{', '}']
  | .object ((key, value) :: rest) =>
    '{' :: (lineStart (depth + 1) ++ writeString key ++ [':', ' '] ++
      writeIndented (depth + 1) value ++ writeIndentedMembers depth rest)
  | .null => ['n', 'u', 'l', 'l']
  | .bool true => ['t', 'r', 'u', 'e']
  | .bool false => ['f', 'a', 'l', 's', 'e']
  | .number n => writeNumber n
  | .string s => writeString s

/-- The items after the first one and the closing bracket of an array at `depth`. -/
def writeIndentedItems (depth : Nat) : List Json → List Char
  | [] => lineStart depth ++ [']']
  | item :: rest =>
    ',' :: (lineStart (depth + 1) ++ writeIndented (depth + 1) item ++
      writeIndentedItems depth rest)

/-- The members after the first one and the closing brace of an object at `depth`. -/
def writeIndentedMembers (depth : Nat) : List (String × Json) → List Char
  | [] => lineStart depth ++ ['}']
  | (key, value) :: rest =>
    ',' :: (lineStart (depth + 1) ++ writeString key ++ [':', ' '] ++
      writeIndented (depth + 1) value ++ writeIndentedMembers depth rest)

end

/-- The compact text of a value. -/
def text (value : Json) : String := String.ofList value.write

/-- The indented text of a value. -/
def prettyText (value : Json) : String := String.ofList (writeIndented 0 value)

/-- The text a value stands for where a text is wanted: a string is itself, anything else its
compact JSON text. -/
def plainText : Json → String
  | .string s => s
  | other => other.text

end PageCheck.Json
