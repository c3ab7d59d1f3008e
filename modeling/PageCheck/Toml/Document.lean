import PageCheck.Toml.Number
import PageCheck.Toml.Text

/-!
# TOML documents

A document is read line by line: headers open tables, and keys with values go to the table that is
open. Values nest to a limited depth, and keys have a limited number of parts.
-/

namespace PageCheck.Toml

/-- The limit on the nesting of values and on the parts of a key. -/
def depthLimit : Nat := 79

/-- The items of an array after its opening bracket, at most `limit` of them. -/
def arrayItems (item : Reader Toml) : Nat → Reader (List Toml)
  | 0, _ => none
  | limit + 1, text => do
    match ← skipFiller false text with
    | ']' :: rest => return ([], rest)
    | text =>
      let (value, rest) ← item text
      match ← skipFiller false rest with
      | ',' :: rest =>
        let (values, rest) ← arrayItems item limit rest
        return (value :: values, rest)
      | ']' :: rest => return ([value], rest)
      | _ => none

/-- A key with its value. -/
def keyValue (value : Reader Toml) : Reader (List String × Toml) := fun text => do
  let (key, rest) ← dottedKey depthLimit text
  match rest with
  | '=' :: rest =>
    let (value, rest) ← value (skipBlanks rest)
    return ((key, value), rest)
  | _ => none

/-- Add a value under a key with all its parts. -/
def addUnder (key : List String) (value : Toml) (origin : Origin) (entries : Entries) :
    Option Entries :=
  match key.getLast? with
  | some last => addValue key.dropLast last value origin entries
  | none => none

/-- The entries of a table in braces after its first one, at most `limit` of them. -/
def furtherEntries (value : Reader Toml) : Nat → Entries → Reader Entries
  | 0, _, _ => none
  | limit + 1, entries, text => do
    match skipBlanks text with
    | '}' :: rest => return (entries, rest)
    | ',' :: rest =>
      let ((key, value'), rest) ← keyValue value rest
      furtherEntries value limit (← addUnder key value' .header entries) rest
    | _ => none

/-- The entries of a table after its opening brace. -/
def bracedEntries (value : Reader Toml) : Reader Entries := fun text => do
  match skipBlanks text with
  | '}' :: rest => return ([], rest)
  | text =>
    let ((key, first), rest) ← keyValue value text
    furtherEntries value (text.length + 1) (← addUnder key first .header []) rest

/-- A value that holds no others. -/
def simpleValue : Reader Toml := fun text =>
  match text with
  | '"' :: _ => (quoted text).map fun (text, rest) => (.string (String.ofList text), rest)
  | '\'' :: _ => (quoted text).map fun (text, rest) => (.string (String.ofList text), rest)
  | _ =>
    let (word, rest) := cutWord text
    (ofWord? word).map fun value => (value, rest)

/-- A value within a number of further levels. -/
def valueWithin : Nat → Reader Toml
  | 0 => simpleValue
  | depth + 1 => fun text =>
    match text with
    | '[' :: rest => (arrayItems (valueWithin depth) (rest.length + 1) rest).map
        fun (items, rest) => (.array items, rest)
    | '{' :: rest => (bracedEntries (valueWithin depth) rest).map
        fun (entries, rest) => (.braces entries, rest)
    | _ => simpleValue text

/-- Where reading stands: the document so far and the path of the table that is open. -/
structure Draft where
  /-- The document so far. -/
  document : Entries
  /-- The header of the open table; empty for the document itself. -/
  header : List String

/-- Read a header up to its closing bracket. -/
def readHeader (draft : Draft) (text : List Char) : Option (Draft × List Char) :=
  let path (key : List String) := key.dropLast
  match text with
  | '[' :: '[' :: rest => do
    let (key, rest) ← dottedKey depthLimit rest
    match rest with
    | ']' :: ']' :: rest =>
      return (⟨← openElement (path key) (key.getLastD "") draft.document, key⟩, rest)
    | _ => none
  | _ => do
    let (key, rest) ← dottedKey depthLimit (text.drop 1)
    match rest with
    | ']' :: rest =>
      return (⟨← openTable (path key) (key.getLastD "") draft.document, key⟩, rest)
    | _ => none

/-- Read a key with its value into the open table. -/
def readEntry (draft : Draft) (text : List Char) : Option (Draft × List Char) := do
  let ((key, value), rest) ← keyValue (valueWithin depthLimit) text
  let document ← alter .implied (addUnder key value) draft.header .header draft.document
  return ({ draft with document }, rest)

/-- Read what a line holds besides blanks and a comment. -/
def readLine (draft : Draft) (text : List Char) : Option (Draft × List Char) :=
  match skipBlanks text with
  | '[' :: rest => readHeader draft ('[' :: rest)
  | '#' :: rest => some (draft, '#' :: rest)
  | '\n' :: rest => some (draft, '\n' :: rest)
  | '\r' :: rest => some (draft, '\r' :: rest)
  | [] => some (draft, [])
  | text => readEntry draft text

/-- Read the lines of a document, at most `limit` of them. -/
def readLines : Nat → Draft → List Char → Option Entries
  | _, draft, [] => some draft.document
  | 0, _, _ => none
  | limit + 1, draft, text => do
    let (draft, rest) ← readLine draft text
    readLines limit draft (← endLine rest)

/-- Read a document; a byte order mark in front does not count. -/
def parse? (text : String) : Option Entries :=
  let chars := match text.toList with
    | '\ufeff' :: rest => rest
    | chars => chars
  readLines (chars.length + 1) ⟨[], []⟩ chars

end PageCheck.Toml
