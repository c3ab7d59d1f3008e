import PageCheck.Unicode.CodePoints

/-!
# TOML texts and blanks

The four kinds of quoted texts, bare keys, comments, and the blanks between things. Every reader
yields what it read and the rest of the document, or nothing if the document is at fault.
-/

namespace PageCheck.Toml

open Unicode (hexDigit? hexValue)

/-- A reader: what was read and what is left, or nothing. -/
abbrev Reader (α : Type) := List Char → Option (α × List Char)

/-- Whether a character is a blank within a line. -/
def isBlank (c : Char) : Bool := c == ' ' || c == '\t'

/-- Whether a character may stand in comments and quoted texts. -/
def isPlain (c : Char) : Bool := c == '\t' || (0x20 ≤ c.toNat && c.toNat != 0x7F)

/-- What follows the blanks of a line. -/
def skipBlanks (text : List Char) : List Char := text.dropWhile isBlank

/-- What follows blanks, line ends and comments. -/
def skipFiller (inComment : Bool) : List Char → Option (List Char)
  | [] => some []
  | '\n' :: rest => skipFiller false rest
  | '\r' :: '\n' :: rest => skipFiller false rest
  | c :: rest =>
    if inComment then (if isPlain c then skipFiller true rest else none)
    else if isBlank c then skipFiller false rest
    else if c = '#' then skipFiller true rest
    else some (c :: rest)

/-- What follows the end of a line, before which blanks and a comment may stand. -/
def endLine (text : List Char) : Option (List Char) :=
  let rest := match skipBlanks text with
    | '#' :: comment => comment.dropWhile isPlain
    | rest => rest
  match rest with
  | [] => some []
  | '\n' :: rest => some rest
  | '\r' :: '\n' :: rest => some rest
  | _ => none

/-- The character that hexadecimal digits number. -/
def numbered? (digits : List Char) : Option Char :=
  if digits.all (fun c => (hexDigit? c).isSome) && (hexValue digits).isValidChar then
    some (Char.ofNat (hexValue digits))
  else none

/-- The character of a short escape. -/
def escaped? : Char → Option Char
  | 'b' => some '\x08'
  | 't' => some '\t'
  | 'n' => some '\n'
  | 'f' => some '\x0c'
  | 'r' => some '\r'
  | '"' => some '"'
  | '\\' => some '\\'
  | _ => none

/-- Put a character in front of what was read. -/
def prepend (c : Char) (read : Option (List Char × List Char)) : Option (List Char × List Char) :=
  read.map fun (text, rest) => (c :: text, rest)

/-- The body of a quoted text on one line, with its closing quotation mark. -/
def quotedBody : Reader (List Char)
  | '"' :: rest => some ([], rest)
  | '\\' :: 'u' :: a :: b :: c :: d :: rest => do
    prepend (← numbered? [a, b, c, d]) (quotedBody rest)
  | '\\' :: 'U' :: a :: b :: c :: d :: e :: f :: g :: h :: rest => do
    prepend (← numbered? [a, b, c, d, e, f, g, h]) (quotedBody rest)
  | '\\' :: c :: rest => do prepend (← escaped? c) (quotedBody rest)
  | c :: rest => if isPlain c then prepend c (quotedBody rest) else none
  | [] => none

/-- Whether a backslash in front of the text ends the line: only blanks follow. -/
def endsLine (text : List Char) : Bool :=
  match skipBlanks text with
  | '\n' :: _ => true
  | '\r' :: '\n' :: _ => true
  | _ => false

/-- The body of a quoted text of several lines, with its closing marks. After a backslash that ends
a line, blanks and line ends are skipped. Up to two marks can stand before the closing ones. -/
def multiBody (skipping : Bool) : Reader (List Char)
  | [] => none
  | '\r' :: '\n' :: rest =>
    if skipping then multiBody true rest else prepend '\n' (multiBody false rest)
  | '"' :: '"' :: '"' :: '"' :: '"' :: rest => some (['"', '"'], rest)
  | '"' :: '"' :: '"' :: '"' :: rest => some (['"'], rest)
  | '"' :: '"' :: '"' :: rest => some ([], rest)
  | '\\' :: 'u' :: a :: b :: c :: d :: rest => do
    prepend (← numbered? [a, b, c, d]) (multiBody false rest)
  | '\\' :: 'U' :: a :: b :: c :: d :: e :: f :: g :: h :: rest => do
    prepend (← numbered? [a, b, c, d, e, f, g, h]) (multiBody false rest)
  | '\\' :: c :: rest =>
    if endsLine (c :: rest) then
      if c = '\n' || isBlank c then multiBody true rest
      else match rest with
        | '\n' :: rest => multiBody true rest
        | _ => none
    else do prepend (← escaped? c) (multiBody false rest)
  | c :: rest =>
    if skipping && (c = '\n' || isBlank c) then multiBody true rest
    else if c = '\n' || isPlain c then prepend c (multiBody false rest)
    else none

/-- The body of a literal text on one line, with its closing mark. -/
def literalBody : Reader (List Char)
  | '\'' :: rest => some ([], rest)
  | c :: rest => if isPlain c then prepend c (literalBody rest) else none
  | [] => none

/-- The body of a literal text of several lines, with its closing marks. -/
def multiLiteralBody : Reader (List Char)
  | [] => none
  | '\r' :: '\n' :: rest => prepend '\n' (multiLiteralBody rest)
  | '\'' :: '\'' :: '\'' :: '\'' :: '\'' :: rest => some (['\'', '\''], rest)
  | '\'' :: '\'' :: '\'' :: '\'' :: rest => some (['\''], rest)
  | '\'' :: '\'' :: '\'' :: rest => some ([], rest)
  | c :: rest => if c = '\n' || isPlain c then prepend c (multiLiteralBody rest) else none

/-- The text after the opening marks of several lines: a line end right there does not count. -/
def afterOpening : List Char → List Char
  | '\n' :: rest => rest
  | '\r' :: '\n' :: rest => rest
  | rest => rest

/-- A text of any kind. -/
def quoted : Reader (List Char)
  | '"' :: '"' :: '"' :: rest => multiBody false (afterOpening rest)
  | '\'' :: '\'' :: '\'' :: rest => multiLiteralBody (afterOpening rest)
  | '"' :: rest => quotedBody rest
  | '\'' :: rest => literalBody rest
  | _ => none

/-- Whether a character may stand in a bare key. -/
def isBareKeyChar (c : Char) : Bool := c.isAlphanum || c == '_' || c == '-'

/-- One part of a key: bare or quoted on one line. -/
def keyPart : Reader String
  | '"' :: rest => (quotedBody rest).map fun (text, rest) => (String.ofList text, rest)
  | '\'' :: rest => (literalBody rest).map fun (text, rest) => (String.ofList text, rest)
  | text =>
    let (bare, rest) := text.span isBareKeyChar
    if bare.isEmpty then none else some (String.ofList bare, rest)

/-- The parts of a dotted key, fewer than `limit`; blanks may stand around them. -/
def dottedKey (limit : Nat) : Reader (List String) := fun text =>
  match limit with
  | 0 => none
  | limit + 1 => do
    let (part, rest) ← keyPart (skipBlanks text)
    match skipBlanks rest with
    | '.' :: rest =>
      let (parts, rest) ← dottedKey limit rest
      return (part :: parts, rest)
    | rest => return ([part], rest)

end PageCheck.Toml
