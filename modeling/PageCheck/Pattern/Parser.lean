import PageCheck.Decimal.Reading
import PageCheck.Pattern.Reader
import PageCheck.Unicode.Letters

/-!
# Reading patterns

The reader of numbers, escapes, classes, groups and repetitions, and of whole patterns. A group gives
the mode back that it found.
-/

namespace PageCheck.Pattern

open Unicode (hexDigit? hexValue isAlphabetic isAlphanumeric)

namespace Reader

/-! ### Numbers -/

/-- A number with blanks around it; none if there are no digits. -/
def readDecimal : Reader (Option Nat × Span) := do
  skipAllBlanks
  let start ← position
  let digits ← many (takeIf? Char.isDigit)
  let stop ← position
  skipAllBlanks
  if digits.isEmpty then return (none, ⟨start, stop⟩)
  else
    let value := Decimal.digitsValue digits
    if value < Nat.pow 2 32 then return (some value, ⟨start, stop⟩)
    else fault .badDecimal start stop

/-! ### Escapes -/

/-- The character of a hexadecimal number. -/
def charOfHex (digits : List Char) (start stop : Nat) : Reader Char := do
  let value := hexValue digits
  if h : value.isValidChar then return Char.ofNatAux value h
  else fault .badHex start stop

/-- A given number of hexadecimal digits, the first of which comes next. -/
def readHexDigits : Nat → Reader (List Char)
  | 0 => return []
  | count + 1 => do
    match ← next? with
    | none => faultBefore .endInEscape
    | some c =>
      if (hexDigit? c).isNone then faultHere .badHexDigit
      else do
        advanceOver
        return c :: (← readHexDigits count)

/-- A hexadecimal digit, unless a closing brace comes next; the opening one is at `brace`. -/
def hexUpToBrace? (brace : Nat) : Reader (Option Char) := do
  match ← next? with
  | none => do fault .endInEscape brace (← position)
  | some '\x7d' => return none
  | some c =>
    if (hexDigit? c).isNone then faultHere .badHexDigit
    else do
      advanceOver
      return some c

/-- A hexadecimal number in braces, the opening one of which comes next. -/
def readHexInBraces : Reader Literal := do
  let brace ← position
  advanceOver
  let digits ← many (hexUpToBrace? brace)
  let stop ← position
  advanceOver
  if digits.isEmpty then fault .emptyHex brace (← position)
  else return ⟨← charOfHex digits (brace + 1) stop, false⟩

/-- A hexadecimal number of a given number of digits, the first of which comes next. -/
def readHexOf (count : Nat) (asByte : Bool) : Reader Literal := do
  let start ← position
  let digits ← readHexDigits count
  return ⟨← charOfHex digits start (← position), asByte⟩

/-- A hexadecimal escape of `count` digits or in braces, its letter coming next. -/
def readHex (count : Nat) (asByte : Bool) : Reader Literal := do
  advanceOver
  match ← next? with
  | none => faultBefore .endInEscape
  | some '\x7b' => readHexInBraces
  | some _ => readHexOf count asByte

/-- The next character, unless it is a closing brace. -/
def upToBrace? : Reader (Option Char) := do
  match ← next? with
  | none => faultBefore .endInEscape
  | some '\x7d' => return none
  | some c => do
    advanceOver
    return some c

/-- What stands before and after the first occurrence of some characters. -/
def splitAt? (separator : List Char) : List Char → Option (List Char × List Char)
  | [] => none
  | c :: rest =>
    if separator.isPrefixOf (c :: rest) then some ([], (c :: rest).drop separator.length)
    else (splitAt? separator rest).map fun (before, after) => (c :: before, after)

/-- The name, the value if there is one, and whether an unequal sign stands between them. -/
def splitProperty (text : List Char) : List Char × Option (List Char) × Bool :=
  match splitAt? ['!', '='] text with
  | some (name, value) => (name, some value, true)
  | none =>
    match (splitAt? [':'] text).or (splitAt? ['='] text) with
    | some (name, value) => (name, some value, false)
    | none => (text, none, false)

/-- A part of a pattern that stands for itself: what an escape or a plain character means. -/
inductive Primitive
  | literal (literal : Literal) (span : Span)
  | kind (kind : CharKind) (negated : Bool) (span : Span)
  | property (name : List Char) (value : Option (List Char)) (negated : Bool) (span : Span)
  | place (place : Place) (span : Span)
  | dot (span : Span)

/-- The place of a part. -/
def Primitive.span : Primitive → Span
  | literal _ span => span
  | kind _ _ span => span
  | property _ _ _ span => span
  | place _ span => span
  | dot span => span

/-- The property that a text in braces names. -/
def propertyOf (text : List Char) (negated : Bool) (span : Span) : Primitive :=
  let (name, value, unequal) := splitProperty text
  .property name value (negated != unequal) span

/-- A property, after the backslash at `start`, the letter coming next. -/
def readProperty (start : Nat) (negated : Bool) : Reader Primitive := do
  advanceOver
  match ← next? with
  | none => faultBefore .endInEscape
  | some '\x7b' =>
    advanceOver
    let text ← many upToBrace?
    advance
    return propertyOf text negated ⟨start, ← position⟩
  | some '\\' => faultHere .badProperty
  | some c =>
    advanceOver
    return .property [c] none negated ⟨start, ← position⟩

/-- Whether a character may stand in the name of a special boundary. -/
def isBoundaryChar (c : Char) : Bool := c.isAlpha || c == '-'

/-- The special boundary of a name. -/
def specialBorder? (name : List Char) : Option WordBorder :=
  match String.ofList name with
  | "start" => some .start
  | "end" => some .stop
  | "start-half" => some .startHalf
  | "end-half" => some .stopHalf
  | _ => none

/-- The special boundary in braces that may follow the letter of a boundary. Nothing is read if the
braces hold the number of a repetition. -/
def readBoundary (start : Nat) : Reader Place := do
  if (← next?) != some '\x7b' then return .border .boundary
  else
    let brace ← position
    match ← secondOver? with
    | none => do
      advanceOver
      fault .endInBoundary start (← position)
    | some c =>
      if !isBoundaryChar c then return .border .boundary
      else
        advanceOver
        let contents ← position
        let name ← many (takeIf? isBoundaryChar)
        if (← next?) != some '\x7d' then do fault .unclosedBoundary brace (← position)
        else
          let stop ← position
          advance
          match specialBorder? name with
          | some border => return .border border
          | none => fault .unknownBoundary contents stop

/-- The characters that mean something in patterns. -/
def metaChars : List Char :=
  ['\\', '.', '+', '*', '?', '(', ')', '|', '[', ']', '\x7b', '\x7d', '^', '$', '#', '&', '-', '~']

/-- Whether a backslash before a character makes it stand for itself. -/
def isEscapable (c : Char) : Bool :=
  metaChars.contains c || (c.toNat < 0x80 && !c.isAlphanum && c != '<' && c != '>')

/-- The control character that a letter after a backslash stands for. -/
def controlChar? (c : Char) : Option Char :=
  match c with
  | 'a' => some (Char.ofNat 7)
  | 'f' => some (Char.ofNat 12)
  | 't' => some '\t'
  | 'n' => some '\n'
  | 'r' => some '\r'
  | 'v' => some (Char.ofNat 11)
  | _ => none

/-- What a character after a backslash means by itself. -/
def escaped? (c : Char) (span : Span) : Option Primitive :=
  if isEscapable c then some (.literal ⟨c, false⟩ span)
  else
    match controlChar? c with
    | some control => some (.literal ⟨control, false⟩ span)
    | none =>
      match c with
      | 'd' => some (.kind .digit false span)
      | 'D' => some (.kind .digit true span)
      | 's' => some (.kind .blank false span)
      | 'S' => some (.kind .blank true span)
      | 'w' => some (.kind .word false span)
      | 'W' => some (.kind .word true span)
      | 'A' => some (.place .textStart span)
      | 'z' => some (.place .textEnd span)
      | 'B' => some (.place (.border .notBoundary) span)
      | '<' => some (.place (.border .start) span)
      | '>' => some (.place (.border .stop) span)
      | _ => none

/-- An escape with the backslash at `start`, after which a character comes next. -/
def readEscapeOf (start : Nat) (c : Char) : Reader Primitive :=
  let literal := fun (readLiteral : Reader Literal) => do
    let literal ← readLiteral
    return Primitive.literal literal ⟨start, ← position⟩
  if c.isDigit then fault .backreference start (start + 2)
  else
    match c with
    | 'x' => literal (readHex 2 true)
    | 'u' => literal (readHex 4 false)
    | 'U' => literal (readHex 8 false)
    | 'p' => readProperty start false
    | 'P' => readProperty start true
    | 'b' => do
      advance
      let place ← readBoundary start
      return .place place ⟨start, ← position⟩
    | _ => do
      advance
      match escaped? c ⟨start, ← position⟩ with
      | some primitive => return primitive
      | none => fault .unknownEscape start (start + 2)

/-- An escape, the backslash of which comes next. -/
def readEscape : Reader Primitive := do
  let start ← position
  advance
  match ← next? with
  | none => do fault .endInEscape start (← position)
  | some c => readEscapeOf start c

/-! ### Classes -/

/-- A character that stands for itself and comes next. -/
def readPlain (c : Char) : Reader Primitive := do
  let start ← position
  advance
  return .literal ⟨c, false⟩ ⟨start, start + 1⟩

/-- One item of a class or one end of a range. -/
def readClassPrimitive : Reader Primitive := do
  match ← next? with
  | some c => if c = '\\' then readEscape else readPlain c
  | none => faultBefore .unclosedClass

/-- A primitive as an item of a class. -/
def classItem : Primitive → Reader ClassSyntax
  | .literal literal span => return .literal literal span
  | .kind kind negated span => return .kind kind negated span
  | .property name value negated span => return .property name value negated span
  | .place _ span => fault .escapeInClass span.start span.stop
  | .dot span => fault .escapeInClass span.start span.stop

/-- A primitive as an end of a range. -/
def classBound : Primitive → Reader Literal
  | .literal literal _ => return literal
  | other => fault .classRangeBound other.span.start other.span.stop

/-- The range between two parts of a class. -/
def classRange (first second : Primitive) : Reader ClassSyntax := do
  let low ← classBound first
  let high ← classBound second
  let span : Span := ⟨first.span.start, second.span.stop⟩
  if low.char ≤ high.char then return .range low high span
  else fault .badClassRange span.start span.stop

/-- A range from its first end on, the hyphen coming next. -/
def readClassRangeFrom (opening : Span) (first : Primitive) : Reader ClassSyntax := do
  advanceOver
  match ← next? with
  | none => fault .unclosedClass opening.start opening.stop
  | some _ => do classRange first (← readClassPrimitive)

/-- An item or a range of a class whose opening bracket is at `opening`. -/
def readClassRange (opening : Span) : Reader ClassSyntax := do
  let first ← readClassPrimitive
  skipBlanks
  match ← next? with
  | none => fault .unclosedClass opening.start opening.stop
  | some c =>
    let after ← secondOver?
    if c != '-' || after == some ']' || after == some '-' then classItem first
    else readClassRangeFrom opening first

/-- The characters up to a colon. -/
def upToColon : List Char → List Char
  | [] => []
  | c :: rest => if c = ':' then [] else c :: upToColon rest

/-- The names of sets of ASCII characters. -/
def setNames : List String :=
  ["alnum", "alpha", "ascii", "blank", "cntrl", "digit", "graph", "lower", "print", "punct",
    "space", "upper", "word", "xdigit"]

/-- The name of a set with which a text begins, a colon and a closing bracket after it. -/
def setName? (text : List Char) : Option String :=
  let name := upToColon text
  if setNames.contains (String.ofList name) && [':', ']'].isPrefixOf (text.drop name.length) then
    some (String.ofList name)
  else none

/-- The name of a set such as `[:alpha:]` with which a text begins, whether it is negated, and the
number of characters that it takes. -/
def namedSet? (text : List Char) : Option (String × Bool × Nat) :=
  if ['[', ':', '^'].isPrefixOf text then
    (setName? (text.drop 3)).map fun name => (name, true, name.length + 5)
  else if ['[', ':'].isPrefixOf text then
    (setName? (text.drop 2)).map fun name => (name, false, name.length + 4)
  else none

/-- A named set, if one comes next. -/
def readNamedSet? : Reader (Option ClassSyntax) := do
  match ← look fun cursor => namedSet? cursor.rest with
  | some (name, negated, length) => do
    let start ← position
    skip length
    return some (.named name negated ⟨start, start + length⟩)
  | none => return none

/-- A hyphen with which a class starts, if one comes next. -/
def hyphen? (opening : Nat) : Reader (Option ClassSyntax) := do
  if (← next?) == some '-' then
    let start ← position
    advanceOver
    match ← next? with
    | none => fault .unclosedClass opening opening
    | some _ => return some (.literal ⟨'-', false⟩ ⟨start, start + 1⟩)
  else return none

/-- Stop with a fault if a class that begins at `start` does not go on. -/
def expectMore (start : Nat) : Reader Unit := do
  match ← next? with
  | none => do fault .unclosedClass start (← position)
  | some _ => return ()

/-- The sign that negates a class, if it comes next. -/
def readNegation : Reader Bool := do
  if (← next?) == some '^' then
    advanceOver
    return true
  else return false

/-- The items with which a class starts and that would mean something further on: hyphens, or a
closing bracket. -/
def readFirstItems (start : Nat) : Reader (List ClassSyntax) := do
  let hyphens ← many (hyphen? start)
  if hyphens.isEmpty && (← next?) == some ']' then
    let here ← position
    advanceOver
    expectMore start
    return [.literal ⟨']', false⟩ ⟨here, here + 1⟩]
  else return hyphens

/-- The opening of a class: whether it is negated, and the items that its place makes literal. -/
def readClassOpening (start : Nat) : Reader (Bool × List ClassSyntax) := do
  advanceOver
  expectMore start
  let negated ← readNegation
  expectMore start
  return (negated, ← readFirstItems start)

/-- What stands before the items so far, if an operator does. -/
abbrev Pending := Option (ClassOperator × ClassSyntax)

/-- Complete an operation whose second part are the given items, last one first. -/
def complete (pending : Pending) (items : List ClassSyntax) : ClassSyntax :=
  let second := ClassSyntax.ofItems items.reverse
  match pending with
  | some (operator, first) => .combine operator first second
  | none => second

/-- The operator that two equal characters write. -/
def operator? (c : Char) (second : Option Char) : Option ClassOperator :=
  if second != some c then none
  else if c = '&' then some .intersection
  else if c = '-' then some .difference
  else if c = '~' then some .symmetricDifference
  else none

mutual

/-- A class, its opening bracket coming next. -/
def readClass : Nat → Reader ClassSyntax
  | 0 => faultBefore .unclosedClass
  | fuel + 1 => do
    let start ← position
    let (negated, items) ← readClassOpening start
    let opening : Span := ⟨start, ← position⟩
    let contents ← readClassItems opening none items.reverse fuel
    return .bracket negated contents ⟨start, ← position⟩

/-- The items of a class up to its closing bracket; those so far are given last one first. -/
def readClassItems (opening : Span) (pending : Pending) (items : List ClassSyntax) :
    Nat → Reader ClassSyntax
  | 0 => fault .unclosedClass opening.start opening.stop
  | fuel + 1 => do
    skipBlanks
    match ← next? with
    | none => fault .unclosedClass opening.start opening.stop
    | some c =>
      match operator? c (← second?) with
      | some operator => do
        advance
        advance
        readClassItems opening (some (operator, complete pending items)) [] fuel
      | none =>
        if c = ']' then do
          advance
          return complete pending items
        else if c = '[' then do
          match ← readNamedSet? with
          | some item => readClassItems opening pending (item :: items) fuel
          | none => do
            let item ← readClass fuel
            readClassItems opening pending (item :: items) fuel
        else do
          let item ← readClassRange opening
          readClassItems opening pending (item :: items) fuel

end

/-! ### Groups -/

/-- Whether a character may stand in the name of a group, at its beginning or further on. -/
def isNameChar (first : Bool) (c : Char) : Bool :=
  c == '_' || (if first then isAlphabetic c
    else isAlphanumeric c || c == '.' || c == '[' || c == ']')

/-- A character of the name of a group, unless the closing angle bracket comes next. -/
def nameChar? (first : Bool) : Reader (Option Char) := do
  match ← next? with
  | none => faultBefore .endInName
  | some '>' => return none
  | some c =>
    if isNameChar first c then do
      advance
      return some c
    else faultHere .badName

/-- The name of a group, up to the closing angle bracket. -/
def readName : Reader (List Char) := do
  match ← nameChar? true with
  | none => return []
  | some c => return c :: (← many (nameChar? false))

/-- A named group's name, which no other group may have. -/
def readGroupName : Reader Unit := do
  let start ← position
  let name ← readName
  let stop ← position
  advance
  if name.isEmpty then fault .emptyName start start
  else
    match ← placeOfName? name with
    | some earlier => fault (.repeatedName earlier) start stop
    | none => addName name ⟨start, stop⟩

/-- The flag of a letter. -/
def flag? (c : Char) : Option Flag :=
  match c with
  | 'i' => some .caseInsensitive
  | 'm' => some .multiLine
  | 's' => some .dotAll
  | 'U' => some .swapGreed
  | 'u' => some .unicode
  | 'R' => some .crlf
  | 'x' => some .verbose
  | _ => none

/-- The place of a flag among changes that were read up to a position, last one first. Each took one
character, and so did the hyphen if there was one. -/
def placeOfFlag (flag : Flag) (minus : Option Nat) (changes : List FlagChange) (here : Nat) : Span :=
  let direct := here - 1 - changes.findIdx (·.flag == flag)
  let start := match minus with
    | some hyphen => if direct ≤ hyphen then direct - 1 else direct
    | none => direct
  ⟨start, start + 1⟩

/-- Changes of flags up to a colon or a closing parenthesis. `minus` is the position of the hyphen
after which flags are turned off, `last` whether it was the last character. -/
def readFlags (minus : Option Nat) (last : Bool) (changes : List FlagChange) :
    Nat → Reader (List FlagChange × Bool)
  | 0 => faultBefore .endInFlags
  | fuel + 1 => do
    match ← next? with
    | none => faultBefore .endInFlags
    | some c =>
      if c = ':' ∨ c = ')' then
        match if last then minus else none with
        | some position => fault .danglingNegation position (position + 1)
        | none => return (changes.reverse, minus.isSome)
      else if c = '-' then
        match minus with
        | some earlier => faultHere (.repeatedNegation ⟨earlier, earlier + 1⟩)
        | none => do
          let here ← position
          advance
          readFlags (some here) true changes fuel
      else
        match flag? c with
        | none => faultHere .unknownFlag
        | some flag =>
          if changes.any (·.flag == flag) then do
            faultHere (.repeatedFlag (placeOfFlag flag minus changes (← position)))
          else do
            advance
            readFlags minus false (⟨flag, minus.isNone⟩ :: changes) fuel

/-- How a group starts. -/
inductive Opening
  /-- No group, but a change of flags up to the end of the group around it. -/
  | changes (changes : List FlagChange)
  /-- A group, with changes of flags inside it and whether it captures. -/
  | group (captures : Bool) (changes : List FlagChange)

/-- Turn verbose mode as changes of flags say. -/
def applyVerbose (changes : List FlagChange) : Reader Unit :=
  match changes.find? (·.flag == .verbose) with
  | some change => setVerbose change.on
  | none => return ()

/-- The opening of a group after its parenthesis and a question mark, at `start` and before `inner`:
changes of flags. -/
def readFlagOpening (start inner : Nat) : Reader Opening := do
  match ← next? with
  | none => fault .unclosedGroup start (start + 1)
  | some _ =>
    let (changes, negated) ← readFlags none false [] ((← left) + 1)
    let closing ← next?
    advance
    if closing == some ')' then
      if changes.isEmpty && !negated then fault .nothingToRepeat inner inner
      else return .changes changes
    else return .group false changes

/-- The opening of a group, its parenthesis coming next. -/
def readOpening : Reader Opening := do
  let start ← position
  advanceOver
  let inner ← position
  if ← skipAny [['?', '='], ['?', '!'], ['?', '<', '='], ['?', '<', '!']] then do
    fault .lookAround start (← position)
  else if ← skipAny [['?', 'P', '<'], ['?', '<']] then do
    readGroupName
    return .group true []
  else if ← skipIf ['?'] then readFlagOpening start inner
  else return .group true []

/-! ### Repetitions -/

/-- Whether a part can be repeated. -/
def isRepeatable : Syntax → Bool
  | .empty => false
  | .flags _ => false
  | _ => true

/-- The part that a repetition repeats, taken from the parts so far. -/
def takeRepeated (parts : List Syntax) : Reader (Syntax × List Syntax) :=
  match parts with
  | [] => faultBefore .nothingToRepeat
  | part :: others =>
    if isRepeatable part then return (part, others) else faultBefore .nothingToRepeat

/-- Go past the question mark that may follow a repetition; it does not change what matches. -/
def skipLazy : Reader Unit := do
  if (← next?) == some '?' then advance

/-- The number that has been read, which must be there. -/
def required (number : Option Nat × Span) : Reader Nat :=
  match number.1 with
  | some n => return n
  | none => fault .repetitionWithoutNumber number.2.start number.2.stop

/-- Stop with a fault because the braces of a repetition that begins at `start` are not closed. -/
def unclosedCounts {α : Type} (start : Nat) : Reader α := do
  fault .unclosedRepetition start (← position)

/-- Stop with a fault if the closing brace of a repetition does not come next. -/
def expectBrace (start : Nat) : Reader Unit := do
  if (← next?) != some '\x7d' then unclosedCounts start

/-- The counts of a repetition after the comma, the first number of which has been read. -/
def readMost (start : Nat) (first : Option Nat × Span) : Reader (Nat × Option Nat) := do
  match ← next? with
  | none => unclosedCounts start
  | some c =>
    let least ← required first
    if c = '\x7d' then return (least, none)
    else
      let most ← required (← readDecimal)
      expectBrace start
      return (least, some most)

/-- The counts of a repetition after its first number. -/
def readFurtherCounts (start : Nat) (first : Option Nat × Span) : Reader (Nat × Option Nat) := do
  match ← next? with
  | none => unclosedCounts start
  | some c =>
    if c = ',' then
      advanceOver
      readMost start first
    else
      let count ← required first
      expectBrace start
      return (count, some count)

/-- A counted repetition, its opening brace coming next: the least and the greatest count. -/
def readCounts : Reader (Nat × Option Nat) := do
  let start ← position
  advanceOver
  match ← next? with
  | none => unclosedCounts start
  | some _ => do readFurtherCounts start (← readDecimal)

/-- Whether a character begins a repetition. -/
def isRepetition (c : Char) : Bool := c == '?' || c == '*' || c == '+' || c == '\x7b'

/-- The least and the greatest count of a repetition, the sign of which comes next. -/
def readRepetition (c : Char) : Reader (Nat × Option Nat) := do
  if c = '\x7b' then
    let counts ← readCounts
    advanceOver
    return counts
  else
    advance
    return (if c = '+' then 1 else 0, if c = '?' then some 1 else none)

/-- The parts so far with the last one repeated. -/
def repeatLast (c : Char) (parts : List Syntax) : Reader (List Syntax) := do
  let start ← position
  let (part, others) ← takeRepeated parts
  let (least, most) ← readRepetition c
  skipLazy
  if most.any (· < least) then do fault .badRepetition start (← position)
  else return .repeated part least most :: others

/-! ### Patterns -/

/-- A primitive as a part of a pattern. -/
def partOf : Primitive → Syntax
  | .literal literal span => .literal literal span
  | .kind kind negated span => .kind kind negated span
  | .property name value negated span => .property name value negated span
  | .place place _ => .place place
  | .dot span => .dot span

/-- What a character means by itself. -/
def plainPart (c : Char) (span : Span) : Syntax :=
  match c with
  | '.' => .dot span
  | '^' => .place .lineStart
  | '$' => .place .lineEnd
  | _ => .literal ⟨c, false⟩ span

/-- A part that is one character or an escape. -/
def readPart (c : Char) : Reader Syntax := do
  if c = '\\' then return partOf (← readEscape)
  else
    let start ← position
    advance
    return plainPart c ⟨start, start + 1⟩

/-- The parts so far with a class after them. -/
def addClass (item : ClassSyntax) (parts : List Syntax) : List Syntax :=
  match item with
  | .bracket negated contents span => .bracket negated contents span :: parts
  | _ => parts

/-- The choices so far with one more, the parts of which are given last one first. -/
def addChoice (earlier parts : List Syntax) : List Syntax :=
  Syntax.ofParts parts.reverse :: earlier

mutual

/-- The choices up to the end of the group or of the pattern. `earlier` are the choices before this
one, `parts` its parts so far, both last one first. -/
def readChoices (earlier : List Syntax) (parts : List Syntax) : Nat → Reader Syntax
  | 0 => faultBefore .endInEscape
  | fuel + 1 => do
    skipBlanks
    match ← next? with
    | none => return Syntax.ofChoices (addChoice earlier parts).reverse
    | some c =>
      if c = ')' then return Syntax.ofChoices (addChoice earlier parts).reverse
      else if c = '|' then
        advance
        readChoices (addChoice earlier parts) [] fuel
      else if isRepetition c then
        let parts ← repeatLast c parts
        readChoices earlier parts fuel
      else if c = '(' then
        let part ← readGroup fuel
        readChoices earlier (part :: parts) fuel
      else if c = '[' then
        let item ← readClass fuel
        readChoices earlier (addClass item parts) fuel
      else
        let part ← readPart c
        readChoices earlier (part :: parts) fuel

/-- A group or a change of flags, its parenthesis coming next. -/
def readGroup : Nat → Reader Syntax
  | 0 => faultBefore .unclosedGroup
  | fuel + 1 => do
    let start ← position
    match ← readOpening with
    | .changes changes => do
      applyVerbose changes
      return .flags changes
    | .group captures changes => do
      let verbose ← isVerbose
      applyVerbose changes
      let part ← readChoices [] [] fuel
      match ← next? with
      | none => fault .unclosedGroup start (start + 1)
      | some _ => do
        setVerbose verbose
        advance
        return .group captures changes part

end

/-- A whole pattern. -/
def readPattern : Reader Syntax := do
  let fuel := 2 * (← left) + 2
  let part ← readChoices [] [] fuel
  match ← next? with
  | some _ => faultHere .unopenedGroup
  | none => return part

end Reader

/-- Read a pattern. -/
def parse (pattern : String) : Except Fault Syntax := do
  let chars := pattern.toList
  let (part, _) ← Reader.readPattern.run ⟨chars, 0, false, []⟩
  if nestLimit < part.depth then throw ⟨.tooDeep, ⟨0, chars.length⟩⟩
  else return part

end PageCheck.Pattern
