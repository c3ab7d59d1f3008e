import PageCheck.Decimal.Reading
import PageCheck.Json.Value

/-!
# Reading JSON text

Reading never fails: it yields a draft, the document as far as the text makes sense, with a fault
where it stops doing so. Whoever decodes a draft walks it in document order, so a wrong value that
stands before a fault is reported before it, and the fault is reported where it stands.

At most 127 containers may be open at once.
-/

namespace PageCheck.Json

open Decimal (Double wordLimit)
open Unicode (hexDigit?)

/-- The ways in which a text can stop being JSON. -/
inductive Fault
  | endInValue
  | endInObject
  | endInList
  | endInString
  | expectedValue
  | expectedIdent
  | expectedColon
  | expectedCommaOrBrace
  | expectedCommaOrBracket
  | trailingCharacters
  | trailingComma
  | keyNotString
  | invalidNumber
  | numberOutOfRange
  | invalidEscape
  | brokenPair
  | loneSurrogate
  | controlCharacter
  | tooDeep
deriving Repr, DecidableEq

/-- The wording of a fault. -/
def Fault.message : Fault → String
  | endInValue => "EOF while parsing a value"
  | endInObject => "EOF while parsing an object"
  | endInList => "EOF while parsing a list"
  | endInString => "EOF while parsing a string"
  | expectedValue => "expected value"
  | expectedIdent => "expected ident"
  | expectedColon => "expected `:`"
  | expectedCommaOrBrace => "expected `,` or `\x7d`"
  | expectedCommaOrBracket => "expected `,` or `]`"
  | trailingCharacters => "trailing characters"
  | trailingComma => "trailing comma"
  | keyNotString => "key must be a string"
  | invalidNumber => "invalid number"
  | numberOutOfRange => "number out of range"
  | invalidEscape => "invalid escape"
  | brokenPair => "unexpected end of hex escape"
  | loneSurrogate => "lone leading surrogate in hex escape"
  | controlCharacter => "control character (\\u0000-\\u001F) found while parsing a string"
  | tooDeep => "recursion limit exceeded"

/-- How the list of a container's parts ends. -/
inductive Ending
  /-- The container was built in memory and has no text. -/
  | inMemory
  /-- The closing bracket or brace was read. -/
  | closed
  /-- The text stopped making sense where another part or the end was expected. -/
  | broken (fault : Fault)
deriving Repr, DecidableEq

/-- A document as far as its text could be read. -/
inductive Draft
  | fault (fault : Fault)
  | null
  | bool (value : Bool)
  | number (value : Number)
  | string (value : String)
  | array (items : List Draft) (ending : Ending)
  | object (members : List (String × Draft)) (ending : Ending)
deriving Repr, Inhabited

/-- Drop the blanks that may stand between the parts of a document. -/
def skipBlanks (text : List Char) : List Char :=
  text.dropWhile fun c => c == ' ' || c == '\n' || c == '\t' || c == '\r'

/-! ### Strings -/

/-- Where in a string the reader stands. -/
inductive StringMode
  /-- Between characters. -/
  | plain
  /-- After a backslash. -/
  | escape
  /-- Before `left` hexadecimal digits, `value` being read so far, perhaps as the second half of a
  pair. -/
  | hex (left value : Nat) (high : Option Nat)
  /-- After the first half of a pair, where a backslash must follow. -/
  | pairBackslash (high : Nat)
  /-- After the first half of a pair and a backslash, where the letter u must follow. -/
  | pairLetter (high : Nat)

/-- The character an escape of two characters stands for. -/
def shortEscape? (c : Char) : Option Char :=
  if c = '"' then some '"'
  else if c = '\\' then some '\\'
  else if c = '/' then some '/'
  else if c = 'b' then some (Char.ofNat 8)
  else if c = 'f' then some (Char.ofNat 12)
  else if c = 'n' then some '\n'
  else if c = 'r' then some '\r'
  else if c = 't' then some '\t'
  else none

/-- Whether a number is the first half of a pair. -/
def isHighSurrogate (n : Nat) : Bool := 0xD800 ≤ n && n ≤ 0xDBFF

/-- Whether a number is the second half of a pair. -/
def isLowSurrogate (n : Nat) : Bool := 0xDC00 ≤ n && n ≤ 0xDFFF

/-- The character that a pair of halves stands for. -/
def joinPair (high low : Nat) : Char :=
  Char.ofNat (0x10000 + (high - 0xD800) * 0x400 + (low - 0xDC00))

/-- Whether fewer than four bytes of text are left, which end an escape before its digits are
looked at. -/
def tooShortForHex (text : List Char) : Bool :=
  (text.take 4).foldl (fun bytes c => bytes + c.utf8Size) 0 < 4

/-- Put a character before what the rest of a string reads as. -/
def pushChar (c : Char) :
    Except Fault (List Char × List Char) → Except Fault (List Char × List Char)
  | .ok (chars, rest) => .ok (c :: chars, rest)
  | .error fault => .error fault

/-- Read the rest of a string up to its closing quotation mark. -/
def readString : StringMode → List Char → Except Fault (List Char × List Char)
  | _, [] => .error .endInString
  | .plain, c :: rest =>
    if c = '"' then .ok ([], rest)
    else if c = '\\' then readString .escape rest
    else if c.toNat < 32 then .error .controlCharacter
    else pushChar c (readString .plain rest)
  | .escape, c :: rest =>
    match shortEscape? c with
    | some meant => pushChar meant (readString .plain rest)
    | none =>
      if c = 'u' then
        if tooShortForHex rest then .error .endInString else readString (.hex 4 0 none) rest
      else .error .invalidEscape
  | .hex left value high, c :: rest =>
    match hexDigit? c with
    | none => .error .invalidEscape
    | some digit =>
      let value := value * 16 + digit
      if 1 < left then readString (.hex (left - 1) value high) rest
      else
        match high with
        | none =>
          if isLowSurrogate value then .error .loneSurrogate
          else if isHighSurrogate value then readString (.pairBackslash value) rest
          else pushChar (Char.ofNat value) (readString .plain rest)
        | some high =>
          if isLowSurrogate value then pushChar (joinPair high value) (readString .plain rest)
          else .error .loneSurrogate
  | .pairBackslash high, c :: rest =>
    if c = '\\' then readString (.pairLetter high) rest else .error .brokenPair
  | .pairLetter high, c :: rest =>
    if c = 'u' then
      if tooShortForHex rest then .error .endInString else readString (.hex 4 0 (some high)) rest
    else .error .brokenPair

/-! ### Numbers -/

/-- A significand that is being read digit by digit, never beyond 64 bits. -/
structure Significand where
  /-- The value of the digits taken so far. -/
  value : Nat
  /-- The power of ten the value is to be scaled by. -/
  power : Int
  /-- Whether a digit had to be left out. -/
  full : Bool
deriving Repr, DecidableEq

/-- Take a digit before the point. A digit that does not fit only raises the power. -/
def Significand.takeWhole (s : Significand) (c : Char) : Significand :=
  let next := s.value * 10 + (c.toNat - 48)
  if s.full || wordLimit ≤ next then { s with power := s.power + 1, full := true }
  else { s with value := next }

/-- Take a digit after the point. Once a digit does not fit, it and all later ones are dropped. -/
def Significand.takeFraction (s : Significand) (c : Char) : Significand :=
  let next := s.value * 10 + (c.toNat - 48)
  if s.full || wordLimit ≤ next then { s with full := true }
  else { s with value := next, power := s.power - 1 }

/-- `10 ^ n` as a double, for `n` up to 308. -/
def powerOfTen (n : Nat) : Double := (Double.ofNat? (Nat.pow 10 n)).getD (Double.zero false)

/-- Scale a double by a power of ten in one rounded step, or, for powers below -308, in steps of
308 until the rest fits or nothing is left. None if the result is too large. -/
def scaleByTen : Nat → Double → Int → Option Double
  | 0, x, _ => some x
  | fuel + 1, x, power =>
    if power.natAbs ≤ 308 then
      if 0 ≤ power then x.times (powerOfTen power.natAbs) else x.dividedBy (powerOfTen power.natAbs)
    else if x.isZero then some x
    else if 0 ≤ power then none
    else
      match x.dividedBy (powerOfTen 308) with
      | none => none
      | some smaller => scaleByTen fuel smaller (power + 308)

/-- The double that a significand and a power of ten are read as: the significand is rounded first
and scaled afterwards, each step to the nearest double. -/
def decimalDouble (negative : Bool) (value : Nat) (power : Int) : Except Fault Number :=
  match Double.ofNat? value with
  | none => .error .numberOutOfRange
  | some x =>
    match scaleByTen 8 x power with
    | none => .error .numberOutOfRange
    | some y => .ok (.double (y.withSign negative))

/-- The greatest exponent that is counted out. -/
def exponentLimit : Nat := Nat.pow 2 31 - 1

/-- A number from its parts: digits before the point, digits after it and the exponent, if any. -/
def assembleNumber (negative : Bool) (whole : List Char) (fraction : Option (List Char))
    (exponent : Option (Bool × Nat)) : Except Fault Number :=
  let integral := whole.foldl Significand.takeWhole ⟨0, 0, false⟩
  match fraction, exponent with
  | none, none =>
    if integral.full then decimalDouble negative integral.value integral.power
    else if !negative then .ok (.integer integral.value)
    else if integral.value = 0 || Nat.pow 2 63 < integral.value then
      decimalDouble true integral.value 0
    else .ok (.integer (-(integral.value : Int)))
  | _, _ =>
    let s := (fraction.getD []).foldl Significand.takeFraction { integral with full := false }
    match exponent with
    | none => decimalDouble negative s.value s.power
    | some (down, size) =>
      if exponentLimit < size then
        if s.value ≠ 0 && !down then .error .numberOutOfRange
        else .ok (.double (Double.zero negative))
      else decimalDouble negative s.value (if down then s.power - size else s.power + size)

/-- Read the exponent that may follow the digits of a number. -/
def readExponent (text : List Char) : Except Fault (Option (Bool × Nat) × List Char) :=
  match text with
  | c :: rest =>
    if c = 'e' ∨ c = 'E' then
      let (down, digits) := match rest with
        | '+' :: tail => (false, tail)
        | '-' :: tail => (true, tail)
        | _ => (false, rest)
      match digits with
      | [] => .error .endInValue
      | d :: _ =>
        if d.isDigit then
          .ok (some (down, Decimal.digitsValue (digits.takeWhile Char.isDigit)),
            digits.dropWhile Char.isDigit)
        else .error .invalidNumber
    else .ok (none, text)
  | [] => .ok (none, text)

/-- Read the fraction that may follow the digits before the point. -/
def readFraction (text : List Char) : Except Fault (Option (List Char) × List Char) :=
  match text with
  | '.' :: rest =>
    match rest with
    | [] => .error .endInValue
    | d :: _ =>
      if d.isDigit then
        .ok (some (rest.takeWhile Char.isDigit), rest.dropWhile Char.isDigit)
      else .error .invalidNumber
  | _ => .ok (none, text)

/-- Read the digits before the point; a leading zero stands alone. -/
def readWhole (text : List Char) : Except Fault (List Char × List Char) :=
  match text with
  | [] => .error .endInValue
  | c :: rest =>
    if c = '0' then
      match rest with
      | d :: _ => if d.isDigit then .error .invalidNumber else .ok ([c], rest)
      | [] => .ok ([c], rest)
    else if c.isDigit then
      .ok (text.takeWhile Char.isDigit, text.dropWhile Char.isDigit)
    else .error .invalidNumber

/-- Read a number whose sign has been read. -/
def readNumber (negative : Bool) (text : List Char) : Except Fault (Number × List Char) := do
  let (whole, text) ← readWhole text
  let (fraction, text) ← readFraction text
  let (exponent, text) ← readExponent text
  let n ← assembleNumber negative whole fraction exponent
  return (n, text)

/-! ### Documents -/

/-- Read the rest of a word such as `true`. -/
def readWord (value : Draft) : List Char → List Char → Draft × Option (List Char)
  | [], text => (value, some text)
  | _ :: _, [] => (.fault .endInValue, none)
  | expected :: more, c :: text =>
    if c = expected then readWord value more text else (.fault .expectedIdent, none)

mutual

/-- Read a value of which at most `depth` containers may still open, and the text after it unless
reading stopped inside the value. -/
def readValue (fuel depth : Nat) (text : List Char) : Draft × Option (List Char) :=
  match fuel with
  | 0 => (.fault .endInValue, none)
  | fuel + 1 =>
    match skipBlanks text with
    | [] => (.fault .endInValue, none)
    | c :: rest =>
      if c = 'n' then readWord .null ['u', 'l', 'l'] rest
      else if c = 't' then readWord (.bool true) ['r', 'u', 'e'] rest
      else if c = 'f' then readWord (.bool false) ['a', 'l', 's', 'e'] rest
      else if c = '"' then
        match readString .plain rest with
        | .ok (chars, rest) => (.string (String.ofList chars), some rest)
        | .error fault => (.fault fault, none)
      else if c = '[' then
        match depth with
        | 0 => (.fault .tooDeep, none)
        | depth + 1 =>
          let (items, ending, rest) := readItems fuel depth true rest
          (.array items ending, rest)
      else if c = '{' then
        match depth with
        | 0 => (.fault .tooDeep, none)
        | depth + 1 =>
          let (members, ending, rest) := readMembers fuel depth true rest
          (.object members ending, rest)
      else if c = '-' ∨ c.isDigit then
        match (if c = '-' then readNumber true rest else readNumber false (c :: rest)) with
        | .ok (n, rest) => (.number n, some rest)
        | .error fault => (.fault fault, none)
      else (.fault .expectedValue, none)

/-- Read items up to the closing bracket; `first` holds before the first one. -/
def readItems (fuel depth : Nat) (first : Bool) (text : List Char) :
    List Draft × Ending × Option (List Char) :=
  match fuel with
  | 0 => ([], .broken .endInList, none)
  | fuel + 1 =>
    match skipBlanks text with
    | [] => ([], .broken .endInList, none)
    | c :: rest =>
      if c = ']' then ([], .closed, some rest)
      else if first then readItemsFrom fuel depth (c :: rest)
      else if c = ',' then
        match skipBlanks rest with
        | [] => ([], .broken .endInValue, none)
        | d :: rest =>
          if d = ']' then ([], .broken .trailingComma, none)
          else readItemsFrom fuel depth (d :: rest)
      else ([], .broken .expectedCommaOrBracket, none)

/-- Read an item that is known to start here, and the items after it. -/
def readItemsFrom (fuel depth : Nat) (text : List Char) :
    List Draft × Ending × Option (List Char) :=
  match fuel with
  | 0 => ([], .broken .endInList, none)
  | fuel + 1 =>
    match readValue fuel depth text with
    | (item, none) => ([item], .broken .endInList, none)
    | (item, some rest) =>
      let (items, ending, rest) := readItems fuel depth false rest
      (item :: items, ending, rest)

/-- Read members up to the closing brace; `first` holds before the first one. -/
def readMembers (fuel depth : Nat) (first : Bool) (text : List Char) :
    List (String × Draft) × Ending × Option (List Char) :=
  match fuel with
  | 0 => ([], .broken .endInObject, none)
  | fuel + 1 =>
    match skipBlanks text with
    | [] => ([], .broken .endInObject, none)
    | c :: rest =>
      if c = '}' then ([], .closed, some rest)
      else if first then
        if c = '"' then readMembersFrom fuel depth rest else ([], .broken .keyNotString, none)
      else if c = ',' then
        match skipBlanks rest with
        | [] => ([], .broken .endInValue, none)
        | d :: rest =>
          if d = '"' then readMembersFrom fuel depth rest
          else if d = '}' then ([], .broken .trailingComma, none)
          else ([], .broken .keyNotString, none)
      else ([], .broken .expectedCommaOrBrace, none)

/-- Read a member whose key's opening quotation mark has been read, and the members after it. -/
def readMembersFrom (fuel depth : Nat) (text : List Char) :
    List (String × Draft) × Ending × Option (List Char) :=
  match fuel with
  | 0 => ([], .broken .endInObject, none)
  | fuel + 1 =>
    match readString .plain text with
    | .error fault => ([], .broken fault, none)
    | .ok (chars, rest) =>
      let key := String.ofList chars
      match skipBlanks rest with
      | [] => ([(key, .fault .endInObject)], .broken .endInObject, none)
      | c :: rest =>
        if c = ':' then
          match readValue fuel depth rest with
          | (value, none) => ([(key, value)], .broken .endInObject, none)
          | (value, some rest) =>
            let (members, ending, rest) := readMembers fuel depth false rest
            ((key, value) :: members, ending, rest)
        else ([(key, .fault .expectedColon)], .broken .endInObject, none)

end

/-- A text that has been read: its draft, and the fault of characters after it. -/
structure Reading where
  /-- The document as far as it could be read. -/
  root : Draft
  /-- The fault that characters after the document are. -/
  leftover : Option Fault

/-- The number of containers that may be open at once. -/
def depthLimit : Nat := 127

/-- Read a text. Of four readers that call each other in a row at least one takes a character, so
four units of fuel for each character are enough. -/
def read (text : String) : Reading :=
  let chars := text.toList
  match readValue (4 * chars.length + 4) depthLimit chars with
  | (root, none) => ⟨root, none⟩
  | (root, some rest) =>
    ⟨root, if (skipBlanks rest).isEmpty then none else some .trailingCharacters⟩

mutual

/-- A value in memory as a draft. -/
def draft : Json → Draft
  | .null => .null
  | .bool value => .bool value
  | .number value => .number value
  | .string value => .string value
  | .array items => .array (draftItems items) .inMemory
  | .object members => .object (draftMembers members) .inMemory

/-- The drafts of the items of an array. -/
def draftItems : List Json → List Draft
  | [] => []
  | item :: rest => item.draft :: draftItems rest

/-- The drafts of the members of an object. -/
def draftMembers : List (String × Json) → List (String × Draft)
  | [] => []
  | (key, value) :: rest => (key, value.draft) :: draftMembers rest

end

end PageCheck.Json
