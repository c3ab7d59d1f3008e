import PageCheck.Decimal.Reading
import PageCheck.Toml.Value

/-!
# TOML numbers and dates

Words that stand for themselves: the truth values, integers in four bases, floats, dates and times.
Digits can be grouped by single underscores. Integers have 64 bits.
-/

namespace PageCheck.Toml

open Decimal (Double digitsValue isDigits)
open Unicode (splitOnChar hexDigit?)

/-- Digits without the underscores that group them; none if an underscore lacks a digit on either
side. -/
def ungroup? (isDigit : Char → Bool) (text : List Char) : Option (List Char) :=
  let groups := splitOnChar '_' text
  if groups.all fun group => !group.isEmpty && group.all isDigit then some groups.flatten else none

/-- Decimal digits without a leading zero, unless zero is all there is. -/
def plainDigits? (text : List Char) : Option (List Char) := do
  let digits ← ungroup? Char.isDigit text
  if digits.length > 1 && digits.head? == some '0' then none else some digits

/-- A sign and what follows it; whether it is a minus. -/
def signed : List Char → Bool × List Char
  | '+' :: rest => (false, rest)
  | '-' :: rest => (true, rest)
  | text => (false, text)

/-- An integer that has 64 bits. -/
def within64? (value : Int) : Option Int :=
  if -Int.ofNat (Nat.pow 2 63) ≤ value && value < Int.ofNat (Nat.pow 2 63) then some value else none

/-- Digits of a base. -/
def based? (base : Nat) (text : List Char) : Option Int := do
  let digit? (c : Char) : Option Nat := (hexDigit? c).filter (· < base)
  let digits ← ungroup? (fun c => (digit? c).isSome) text
  within64? (digits.foldl (fun value c => value * base + (digit? c).getD 0) 0 : Nat)

/-- An integer. -/
def integer? (word : List Char) : Option Int :=
  match word with
  | '0' :: 'x' :: digits => based? 16 digits
  | '0' :: 'o' :: digits => based? 8 digits
  | '0' :: 'b' :: digits => based? 2 digits
  | _ => do
    let (negative, rest) := signed word
    let value := digitsValue (← plainDigits? rest)
    within64? (if negative then -(value : Int) else value)

/-- The digits after the point, if there is one, and what follows them. -/
def fraction? (text : List Char) : Option (Option (List Char) × List Char) :=
  match text with
  | '.' :: rest => do
    let (digits, rest) := rest.span fun c => c.isDigit || c == '_'
    return (some (← ungroup? Char.isDigit digits), rest)
  | _ => some (none, text)

/-- The exponent, if there is one. -/
def exponent? : List Char → Option (Option (List Char))
  | [] => some none
  | mark :: rest =>
    if mark = 'e' || mark = 'E' then do
      let (negative, digits) := signed rest
      let digits ← ungroup? Char.isDigit digits
      return some (if negative then '-' :: digits else digits)
    else none

/-- Whether a word is a float. A positive number beyond the range is none. -/
def isFloat (word : List Char) : Bool :=
  let (negative, rest) := signed word
  if rest == "inf".toList || rest == "nan".toList then true
  else
    let (whole, rest) := rest.span fun c => c.isDigit || c == '_'
    match plainDigits? whole, fraction? rest with
    | some whole, some (fraction, rest) =>
      match exponent? rest with
      | none => false
      | some exponent =>
        if fraction.isNone && exponent.isNone then false
        else
          let text := whole ++ '.' :: fraction.getD [] ++
            (match exponent with | some digits => 'e' :: digits | none => [])
          negative || (Double.ofChars? text).isSome
    | _, _ => false

/-- The number of days in a month. -/
def daysIn (year month : Nat) : Nat :=
  if month = 2 then
    if year % 4 = 0 && (year % 100 ≠ 0 || year % 400 = 0) then 29 else 28
  else if [4, 6, 9, 11].contains month then 30 else 31

/-- A number of two digits between bounds. -/
def twoDigits? (low high : Nat) (a b : Char) : Bool :=
  a.isDigit && b.isDigit && low ≤ digitsValue [a, b] && digitsValue [a, b] ≤ high

/-- Whether a text is a date. -/
def isDate : List Char → Bool
  | [y1, y2, y3, y4, '-', m1, m2, '-', d1, d2] =>
    isDigits [y1, y2, y3, y4] && twoDigits? 1 12 m1 m2 &&
      twoDigits? 1 (daysIn (digitsValue [y1, y2, y3, y4]) (digitsValue [m1, m2])) d1 d2
  | _ => false

/-- A fraction of a second in its normal form: at most nine digits, the last of which is not
zero. -/
def fractionText (digits : List Char) : List Char :=
  match ((digits.take 9).reverse.dropWhile (· == '0')).reverse with
  | [] => []
  | digits => '.' :: digits

/-- The time of day in front of a text, in its normal form, and what follows it. -/
def time? : List Char → Option (List Char × List Char)
  | h1 :: h2 :: ':' :: m1 :: m2 :: ':' :: s1 :: s2 :: rest =>
    if twoDigits? 0 23 h1 h2 && twoDigits? 0 59 m1 m2 && twoDigits? 0 60 s1 s2 then
      let time := [h1, h2, ':', m1, m2, ':', s1, s2]
      match rest with
      | '.' :: rest =>
        match rest.span Char.isDigit with
        | ([], _) => none
        | (digits, rest) => some (time ++ fractionText digits, rest)
      | rest => some (time, rest)
    else none
  | _ => none

/-- The distance from universal time in its normal form; a text without one has none. -/
def offset? : List Char → Option (List Char)
  | [] => some []
  | [c] => if c == 'Z' || c == 'z' then some ['Z'] else none
  | [sign, h1, h2, ':', m1, m2] =>
    if (sign == '+' || sign == '-') && twoDigits? 0 23 h1 h2 && twoDigits? 0 59 m1 m2 then
      let sign := if [h1, h2, m1, m2].all (· == '0') then '+' else sign
      some [sign, h1, h2, ':', m1, m2]
    else none
  | _ => none

/-- The normal form of a word that is a date, a time of day, or both, the latter perhaps with an
offset. -/
def moment? (word : List Char) : Option (List Char) :=
  if isDate word then some word
  else match time? word with
    | some (time, []) => some time
    | _ =>
      if isDate (word.take 10) && ['T', 't', ' '].contains ((word.drop 10).headD '-') then do
        let (time, rest) ← time? (word.drop 11)
        return word.take 10 ++ 'T' :: time ++ (← offset? rest)
      else none

/-- The value of a word. -/
def ofWord? (word : List Char) : Option Toml :=
  if word == "true".toList then some (.bool true)
  else if word == "false".toList then some (.bool false)
  else match integer? word with
    | some value => some (.integer value)
    | none =>
      if isFloat word then some (.float (String.ofList word))
      else (moment? word).map fun text => .date (String.ofList text)

/-- Whether a character may stand in a word. -/
def isWordChar (c : Char) : Bool := c.isAlphanum || "+-._:".toList.contains c

/-- Cut a word off a text. A date may be separated from its time by a space. -/
def cutWord (text : List Char) : List Char × List Char :=
  let (word, rest) := text.span isWordChar
  match rest with
  | ' ' :: c :: _ =>
    if isDate word && c.isDigit then
      let (time, rest) := (rest.drop 1).span isWordChar
      (word ++ ' ' :: time, rest)
    else (word, rest)
  | _ => (word, rest)

end PageCheck.Toml
