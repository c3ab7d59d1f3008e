import PageCheck.Decimal.Shortest
import PageCheck.Unicode.Prose

/-!
# Numbers in texts

Readers for the two kinds of numeric text that parameters and paths hold: an unsigned integer below
`2 ^ 64`, and a decimal with an optional fraction and exponent that is rounded to the nearest
double.
-/

namespace PageCheck.Decimal

/-- The number that decimal digits write. -/
def digitsValue (digits : List Char) : Nat :=
  digits.foldl (fun value c => 10 * value + (c.toNat - 48)) 0

/-- Whether a text is a non-empty run of the digits 0 to 9. -/
def isDigits (chars : List Char) : Bool := !chars.isEmpty && chars.all Char.isDigit

/-- The limit of unsigned 64-bit numbers. -/
def wordLimit : Nat := Nat.pow 2 64

/-- An unsigned 64-bit number: decimal digits, leading zeros allowed, after an optional plus. -/
def word? (chars : List Char) : Option Nat :=
  let digits := match chars with
    | '+' :: rest => rest
    | _ => chars
  if isDigits digits && digitsValue digits < wordLimit then some (digitsValue digits) else none

namespace Double

/-- The double nearest to `± digits * 10 ^ power`. Sizes far outside the range are decided by the
position of the leading digit alone. -/
def ofDecimal (negative : Bool) (digits : List Char) (power : Int) : Option Double :=
  let significant := digits.dropWhile (· == '0')
  if significant.isEmpty then some (zero negative)
  else
    let lead : Int := significant.length + power
    if 320 < lead then none
    else if lead < -340 then some (zero negative)
    else
      let value := digitsValue significant
      if 0 ≤ power then ofRatio negative (value * Nat.pow 10 power.toNat) 1
      else ofRatio negative value (Nat.pow 10 (-power).toNat)

/-- The exponent part of a decimal: nothing, or `e` with a signed run of digits. -/
def exponentPart? : List Char → Option Int
  | [] => some 0
  | c :: rest =>
    if c = 'e' ∨ c = 'E' then
      match rest with
      | '+' :: digits => if isDigits digits then some (digitsValue digits) else none
      | '-' :: digits => if isDigits digits then some (-(digitsValue digits : Int)) else none
      | digits => if isDigits digits then some (digitsValue digits) else none
    else none

/-- An unsigned decimal: digits with at most one point among them, at least one digit in all, and
an optional exponent. -/
def unsigned? (negative : Bool) (chars : List Char) : Option Double :=
  let whole := chars.takeWhile Char.isDigit
  let afterWhole := chars.dropWhile Char.isDigit
  let (fraction, rest) := match afterWhole with
    | '.' :: tail => (tail.takeWhile Char.isDigit, tail.dropWhile Char.isDigit)
    | _ => ([], afterWhole)
  if whole.isEmpty && fraction.isEmpty then none
  else
    match exponentPart? rest with
    | none => none
    | some exponent => ofDecimal negative (whole ++ fraction) (exponent - fraction.length)

/-- The double that a decimal text denotes; none for texts that denote no finite number. -/
def ofChars? (chars : List Char) : Option Double :=
  match chars with
  | '+' :: rest => unsigned? false rest
  | '-' :: rest => unsigned? true rest
  | _ => unsigned? false chars

end Double

end PageCheck.Decimal
