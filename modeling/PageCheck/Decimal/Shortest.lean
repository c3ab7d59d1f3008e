import PageCheck.Decimal.Double

/-!
# The shortest decimal of a double

The decimal with the fewest digits that reads back as a given double, and of those the nearest one.
Every number of digits from one to seventeen is tried: on the grid of decimals with that many
digits only the two neighbours of the exact value can lie among the numbers that round to it, so
testing them decides the grid.

The written form is positional, always with a fraction, while the decimal exponent of the leading
digit is between -5 and 15, and scientific with a signed exponent otherwise.
-/

namespace PageCheck.Decimal

/-- A decimal `digits * 10 ^ power` without a sign. -/
structure Scientific where
  /-- The digits as a natural number. -/
  digits : Nat
  /-- The power of ten they are multiplied by. -/
  power : Int
deriving Repr, DecidableEq

namespace Double

/-- The fraction `num / den` divided by `10 ^ power`. -/
def overPowerOfTen (num den : Nat) (power : Int) : Nat × Nat :=
  if 0 ≤ power then (num, den * Nat.pow 10 power.toNat) else (num * Nat.pow 10 (-power).toNat, den)

/-- Correct an estimate of the decimal exponent until `10 ^ e ≤ num / den < 10 ^ (e + 1)`. -/
def settleLog10 (num den : Nat) : Nat → Int → Int
  | 0, e => e
  | fuel + 1, e =>
    let (n, d) := overPowerOfTen num den e
    if n < d then settleLog10 num den fuel (e - 1)
    else if 10 * d ≤ n then settleLog10 num den fuel (e + 1)
    else e

/-- The decimal exponent of a positive fraction. -/
def floorLog10 (num den : Nat) : Int :=
  settleLog10 num den 8 (floorLog2 num den * 30103 / 100000)

/-- The numbers that round to a double: bounds as numerators over a common denominator, and whether
the bounds themselves belong to them. -/
structure Interval where
  /-- Numerator of the lower bound. -/
  low : Nat
  /-- Numerator of the exact value. -/
  exact : Nat
  /-- Numerator of the upper bound. -/
  high : Nat
  /-- The common denominator. -/
  den : Nat
  /-- Whether the bounds belong to the interval. -/
  closed : Bool

/-- The numbers that round to a nonzero double. Below a power of two the neighbours lie closer. -/
def interval (x : Double) : Interval :=
  let narrow := x.significand == Nat.pow 2 52 && minExponent < x.exponent
  let low := if narrow then 4 * x.significand - 1 else 4 * x.significand - 2
  let (scale, den) := scaled 1 4 x.exponent
  ⟨low * scale, 4 * x.significand * scale, (4 * x.significand + 2) * scale, den,
    x.significand % 2 == 0⟩

/-- Whether `digits * 10 ^ power` lies in an interval. -/
def Interval.contains (i : Interval) (digits : Nat) (power : Int) : Bool :=
  let (value, unit) :=
    if 0 ≤ power then (digits * Nat.pow 10 power.toNat * i.den, 1)
    else (digits * i.den, Nat.pow 10 (-power).toNat)
  if i.closed then i.low * unit ≤ value && value ≤ i.high * unit
  else i.low * unit < value && value < i.high * unit

/-- The decimal of the grid `10 ^ power` that lies in the interval, the nearer of two, the even one
of two that are equally near. -/
def Interval.onGrid (i : Interval) (power : Int) : Option Scientific :=
  let (n, d) := overPowerOfTen i.exact i.den power
  let below := n / d
  let twice := 2 * (n % d)
  let preferAbove := d < twice || (d == twice && below % 2 == 1)
  let first := if preferAbove then below + 1 else below
  let second := if preferAbove then below else below + 1
  if first != 0 && i.contains first power then some ⟨first, power⟩
  else if second != 0 && i.contains second power then some ⟨second, power⟩
  else none

/-- Try the grids from `digits` digits on, `fuel` of them. -/
def Interval.search (i : Interval) (exponent : Int) : Nat → Nat → Scientific
  | 0, _ => ⟨0, 0⟩
  | fuel + 1, digits =>
    match i.onGrid (exponent - digits + 1) with
    | some found => found
    | none => i.search exponent fuel (digits + 1)

/-- Move trailing zeros of the digits into the power. -/
def Scientific.stripZeros : Nat → Scientific → Scientific
  | 0, s => s
  | fuel + 1, s =>
    if s.digits != 0 && s.digits % 10 == 0 then
      stripZeros fuel ⟨s.digits / 10, s.power + 1⟩
    else s

/-- The shortest decimal that reads back as a double. -/
def shortest (x : Double) : Scientific :=
  if x.isZero then ⟨0, 0⟩
  else
    let i := x.interval
    Scientific.stripZeros 20 (i.search (floorLog10 i.exact i.den) 17 1)

/-- The decimal digits of a natural number. -/
def decimalDigits (n : Nat) : List Char := Nat.toDigits 10 n

/-- A run of zeros. -/
def zeros (n : Nat) : List Char := List.replicate n '0'

/-- The positional form of digits whose point stands after the first `point` of them. -/
def positional (digits : List Char) (point : Int) : List Char :=
  let count := digits.length
  if point ≤ 0 then ['0', '.'] ++ zeros (-point).toNat ++ digits
  else if (count : Int) ≤ point then digits ++ zeros (point.toNat - count) ++ ['.', '0']
  else digits.take point.toNat ++ ['.'] ++ digits.drop point.toNat

/-- The scientific form of digits with the exponent of the leading one. -/
def scientificForm (digits : List Char) (exponent : Int) : List Char :=
  let head := digits.take 1
  let tail := digits.drop 1
  let mantissa := if tail.isEmpty then head else head ++ ['.'] ++ tail
  let sign := if exponent < 0 then '-' else '+'
  mantissa ++ ['e', sign] ++ decimalDigits exponent.natAbs

/-- The written form of a double. -/
def toChars (x : Double) : List Char :=
  let sign := if x.negative then ['-'] else []
  if x.isZero then sign ++ ['0', '.', '0']
  else
    let s := x.shortest
    let digits := decimalDigits s.digits
    let exponent := s.power + digits.length - 1
    if -5 ≤ exponent ∧ exponent ≤ 15 then sign ++ positional digits (exponent + 1)
    else sign ++ scientificForm digits exponent

/-- The size of a double with one place after the point, a half going to the even digit. -/
def toOnePlace (x : Double) : String :=
  let (num, den) := x.ratio
  let tenths := roundDiv (10 * num) den
  String.ofList (decimalDigits (tenths / 10) ++ ['.'] ++ decimalDigits (tenths % 10))

end Double

end PageCheck.Decimal
