/-!
# Finite double-precision numbers

A finite binary64 number as sign, significand and power of two, with rounding to nearest (ties to
even) done on natural numbers. Infinities and the not-a-number values have no place here: an
operation whose result is too large has no value.
-/

namespace PageCheck.Decimal

/-- The finite double `± significand * 2 ^ exponent`. -/
structure Double where
  /-- Whether the number carries a minus sign; zero has both signs. -/
  negative : Bool
  /-- The significand, below `2 ^ 53`. -/
  significand : Nat
  /-- The power of two, from -1074 to 971. -/
  exponent : Int
deriving Repr, DecidableEq

namespace Double

/-- The least exponent of a double. -/
def minExponent : Int := -1074

/-- The greatest exponent of a double. -/
def maxExponent : Int := 971

/-- Zero with a sign. -/
def zero (negative : Bool) : Double := ⟨negative, 0, minExponent⟩

/-- The quotient of two natural numbers rounded to the nearest one, a half to the even one. -/
def roundDiv (num den : Nat) : Nat :=
  let quotient := num / den
  let twice := 2 * (num % den)
  if twice < den then quotient
  else if den < twice then quotient + 1
  else quotient + quotient % 2

/-- The fraction `num / den * 2 ^ shift` as a pair of natural numbers. -/
def scaled (num den : Nat) (shift : Int) : Nat × Nat :=
  if 0 ≤ shift then (num * Nat.pow 2 shift.toNat, den)
  else (num, den * Nat.pow 2 (-shift).toNat)

/-- The greatest `e` with `2 ^ e * den ≤ num`, for positive numbers. -/
def floorLog2 (num den : Nat) : Int :=
  let guess : Int := (num.log2 : Int) - (den.log2 : Int)
  let (n, d) := scaled num den (-guess)
  if n < d then guess - 1 else guess

/-- The double nearest to `± num / den`; none if its size is beyond the range. -/
def ofRatio (negative : Bool) (num den : Nat) : Option Double :=
  if num = 0 then some (zero negative)
  else
    let exponent := max minExponent (floorLog2 num den - 52)
    let (n, d) := scaled num den (-exponent)
    let rounded := roundDiv n d
    let (significand, exponent) :=
      if rounded = Nat.pow 2 53 then (Nat.pow 2 52, exponent + 1) else (rounded, exponent)
    if maxExponent < exponent then none
    else if significand = 0 then some (zero negative)
    else some ⟨negative, significand, exponent⟩

/-- The size of a double as a fraction. -/
def ratio (x : Double) : Nat × Nat := scaled x.significand 1 x.exponent

/-- Whether the number is zero of either sign. -/
def isZero (x : Double) : Bool := x.significand == 0

/-- The double nearest to a natural number. -/
def ofNat? (n : Nat) : Option Double := ofRatio false n 1

/-- The double nearest to an integer. -/
def ofInt? (n : Int) : Option Double := ofRatio (n < 0) n.natAbs 1

/-- The number with a given sign. -/
def withSign (x : Double) (negative : Bool) : Double := { x with negative }

/-- The rounded product of a number and a positive one. -/
def times (x y : Double) : Option Double :=
  let (a, b) := x.ratio
  let (c, d) := y.ratio
  ofRatio x.negative (a * c) (b * d)

/-- The rounded quotient of a number by a positive one. -/
def dividedBy (x y : Double) : Option Double :=
  let (a, b) := x.ratio
  let (c, d) := y.ratio
  ofRatio x.negative (a * d) (b * c)

/-- The rounded sum of the sizes of two numbers. -/
def plus (x y : Double) : Option Double :=
  let (a, b) := x.ratio
  let (c, d) := y.ratio
  ofRatio false (a * d + c * b) (b * d)

end Double

end PageCheck.Decimal
