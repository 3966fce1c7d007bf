/-!
Binary floating point of 64 bits as exact integers: a finite number is its sign, a significand
below `2 ^ 53` and a power of two. `roundRatio` rounds a quotient of naturals to the nearest such
number, a tie going to the even significand; the arithmetic here rounds exact results once.
-/

namespace Reactor

/-- The finite number `significand * 2 ^ exponent` with its sign; zero keeps its sign too. -/
structure Binary64 where
  negative : Bool
  significand : Nat
  exponent : Int
deriving DecidableEq, Inhabited

namespace Binary64

def leastExponent : Int := -1074

def greatestExponent : Int := 971

def zero (negative : Bool) : Binary64 := ⟨negative, 0, leastExponent⟩

def isZero (number : Binary64) : Bool := number.significand == 0

def rescale (numerator denominator : Nat) (exponent : Int) : Nat × Nat :=
  if 0 ≤ exponent then
    (numerator, denominator * Nat.pow 2 exponent.toNat)
  else
    (numerator * Nat.pow 2 (-exponent).toNat, denominator)

/-- The quotient to the nearest natural, a tie to the even one. -/
def nearestEven (numerator denominator : Nat) : Nat :=
  let whole := numerator / denominator
  let twice := 2 * (numerator % denominator)
  if denominator < twice ∨ (twice = denominator ∧ whole % 2 = 1) then whole + 1 else whole

/-- The exponent at which the quotient has 53 significant bits, or the least one. -/
def exponentFor (numerator denominator : Nat) : Int :=
  let guess : Int := (numerator.log2 : Int) - (denominator.log2 : Int) - 52
  let (top, bottom) := rescale numerator denominator guess
  let exponent := if top < Nat.pow 2 52 * bottom then guess - 1 else guess
  max exponent leastExponent

/-- The number nearest to the quotient; `none` when it lies beyond the finite numbers. -/
def roundRatio (negative : Bool) (numerator denominator : Nat) : Option Binary64 :=
  if numerator = 0 then
    some (zero negative)
  else
    let exponent := exponentFor numerator denominator
    let (top, bottom) := rescale numerator denominator exponent
    let significand := nearestEven top bottom
    let number : Binary64 :=
      if significand = Nat.pow 2 53 then ⟨negative, Nat.pow 2 52, exponent + 1⟩
      else ⟨negative, significand, exponent⟩
    if greatestExponent < number.exponent then none else some number

def ratio (number : Binary64) : Nat × Nat :=
  if 0 ≤ number.exponent then
    (number.significand * Nat.pow 2 number.exponent.toNat, 1)
  else
    (number.significand, Nat.pow 2 (-number.exponent).toNat)

/-- The natural number nearest to `count`; counts of 64 bits never leave the finite numbers. -/
def ofNat (count : Nat) : Option Binary64 := roundRatio false count 1

def mul (left right : Binary64) : Option Binary64 :=
  let (leftTop, leftBottom) := left.ratio
  let (rightTop, rightBottom) := right.ratio
  roundRatio (left.negative != right.negative) (leftTop * rightTop) (leftBottom * rightBottom)

def div (left right : Binary64) : Option Binary64 :=
  let (leftTop, leftBottom) := left.ratio
  let (rightTop, rightBottom) := right.ratio
  roundRatio (left.negative != right.negative) (leftTop * rightBottom) (leftBottom * rightTop)

def powerOfTen (power : Nat) : Option Binary64 := ofNat (Nat.pow 10 power)

def negate (number : Binary64) : Binary64 := { number with negative := !number.negative }

def toBits (number : Binary64) : Nat :=
  let sign := if number.negative then Nat.pow 2 63 else 0
  if number.significand < Nat.pow 2 52 then
    sign + number.significand
  else
    sign + (number.exponent + 1075).toNat * Nat.pow 2 52 + (number.significand - Nat.pow 2 52)

def bitsText (number : Binary64) : String :=
  let digits := Nat.toDigits 16 number.toBits
  String.ofList (List.replicate (16 - digits.length) '0' ++ digits)

end Binary64

end Reactor
