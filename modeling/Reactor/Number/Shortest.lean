import Reactor.Number.Binary64

/-!
Decimal text of binary floating point: the fewest digits that read back as the same number, and
of those the digits nearest to it. Numbers of moderate size are written with a point, at least
one digit standing on either side of it, all others with a signed exponent.
-/

namespace Reactor

namespace Binary64

def decimalLength (count : Nat) : Nat :=
  if count = 0 then 0 else (Nat.toDigits 10 count).length

/-- The greatest power of ten not above a positive quotient. -/
def decimalExponent (numerator denominator : Nat) : Int :=
  if denominator ≤ numerator then
    (decimalLength (numerator / denominator) : Int) - 1
  else
    -(decimalLength ((denominator - 1) / numerator) : Int)

def decimalRatio (digits : Nat) (power : Int) : Nat × Nat :=
  if 0 ≤ power then (digits * Nat.pow 10 power.toNat, 1) else (digits, Nat.pow 10 (-power).toNat)

/-- Whether `digits * 10 ^ power` rounds to the magnitude of `number`. -/
def readsBack (number : Binary64) (digits : Nat) (power : Int) : Bool :=
  let (top, bottom) := decimalRatio digits power
  roundRatio number.negative top bottom == some number

/-- Of the two neighbours of `number` on the grid of `10 ^ power`, the nearer one that reads back. -/
def onGrid (number : Binary64) (power : Int) : Option Nat :=
  let (top, bottom) := number.ratio
  let (unitTop, unitBottom) := decimalRatio 1 power
  let scaledTop := top * unitBottom
  let scaledBottom := bottom * unitTop
  let below := scaledTop / scaledBottom
  let nearest := nearestEven scaledTop scaledBottom
  let other := if nearest = below then below + 1 else below
  if number.readsBack nearest power then some nearest
  else if number.readsBack other power then some other
  else none

/-- The first grid that holds a hit, from one digit upwards; seventeen digits always read back. -/
def searchDigits (number : Binary64) (top : Int) : Nat → Nat → Nat × Int
  | _, 0 => (0, 0)
  | count, tries + 1 =>
    let power := top - (count : Int)
    match number.onGrid power with
    | some digits => (digits, power)
    | none => searchDigits number top (count + 1) tries

/-- The digits without trailing zeros, and the power of ten of the last one. -/
def shortest (number : Binary64) : List Char × Int :=
  let (top, bottom) := number.ratio
  let (digits, power) := number.searchDigits (decimalExponent top bottom) 0 18
  let written := Nat.toDigits 10 digits
  let kept := (written.reverse.dropWhile (· == '0')).reverse
  (kept, power + ((written.length - kept.length : Nat) : Int))

def positional (digits : List Char) (lead : Int) : List Char :=
  if lead < 0 then
    '0' :: '.' :: List.replicate (-lead - 1).toNat '0' ++ digits
  else
    let places := lead.toNat + 1
    let whole := digits.take places
    let rest := digits.drop places
    whole ++ List.replicate (places - whole.length) '0' ++ '.' :: (if rest.isEmpty then ['0'] else rest)

def scientific (digits : List Char) (lead : Int) : List Char :=
  let mantissa :=
    match digits with
    | [] => []
    | [digit] => [digit]
    | digit :: rest => digit :: '.' :: rest
  mantissa ++ 'e' :: (if lead < 0 then '-' else '+') :: Nat.toDigits 10 lead.natAbs

/-- The decimal text; a point is used from `10 ^ -5` up to below `10 ^ 16`. -/
def chars (number : Binary64) : List Char :=
  let body :=
    if number.isZero then
      ['0', '.', '0']
    else
      let (digits, power) := number.shortest
      let lead := power + (digits.length : Int) - 1
      if -5 ≤ lead ∧ lead < 16 then positional digits lead else scientific digits lead
  if number.negative then '-' :: body else body

def text (number : Binary64) : String := String.ofList number.chars

end Binary64

end Reactor
