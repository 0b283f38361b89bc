/-
This file finds the shortest decimal that reads back as a given binary number, and writes
numbers as text.
-/

import RosettaDaml.Numeric.Binary64

namespace RosettaDaml.Numeric

-- Powers are those of the numbers themselves, whatever else is known of them.
attribute [local instance(2000)] instPowNat instNatPowNat

/-- The number `digits * 10 ^ exponent`. -/
structure Decimal where
  digits : Nat
  exponent : Int
  deriving DecidableEq, Repr

/-- The floor of the decimal logarithm of a positive quotient. -/
def decimalOrder (numerator denominator : Nat) : Int :=
  let guess : Int := (Nat.toDigits 10 numerator).length - (Nat.toDigits 10 denominator).length
  let reached :=
    if 0 ≤ guess then denominator * 10 ^ guess.toNat ≤ numerator
    else denominator ≤ numerator * 10 ^ (-guess).toNat
  if reached then guess else guess - 1

/-- The numbers that round to `mantissa * 2 ^ exponent` lie between these ends, given in quarters
of the last binary place. -/
def roundingEnds (mantissa : Nat) (exponent : Int) : Nat × Nat :=
  if mantissa = 2 ^ (52 : Nat) ∧ Binary64.leastExponent < exponent then
    (4 * mantissa - 1, 4 * mantissa + 2)
  else (4 * mantissa - 2, 4 * mantissa + 2)

/-- The ends belong to the interval when the mantissa is even. -/
def roundsTo (mantissa : Nat) (exponent : Int) (candidate : Decimal) : Bool :=
  let (low, high) := roundingEnds mantissa exponent
  let twos (shift : Int) : Nat := 2 ^ shift.toNat
  let tens (shift : Int) : Nat := 10 ^ shift.toNat
  let value := candidate.digits * tens candidate.exponent * twos (2 - exponent)
  let scale := tens (-candidate.exponent) * twos (exponent - 2)
  if mantissa % 2 = 0 then low * scale ≤ value ∧ value ≤ high * scale
  else low * scale < value ∧ value < high * scale

/-- The neighbours of a positive quotient among the multiples of a power of ten, the nearer one
first and of two equally near the even one. -/
def gridNeighbours (numerator denominator : Nat) (exponent : Int) : List Decimal :=
  let above := numerator * 10 ^ (-exponent).toNat
  let below := denominator * 10 ^ exponent.toNat
  let floor := above / below
  let nearest := roundQuotient above below
  let other := if nearest = floor then floor + 1 else floor
  [⟨nearest, exponent⟩, ⟨other, exponent⟩]

/-- Looks at grids of more and more digits until one has a number that reads back. -/
def searchGrids (mantissa : Nat) (exponent : Int) (numerator denominator : Nat) (order : Int) :
    Nat → Nat → Decimal
  | 0, count => ⟨roundQuotient (numerator * 10 ^ (count - 1 - order).toNat)
      (denominator * 10 ^ (order - count + 1).toNat), order - count + 1⟩
  | more + 1, count =>
      match (gridNeighbours numerator denominator (order - count + 1)).find?
        (roundsTo mantissa exponent) with
      | some found => found
      | none => searchGrids mantissa exponent numerator denominator order more (count + 1)

def dropTrailingZeros : Nat → Decimal → Decimal
  | 0, decimal => decimal
  | fuel + 1, decimal =>
      if decimal.digits ≠ 0 ∧ decimal.digits % 10 = 0 then
        dropTrailingZeros fuel ⟨decimal.digits / 10, decimal.exponent + 1⟩
      else decimal

/-- The decimal with the fewest digits that reads back as a positive finite number. -/
def shortest (mantissa : Nat) (exponent : Int) : Decimal :=
  let (numerator, denominator) := Binary64.ratioOf false mantissa exponent
  let order := decimalOrder numerator.natAbs denominator
  dropTrailingZeros 20
    (searchGrids mantissa exponent numerator.natAbs denominator order 17 1)

/-- How numbers are written: without an exponent while the order of magnitude is in the range. -/
structure NumberLayout where
  leastOrder : Int
  orderBound : Int
  exponentWidth : Nat
  infinity : String
  notANumber : String

def writeExponent (width : Nat) (exponent : Int) : List Char :=
  let digits := (toString exponent.natAbs).toList
  (if exponent < 0 then '-' else '+') :: List.replicate (width - digits.length) '0' ++ digits

def writeDecimal (layout : NumberLayout) (decimal : Decimal) : List Char :=
  let digits := (toString decimal.digits).toList
  let order := decimal.exponent + digits.length - 1
  if layout.leastOrder ≤ order ∧ order < layout.orderBound then
    if order < 0 then
      '0' :: '.' :: List.replicate (-order - 1).toNat '0' ++ digits
    else
      let whole := order.toNat + 1
      let front := digits.take whole ++ List.replicate (whole - digits.length) '0'
      let back := digits.drop whole
      front ++ '.' :: (if back.isEmpty then ['0'] else back)
  else
    let back := digits.drop 1
    digits.take 1 ++ (if back.isEmpty then [] else '.' :: back) ++
      'e' :: writeExponent layout.exponentWidth order

def Binary64.write (layout : NumberLayout) : Binary64 → String
  | .nan => layout.notANumber
  | .infinite negative => (if negative then "-" else "") ++ layout.infinity
  | .finite negative mantissa exponent =>
      let decimal := if mantissa = 0 then ⟨0, 0⟩ else shortest mantissa exponent
      String.ofList ((if negative then ['-'] else []) ++ writeDecimal layout decimal)

end RosettaDaml.Numeric
