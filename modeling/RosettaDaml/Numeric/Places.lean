/-
This file writes real numbers with a set count of digits, rounded once from their exact value.
-/

import RosettaDaml.Numeric.Shortest

namespace RosettaDaml.Numeric

-- Powers are those of the numbers themselves, whatever else is known of them.
attribute [local instance(2000)] instPowNat instNatPowNat

/-- The multiple of a power of ten that is nearest to a quotient, a tie going to the even one. -/
def nearestMultiple (numerator denominator : Nat) (exponent : Int) : Decimal :=
  ⟨roundQuotient (numerator * 10 ^ (-exponent).toNat) (denominator * 10 ^ exponent.toNat), exponent⟩

/-- The nearest number with a count of digits, none of them in front of the first that counts. -/
def nearestDigits (numerator denominator count : Nat) : Decimal :=
  if numerator = 0 then ⟨0, 1 - count⟩
  else
    let order := decimalOrder numerator denominator
    let decimal := nearestMultiple numerator denominator (order - count + 1)
    if decimal.digits = 10 ^ count then ⟨10 ^ (count - 1), order - count + 2⟩ else decimal

/-- How the digits behind the point are counted. -/
inductive PlacesRule where
  | fixed
  | scientific
  /-- The digits that count are counted, and the order of magnitude decides the notation. -/
  | general
  deriving DecidableEq, Repr

structure PlacesLayout where
  rule : PlacesRule
  count : Nat
  /-- Whether the point stays where no digit follows, and zeros stay at the end. -/
  keepsPoint : Bool
  deriving DecidableEq, Repr

namespace PlacesLayout

def dropZeros (digits : List Char) : List Char :=
  (digits.reverse.dropWhile (· == '0')).reverse

def joinPoint (layout : PlacesLayout) (whole fraction : List Char) : List Char :=
  if !fraction.isEmpty then whole ++ '.' :: fraction
  else if layout.keepsPoint then whole ++ ['.']
  else whole

def trim (layout : PlacesLayout) (fraction : List Char) : List Char :=
  if layout.rule == .general && !layout.keepsPoint then dropZeros fraction else fraction

/-- A decimal without an exponent, which has as many places as its unit says. -/
def positional (layout : PlacesLayout) (decimal : Decimal) : List Char :=
  let places := (-decimal.exponent).toNat
  let digits := (toString decimal.digits).toList
  let padded := List.replicate (places + 1 - digits.length) '0' ++ digits
  let whole := padded.length - places
  layout.joinPoint (padded.take whole) (layout.trim (padded.drop whole))

/-- A decimal of a count of digits with one of them in front of the point. -/
def scientific (layout : PlacesLayout) (count : Nat) (decimal : Decimal) : List Char :=
  let digits := (toString decimal.digits).toList
  let padded := List.replicate (count - digits.length) '0' ++ digits
  let order := decimal.exponent + count - 1
  layout.joinPoint (padded.take 1) (layout.trim (padded.drop 1)) ++ 'e' :: writeExponent 2 order

/-- The text of a quotient. In the general notation, numbers from `1e-4` on have no exponent while
their digits reach the point. -/
def write (layout : PlacesLayout) (numerator denominator : Nat) : List Char :=
  match layout.rule with
  | .fixed => layout.positional (nearestMultiple numerator denominator (-layout.count))
  | .scientific =>
      layout.scientific (layout.count + 1) (nearestDigits numerator denominator (layout.count + 1))
  | .general =>
      let count := max layout.count 1
      let decimal := nearestDigits numerator denominator count
      let order := decimal.exponent + count - 1
      if -4 ≤ order ∧ order < count then layout.positional decimal
      else layout.scientific count decimal

end PlacesLayout

/-- The text of a number without its sign. -/
def Binary64.writePlaces (layout : PlacesLayout) : Binary64 → List Char
  | .nan => ['n', 'a', 'n']
  | .infinite _ => ['i', 'n', 'f']
  | .finite _ mantissa exponent =>
      let (numerator, denominator) := Binary64.ratioOf false mantissa exponent
      layout.write numerator.natAbs denominator

end RosettaDaml.Numeric
