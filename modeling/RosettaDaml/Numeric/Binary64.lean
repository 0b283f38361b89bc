/-
This file holds the 64-bit binary floating-point numbers as exact scaled integers. Every
operation rounds an exact quotient once, to the nearest number and a tie to the even one.
-/

namespace RosettaDaml.Numeric

-- Powers are those of the numbers themselves, whatever else is known of them.
attribute [local instance(2000)] instPowNat instNatPowNat Int.instNatPow

/-- The quotient as the nearest natural number, a tie going to the even one. -/
def roundQuotient (numerator denominator : Nat) : Nat :=
  let quotient := numerator / denominator
  let twice := 2 * (numerator % denominator)
  if twice < denominator then quotient
  else if denominator < twice then quotient + 1
  else quotient + quotient % 2

/-- A finite number is `mantissa * 2 ^ exponent` with its sign. The mantissa stays below `2 ^ 53`,
the exponent is at least `-1074`, and it is as small as the mantissa allows. -/
inductive Binary64 where
  | finite (negative : Bool) (mantissa : Nat) (exponent : Int)
  | infinite (negative : Bool)
  | nan
  deriving DecidableEq, Repr, Inhabited

namespace Binary64

def leastExponent : Int := -1074

def greatestExponent : Int := 971

def positiveZero : Binary64 := .finite false 0 leastExponent

/-- The quotient times `2 ^ (-exponent)` as a pair of natural numbers. -/
def scaleDown (numerator denominator : Nat) (exponent : Int) : Nat × Nat :=
  if 0 ≤ exponent then (numerator, denominator * 2 ^ exponent.toNat)
  else (numerator * 2 ^ (-exponent).toNat, denominator)

/-- The floor of the binary logarithm of a positive quotient. -/
def binaryOrder (numerator denominator : Nat) : Int :=
  let guess := (numerator.log2 : Int) - denominator.log2
  let (above, below) := scaleDown numerator denominator guess
  if above < below then guess - 1 else guess

/-- The nearest number to a quotient of natural numbers whose denominator is positive. -/
def ofRatio (negative : Bool) (numerator denominator : Nat) : Binary64 :=
  if numerator = 0 then .finite negative 0 leastExponent
  else
    let exponent := max (binaryOrder numerator denominator - 52) leastExponent
    let (above, below) := scaleDown numerator denominator exponent
    let mantissa := roundQuotient above below
    let (mantissa, exponent) :=
      if mantissa = 2 ^ (53 : Nat) then (2 ^ (52 : Nat), exponent + 1) else (mantissa, exponent)
    if greatestExponent < exponent then .infinite negative
    else .finite negative mantissa exponent

def ofInt (value : Int) : Binary64 :=
  ofRatio (value < 0) value.natAbs 1

/-- The nearest number to an integer, unless the integer lies beyond the finite numbers. -/
def ofInt? (value : Int) : Option Binary64 :=
  match ofInt value with
  | .finite negative mantissa exponent => some (.finite negative mantissa exponent)
  | _ => none

/-- The nearest number to `digits * 10 ^ exponent`. Its order of magnitude is looked at first, so
that no power of ten is built for a number far outside the range. -/
def ofDecimal (negative : Bool) (digits : Nat) (exponent : Int) : Binary64 :=
  if digits = 0 then .finite negative 0 leastExponent
  else
    let order := (digits.log2 : Int) * 30103 / 100000 + exponent
    if 400 < order then .infinite negative
    else if order < -800 then .finite negative 0 leastExponent
    else if 0 ≤ exponent then ofRatio negative (digits * 10 ^ exponent.toNat) 1
    else ofRatio negative digits (10 ^ (-exponent).toNat)

/-- The exact value of a finite number as sign, numerator and denominator. -/
def ratioOf (negative : Bool) (mantissa : Nat) (exponent : Int) : Int × Nat :=
  let magnitude : Int := if 0 ≤ exponent then mantissa * 2 ^ exponent.toNat else mantissa
  (if negative then -magnitude else magnitude, if 0 ≤ exponent then 1 else 2 ^ (-exponent).toNat)

def isNegative : Binary64 → Bool
  | .finite negative _ _ => negative
  | .infinite negative => negative
  | .nan => false

def negate : Binary64 → Binary64
  | .finite negative mantissa exponent => .finite (!negative) mantissa exponent
  | .infinite negative => .infinite (!negative)
  | .nan => .nan

def isZero : Binary64 → Bool
  | .finite _ mantissa _ => mantissa == 0
  | _ => false

def divide : Binary64 → Binary64 → Binary64
  | .nan, _ => .nan
  | _, .nan => .nan
  | .infinite _, .infinite _ => .nan
  | .infinite left, .finite right _ _ => .infinite (left != right)
  | .finite left _ _, .infinite right => .finite (left != right) 0 leastExponent
  | .finite left above up, .finite right below down =>
      if below = 0 then (if above = 0 then .nan else .infinite (left != right))
      else
        let (upper, upperUnit) := ratioOf false above up
        let (lower, lowerUnit) := ratioOf false below down
        ofRatio (left != right) (upper.natAbs * lowerUnit) (upperUnit * lower.natAbs)

def multiply : Binary64 → Binary64 → Binary64
  | .nan, _ => .nan
  | _, .nan => .nan
  | .infinite left, right => if right.isZero then .nan else .infinite (left != right.isNegative)
  | left, .infinite right => if left.isZero then .nan else .infinite (left.isNegative != right)
  | .finite left above up, .finite right below down =>
      let (upper, upperUnit) := ratioOf false above up
      let (lower, lowerUnit) := ratioOf false below down
      ofRatio (left != right) (upper.natAbs * lower.natAbs) (upperUnit * lowerUnit)

def add : Binary64 → Binary64 → Binary64
  | .nan, _ => .nan
  | _, .nan => .nan
  | .infinite left, .infinite right => if left = right then .infinite left else .nan
  | .infinite left, _ => .infinite left
  | _, .infinite right => .infinite right
  | .finite left above up, .finite right below down =>
      let (upper, upperUnit) := ratioOf left above up
      let (lower, lowerUnit) := ratioOf right below down
      let total := upper * lowerUnit + lower * upperUnit
      ofRatio (if total = 0 then left && right else total < 0) total.natAbs (upperUnit * lowerUnit)

/-- Whether the number is at least the integer; what is not a number never is. -/
def atLeast (number : Binary64) (bound : Int) : Bool :=
  match number with
  | .nan => false
  | .infinite negative => !negative
  | .finite negative mantissa exponent =>
      let (numerator, denominator) := ratioOf negative mantissa exponent
      bound * denominator ≤ numerator

/-- The integer with exactly this value, if there is one. -/
def exactInt? : Binary64 → Option Int
  | .finite negative mantissa exponent =>
      let (numerator, denominator) := ratioOf negative mantissa exponent
      if numerator % denominator = 0 then some (numerator / denominator) else none
  | _ => none

/-- The nearest integer to a finite number, a tie going to the even one. -/
def roundToInt? : Binary64 → Option Int
  | .finite negative mantissa exponent =>
      let (numerator, denominator) := ratioOf false mantissa exponent
      let magnitude : Int := roundQuotient numerator.natAbs denominator
      some (if negative then -magnitude else magnitude)
  | _ => none

/-- The integer part of a finite number. -/
def truncate? : Binary64 → Option Int
  | .finite negative mantissa exponent =>
      let (numerator, denominator) := ratioOf negative mantissa exponent
      some (numerator.tdiv denominator)
  | _ => none

end Binary64

theorem roundQuotient_le_succ (numerator denominator : Nat) :
    roundQuotient numerator denominator ≤ numerator / denominator + 1 := by
  simp only [roundQuotient]
  split
  · omega
  · split <;> omega

theorem le_roundQuotient (numerator denominator : Nat) :
    numerator / denominator ≤ roundQuotient numerator denominator := by
  simp only [roundQuotient]
  split
  · omega
  · split <;> omega

end RosettaDaml.Numeric
