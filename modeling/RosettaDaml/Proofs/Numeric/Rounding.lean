/-
This file says where the rounding of a quotient to a 64-bit number lies.
-/

import Mathlib.Algebra.Order.Field.Power
import Mathlib.Data.Rat.Cast.Order
import Mathlib.Tactic.FieldSimp
import Mathlib.Tactic.Linarith
import Mathlib.Tactic.NormNum
import Mathlib.Tactic.Positivity
import Mathlib.Tactic.Ring
import RosettaDaml.Numeric.Binary64

namespace RosettaDaml.Numeric

/-- A rounded quotient is within a bound when the quotient is nearer to it than to the next number,
or as near and the bound is even. -/
theorem roundQuotient_le_iff {numerator denominator : Nat} (positive : 0 < denominator)
    (bound : Nat) :
    roundQuotient numerator denominator ≤ bound ↔
      2 * numerator < (2 * bound + 1) * denominator ∨
        2 * numerator = (2 * bound + 1) * denominator ∧ bound % 2 = 0 := by
  have split := Nat.div_add_mod numerator denominator
  have remains := Nat.mod_lt numerator positive
  have twice : (2 * bound + 1) * denominator = 2 * (denominator * bound) + denominator := by ring
  rw [twice]
  -- The remainder matters only where the whole part is the bound.
  rcases Nat.lt_trichotomy (numerator / denominator) bound with below | here | above
  · have step : denominator * (numerator / denominator + 1) ≤ denominator * bound :=
      Nat.mul_le_mul_left denominator below
    rw [Nat.mul_add, Nat.mul_one] at step
    have rounded := roundQuotient_le_succ numerator denominator
    constructor
    · intro _
      exact .inl (by omega)
    · intro _
      omega
  · rw [here] at split
    simp only [roundQuotient, here]
    split_ifs <;> omega
  · have step : denominator * (bound + 1) ≤ denominator * (numerator / denominator) :=
      Nat.mul_le_mul_left denominator above
    rw [Nat.mul_add, Nat.mul_one] at step
    have rounded := le_roundQuotient numerator denominator
    constructor
    · intro _
      omega
    · rintro (nearer | ⟨tie, -⟩)
      · omega
      · omega

namespace Binary64

/-- A scaled denominator is positive. -/
theorem scaleDown_pos (numerator : Nat) {denominator : Nat} (positive : 0 < denominator)
    (exponent : Int) : 0 < (scaleDown numerator denominator exponent).2 := by
  rw [scaleDown]
  split
  · positivity
  · exact positive

/-- Scaling divides a quotient by a power of two. -/
theorem scaleDown_eq (numerator denominator : Nat) (exponent : Int) :
    ((scaleDown numerator denominator exponent).1 : ℚ) /
        (scaleDown numerator denominator exponent).2 =
      (numerator / denominator : ℚ) / 2 ^ exponent := by
  rw [scaleDown]
  split_ifs with up
  · obtain ⟨power, rfl⟩ := Int.eq_ofNat_of_zero_le up
    push_cast
    rw [Int.toNat_natCast, zpow_natCast, div_div]
  · obtain ⟨power, downward⟩ := Int.eq_ofNat_of_zero_le (by omega : 0 ≤ -exponent)
    obtain rfl : exponent = -(power : Int) := by omega
    push_cast
    rw [neg_neg, Int.toNat_natCast, zpow_neg, zpow_natCast, div_inv_eq_mul, mul_div_right_comm]

/-- A scaled fraction is below one exactly when the fraction is below the power. -/
theorem scaleDown_lt_iff (numerator : Nat) {denominator : Nat} (positive : 0 < denominator)
    (exponent : Int) :
    (scaleDown numerator denominator exponent).1 < (scaleDown numerator denominator exponent).2 ↔
      (numerator / denominator : ℚ) < 2 ^ exponent := by
  have unit : (0 : ℚ) < 2 ^ exponent := by positivity
  have below : (0 : ℚ) < (scaleDown numerator denominator exponent).2 :=
    Nat.cast_pos.2 (scaleDown_pos numerator positive exponent)
  rw [← div_lt_one unit, ← scaleDown_eq, div_lt_one below, Nat.cast_lt]

/-- The order of a quotient is the greatest power of two within it. -/
theorem binaryOrder_spec {numerator denominator : Nat} (positive : 0 < numerator)
    (positiveToo : 0 < denominator) :
    (2 : ℚ) ^ binaryOrder numerator denominator ≤ numerator / denominator ∧
      (numerator / denominator : ℚ) < 2 ^ (binaryOrder numerator denominator + 1) := by
  have unit : (0 : ℚ) < denominator := Nat.cast_pos.2 positiveToo
  have upper : (numerator : ℚ) < 2 ^ (numerator.log2 + 1) := by
    exact_mod_cast Nat.lt_log2_self
  have upperLeast : (2 : ℚ) ^ numerator.log2 ≤ numerator := by
    exact_mod_cast Nat.log2_self_le positive.ne'
  have lower : (denominator : ℚ) < 2 ^ (denominator.log2 + 1) := by
    exact_mod_cast Nat.lt_log2_self
  have lowerLeast : (2 : ℚ) ^ denominator.log2 ≤ denominator := by
    exact_mod_cast Nat.log2_self_le positiveToo.ne'
  -- The lengths of both numbers leave two orders to choose from.
  have atLeast : (2 : ℚ) ^ ((numerator.log2 : Int) - denominator.log2 - 1) ≤
      numerator / denominator := by
    rw [le_div_iff₀ unit]
    calc (2 : ℚ) ^ ((numerator.log2 : Int) - denominator.log2 - 1) * denominator
        ≤ 2 ^ ((numerator.log2 : Int) - denominator.log2 - 1) *
            2 ^ (denominator.log2 + 1) := by gcongr
      _ = 2 ^ numerator.log2 := by
          rw [← zpow_natCast, ← zpow_natCast, ← zpow_add₀ two_ne_zero]
          congr 1
          push_cast
          ring
      _ ≤ numerator := upperLeast
  have atMost : (numerator / denominator : ℚ) <
      2 ^ ((numerator.log2 : Int) - denominator.log2 + 1) := by
    rw [div_lt_iff₀ unit]
    calc (numerator : ℚ) < 2 ^ (numerator.log2 + 1) := upper
      _ = 2 ^ ((numerator.log2 : Int) - denominator.log2 + 1) * 2 ^ denominator.log2 := by
          rw [← zpow_natCast, ← zpow_natCast, ← zpow_add₀ two_ne_zero]
          congr 1
          push_cast
          ring
      _ ≤ 2 ^ ((numerator.log2 : Int) - denominator.log2 + 1) * denominator := by gcongr
  simp only [binaryOrder]
  split_ifs with short
  · rw [scaleDown_lt_iff numerator positiveToo] at short
    rw [sub_add_cancel]
    exact ⟨atLeast, short⟩
  · rw [scaleDown_lt_iff numerator positiveToo, not_lt] at short
    exact ⟨short, atMost⟩

/-- The exponent of the last binary digit that is kept of a quotient. -/
def lastPlace (numerator denominator : Nat) : Int :=
  max (binaryOrder numerator denominator - 52) leastExponent

/-- How often the unit of its last place goes into a quotient, rounded. -/
def units (numerator denominator : Nat) : Nat :=
  roundQuotient (scaleDown numerator denominator (lastPlace numerator denominator)).1
    (scaleDown numerator denominator (lastPlace numerator denominator)).2

/-- A quotient rounded to its last place, with no limit on its size. -/
def rounded (numerator denominator : Nat) : ℚ :=
  units numerator denominator * 2 ^ lastPlace numerator denominator

/-- A power of two is a multiple of any smaller one. -/
theorem exists_pow_eq_mul {place power : Int} (coarse : place ≤ power) :
    ∃ count : Nat, (2 : ℚ) ^ power = count * 2 ^ place := by
  obtain ⟨apart, rfl⟩ := Int.le.dest coarse
  refine ⟨2 ^ apart, ?_⟩
  rw [zpow_add₀ two_ne_zero, zpow_natCast, mul_comm]
  push_cast
  rfl

section Bounds

variable {numerator denominator : Nat} (positiveToo : 0 < denominator)

include positiveToo

/-- The units are at most a bound exactly when the fraction is below the middle behind it, or on it
with the bound being even. -/
theorem units_le_iff (bound : Nat) :
    units numerator denominator ≤ bound ↔
      2 * (numerator / denominator : ℚ) < (2 * bound + 1) * 2 ^ lastPlace numerator denominator ∨
        2 * (numerator / denominator : ℚ) =
          (2 * bound + 1) * 2 ^ lastPlace numerator denominator ∧ bound % 2 = 0 := by
  have scaledPositive := scaleDown_pos numerator positiveToo (lastPlace numerator denominator)
  have scaled := scaleDown_eq numerator denominator (lastPlace numerator denominator)
  rw [units, roundQuotient_le_iff scaledPositive]
  generalize scaleDown numerator denominator (lastPlace numerator denominator) = pair at *
  obtain ⟨above, below⟩ := pair
  have unit : (0 : ℚ) < 2 ^ lastPlace numerator denominator := by positivity
  have belowPositive : (0 : ℚ) < below := Nat.cast_pos.2 scaledPositive
  have quotient : (numerator / denominator : ℚ) =
      above / below * 2 ^ lastPlace numerator denominator := by
    rw [scaled, div_mul_cancel₀ _ unit.ne']
  rw [quotient, ← mul_assoc, mul_lt_mul_iff_of_pos_right unit, mul_left_inj' unit.ne',
    ← mul_div_assoc, div_lt_iff₀ belowPositive, div_eq_iff belowPositive.ne']
  norm_cast

/-- Rounding does not pass a bound that the fraction does not pass. -/
theorem units_le {bound : Nat} (within : (numerator / denominator : ℚ) ≤
    bound * 2 ^ lastPlace numerator denominator) : units numerator denominator ≤ bound := by
  have unit : (0 : ℚ) < 2 ^ lastPlace numerator denominator := by positivity
  exact (units_le_iff positiveToo bound).2 (.inl (by linarith))

/-- Nor one that the fraction reaches. -/
theorem le_units {bound : Nat} (reached : bound * 2 ^ lastPlace numerator denominator ≤
    (numerator / denominator : ℚ)) : bound ≤ units numerator denominator := by
  have unit : (0 : ℚ) < 2 ^ lastPlace numerator denominator := by positivity
  by_contra short
  obtain ⟨below, rfl⟩ := Nat.exists_eq_succ_of_ne_zero (by omega : bound ≠ 0)
  have atMost : units numerator denominator ≤ below := by omega
  push_cast at reached
  rcases (units_le_iff positiveToo below).1 atMost with nearer | ⟨tie, -⟩
  · linarith
  · linarith

/-- Rounding does not go beyond a power of two. -/
theorem rounded_le_pow {power : Int} (coarse : lastPlace numerator denominator ≤ power)
    (within : (numerator / denominator : ℚ) ≤ 2 ^ power) :
    rounded numerator denominator ≤ 2 ^ power := by
  obtain ⟨count, power_eq⟩ := exists_pow_eq_mul coarse
  rw [power_eq] at within ⊢
  have counted : (units numerator denominator : ℚ) ≤ count :=
    Nat.cast_le.2 (units_le positiveToo within)
  rw [rounded]
  gcongr

/-- The same for a power of two. -/
theorem pow_le_rounded {power : Int} (coarse : lastPlace numerator denominator ≤ power)
    (reached : 2 ^ power ≤ (numerator / denominator : ℚ)) :
    2 ^ power ≤ rounded numerator denominator := by
  obtain ⟨count, power_eq⟩ := exists_pow_eq_mul coarse
  rw [power_eq] at reached ⊢
  have counted : (count : ℚ) ≤ units numerator denominator :=
    Nat.cast_le.2 (le_units positiveToo reached)
  rw [rounded]
  gcongr

end Bounds

/-- Half of the distance between the greatest numbers. -/
def halfStep : ℚ := 2 ^ (970 : Int)

/-- Half a step is positive. -/
theorem halfStep_pos : 0 < halfStep := by
  rw [halfStep]
  positivity

/-- Half a step is an integer. -/
theorem halfStep_eq : halfStep = (2 ^ 970 : Nat) := by
  rw [Nat.cast_pow]
  exact zpow_natCast 2 970

/-- Larger powers are multiples of it. -/
theorem pow_eq_mul_halfStep (count : Nat) :
    (2 : ℚ) ^ (970 + count : Int) = 2 ^ count * halfStep := by
  rw [halfStep, zpow_add₀ two_ne_zero, zpow_natCast, mul_comm]

/-- A unit in the last place of the greatest order is a whole step. -/
theorem pow_lastPlace_of_binaryOrder {numerator denominator : Nat}
    (order : binaryOrder numerator denominator = 1023) :
    (2 : ℚ) ^ lastPlace numerator denominator = 2 * halfStep := by
  have place : lastPlace numerator denominator = 970 + (1 : Nat) := by
    rw [lastPlace, order]
    decide
  rw [place, pow_eq_mul_halfStep, pow_one]

section Positive

variable {numerator denominator : Nat} (positive : 0 < numerator) (positiveToo : 0 < denominator)

include positive positiveToo

/-- A quotient keeps at most 53 binary digits. -/
theorem units_le_pow : units numerator denominator ≤ 2 ^ 53 := by
  have below := (binaryOrder_spec positive positiveToo).2
  have place : binaryOrder numerator denominator + 1 ≤ 53 + lastPlace numerator denominator := by
    rw [lastPlace]
    omega
  refine units_le positiveToo ?_
  calc (numerator / denominator : ℚ) ≤ 2 ^ (binaryOrder numerator denominator + 1) := below.le
    _ ≤ 2 ^ (53 + lastPlace numerator denominator) := zpow_le_zpow_right₀ one_le_two place
    _ = (2 ^ 53 : Nat) * 2 ^ lastPlace numerator denominator := by
        rw [zpow_add₀ two_ne_zero]
        norm_num

/-- Rounding keeps a quotient of normal size above the power of two within it. -/
theorem pow_binaryOrder_le_rounded (normal : leastExponent ≤ binaryOrder numerator denominator) :
    2 ^ binaryOrder numerator denominator ≤ rounded numerator denominator := by
  refine pow_le_rounded positiveToo ?_ (binaryOrder_spec positive positiveToo).1
  rw [lastPlace]
  omega

/-- Rounding does not pass one from above. -/
theorem one_le_rounded (large : (1 : ℚ) ≤ numerator / denominator) :
    1 ≤ rounded numerator denominator := by
  have below := large.trans_lt (binaryOrder_spec positive positiveToo).2
  rw [one_lt_zpow_iff_right₀ one_lt_two] at below
  have normal : leastExponent ≤ binaryOrder numerator denominator := by
    rw [leastExponent]
    omega
  exact (one_le_zpow₀ one_le_two (by omega)).trans
    (pow_binaryOrder_le_rounded positive positiveToo normal)

/-- A fraction of a smaller order does not reach the power. -/
theorem rounded_le_of_binaryOrder_lt {power : Int} (least : leastExponent ≤ power)
    (small : binaryOrder numerator denominator < power) :
    (numerator / denominator : ℚ) < 2 ^ power ∧ rounded numerator denominator ≤ 2 ^ power := by
  have below := (binaryOrder_spec positive positiveToo).2
  have within : (numerator / denominator : ℚ) < 2 ^ power :=
    below.trans_le (zpow_le_zpow_right₀ one_le_two small)
  refine ⟨within, rounded_le_pow positiveToo ?_ within.le⟩
  rw [lastPlace]
  omega

/-- A fraction of too large an order overflows before and after rounding. -/
theorem overflow_le_pow_of_lt (large : 1023 < binaryOrder numerator denominator) :
    2 ^ 54 * halfStep ≤ (numerator / denominator : ℚ) ∧
      2 ^ 54 * halfStep ≤ rounded numerator denominator := by
  have normal : leastExponent ≤ binaryOrder numerator denominator := by
    rw [leastExponent]
    omega
  have power : (2 : ℚ) ^ (970 + (54 : Nat) : Int) ≤ 2 ^ binaryOrder numerator denominator :=
    zpow_le_zpow_right₀ one_le_two large
  rw [pow_eq_mul_halfStep] at power
  exact ⟨power.trans (binaryOrder_spec positive positiveToo).1,
    power.trans (pow_binaryOrder_le_rounded positive positiveToo normal)⟩

/-- One of a small order does not. -/
theorem le_pow_of_binaryOrder_lt (small : binaryOrder numerator denominator < 1023) :
    (numerator / denominator : ℚ) < 2 ^ 53 * halfStep ∧
      rounded numerator denominator ≤ 2 ^ 53 * halfStep := by
  rw [← pow_eq_mul_halfStep]
  exact rounded_le_of_binaryOrder_lt positive positiveToo (by decide) small

omit positive positiveToo in
/-- In between the units decide. -/
theorem overflow_le_iff_of_binaryOrder (order : binaryOrder numerator denominator = 1023) :
    2 ^ 54 * halfStep ≤ rounded numerator denominator ↔
      2 ^ 53 ≤ units numerator denominator := by
  have step := halfStep_pos
  have scaled : (2 ^ 54 * halfStep : ℚ) = (2 ^ 53 : Nat) * (2 * halfStep) := by
    push_cast
    ring
  rw [rounded, pow_lastPlace_of_binaryOrder order, scaled,
    mul_le_mul_iff_of_pos_right (by positivity), Nat.cast_le]

/-- Rounding reaches the first number that is too large exactly from half a step below it on. -/
theorem overflow_le_rounded_iff : 2 ^ 54 * halfStep ≤ rounded numerator denominator ↔
    (2 ^ 54 - 1) * halfStep ≤ numerator / denominator := by
  have step := halfStep_pos
  -- Only at the greatest order of the numbers does rounding decide.
  rcases lt_trichotomy (binaryOrder numerator denominator) 1023 with small | order | large
  · have ⟨within, roundedWithin⟩ := le_pow_of_binaryOrder_lt positive positiveToo small
    exact iff_of_false (not_le.2 (by linarith)) (not_le.2 (by linarith))
  · have short : units numerator denominator ≤ 2 ^ 53 - 1 ↔
        2 * (numerator / denominator : ℚ) < (2 ^ 54 - 1) * (2 * halfStep) := by
      rw [units_le_iff positiveToo, pow_lastPlace_of_binaryOrder order]
      norm_num
    rw [overflow_le_iff_of_binaryOrder order]
    constructor
    · intro many
      have reached := not_lt.1 (mt short.2 (by omega))
      linarith
    · intro reached
      have many := mt short.1 (by linarith)
      omega
  · have ⟨reached, roundedReached⟩ := overflow_le_pow_of_lt positive positiveToo large
    exact iff_of_true (by linarith) (by linarith)

/-- The greatest number lies a whole step below the first one that is too large. -/
theorem rounded_le_greatest (finite : rounded numerator denominator < 2 ^ 54 * halfStep) :
    rounded numerator denominator ≤ (2 ^ 54 - 2) * halfStep := by
  have step := halfStep_pos
  rcases lt_trichotomy (binaryOrder numerator denominator) 1023 with small | order | large
  · have ⟨_, roundedWithin⟩ := le_pow_of_binaryOrder_lt positive positiveToo small
    linarith
  · have few := mt (overflow_le_iff_of_binaryOrder order).2 (not_le.2 finite)
    have counted : (units numerator denominator : ℚ) ≤ 2 ^ 53 - 1 := by
      rw [le_sub_iff_add_le]
      exact_mod_cast not_le.1 few
    have product := mul_le_mul_of_nonneg_right counted step.le
    rw [rounded, pow_lastPlace_of_binaryOrder order]
    linarith
  · have ⟨_, roundedReached⟩ := overflow_le_pow_of_lt positive positiveToo large
    linarith

/-- What is rounded to a half at most is hardly more than a half. -/
theorem rounded_le_half_iff : rounded numerator denominator ≤ 1 / 2 ↔
    (numerator / denominator : ℚ) ≤ 1 / 2 + 1 / 2 ^ 54 := by
  -- The tie above a half goes down to it, since its last digit is even.
  rcases lt_trichotomy (binaryOrder numerator denominator) (-1) with small | order | large
  · have ⟨within, roundedWithin⟩ :=
      rounded_le_of_binaryOrder_lt positive positiveToo (by decide) small
    norm_num at within roundedWithin ⊢
    exact iff_of_true (by linarith) (by linarith)
  · have unit : (2 : ℚ) ^ lastPlace numerator denominator = 1 / 2 ^ 53 := by
      rw [lastPlace, order, show max (-1 - 52) leastExponent = -(53 : Nat) by decide, zpow_neg,
        zpow_natCast, one_div]
    have counted : rounded numerator denominator ≤ 1 / 2 ↔
        units numerator denominator ≤ 2 ^ 52 := by
      rw [rounded, unit, mul_one_div, div_le_iff₀ (by positivity), ← Nat.cast_le (α := ℚ)]
      norm_num
    have short : units numerator denominator ≤ 2 ^ 52 ↔
        2 * (numerator / denominator : ℚ) ≤ (2 ^ 53 + 1) * (1 / 2 ^ 53) := by
      rw [units_le_iff positiveToo, unit, le_iff_lt_or_eq]
      norm_num
    rw [counted, short]
    constructor
    · intro _
      linarith
    · intro _
      linarith
  · have power : (1 : ℚ) ≤ 2 ^ binaryOrder numerator denominator :=
      one_le_zpow₀ one_le_two (by omega)
    have reached := power.trans (binaryOrder_spec positive positiveToo).1
    have roundedReached := one_le_rounded positive positiveToo reached
    norm_num
    exact iff_of_false (not_le.2 (by linarith)) (not_le.2 (by linarith))

end Positive

end Binary64

end RosettaDaml.Numeric
