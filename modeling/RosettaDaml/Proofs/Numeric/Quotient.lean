/-
This file gives the values of quotients and of integers as 64-bit numbers.
-/

import RosettaDaml.Proofs.Numeric.Rounding

namespace RosettaDaml.Numeric.Binary64

/-- The nearest number to a quotient, before it is known whether it is finite. -/
theorem ofRatio_eq (negative : Bool) {numerator denominator : Nat} (positive : 0 < numerator) :
    ofRatio negative numerator denominator =
      if units numerator denominator = 2 ^ 53 then
        if greatestExponent < lastPlace numerator denominator + 1 then .infinite negative
        else .finite negative (2 ^ 52) (lastPlace numerator denominator + 1)
      else if greatestExponent < lastPlace numerator denominator then .infinite negative
      else .finite negative (units numerator denominator) (lastPlace numerator denominator) := by
  simp only [ofRatio, if_neg positive.ne', ← lastPlace.eq_1]
  rw [← units.eq_1]
  split <;> rfl

/-- A quotient is rounded to its last place unless it is too large then. -/
theorem ofRatio_spec (negative : Bool) {numerator denominator : Nat} (positive : 0 < numerator)
    (positiveToo : 0 < denominator) :
    (2 ^ 54 * halfStep ≤ rounded numerator denominator ∧
        ofRatio negative numerator denominator = .infinite negative) ∨
      (rounded numerator denominator < 2 ^ 54 * halfStep ∧
        ∃ mantissa exponent, ofRatio negative numerator denominator =
          .finite negative mantissa exponent ∧
          (mantissa * 2 ^ exponent : ℚ) = rounded numerator denominator) := by
  rw [ofRatio_eq negative positive]
  have step := halfStep_pos
  have unit : (0 : ℚ) < 2 ^ lastPlace numerator denominator := by positivity
  have greatest : (2 : ℚ) ^ greatestExponent = 2 * halfStep := by
    rw [show greatestExponent = 970 + (1 : Nat) by decide, pow_eq_mul_halfStep, pow_one]
  -- A quotient that is rounded up to the next power of two has its last place one further up.
  split_ifs with carried large largeToo
  · refine .inl ⟨?_, rfl⟩
    have atLeast : (2 : ℚ) ^ greatestExponent ≤ 2 ^ lastPlace numerator denominator :=
      zpow_le_zpow_right₀ one_le_two (by omega)
    rw [greatest] at atLeast
    rw [rounded, carried]
    push_cast
    linarith
  · refine .inr ⟨?_, _, _, rfl, ?_⟩
    · have below : (2 : ℚ) ^ (lastPlace numerator denominator + 1) ≤ 2 ^ greatestExponent :=
        zpow_le_zpow_right₀ one_le_two (by omega)
      rw [greatest, zpow_add_one₀ two_ne_zero] at below
      rw [rounded, carried]
      push_cast
      linarith
    · rw [rounded, carried, zpow_add_one₀ two_ne_zero]
      push_cast
      ring
  · have order : 1023 < binaryOrder numerator denominator := by
      rw [lastPlace, leastExponent, greatestExponent] at largeToo
      omega
    exact .inl ⟨(overflow_le_pow_of_lt positive positiveToo order).2, rfl⟩
  · refine .inr ⟨?_, _, _, rfl, rfl⟩
    have few := lt_of_le_of_ne (units_le_pow positive positiveToo) carried
    have counted : (units numerator denominator : ℚ) < 2 ^ 53 := by
      exact_mod_cast few
    have below : (2 : ℚ) ^ lastPlace numerator denominator ≤ 2 ^ greatestExponent :=
      zpow_le_zpow_right₀ one_le_two (by omega)
    rw [greatest] at below
    calc rounded numerator denominator
        < 2 ^ 53 * 2 ^ lastPlace numerator denominator := mul_lt_mul_of_pos_right counted unit
      _ ≤ 2 ^ 53 * (2 * halfStep) := by gcongr
      _ = 2 ^ 54 * halfStep := by ring

/-- The magnitude of a number as a quotient. -/
theorem ratioOf_eq (mantissa : Nat) (exponent : Int) :
    ((ratioOf false mantissa exponent).1.natAbs : ℚ) / (ratioOf false mantissa exponent).2 =
      mantissa * 2 ^ exponent := by
  simp only [ratioOf, Bool.false_eq_true, if_false]
  split_ifs with up
  · obtain ⟨power, rfl⟩ := Int.eq_ofNat_of_zero_le up
    rw [Int.toNat_natCast, zpow_natCast, Nat.cast_one, div_one]
    have natural : ((mantissa : Int) * 2 ^ power).natAbs = mantissa * 2 ^ power := by
      exact_mod_cast Int.natAbs_natCast (mantissa * 2 ^ power)
    rw [natural]
    push_cast
    rfl
  · obtain ⟨power, downward⟩ := Int.eq_ofNat_of_zero_le (by omega : 0 ≤ -exponent)
    obtain rfl : exponent = -(power : Int) := by omega
    rw [neg_neg, Int.toNat_natCast, zpow_neg, zpow_natCast, Int.natAbs_natCast]
    push_cast
    rw [div_eq_mul_inv]

/-- The denominator of a number is positive. -/
theorem ratioOf_pos (negative : Bool) (mantissa : Nat) (exponent : Int) :
    0 < (ratioOf negative mantissa exponent).2 := by
  simp only [ratioOf]
  split
  · exact Nat.one_pos
  · positivity

/-- A number from one on has a mantissa. -/
theorem pos_of_one_le {mantissa : Nat} {exponent : Int}
    (large : 1 ≤ (mantissa * 2 ^ exponent : ℚ)) : 0 < mantissa := by
  rcases Nat.eq_zero_or_pos mantissa with rfl | positive
  · norm_num at large
  · exact positive

/-- So its numerator is positive. -/
theorem natAbs_ratioOf_pos {mantissa : Nat} (positive : 0 < mantissa) (exponent : Int) :
    0 < (ratioOf false mantissa exponent).1.natAbs := by
  have unit : (0 : ℚ) < (ratioOf false mantissa exponent).2 :=
    Nat.cast_pos.2 (ratioOf_pos false mantissa exponent)
  have value : (0 : ℚ) < mantissa * 2 ^ exponent := by positivity
  rw [← ratioOf_eq, lt_div_iff₀ unit, zero_mul] at value
  exact Nat.cast_pos.1 value

/-- A negative number has no positive numerator. -/
theorem ratioOf_true_nonpos (mantissa : Nat) (exponent : Int) :
    (ratioOf true mantissa exponent).1 ≤ 0 := by
  simp only [ratioOf, if_true]
  split
  · exact Int.neg_nonpos_of_nonneg (by positivity)
  · omega

/-- The nearest integer to a number is zero exactly up to a half. -/
theorem roundToInt?_eq (mantissa : Nat) (exponent : Int) :
    ∃ magnitude : Nat, (finite false mantissa exponent).roundToInt? = some (magnitude : Int) ∧
      (magnitude = 0 ↔ (mantissa * 2 ^ exponent : ℚ) ≤ 1 / 2) := by
  refine ⟨roundQuotient (ratioOf false mantissa exponent).1.natAbs
    (ratioOf false mantissa exponent).2, rfl, ?_⟩
  have positive := ratioOf_pos false mantissa exponent
  have below : (0 : ℚ) < (ratioOf false mantissa exponent).2 := Nat.cast_pos.2 positive
  rw [← Nat.le_zero, roundQuotient_le_iff positive, ← ratioOf_eq, div_le_div_iff₀ below two_pos]
  generalize (ratioOf false mantissa exponent).1.natAbs = above
  norm_cast
  omega

/-- A positive integer becomes a number unless it is too large once it is rounded. -/
theorem ofInt?_spec {value : Nat} (positive : 0 < value) :
    ((2 ^ 54 - 1) * 2 ^ 970 ≤ value ∧ ofInt? value = none) ∨
      (value < (2 ^ 54 - 1) * 2 ^ 970 ∧ rounded value 1 < 2 ^ 54 * halfStep ∧
        ∃ mantissa exponent, ofInt? value = some (.finite false mantissa exponent) ∧
          (mantissa * 2 ^ exponent : ℚ) = rounded value 1) := by
  have ratio : ofInt value = ofRatio false value 1 := by
    rw [ofInt, Int.natAbs_natCast, decide_eq_false (by omega)]
  have limit : ((2 ^ 54 - 1) * 2 ^ 970 ≤ value) ↔ 2 ^ 54 * halfStep ≤ rounded value 1 := by
    rw [overflow_le_rounded_iff positive Nat.one_pos, halfStep_eq, ← Nat.cast_le (α := ℚ),
      Nat.cast_mul, Nat.cast_one, div_one]
    generalize ((2 ^ 970 : Nat) : ℚ) = step
    norm_num
  rcases ofRatio_spec false positive Nat.one_pos with ⟨overflow, infinite⟩ | ⟨within, finite⟩
  · refine .inl ⟨limit.2 overflow, ?_⟩
    rw [ofInt?, ratio, infinite]
  · obtain ⟨mantissa, exponent, isFinite, exact⟩ := finite
    refine .inr ⟨not_le.1 (mt limit.1 (not_le.2 within)), within, mantissa, exponent, ?_, exact⟩
    rw [ofInt?, ratio, isFinite]

/-- The quotient of two positive finite numbers is rounded once. -/
theorem divide_finite (above below : Nat) (up down : Int) (positive : 0 < above)
    (positiveToo : 0 < below) :
    ∃ numerator denominator, 0 < numerator ∧ 0 < denominator ∧
      (finite false above up).divide (finite false below down) =
        ofRatio false numerator denominator ∧
      (numerator / denominator : ℚ) = (above * 2 ^ up) / (below * 2 ^ down) := by
  refine ⟨(ratioOf false above up).1.natAbs * (ratioOf false below down).2,
    (ratioOf false above up).2 * (ratioOf false below down).1.natAbs, ?_, ?_,
    if_neg positiveToo.ne', ?_⟩
  · exact Nat.mul_pos (natAbs_ratioOf_pos positive up) (ratioOf_pos false below down)
  · exact Nat.mul_pos (ratioOf_pos false above up) (natAbs_ratioOf_pos positiveToo down)
  · push_cast
    rw [← ratioOf_eq above up, ← ratioOf_eq below down, div_div_div_eq]

/-- What is at least one is infinite or a number from one on. -/
theorem atLeast_one {number : Binary64} (atLeast : number.atLeast 1 = true) :
    number = .infinite false ∨
      ∃ mantissa exponent, number = .finite false mantissa exponent ∧
        1 ≤ (mantissa * 2 ^ exponent : ℚ) := by
  cases number with
  | nan => simp [Binary64.atLeast] at atLeast
  | infinite negative => exact .inl (by simpa [Binary64.atLeast] using atLeast)
  | finite negative mantissa exponent =>
      have positive := ratioOf_pos negative mantissa exponent
      have unit : (0 : ℚ) < (ratioOf negative mantissa exponent).2 := Nat.cast_pos.2 positive
      simp only [Binary64.atLeast, one_mul, decide_eq_true_eq] at atLeast
      cases negative with
      | true =>
          have notPositive := ratioOf_true_nonpos mantissa exponent
          omega
      | false =>
          refine .inr ⟨mantissa, exponent, rfl, ?_⟩
          rw [← ratioOf_eq, one_le_div unit]
          have reached : (ratioOf false mantissa exponent).2 ≤
              (ratioOf false mantissa exponent).1.natAbs := by omega
          exact Nat.cast_le.2 reached

end RosettaDaml.Numeric.Binary64
