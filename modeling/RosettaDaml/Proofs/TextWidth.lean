/-
This file says for which settings comment lines have room for text.
-/

import RosettaDaml.Config
import RosettaDaml.Proofs.Numeric.Quotient

namespace RosettaDaml

open Numeric

namespace Config

/-- The line length lies beyond the floating-point numbers. -/
def IsOverlong (config : Config) : Prop := (2 ^ 54 - 1) * 2 ^ 970 ≤ config.lineLength

/-- The ribbons of a line have hardly more than half a character each. -/
inductive IsCrowded (config : Config) : Prop where
  | endless (ribbons : config.ribbonsPerLine = .infinite false)
  | many {length count : Nat} {unit place : Int}
      (nearest : Binary64.ofInt? config.lineLength = some (.finite false length unit))
      (ribbons : config.ribbonsPerLine = .finite false count place)
      (short : (length * 2 ^ unit : ℚ) ≤ (1 / 2 + 1 / 2 ^ 54) * (count * 2 ^ place))

theorem lineLength_pos (config : Config) : 0 < config.lineLength :=
  (by decide : 0 < 20).trans_le config.lineLength_ge

theorem textWidth?_of_ofInt? {config : Config} {length : Binary64}
    (nearest : Binary64.ofInt? config.lineLength = some length) :
    config.textWidth? =
      (length.divide config.ribbonsPerLine).roundToInt?.map (min (config.lineLength : Int)) := by
  rw [textWidth?, nearest, Option.bind_some]

/-- A quotient of the nearest number to a line length is finite. -/
theorem textWidth?_of_ribbons {config : Config} {length count : Nat} {unit place : Int}
    (nearest : Binary64.ofInt? config.lineLength = some (.finite false length unit))
    (exact : (length * 2 ^ unit : ℚ) = Binary64.rounded config.lineLength 1)
    (finite : Binary64.rounded config.lineLength 1 < 2 ^ 54 * Binary64.halfStep)
    (ribbons : config.ribbonsPerLine = .finite false count place)
    (reached : 1 ≤ (count * 2 ^ place : ℚ)) :
    ∃ magnitude : Nat, config.textWidth? = some (min (config.lineLength : Int) magnitude) ∧
      (magnitude = 0 ↔
        (length * 2 ^ unit : ℚ) ≤ (1 / 2 + 1 / 2 ^ 54) * (count * 2 ^ place)) := by
  have line := config.lineLength_pos
  have least : (1 : ℚ) ≤ config.lineLength / (1 : Nat) := by
    rw [Nat.cast_one, div_one]
    exact_mod_cast line
  have large : 1 ≤ (length * 2 ^ unit : ℚ) := by
    rw [exact]
    exact Binary64.one_le_rounded line Nat.one_pos least
  have lengthPositive := Binary64.pos_of_one_le large
  have countPositive := Binary64.pos_of_one_le reached
  obtain ⟨numerator, denominator, positive, positiveToo, divided, quotient⟩ :=
    Binary64.divide_finite length count unit place lengthPositive countPositive
  -- There is at least one ribbon, so the quotient is no greater than the line, which is finite.
  have shorter : (numerator / denominator : ℚ) ≤ Binary64.rounded config.lineLength 1 := by
    rw [quotient, ← exact]
    exact div_le_self (by positivity) reached
  have greatest := Binary64.rounded_le_greatest line Nat.one_pos finite
  have within : ¬ 2 ^ 54 * Binary64.halfStep ≤ Binary64.rounded numerator denominator := by
    rw [Binary64.overflow_le_rounded_iff positive positiveToo]
    have step := Binary64.halfStep_pos
    linarith
  rcases Binary64.ofRatio_spec false positive positiveToo with ⟨overflow, _⟩ | ⟨_, value⟩
  · exact absurd overflow within
  · obtain ⟨mantissa, exponent, isFinite, exactToo⟩ := value
    obtain ⟨magnitude, nearestInt, zero⟩ := Binary64.roundToInt?_eq mantissa exponent
    refine ⟨magnitude, ?_, ?_⟩
    · rw [textWidth?_of_ofInt? nearest, ribbons, divided, isFinite, nearestInt]
      rfl
    · rw [zero, exactToo, Binary64.rounded_le_half_iff positive positiveToo, quotient,
        div_le_iff₀ (by linarith)]

/-- There is a width of text unless the line is too long, and it is zero exactly when the line is
crowded. -/
theorem textWidth?_spec (config : Config) :
    (config.IsOverlong ∧ config.textWidth? = none) ∨
      (¬ config.IsOverlong ∧ ∃ width, config.textWidth? = some width ∧ 0 ≤ width ∧
        width ≤ config.lineLength ∧ (width = 0 ↔ config.IsCrowded)) := by
  have least := config.lineLength_ge
  rcases Binary64.ofInt?_spec config.lineLength_pos with ⟨overlong, beyond⟩ | ⟨notOverlong, finite,
    length, unit, nearest, exact⟩
  · refine .inl ⟨overlong, ?_⟩
    rw [textWidth?, beyond, Option.bind_none]
  · refine .inr ⟨not_le.2 notOverlong, ?_⟩
    rcases Binary64.atLeast_one config.ribbonsPerLine_ge with
      endless | ⟨count, place, ribbons, reached⟩
    · refine ⟨0, ?_, le_rfl, by omega, iff_of_true rfl (.endless endless)⟩
      obtain ⟨magnitude, nearestInt, zero⟩ :=
        Binary64.roundToInt?_eq 0 Binary64.leastExponent
      obtain rfl : magnitude = 0 := zero.2 (by norm_num)
      have divided : (Binary64.finite false length unit).divide (.infinite false) =
          .finite false 0 Binary64.leastExponent := rfl
      rw [textWidth?_of_ofInt? nearest, endless, divided, nearestInt, Option.map_some,
        Nat.cast_zero, min_eq_right (by omega)]
    · obtain ⟨magnitude, width, zero⟩ :=
        textWidth?_of_ribbons nearest exact finite ribbons reached
      refine ⟨_, width, by omega, min_le_left _ _, ?_⟩
      have short : min (config.lineLength : Int) magnitude = 0 ↔ magnitude = 0 := by omega
      rw [short, zero]
      constructor
      · exact fun short => .many nearest ribbons short
      · rintro (endless | ⟨nearestToo, ribbonsToo, short⟩)
        · simp [ribbons] at endless
        · rw [nearest, Option.some.injEq, Binary64.finite.injEq] at nearestToo
          rw [ribbons, Binary64.finite.injEq] at ribbonsToo
          obtain ⟨-, rfl, rfl⟩ := nearestToo
          obtain ⟨-, rfl, rfl⟩ := ribbonsToo
          exact short

theorem textWidth?_le (config : Config) {width : Int} (fits : config.textWidth? = some width) :
    width ≤ config.lineLength := by
  rcases config.textWidth?_spec with ⟨-, none⟩ | ⟨-, other, fitsToo, -, within, -⟩
  · simp [none] at fits
  · obtain rfl := Option.some.inj (fitsToo.symm.trans fits)
    exact within

end Config

end RosettaDaml
