/-
This file follows the digits of numbers into the texts that show them.
-/

import RosettaDaml.Proofs.Text.Plain
import RosettaDaml.Text.Integer

namespace RosettaDaml.Text

/-- A number is written with digits. -/
theorem isDigit_of_mem_toString {number : Nat} {char : Char}
    (member : char ∈ (toString number).toList) : char.isDigit = true := by
  rw [Nat.toString_eq_ofList_toDigits, String.toList_ofList] at member
  exact Nat.isDigit_of_mem_toDigits (by decide) (by decide) member

/-- And with nothing else. -/
theorem not_mem_toString {char : Char} (other : char.isDigit = false) (number : Nat) :
    char ∉ (toString number).toList :=
  fun member => absurd (isDigit_of_mem_toString member) (by simp [other])

/-- An integer is written with digits and at most a sign. -/
theorem not_mem_toString_int {char : Char} (other : char.isDigit = false) (notSign : char ≠ '-')
    (number : Int) : char ∉ (toString number).toList := by
  cases number with
  | ofNat number => exact not_mem_toString other number
  | negSucc number =>
      change char ∉ ("-" ++ toString (number + 1)).toList
      have digits := not_mem_toString other (number + 1)
      simpa [notSign] using digits

/-- So it is written with characters. -/
theorem isPlain_toString (number : Nat) : IsPlain (toString number) :=
  .of_free (not_mem_toString (by decide) number)

/-- The commas stand between the characters that are there. -/
theorem filter_group {chars : List Char} (free : ',' ∉ chars) :
    (groupThousands.group chars).filter (· != ',') = chars := by
  have keep {char : Char} (other : ',' ≠ char) : (char != ',') = true := by simpa using other.symm
  fun_induction groupThousands.group chars with
  | case1 first second third fourth rest inductionHypothesis =>
      simp only [List.mem_cons, not_or] at free inductionHypothesis
      obtain ⟨firstFree, secondFree, thirdFree, others⟩ := free
      rw [List.filter_cons, if_pos (keep firstFree), List.filter_cons, if_pos (keep secondFree),
        List.filter_cons, if_pos (keep thirdFree), List.filter_cons, if_neg (by decide),
        inductionHypothesis others]
  | case2 rest =>
      exact List.filter_eq_self.2 fun char member => keep fun same => free (same ▸ member)

/-- Without its commas a grouped number is the number. -/
theorem filter_groupThousands (number : Nat) :
    (groupThousands number).toList.filter (· != ',') = (toString number).toList := by
  have free : ',' ∉ (toString number).toList.reverse := by
    rw [List.mem_reverse]
    exact not_mem_toString (by decide) number
  rw [groupThousands, String.toList_ofList, List.filter_reverse, filter_group free,
    List.reverse_reverse]

/-- A number can be read back from its digits. -/
theorem toString_injective : Function.Injective (toString : Nat → String) := by
  intro number other same
  rw [Nat.toString_eq_ofList_toDigits, Nat.toString_eq_ofList_toDigits] at same
  have read := congrArg (Nat.ofDigitChars 10 · 0) (String.ofList_injective same)
  simpa only [Nat.ofDigitChars_ten_toDigits] using read

/-- The sign of an integer can be told from its digits. -/
theorem toString_int_injective : Function.Injective (toString : Int → String) := by
  have signed (number other : Nat) : toString number ≠ "-" ++ toString other := by
    intro same
    have unsigned : '-' ∉ (toString number).toList := not_mem_toString (by decide) number
    exact unsigned (by simp [same])
  intro number other same
  cases number with
  | ofNat number =>
      cases other with
      | ofNat other => exact congrArg Int.ofNat (toString_injective same)
      | negSucc other => exact absurd same (signed number (other + 1))
  | negSucc number =>
      cases other with
      | ofNat other => exact absurd same.symm (signed other (number + 1))
      | negSucc other =>
          have digits := toString_injective ((String.append_right_inj "-").1 same)
          exact congrArg Int.negSucc (Nat.succ.inj digits)

/-- A number can be read back from its groups of digits. -/
theorem groupThousands_injective : Function.Injective groupThousands := by
  intro number other same
  have digits := filter_groupThousands number
  rw [same, filter_groupThousands] at digits
  exact toString_injective (String.toList_injective digits.symm)

/-- A grouped number holds digits and commas only. -/
theorem not_mem_groupThousands {char : Char} (other : char.isDigit = false) (notComma : char ≠ ',')
    (number : Nat) : char ∉ (groupThousands number).toList := by
  intro member
  have kept : char ∈ (groupThousands number).toList.filter (· != ',') :=
    List.mem_filter.2 ⟨member, by simpa using notComma⟩
  rw [filter_groupThousands] at kept
  exact not_mem_toString other number kept

end RosettaDaml.Text
