/-
This file says which runs of digits are read as integers and which numbers they stand for.
-/

import Mathlib.Data.List.Forall2
import Mathlib.Data.List.TakeDrop
import Mathlib.Data.List.TakeWhile
import Mathlib.Data.Nat.Digits.Defs
import RosettaDaml.Proofs.Text.Number

namespace RosettaDaml.Text

/-- The values of digits, one by one. -/
abbrev HaveValues (chars : List Char) (values : List Nat) : Prop :=
  List.Forall₂ (fun char value => digitValue? char = some value) chars values

/-- The decimal digits of a number, in any script and with any zeros in front, where they are few
enough to be read. -/
structure IsNumeral (chars : List Char) (number : Nat) : Prop where
  inhabited : chars ≠ []
  short : chars.length ≤ digitLimit
  denotes : ∃ values, HaveValues chars values ∧ Nat.ofDigits 10 values.reverse = number

/-- A digit stands less than ten places behind the zero of its script. -/
theorem exists_zero_of_isDigit {char : Char} (digit : isDigit char = true) :
    ∃ first ∈ digitZeros, first ≤ char.toNat ∧ char.toNat < first + 10 := by
  rw [isDigit, digitValue?, Option.isSome_map, List.find?_isSome] at digit
  simpa using digit

/-- The plain digits come first; those of other scripts stand behind the plain letters and apart
from the blanks. -/
theorem digitZeros_apart : ∀ first ∈ digitZeros, first = 0x30 ∨
    0x660 ≤ first ∧ (first + 10 ≤ 0x1680 ∨ 0x1680 < first) ∧
      (first + 10 ≤ 0x2000 ∨ 0x3000 < first) := by
  decide

/-- No digit is blank. -/
theorem isBlank_of_isDigit {char : Char} (digit : isDigit char = true) : isBlank char = false := by
  obtain ⟨first, known, least, most⟩ := exists_zero_of_isDigit digit
  have apart := digitZeros_apart first known
  rw [← Bool.not_eq_true]
  simp only [isBlank, Bool.or_eq_true, Bool.and_eq_true, decide_eq_true_eq, beq_iff_eq]
  omega

/-- No blank is a digit. -/
theorem isDigit_of_isBlank {char : Char} (blank : isBlank char = true) : isDigit char = false := by
  by_contra digit
  rw [Bool.not_eq_false] at digit
  simp [isBlank_of_isDigit digit] at blank

/-- In front of the other scripts only the plain digits are digits. -/
theorem isDigit_eq_false {char : Char}
    (apart : char.toNat < 0x30 ∨ (0x3A ≤ char.toNat ∧ char.toNat < 0x660)) :
    isDigit char = false := by
  by_contra digit
  rw [Bool.not_eq_false] at digit
  obtain ⟨first, known, least, most⟩ := exists_zero_of_isDigit digit
  have zeros := digitZeros_apart first known
  omega

/-- A digit has no other case. -/
theorem toLower_of_isDigit {char : Char} (digit : isDigit char = true) : char.toLower = char := by
  obtain ⟨first, known, least, most⟩ := exists_zero_of_isDigit digit
  have apart := digitZeros_apart first known
  -- Only plain capital letters are changed.
  refine dif_neg ?_
  rintro ⟨notBelow, notAbove⟩
  have afterA : 0x41 ≤ char.toNat := notBelow
  have beforeZ : char.toNat ≤ 0x5A := notAbove
  omega

/-- A digit is none of the characters that are no digits. -/
theorem ne_of_isDigit {char other : Char} (digit : isDigit char = true)
    (apart : isDigit other = false) : char ≠ other := by
  rintro rfl
  simp [digit] at apart

/-- Characters that have values are digits. -/
theorem HaveValues.isDigit {chars : List Char} {values : List Nat}
    (have_values : HaveValues chars values) : ∀ char ∈ chars, isDigit char = true := by
  induction have_values with
  | nil => simp
  | cons here _ inductionHypothesis =>
      exact List.forall_mem_cons.2 ⟨by simp [Text.isDigit, here], inductionHypothesis⟩

/-- A digit has one value. -/
theorem HaveValues.unique {chars : List Char} {values others : List Nat}
    (known : HaveValues chars values) (knownToo : HaveValues chars others) : values = others :=
  List.right_unique_forall₂' (fun _ _ _ first second => Option.some.inj (first.symm.trans second))
    known knownToo

/-- All digits have values. -/
theorem exists_haveValues {chars : List Char} (digits : ∀ char ∈ chars, isDigit char = true) :
    ∃ values, HaveValues chars values := by
  induction chars with
  | nil => exact ⟨[], .nil⟩
  | cons char rest inductionHypothesis =>
      obtain ⟨here, behind⟩ := List.forall_mem_cons.1 digits
      obtain ⟨value, first⟩ := Option.isSome_iff_exists.1 here
      obtain ⟨values, others⟩ := inductionHypothesis behind
      exact ⟨value :: values, .cons first others⟩

/-- A run of digits is read digit by digit. -/
theorem digitRun?_eq_some {chars : List Char} (inhabited : chars ≠ []) {values : List Nat}
    (known : HaveValues chars values) : digitRun? chars = some values := by
  induction known with
  | nil => exact absurd rfl inhabited
  | @cons char value rest values here behind inductionHypothesis =>
      cases behind with
      | nil => simp [digitRun?, here]
      | @cons next other more others second behind =>
          have notUnderscore : next ≠ '_' :=
            ne_of_isDigit (by simp [isDigit, second]) (isDigit_eq_false (by decide))
          have others := inductionHypothesis (List.cons_ne_nil next more)
          simp [digitRun?.eq_def (char :: next :: more), here, others, notUnderscore]

/-- The number of some digits is the one that the library gives them. -/
theorem natOfDigits_eq_ofDigits (base : Nat) (values : List Nat) :
    natOfDigits base values = Nat.ofDigits base values.reverse := by
  rw [natOfDigits, Nat.ofDigits_eq_foldr, List.foldr_reverse]
  simp [add_comm]

/-- Nothing is trimmed from a text without blanks. -/
theorem trimChars_eq_self {blank : Char → Bool} {chars : List Char}
    (solid : ∀ char ∈ chars, blank char = false) : trimChars blank chars = chars := by
  have keep {rest : List Char} (solid : ∀ char ∈ rest, blank char = false) :
      rest.dropWhile blank = rest := by
    cases rest with
    | nil => rfl
    | cons char rest => exact List.dropWhile_cons_of_neg (by simp [solid char List.mem_cons_self])
  rw [trimChars, keep solid, keep (by simpa using solid), List.reverse_reverse]

section Digits

variable {chars : List Char} (digits : ∀ char ∈ chars, isDigit char = true)

include digits

/-- Digits have no sign. -/
theorem splitSign_of_isDigit : splitSign chars = (false, chars) := by
  cases chars with
  | nil => rfl
  | cons char rest =>
      have digit := digits char List.mem_cons_self
      have notMinus : char ≠ '-' := ne_of_isDigit digit (isDigit_eq_false (by decide))
      have notPlus : char ≠ '+' := ne_of_isDigit digit (isDigit_eq_false (by decide))
      rw [splitSign.eq_def]
      split <;> simp_all

/-- A run of digits is read as the number that they stand for, if they are few enough. -/
theorem readInteger_of_isDigit (inhabited : chars ≠ []) {values : List Nat}
    (known : HaveValues chars values) :
    readInteger (String.ofList chars) =
      if digitLimit < chars.length then .error (.tooLong chars.length)
      else .ok (Nat.ofDigits 10 values.reverse : Nat) := by
  have trimmed : trimChars isWhiteSpace (String.ofList chars).toList = chars := by
    rw [String.toList_ofList]
    refine trimChars_eq_self fun char member => ?_
    rw [isWhiteSpace, isBlank_of_isDigit (digits char member), Bool.false_and]
  have run : ∀ char ∈ chars, (isDigit char || char == '_') = true := by
    intro char member
    rw [digits char member, Bool.true_or]
  rw [readInteger, trimmed, splitSign_of_isDigit digits]
  simp only [List.span_eq_takeWhile_dropWhile, List.takeWhile_eq_self_iff.2 run,
    List.dropWhile_eq_nil_iff.2 run, digitRun?_eq_some inhabited known, natOfDigits_eq_ofDigits]
  rw [known.length_eq]
  rfl

/-- Digits are read as the number that they are a numeral of. -/
theorem readInteger_eq_ok_iff (inhabited : chars ≠ []) {bound : Int} :
    readInteger (String.ofList chars) = .ok bound ↔
      ∃ number : Nat, IsNumeral chars number ∧ bound = number := by
  obtain ⟨values, known⟩ := exists_haveValues digits
  rw [readInteger_of_isDigit digits inhabited known]
  constructor
  · intro read
    split at read
    case isTrue => cases read
    case isFalse short =>
      exact ⟨_, ⟨inhabited, not_lt.1 short, values, known, rfl⟩, (Except.ok.inj read).symm⟩
  · rintro ⟨number, ⟨-, short, others, knownToo, rfl⟩, rfl⟩
    rw [if_neg (not_lt.2 short), known.unique knownToo]

end Digits

/-- A numeral is made of digits. -/
theorem IsNumeral.isDigit {chars : List Char} {number : Nat} (numeral : IsNumeral chars number) :
    ∀ char ∈ chars, isDigit char = true := by
  obtain ⟨values, known, -⟩ := numeral.denotes
  exact known.isDigit

/-- And it has at least one. -/
theorem IsNumeral.exists_head? {chars : List Char} {number : Nat}
    (numeral : IsNumeral chars number) :
    ∃ first, chars.head? = some first ∧ Text.isDigit first = true := by
  obtain ⟨first, others, rfl⟩ := List.exists_cons_of_ne_nil numeral.inhabited
  exact ⟨first, rfl, numeral.isDigit first List.mem_cons_self⟩

/-- A plain digit stands for its distance from zero. -/
theorem digitValue?_of_isDigit {char : Char} (plain : char.isDigit = true) :
    digitValue? char = some (char.toNat - '0'.toNat) := by
  rw [Char.isDigit, Bool.and_eq_true, decide_eq_true_eq, decide_eq_true_eq] at plain
  have least : 0x30 ≤ char.toNat := plain.1
  have greatest : char.toNat ≤ 0x39 := plain.2
  rw [digitValue?, digitZeros, List.find?_cons_of_pos]
  · rfl
  · simp only [Bool.and_eq_true, decide_eq_true_eq]
    omega

/-- A number that is short enough to be written is read back from its text. -/
theorem isNumeral_toString {number : Nat} (short : isWritable number = true) :
    IsNumeral (toString number).toList number := by
  rw [Nat.toString_eq_ofList_toDigits, String.toList_ofList]
  refine ⟨Nat.toDigits_ne_nil, ?_, ?_⟩
  · rw [Nat.length_toDigits_le_iff (by decide) (by decide)]
    simpa [isWritable] using short
  · refine ⟨(Nat.toDigits 10 number).map fun char => char.toNat - '0'.toNat, ?_, ?_⟩
    · rw [HaveValues, List.forall₂_map_right_iff, List.forall₂_same]
      intro char member
      exact digitValue?_of_isDigit (Nat.isDigit_of_mem_toDigits (by decide) (by decide) member)
    · rw [← natOfDigits_eq_ofDigits, natOfDigits, List.foldl_map, ← Nat.ofDigitChars_eq_foldl,
        Nat.ofDigitChars_ten_toDigits]

end RosettaDaml.Text
