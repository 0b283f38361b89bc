/-
This file reads numbers from their decimal text.
-/

import RosettaDaml.Numeric.Binary64
import RosettaDaml.Text.Integer

namespace RosettaDaml.Numeric

open RosettaDaml.Text

def isPlainDigit (char : Char) : Bool := '0' ≤ char && char ≤ '9'

def plainDigits (chars : List Char) : Nat :=
  natOfDigits 10 (chars.map fun char => char.toNat - '0'.toNat)

/-- An exponent with an optional sign, at least one digit, and nothing behind it. -/
def scanExponent? (chars : List Char) : Option Int :=
  let (negative, digits) := splitSign chars
  if digits.isEmpty || !digits.all isPlainDigit then none
  else some (signed negative (plainDigits digits))

/-- Digits with at most one point among them and an optional exponent: the digits as one number
and the power of ten it is multiplied by. -/
def scanDecimal? (chars : List Char) : Option (Nat × Int) :=
  let (whole, rest) := chars.span isPlainDigit
  let (fraction, rest) :=
    match rest with
    | '.' :: more => more.span isPlainDigit
    | _ => ([], rest)
  let digits := whole ++ fraction
  if digits.isEmpty then none
  else
    let exponent :=
      match rest with
      | [] => some 0
      | mark :: more => if mark == 'e' || mark == 'E' then scanExponent? more else none
    exponent.map fun exponent => (plainDigits digits, exponent - fraction.length)

/-- A decimal with an optional sign. -/
def decimal? (chars : List Char) : Option Binary64 :=
  let (negative, rest) := splitSign chars
  (scanDecimal? rest).map fun (digits, exponent) => .ofDecimal negative digits exponent

/-- A decimal, or one of the words for infinity and for what is no number, in any case. -/
def realWord? (chars : List Char) : Option Binary64 :=
  let (negative, rest) := splitSign chars
  let lowered := String.ofList (rest.map Char.toLower)
  if lowered == "inf" || lowered == "infinity" then some (.infinite negative)
  else if lowered == "nan" then some .nan
  else decimal? chars

/-- The characters without the underscores, when each of these stands between two others. -/
def dropUnderscores? (chars : List Char) : Option (List Char) :=
  let pieces := splitChars (· == '_') chars
  if pieces.length < 2 || pieces.any List.isEmpty then none else some pieces.flatten

def looseReal? (text : String) : Option Binary64 :=
  match realWord? (trimChars isWhiteSpace text.toList) with
  | some number => some number
  | none => (dropUnderscores? text.toList).bind realWord?

/-- The whole part of a decimal whose fraction, if any, is made of zeros. -/
def wholePart? (chars : List Char) : Option (List Char) :=
  match chars.span (· != '.') with
  | (whole, []) => some whole
  | (whole, _ :: zeros) => if zeros.isEmpty || zeros.any (· != '0') then none else some whole

/-- Reads an integer in plain digits, without zeros in front and with an optional minus sign. Too
many digits are found before anything behind them is. -/
def strictInteger (chars : List Char) : Except IntegerFault Int :=
  let (negative, rest) := match chars with
    | '-' :: rest => (true, rest)
    | _ => (false, chars)
  if rest == ['0'] then .ok 0
  else if rest.headD '0' == '0' then .error .malformed
  else
    let (digits, behind) := rest.span isPlainDigit
    let length := digits.length + (if negative then 1 else 0)
    if digitLimit < length then .error (.tooLong length)
    else if digits.isEmpty || !behind.isEmpty then .error .malformed
    else .ok (signed negative (plainDigits digits))

/-- Whether an integer without zeros in front may begin with a character. -/
def startsInteger (char : Char) : Bool := ('1' ≤ char && char ≤ '9') || char == '-'

/-- What follows zeros and underscores. The last of them stands for the number where nothing
follows, and stays in front of a point. -/
def behindZeros? (last : Char) : List Char → Option (List Char)
  | [] => some [last]
  | char :: rest =>
      if char == '0' || char == '_' then behindZeros? char rest
      else if startsInteger char then some (char :: rest)
      else if char == '.' then some (last :: char :: rest)
      else none

/-- A text without the zeros in front. -/
def dropZeros? : List Char → Option (List Char)
  | [] => none
  | char :: rest =>
      if char == '0' then behindZeros? char rest
      else if startsInteger char then some (char :: rest)
      else none

/-- Digits without the zeros in front, without a fraction made of zeros, and without single
underscores between them. -/
def tidyDigits? (chars : List Char) : Option (List Char) := do
  let whole ← wholePart? (← dropZeros? chars)
  return (dropUnderscores? whole).getD whole

def tidyInteger? : List Char → Option (List Char)
  | '-' :: rest => (tidyDigits? rest).map ('-' :: ·)
  | '+' :: '-' :: _ => none
  | '+' :: rest => tidyDigits? rest
  | rest => tidyDigits? rest

/-- Reads an integer, which may need tidying up. -/
def looseInteger (text : String) : Except IntegerFault Int :=
  match strictInteger text.toList with
  | .error .malformed =>
      match (tidyInteger? (trimChars isWhiteSpace text.toList)).map strictInteger with
      | some (.ok number) => .ok number
      | _ => .error .malformed
  | result => result

end RosettaDaml.Numeric
