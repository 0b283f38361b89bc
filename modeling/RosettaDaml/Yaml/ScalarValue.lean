/-
This file builds the values of scalars from their texts.
-/

import RosettaDaml.Data.Value
import RosettaDaml.Numeric.DecimalText
import RosettaDaml.Text.Base64
import RosettaDaml.Text.Case
import RosettaDaml.Yaml.Tag

namespace RosettaDaml.Yaml

open RosettaDaml.Data RosettaDaml.Numeric RosettaDaml.Text

abbrev Scalar := Except Failure Value

def withoutLines (text : String) : List Char := text.toList.filter (· != '_')

/-! Numbers. -/

/-- Digits of a base that is a power of two; the letters of the base may stand in front. -/
def digitsInBase? (base : Nat) (letter : Char) (chars : List Char) : Option Nat :=
  let digits := match chars with
    | '0' :: mark :: rest => if mark.toLower == letter then rest else chars
    | _ => chars
  let values := digits.filterMap fun char =>
    if isHexDigit char && hexNumber [char] < base then some (hexNumber [char]) else none
  if digits.isEmpty || values.length != digits.length then none
  else some (natOfDigits base values)

/-- Digits and blanks of any script count as the plain ones. -/
def integerInBase (base : Nat) (letter : Char) (chars : List Char) : Except Failure Int :=
  let (negative, digits) := splitSign (trimChars isWhiteSpace (chars.map plainForm))
  match digitsInBase? base letter digits with
  | some magnitude => .ok (signed negative magnitude)
  | none => .error (.value (.integerSyntax base (String.ofList chars)))

def decimalInteger (chars : List Char) : Except Failure Int :=
  match readInteger (String.ofList chars) with
  | .ok number => .ok number
  | .error .malformed => .error (.value (.integerSyntax 10 (String.ofList chars)))
  | .error (.tooLong count) => .error (.value (.integerDigits count))

/-- The digits of a number in base sixty, each a number of its own. -/
def inSixties {Digit : Type} (read : List Char → Except Failure Digit) (chars : List Char) :
    Except Failure (List Digit) :=
  (splitChars (· == ':') chars).mapM read

def sexagesimalInteger (chars : List Char) : Except Failure Int := do
  return (← inSixties decimalInteger chars).foldl (fun total digit => 60 * total + digit) 0

def magnitude (chars : List Char) : Except Failure Int :=
  match chars with
  | [] => .error (.value .emptyNumber)
  | ['0'] => .ok 0
  | '0' :: 'b' :: digits => integerInBase 2 'b' digits
  | '0' :: 'x' :: digits => integerInBase 16 'x' digits
  | '0' :: _ => integerInBase 8 'o' chars
  | _ => if chars.contains ':' then sexagesimalInteger chars else decimalInteger chars

def readInt (text : String) : Except Failure Int := do
  let chars := withoutLines text
  if chars.isEmpty then throw (.value .emptyNumber)
  let (negative, rest) := splitSign chars
  let number ← magnitude rest
  return if negative then -number else number

def real (chars : List Char) : Except Failure Binary64 :=
  match realWord? (trimChars isWhiteSpace (chars.map plainForm)) with
  | some number => .ok number
  | none => .error (.value (.realSyntax (String.ofList chars)))

/-- The sum of the digits in base sixty, from the last one on. -/
def sexagesimalReal (chars : List Char) : Except Failure Binary64 := do
  let digits := (← inSixties real chars).reverse
  return (← digits.foldlM
    (fun (total, unit) digit =>
      match Binary64.ofInt? unit with
      | some factor => .ok (total.add (digit.multiply factor), unit * 60)
      | none => .error (.value .realSize))
    (Binary64.positiveZero, (1 : Int))).1

/-- The small letters of a text for a floating-point number, without underscores. -/
def realChars (text : String) : List Char :=
  (lower (String.ofList (withoutLines text))).toList

/-- Whether a text is the word for what is no number. -/
def isNanWord (text : String) : Bool :=
  (splitSign (realChars text)).2 == ".nan".toList

def readReal (text : String) : Except Failure Binary64 := do
  let chars := realChars text
  if chars.isEmpty then throw (.value .emptyNumber)
  let (negative, rest) := splitSign chars
  match String.ofList rest with
  | ".inf" => return .infinite negative
  | ".nan" => return .nan
  | _ =>
      let number ← if rest.contains ':' then sexagesimalReal rest else real rest
      return if negative then number.negate else number

/-! Other scalars. -/

def readBoolean (text : String) : Scalar :=
  let word := lower text
  if ["yes", "true", "on"].contains word then .ok (.bool true)
  else if ["no", "false", "off"].contains word then .ok (.bool false)
  else .error (.value (.boolean word))

def readBytes (text : String) : Scalar :=
  match Base64.decode? text.toList with
  | some content =>
      if text.toList.all fun char => char.toNat < 0x80 then .ok (.bytes content)
      else .error .malformed
  | none => .error .malformed

def plainNumber (digits : List Char) : Nat := plainDigits digits

/-- The first six digits behind the point, filled up with zeros. -/
def microseconds (fraction : List Char) : Nat :=
  plainNumber ((fraction ++ List.replicate 6 '0').take 6)

def offsetMinutes (negative : Bool) (hours minutes : List Char) : Int :=
  signed negative (60 * plainNumber hours + plainNumber minutes)

def MomentParts.value (parts : MomentParts) : Except CalendarFault Value :=
  let year := plainNumber parts.year
  let month := plainNumber parts.month
  let day := plainNumber parts.day
  match parts.time with
  | none => (Date.make year month day).map .date
  | some time =>
      let offset := time.zone.map fun (negative, hours, minutes) =>
        offsetMinutes negative hours minutes
      (DateTime.make year month day (plainNumber time.hour) (plainNumber time.minute)
        (plainNumber time.second) (microseconds time.fraction) offset).map .dateTime

def readTimestamp (text : String) : Scalar :=
  match moment? (withoutLineEnd text.toList) with
  | none => .error (.value .timestamp)
  | some parts => parts.value.mapError fun fault => .value (.calendar fault)

/-- The value of a text under a tag for scalars. -/
def Tag.scalarValue (tag : Tag) (text : String) : Scalar :=
  match tag with
  | .null => .ok .null
  | .bool => readBoolean text
  | .int => (readInt text).map .int
  | .float => (readReal text).map .float
  | .text => .ok (.text text)
  | .binary => readBytes text
  | .timestamp => readTimestamp text
  | tag => .error (.undefinedTag tag.name)

end RosettaDaml.Yaml
