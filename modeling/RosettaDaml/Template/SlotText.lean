/-
This file writes an argument in a slot.
-/

import RosettaDaml.Data.Value
import RosettaDaml.Numeric.Places
import RosettaDaml.Template.Fault
import RosettaDaml.Template.Slot
import RosettaDaml.Text.Case

namespace RosettaDaml.Template

open RosettaDaml.Data RosettaDaml.Numeric

/-- The parts of a text. Zeros may stand between the base of a number and its digits. -/
structure SlotText where
  sign : List Char
  base : List Char
  body : List Char
  isNumber : Bool
  deriving DecidableEq, Repr

namespace SlotText

def plain (body : List Char) : SlotText := ⟨[], [], body, false⟩

def front (text : SlotText) : List Char := text.sign ++ text.base

/-- A text takes at least the given width. -/
def fill (style : SlotStyle) (width : Nat) (text : SlotText) : List Char :=
  let missing := width - (Text.size text.front + Text.size text.body)
  if style.leftAligned then
    text.front ++ text.body ++ List.replicate missing ' '
  else if style.zeroFilled && text.isNumber then
    text.front ++ List.replicate missing '0' ++ text.body
  else List.replicate missing ' ' ++ text.front ++ text.body

end SlotText

def signOf (style : SlotStyle) (negative : Bool) : List Char :=
  if negative then ['-']
  else if style.plusSign then ['+']
  else if style.blankSign then [' ']
  else []

def upperCase (chars : List Char) : List Char := chars.map Char.toUpper

/-- The precision of an integer is the least count of its digits. -/
def integerText (style : SlotStyle) (precision : Nat) (base : List Char) (radix : Nat)
    (number : Int) : SlotText :=
  let digits := Nat.toDigits radix number.natAbs
  ⟨signOf style (number < 0), if style.alternate then base else [],
    List.replicate (precision - digits.length) '0' ++ digits, true⟩

/-- The integer part of a number. -/
def truncated (mark : Text.Place) : Value → Except TemplateFault Int
  | .float .nan => .error .notANumber
  | .float number =>
      match number.truncate? with
      | some whole => .ok whole
      | none => .error .overflow
  | value =>
      match value.integer? with
      | some number => .ok number
      | none => .error (.notReal mark value.kindName)

def integerArgument (mark : Text.Place) (value : Value) : Except TemplateFault Int :=
  match value.integer? with
  | some number => .ok number
  | none => .error (.notInteger mark value.kindName)

def realArgument : Value → Except TemplateFault Binary64
  | .float number => .ok number
  | value =>
      match value.integer? with
      | none => .error (.notFloat value.kindName)
      | some number =>
          match Binary64.ofInt? number with
          | some number => .ok number
          | none => .error .overflow

def realText (style : SlotStyle) (precision : Option Nat) (rule : PlacesRule)
    (number : Binary64) : SlotText :=
  ⟨signOf style number.isNegative, [],
    number.writePlaces ⟨rule, precision.getD 6, style.alternate⟩, true⟩

/-- A place is given by itself or by its code. -/
def placeArgument : Value → Except TemplateFault Text.Place
  | .text content =>
      match Text.places content.toList with
      | [place] => .ok place
      | _ => .error .notChar
  | value =>
      match value.integer? with
      | none => .error .notChar
      | some code =>
          if 0 ≤ code ∧ code < 0x110000 then .ok (.ofCode code.toNat) else .error .overflow

def cut (precision : Option Nat) (text : String) : SlotText :=
  .plain (match precision with
    | none => text.toList
    | some count => Text.takePlaces count text.toList)

/-- The text of an argument for a mark, which stands at an index of the template. -/
def textFor (style : SlotStyle) (precision : Option Nat) (mark : Text.Place) (index : Nat)
    (argument : Value) : Except TemplateFault SlotText :=
  let digits := precision.getD 0
  match mark with
  | .plain 's' => .ok (cut precision argument.display)
  | .plain 'r' => .ok (cut precision argument.literal)
  | .plain 'a' => .ok (cut precision (Text.spellForeign argument.literal))
  | .plain 'c' => (placeArgument argument).map fun place => .plain place.chars
  | .plain 'd' => (truncated mark argument).map (integerText style digits [] 10)
  | .plain 'i' => (truncated mark argument).map (integerText style digits [] 10)
  | .plain 'u' => (truncated mark argument).map (integerText style digits [] 10)
  | .plain 'o' => (integerArgument mark argument).map (integerText style digits ['0', 'o'] 8)
  | .plain 'x' => (integerArgument mark argument).map (integerText style digits ['0', 'x'] 16)
  | .plain 'X' =>
      (integerArgument mark argument).map fun number =>
        let text := integerText style digits ['0', 'X'] 16 number
        { text with body := upperCase text.body }
  | .plain 'e' => (realArgument argument).map (realText style precision .scientific)
  | .plain 'f' => (realArgument argument).map (realText style precision .fixed)
  | .plain 'g' => (realArgument argument).map (realText style precision .general)
  | .plain 'E' => (realArgument argument).map (upperReal .scientific)
  | .plain 'F' => (realArgument argument).map (upperReal .fixed)
  | .plain 'G' => (realArgument argument).map (upperReal .general)
  | _ => .error (.unknownMark mark index)
where
  upperReal (rule : PlacesRule) (number : Binary64) : SlotText :=
    let text := realText style precision rule number
    { text with body := upperCase text.body }

end RosettaDaml.Template
