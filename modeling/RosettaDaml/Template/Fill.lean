/-
This file puts arguments into the slots of a template.
-/

import RosettaDaml.Template.SlotText

namespace RosettaDaml.Template

open RosettaDaml.Data

-- Powers are those of the numbers themselves, whatever else is known of them.
attribute [local instance(2000)] instPowNat instNatPowNat

/-- The arguments of a template: some in a row, or one map with names for its values. -/
inductive Arguments where
  | row (values : List Value)
  | named (entries : List (Value × Value))

namespace Arguments

/-- One map that is not empty gives its values by their names. -/
def ofList : List Value → Arguments
  | [.map (entry :: rest)] => .named (entry :: rest)
  | values => .row values

/-- The values that wait to be taken. A map waits as a whole until a value is named. -/
def waiting : Arguments → List Value
  | .row values => values
  | .named entries => [.map entries]

end Arguments

def takeNext : List Value → Except TemplateFault (Value × List Value)
  | [] => .error .tooFewArguments
  | value :: rest => .ok (value, rest)

/-- The values that wait once the key of a slot is known. -/
def applyKey (arguments : Arguments) (waiting : List Value) :
    SlotKey → Except TemplateFault (List Value)
  | .next => .ok waiting
  | .unclosed =>
      match arguments with
      | .row _ => .error .noMapping
      | .named _ => .error .incompleteKey
  | .named key =>
      match arguments with
      | .row _ => .error .noMapping
      | .named entries =>
          match Value.find? key entries with
          | some value => .ok [value]
          | none => .error (.missingKey key)

/-- The largest count that a width or a precision may give. -/
structure ExtentBound where
  largest : Nat
  fault : TemplateFault

def widthBound : ExtentBound := ⟨2 ^ (63 : Nat) - 1, .widthTooBig⟩

def precisionBound : ExtentBound := ⟨2 ^ (31 : Nat) - 1, .precisionTooBig⟩

/-- The count for a slot, if it has any, and the values that wait then. -/
def applyExtent (bound : ExtentBound) (waiting : List Value) :
    Option Extent → Except TemplateFault (Option Int × List Value)
  | none => .ok (none, waiting)
  | some (.given count) =>
      if bound.largest < count then .error bound.fault else .ok (some count, waiting)
  | some .taken => do
      let (value, rest) ← takeNext waiting
      match value.integer? with
      | none => .error .extentNotInteger
      | some number =>
          if bound.largest < number ∨ number < -(bound.largest : Int) - 1 then .error .overflow
          else .ok (some number, rest)

/-- No text has more characters than this. -/
def roomLimit : Nat := 2 ^ (35 : Nat)

/-- The text of a slot, and the values that wait behind it. A width below zero aligns to the left,
and a precision below zero counts as zero. -/
def fillSlot (arguments : Arguments) (waiting : List Value) (slot : Slot) (index : Nat) :
    Except TemplateFault (List Char × List Value) := do
  let waiting ← applyKey arguments waiting slot.key
  let (width, waiting) ← applyExtent widthBound waiting slot.width
  let (precision, waiting) ← applyExtent precisionBound waiting slot.precision
  let some mark := slot.mark | .error .incomplete
  let (argument, waiting) ← takeNext waiting
  let text ← textFor slot.style (precision.map Int.toNat) mark index argument
  let width := width.getD 0
  let style :=
    { slot.style with leftAligned := slot.style.leftAligned || decide (width < 0) }
  if roomLimit < width.natAbs then .error .noRoom
  else .ok (text.fill style width.natAbs, waiting)

/-- The pieces with all slots filled. Values in a row must all be taken. -/
def fillPieces (arguments : Arguments) :
    List Value → List Piece → Except TemplateFault (List Char)
  | waiting, [] =>
      match arguments with
      | .row _ => if waiting.isEmpty then .ok [] else .error .tooManyArguments
      | .named _ => .ok []
  | waiting, .char char :: rest => (fillPieces arguments waiting rest).map (char :: ·)
  | waiting, .slot slot index :: rest => do
      let (text, waiting) ← fillSlot arguments waiting slot index
      let behind ← fillPieces arguments waiting rest
      return text ++ behind

/-- Without arguments a template stays as it is. -/
def fill (template : String) (values : List Value) : Except TemplateFault String :=
  if values.isEmpty then .ok template
  else
    let arguments := Arguments.ofList values
    (fillPieces arguments arguments.waiting (read template)).map String.ofList

end RosettaDaml.Template
