/-
This file writes types, as their multiplicity shapes them.
-/

import RosettaDaml.TypeModel.TypeExpr

namespace RosettaDaml

/-- The name that DAML gives to a primitive type. -/
def Primitive.daml : Primitive → String
  | .text => "Text"
  | .bool => "Bool"
  | .integer => "Int"
  | .decimal => "Decimal"
  | .time => "Time"
  | .date => "Date"
  | .unit => "Unit"
  | .party => "Party"

/-- A composite type stands in parentheses where it is the argument of a constructor. -/
inductive TypePosition where
  | alone
  | argument
  deriving DecidableEq, Repr

def TypePosition.wrap : TypePosition → String → String
  | .alone, text => text
  | .argument, text => s!"({text})"

def Multiplicity.shape (multiplicity : Multiplicity) (position : TypePosition) (text : String) :
    String :=
  if multiplicity.isMany then s!"[{text}]"
  else if multiplicity.isOptional then position.wrap ("Optional " ++ position.wrap text)
  else text

/-- Why a type has no text. -/
inductive TypeFault where
  /-- Enumerations and sums have names only. -/
  | anonymous (type : TypeExpr)
  | unknown (given : Data.Value)

def TypeFault.message : TypeFault → String
  | .anonymous (.enumeration _) => "Anonymous enum types not currently supported"
  | .anonymous _ => "Anonymous sum types not currently supported"
  | .unknown given => s!"Unknown type: {given.literal}"

namespace TypeExpr

mutual

/-- The text of a type that occurs exactly once. -/
def text : TypeExpr → Except TypeFault String
  | .primitive kind => .ok kind.daml
  | .nominal name => .ok name
  | .product members => do
      let texts ← memberTexts members
      return "(" ++ ", ".intercalate texts ++ ")"
  | .enumeration constructors => .error (.anonymous (.enumeration constructors))
  | .sum alternatives => .error (.anonymous (.sum alternatives))
  | .unknown given => .error (.unknown given)

def memberTexts : List (Member TypeExpr) → Except TypeFault (List String)
  | [] => .ok []
  | ⟨_, type, multiplicity, _, _⟩ :: rest => do
      let first ← text type
      let others ← memberTexts rest
      return multiplicity.shape .alone first :: others

end

def shapedText (type : TypeExpr) (multiplicity : Multiplicity) (position : TypePosition) :
    Except TypeFault String :=
  (text type).map (multiplicity.shape position)

end TypeExpr

end RosettaDaml
