/-
This file holds the kinds of primitive types and how often a member may occur.
-/

namespace RosettaDaml

inductive Primitive where
  | text
  | bool
  | integer
  | decimal
  | time
  | date
  | unit
  | party
  deriving DecidableEq, Repr

namespace Primitive

def all : List Primitive := [.text, .bool, .integer, .decimal, .time, .date, .unit, .party]

def name : Primitive → String
  | .text => "text"
  | .bool => "bool"
  | .integer => "integer"
  | .decimal => "decimal"
  | .time => "time"
  | .date => "date"
  | .unit => "unit"
  | .party => "party"

def ofName? (given : String) : Option Primitive := all.find? fun kind => kind.name == given

end Primitive

inductive LowerBound where
  | zero
  | one
  deriving DecidableEq, Repr

inductive UpperBound where
  | toOne
  | toMany
  deriving DecidableEq, Repr

structure Multiplicity where
  lower : LowerBound
  upper : UpperBound
  deriving DecidableEq, Repr

namespace Multiplicity

def exactlyOne : Multiplicity := ⟨.one, .toOne⟩

def isRequired (multiplicity : Multiplicity) : Bool := multiplicity == ⟨.one, .toOne⟩

def isOptional (multiplicity : Multiplicity) : Bool := multiplicity == ⟨.zero, .toOne⟩

/-- The lower bound does not matter once a member may repeat. -/
def isMany (multiplicity : Multiplicity) : Bool := multiplicity.upper == .toMany

end Multiplicity

end RosettaDaml
