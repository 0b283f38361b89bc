/-
This file holds the types of members.
-/

import RosettaDaml.Data.Value
import RosettaDaml.TypeModel.Multiplicity

namespace RosettaDaml

/-- Where a member comes from: its first name and its declared type. -/
structure FieldOrigin where
  name : String
  typeName : Option String
  deriving DecidableEq, Repr

/-- A named and typed part of a declaration or of a product. The origin is never looked at. -/
structure Member (Expr : Type) where
  name : String
  type : Expr
  multiplicity : Multiplicity
  comment : Option String
  origin : Option FieldOrigin

/-- A constructor without a payload, with its first name as its origin. -/
structure Constructor where
  name : String
  comment : Option String
  origin : Option String
  deriving DecidableEq, Repr

/-- A nominal type names another declaration of the same module. -/
inductive TypeExpr where
  | primitive (kind : Primitive)
  | nominal (name : String)
  | product (members : List (Member TypeExpr))
  | enumeration (constructors : List Constructor)
  | sum (alternatives : List (Member TypeExpr))
  /-- A value that stands where a type should be. -/
  | unknown (given : Data.Value)
  deriving Inhabited

namespace TypeExpr

mutual

/-- The nominal names in a type, in order and with repeats. -/
def nominalNames : TypeExpr → List String
  | .primitive _ => []
  | .nominal name => [name]
  | .product members => membersNominalNames members
  | .enumeration _ => []
  | .sum alternatives => membersNominalNames alternatives
  | .unknown _ => []

def membersNominalNames : List (Member TypeExpr) → List String
  | [] => []
  | ⟨_, type, _, _, _⟩ :: rest => nominalNames type ++ membersNominalNames rest

end

mutual

/-- Whether only types stand in a type. -/
def isProper : TypeExpr → Bool
  | .primitive _ => true
  | .nominal _ => true
  | .product members => membersAreProper members
  | .enumeration _ => true
  | .sum alternatives => membersAreProper alternatives
  | .unknown _ => false

def membersAreProper : List (Member TypeExpr) → Bool
  | [] => true
  | ⟨_, type, _, _, _⟩ :: rest => isProper type && membersAreProper rest

end

end TypeExpr

def Constructor.withoutOrigin (constructor : Constructor) : Constructor :=
  { constructor with origin := none }

mutual

def TypeExpr.withoutOrigins : TypeExpr → TypeExpr
  | .primitive kind => .primitive kind
  | .nominal name => .nominal name
  | .product members => .product (TypeExpr.membersWithoutOrigins members)
  | .enumeration constructors => .enumeration (constructors.map Constructor.withoutOrigin)
  | .sum alternatives => .sum (TypeExpr.membersWithoutOrigins alternatives)
  | .unknown given => .unknown given

def TypeExpr.membersWithoutOrigins : List (Member TypeExpr) → List (Member TypeExpr)
  | [] => []
  | ⟨name, type, multiplicity, comment, _⟩ :: rest =>
      ⟨name, type.withoutOrigins, multiplicity, comment, none⟩ ::
        TypeExpr.membersWithoutOrigins rest

end

def Member.withoutOrigins (member : Member TypeExpr) : Member TypeExpr :=
  ⟨member.name, member.type.withoutOrigins, member.multiplicity, member.comment, none⟩

theorem TypeExpr.membersWithoutOrigins_eq_map (members : List (Member TypeExpr)) :
    TypeExpr.membersWithoutOrigins members = members.map Member.withoutOrigins := by
  induction members with
  | nil => rfl
  | cons member rest inductionHypothesis =>
      simp [TypeExpr.membersWithoutOrigins, Member.withoutOrigins, inductionHypothesis]

theorem TypeExpr.membersNominalNames_eq_flatMap (members : List (Member TypeExpr)) :
    TypeExpr.membersNominalNames members =
      members.flatMap fun member => member.type.nominalNames := by
  induction members with
  | nil => rfl
  | cons member rest inductionHypothesis =>
      simp [TypeExpr.membersNominalNames, inductionHypothesis]

end RosettaDaml
