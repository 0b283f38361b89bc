/-
This file holds the declarations and imports of a module.
-/

import RosettaDaml.TypeModel.Equality

namespace RosettaDaml

inductive Import where
  | plain (moduleName : String)
  | qualified (moduleName shortName : String)
  deriving DecidableEq, Repr

/-- Every declaration has a name and may have a comment; the body says what it declares. -/
inductive Body where
  | enumeration (constructors : List Constructor)
  | record (fields : List (Member TypeExpr))
  | variant (alternatives : List (Member TypeExpr))
  | synonym (type : TypeExpr)
  | template (fields : List (Member TypeExpr)) (signatory : String)

structure Declaration where
  name : String
  comment : Option String
  body : Body

structure Module where
  name : String
  imports : List Import
  declarations : List Declaration
  comment : Option String

namespace Declaration

/-- The fields of records and templates and the alternatives of variants. -/
def members (declaration : Declaration) : List (Member TypeExpr) :=
  match declaration.body with
  | .record fields => fields
  | .variant alternatives => alternatives
  | .template fields _ => fields
  | _ => []

/-- Whether there is nothing to choose from. -/
def isEmptyVariant (declaration : Declaration) : Bool :=
  match declaration.body with
  | .enumeration constructors => constructors.isEmpty
  | .variant alternatives => alternatives.isEmpty
  | _ => false

end Declaration

namespace Body

def withoutOrigins : Body → Body
  | .enumeration constructors => .enumeration (constructors.map Constructor.withoutOrigin)
  | .record fields => .record (fields.map Member.withoutOrigins)
  | .variant alternatives => .variant (alternatives.map Member.withoutOrigins)
  | .synonym type => .synonym type.withoutOrigins
  | .template fields signatory => .template (fields.map Member.withoutOrigins) signatory

def same : Body → Body → Bool
  | .enumeration lefts, .enumeration rights => sameConstructors lefts rights
  | .record lefts, .record rights => TypeExpr.sameMembers lefts rights
  | .variant lefts, .variant rights => TypeExpr.sameMembers lefts rights
  | .synonym left, .synonym right => left.same right
  | .template lefts left, .template rights right =>
      TypeExpr.sameMembers lefts rights && left == right
  | _, _ => false

/-- Whether only types stand in a body where types should be. -/
def isProper : Body → Bool
  | .enumeration _ => true
  | .record fields => TypeExpr.membersAreProper fields
  | .variant alternatives => TypeExpr.membersAreProper alternatives
  | .synonym type => type.isProper
  | .template fields _ => TypeExpr.membersAreProper fields

theorem same_iff (left right : Body) (proper : left.isProper) :
    left.same right = true ↔ left.withoutOrigins = right.withoutOrigins := by
  cases left <;> cases right <;>
    simp_all [same, withoutOrigins, isProper, sameConstructors_iff, TypeExpr.sameMembers_iff,
      TypeExpr.membersWithoutOrigins_eq_map, TypeExpr.same_iff]

end Body

namespace Declaration

def withoutOrigins (declaration : Declaration) : Declaration :=
  { declaration with body := declaration.body.withoutOrigins }

def same (left right : Declaration) : Bool :=
  left.name == right.name && left.comment == right.comment && left.body.same right.body

theorem same_iff (left right : Declaration) (proper : left.body.isProper) :
    left.same right = true ↔ left.withoutOrigins = right.withoutOrigins := by
  simp [same, withoutOrigins, Body.same_iff _ _ proper, and_assoc]

end Declaration

namespace Module

def declarationNames (model : Module) : List String :=
  model.declarations.map Declaration.name

/-- The first declaration of a name. -/
def find? (model : Module) (name : String) : Option Declaration :=
  model.declarations.find? fun declaration => declaration.name == name

def withoutOrigins (model : Module) : Module :=
  { model with declarations := model.declarations.map Declaration.withoutOrigins }

def sameDeclarations : List Declaration → List Declaration → Bool
  | [], [] => true
  | left :: lefts, right :: rights => left.same right && sameDeclarations lefts rights
  | _, _ => false

def same (left right : Module) : Bool :=
  left.name == right.name && left.imports == right.imports &&
    sameDeclarations left.declarations right.declarations && left.comment == right.comment

def isProper (model : Module) : Bool :=
  model.declarations.all fun declaration => declaration.body.isProper

theorem sameDeclarations_iff (lefts rights : List Declaration)
    (proper : ∀ declaration ∈ lefts, declaration.body.isProper) :
    sameDeclarations lefts rights = true ↔
      lefts.map Declaration.withoutOrigins = rights.map Declaration.withoutOrigins := by
  induction lefts generalizing rights with
  | nil => cases rights <;> simp [sameDeclarations]
  | cons left lefts inductionHypothesis =>
      have others := fun declaration member => proper declaration (List.mem_cons_of_mem left member)
      cases rights <;> simp [sameDeclarations, Declaration.same_iff _ _ (proper left (by simp)),
        inductionHypothesis _ others]

theorem same_iff (left right : Module) (proper : left.isProper) :
    left.same right = true ↔ left.withoutOrigins = right.withoutOrigins := by
  simp only [isProper, List.all_eq_true] at proper
  simp [same, withoutOrigins, sameDeclarations_iff _ _ proper, and_assoc]

end Module

end RosettaDaml
