/-
This file checks the names and references of a module.
-/

import RosettaDaml.Consistency.Report
import RosettaDaml.Naming
import RosettaDaml.TypeModel.Module

namespace RosettaDaml

open RosettaDaml.Data

/-- What a check finds, before it is put into words. -/
inductive Finding where
  | unresolved (name path : String)
  | repeatedDeclaration (name : String) (count : Nat)
  | repeatedMember (owner part name : String) (count : Nat)
  | keyword (name path : String)
  | emptyVariant (name : String)
  deriving DecidableEq, Repr

def Finding.issue : Finding → Issue
  | .unresolved name path =>
      ⟨"E001", s!"Type '{name}' is referenced but not declared", .error, some path,
        some s!"Declare '{name}' in the schema or map it to a primitive",
        [("referenced_type", .text name)]⟩
  | .repeatedDeclaration name count =>
      ⟨"E101", s!"Declaration '{name}' is defined {count} times", .error, some name,
        some "Check the schema for classes or enums renamed to the same name",
        [("count", .int count)]⟩
  | .repeatedMember owner part name count =>
      ⟨"E102", s!"'{name}' appears {count} times in '{owner}'", .error,
        some s!"{owner}.{part}.{name}",
        some "A declaration may redeclare a member of one of its bases", []⟩
  | .keyword name path =>
      ⟨"W005", s!"'{name}' is a DAML keyword", .warning, some path,
        some "Add the name to the rename tables", []⟩
  | .emptyVariant name =>
      ⟨"W006", s!"'{name}' has no constructors, a placeholder is emitted", .warning, some name,
        none, []⟩

/-- The names that occur more than once, each with its count, in the order of their first
occurrence. -/
def repeated (names : List String) : List (String × Nat) :=
  (names.eraseDups.map fun name => (name, names.count name)).filter fun (_, count) => 1 < count

inductive Check where
  | references
  | declarationNames
  | memberNames
  | keywords
  | emptyVariants
  deriving DecidableEq, Repr

namespace Declaration

def memberPath (declaration : Declaration) (member : Member TypeExpr) : String :=
  s!"{declaration.name}.fields.{member.name}"

/-- The nominal names of a declaration with the places where they stand. -/
def references (declaration : Declaration) : List (String × String) :=
  declaration.members.flatMap (fun member =>
    member.type.nominalNames.map fun name => (name, declaration.memberPath member)) ++
  match declaration.body with
  | .synonym type => type.nominalNames.map fun name => (name, s!"{declaration.name}.base_type")
  | _ => []

/-- The word for the parts of a declaration and their names. -/
def partNames (declaration : Declaration) : String × List String :=
  match declaration.body with
  | .enumeration constructors => ("constructors", constructors.map Constructor.name)
  | _ => ("fields", declaration.members.map Member.name)

def unresolvedReferences (declared : List String) (declaration : Declaration) : List Finding :=
  (declaration.references.filter fun (name, _) => !declared.contains name).map
    fun (name, path) => .unresolved name path

def repeatedMembers (declaration : Declaration) : List Finding :=
  let (part, names) := declaration.partNames
  (repeated names).map fun (name, count) => .repeatedMember declaration.name part name count

def keywordNames (declaration : Declaration) : List Finding :=
  (if isKeyword declaration.name then [.keyword declaration.name declaration.name] else []) ++
  (declaration.members.filter fun member => isKeyword member.name).map
    fun member => .keyword member.name (declaration.memberPath member)

end Declaration

def Check.findings (model : Module) : Check → List Finding
  | .references =>
      model.declarations.flatMap (Declaration.unresolvedReferences model.declarationNames)
  | .declarationNames =>
      (repeated model.declarationNames).map fun (name, count) => .repeatedDeclaration name count
  | .memberNames => model.declarations.flatMap Declaration.repeatedMembers
  | .keywords => model.declarations.flatMap Declaration.keywordNames
  | .emptyVariants =>
      (model.declarations.filter Declaration.isEmptyVariant).map
        fun declaration => .emptyVariant declaration.name

def Check.all : List Check :=
  [.references, .declarationNames, .memberNames, .keywords, .emptyVariants]

namespace Module

def report (model : Module) (checks : List Check) : Report :=
  ⟨(checks.flatMap (Check.findings model)).map Finding.issue⟩

/-- The report of all checks. -/
def validate (model : Module) : Report := model.report Check.all

def validateStrictly (model : Module) (strict : Bool) : Except Report Report :=
  if model.validate.isAccepted strict then .ok model.validate else .error model.validate

end Module

end RosettaDaml
