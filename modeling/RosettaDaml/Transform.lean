/-
This file turns a schema into a type model.
-/

import RosettaDaml.Inheritance.Lineage
import RosettaDaml.Inheritance.Synthetic
import RosettaDaml.Naming
import RosettaDaml.TypeModel.Module

namespace RosettaDaml

def primitiveNames : List (String × Primitive) :=
  [("int", .integer), ("number", .decimal), ("boolean", .bool), ("string", .text),
   ("date", .date), ("time", .text), ("dateTime", .time), ("zonedDateTime", .time),
   ("calculation", .text), ("eventType", .text), ("productType", .text),
   (partyTypeName, .party)]

/-- A missing type is text; a name that is not a primitive one refers to a declaration. -/
def TypeExpr.ofName : Option String → TypeExpr
  | none => .primitive .text
  | some name =>
      match primitiveNames.lookup name with
      | some kind => .primitive kind
      | none => .nominal (renameType name)

/-- Only an upper bound of exactly one keeps a member from repeating. -/
def Cardinality.multiplicity (cardinality : Cardinality) : Multiplicity :=
  ⟨if cardinality.lower = 0 then .zero else .one,
    if cardinality.upper = some 1 then .toOne else .toMany⟩

/-- The tags of fields that hold identifiers. -/
def textTags : List String := [keyTag, keyValueTag, referenceTag]

def ClassField.isText (field : ClassField) : Bool :=
  textTags.any field.tags.contains

def ClassField.toMember (field : ClassField) : Member TypeExpr where
  name := renameField field.name
  type := if field.isText then .primitive .text else .ofName field.type
  multiplicity := field.card.multiplicity
  comment := field.annotation
  origin := some ⟨field.name, field.type⟩

def EnumValue.toConstructor (value : EnumValue) : Constructor where
  name := value.name
  comment := value.annotation
  origin := some value.name

namespace Decl

/-- Whether a later declaration takes the place of an earlier one. -/
def supersedes : Decl → Decl → Bool
  | .classDecl later, .classDecl earlier => later.name == earlier.name
  | .enumDecl later, .enumDecl earlier => later.name == earlier.name
  | _, _ => false

/-- The classes and enums that no later declaration takes the place of. Every place of a schema holds
a declaration of its own: of two equal ones the later takes the place of the earlier. -/
def kept : List Decl → List Decl
  | [] => []
  | .otherDecl _ :: rest => kept rest
  | decl :: rest => if rest.any (supersedes · decl) then kept rest else decl :: kept rest

end Decl

namespace Index

/-- The fields of a class with those of its ancestors and the synthetic one, without those that
may never be there. -/
def recordFields (index : Index) (decl : ClassDecl) : List ClassField :=
  ((index.classes.flatten decl).withSyntheticFields.fields).filter fun field => !field.card.isZero

def recordOf (index : Index) (decl : ClassDecl) : Declaration where
  name := renameType decl.name
  comment := decl.annotation
  body := .record ((index.recordFields decl).map ClassField.toMember)

def enumerationOf (index : Index) (decl : EnumDecl) : Declaration where
  name := renameType decl.name
  comment := decl.annotation
  body := .enumeration ((index.enums.inheritedParts decl).map EnumValue.toConstructor)

def declarationOf? (index : Index) : Decl → Option Declaration
  | .classDecl decl => some (index.recordOf decl)
  | .enumDecl decl => some (index.enumerationOf decl)
  | .otherDecl _ => none

def declRecords (index : Index) : Decl → List LogRecord
  | .classDecl decl => index.classes.lineageRecords decl
  | .enumDecl decl => index.enums.lineageRecords decl
  | .otherDecl _ => []

end Index

/-- The comment at the head of every module made from a schema. -/
def moduleComment : String := "Generated by metagen"

namespace Schema

/-- The module in which each class is a record and each enum an enumeration. -/
def moduleWith (schema : Schema) (index : Index) (imports : List Import) (name : String) : Module where
  name := name
  imports := imports
  declarations := (Decl.kept schema.decls).filterMap index.declarationOf?
  comment := some moduleComment

def transform (schema : Schema) (imports : List Import) (name : String) :
    Traced CyclicInheritance Module := do
  let index ← Index.build schema
  let model := schema.moduleWith index imports name
  Traced.leave ((Decl.kept schema.decls).flatMap index.declRecords)
  Traced.leave [⟨.info, Registry.lineageLogger,
    s!"Converted {model.declarations.length} declarations into module {name}"⟩]
  return model

end Schema

end RosettaDaml
