/-
This file adds fields to well-known classes that have no counterpart in the schema.
-/

import RosettaDaml.Schema.Decl

namespace RosettaDaml

/-- The type name that stands for a party, used by synthetic fields. -/
def partyTypeName : String := "DamlParty"

def keyTag : String := "key"

def keyValueTag : String := "keyValue"

def referenceTag : String := "reference"

/-- A field that goes in front of the fields of the classes that match. -/
structure SyntheticRule where
  description : String
  appliesTo : ClassDecl → Bool
  field : ClassField

namespace SyntheticRule

def fieldNote : String := "field added by metagen"

def partyRule : SyntheticRule where
  description := "class named Party"
  appliesTo decl := decl.name == "Party"
  field := ⟨"damlParty", some partyTypeName, .one, .empty, some fieldNote, by decide⟩

def copyRule : SyntheticRule where
  description := "class named MessageInformation"
  appliesTo decl := decl.name == "MessageInformation"
  field := ⟨"damlCopyTo", some partyTypeName, .many, .empty, some fieldNote, by decide⟩

def keyRule : SyntheticRule where
  description := "class tagged key"
  appliesTo decl := decl.tags.contains keyTag
  field := ⟨"rosettaKey", some "string", .one, .empty, some fieldNote, by decide⟩

def keyValueRule : SyntheticRule where
  description := "class tagged keyValue"
  appliesTo decl := decl.tags.contains keyValueTag
  field := ⟨"rosettaKeyValue", some "string", .one, .empty, some fieldNote, by decide⟩

def all : List SyntheticRule := [partyRule, copyRule, keyRule, keyValueRule]

/-- The first rule that applies to a class. -/
def for? (decl : ClassDecl) : Option SyntheticRule :=
  all.find? fun rule => rule.appliesTo decl

end SyntheticRule

def ClassDecl.syntheticFields (decl : ClassDecl) : List ClassField :=
  (SyntheticRule.for? decl).toList.map SyntheticRule.field

def ClassDecl.withSyntheticFields (decl : ClassDecl) : ClassDecl :=
  { decl with fields := decl.syntheticFields ++ decl.fields }

end RosettaDaml
