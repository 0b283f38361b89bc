/-
This file turns a schema and its parts back into data.
-/

import RosettaDaml.Schema.Decl

namespace RosettaDaml

open RosettaDaml.Data

/-- A map with text keys. -/
def mapOf (entries : List (String × Value)) : Value :=
  .map (entries.map fun (name, content) => (.text name, content))

def Cardinality.dump (cardinality : Cardinality) : Value :=
  mapOf [("lower", .int cardinality.lower),
    ("upper", dumpUpper (cardinality.upper.map Int.ofNat))]

def TagSet.dump (set : TagSet) : Value := .set (set.tags.map .text)

def ClassField.dump (field : ClassField) : Value :=
  mapOf [("name", .text field.name), ("type", .ofText? field.type), ("card", field.card.dump),
    ("tags", field.tags.dump), ("annotation", .ofText? field.annotation)]

def ClassDecl.dump (decl : ClassDecl) : Value :=
  mapOf [("kind", .text "class"), ("name", .text decl.name), ("base", .ofText? decl.base),
    ("fields", .list (decl.fields.map ClassField.dump)), ("tags", decl.tags.dump),
    ("annotation", .ofText? decl.annotation)]

/-- The display name goes under its short key or under its spelled out one. -/
def EnumValue.displayKeyFor (byAlias : Bool) : String :=
  if byAlias then "displayName" else "display_name"

def EnumValue.dump (byAlias : Bool) (value : EnumValue) : Value :=
  mapOf [("name", .text value.name), (displayKeyFor byAlias, .ofText? value.displayName),
    ("annotation", .ofText? value.annotation)]

def EnumDecl.dump (byAlias : Bool) (decl : EnumDecl) : Value :=
  mapOf [("kind", .text "enum"), ("name", .text decl.name), ("base", .ofText? decl.base),
    ("values", .list (decl.values.map (EnumValue.dump byAlias))),
    ("annotation", .ofText? decl.annotation)]

def OtherDecl.dump (decl : OtherDecl) : Value :=
  mapOf ([("kind", .text decl.kind), ("name", .ofText? decl.name)] ++ decl.extras.entries)

def Decl.dump (byAlias : Bool) : Decl → Value
  | .classDecl decl => decl.dump
  | .enumDecl decl => decl.dump byAlias
  | .otherDecl decl => decl.dump

def Schema.dump (byAlias : Bool) (schema : Schema) : Value :=
  mapOf [("namespace", .ofText? schema.namespaceName),
    ("decls", .list (schema.decls.map (Decl.dump byAlias)))]

end RosettaDaml
