/-
This file reads a schema and its parts from data.
-/

import RosettaDaml.Schema.Checked

namespace RosettaDaml

open RosettaDaml.Data Reader

namespace Cardinality

def checkBounds (given : Value) (lower : Nat) (upper : Option Int) : Checked Cardinality :=
  match ofBounds lower upper with
  | .ok cardinality => .valid cardinality
  | .error fault => .fail given (.bounds fault)

def readUpper : Reader (Option Int) := fun given =>
  match parseUpper given with
  | .ok upper => .valid upper
  | .error fault => .fail given (.bounds fault)

def readText (given : Value) (content : String) : Checked Cardinality :=
  match parseRange content with
  | .ok (lower, upper) => checkBounds given lower.toNat upper
  | .error fault => .fail given (.bounds fault)

def readEntries : Reader (Nat × Option Int) :=
  closed "Cardinality" ["lower", "upper"] fun entries =>
    (fun lower upper => (lower.val, upper)) <$>
      defaulted "lower" ⟨1, by omega⟩ (integerFrom 0) entries <*>
      defaulted "upper" (some 1) readUpper entries

/-- The bounds as a range text or as a map; their order is looked at only when both are read. -/
def read : Reader Cardinality := fun given =>
  match given with
  | .text content => readText given content
  | _ => (readEntries given).andThen fun (lower, upper) => checkBounds given lower upper

end Cardinality

def ClassField.read : Reader ClassField :=
  closed "ClassField" ["name", "type", "card", "tags", "annotation"] fun entries =>
    (fun name type card tags annotation =>
      ⟨name.val, type, card, tags, annotation, name.property⟩) <$>
      required "name" nonEmptyText entries <*>
      defaulted "type" none (nullable text) entries <*>
      defaulted "card" .one Cardinality.read entries <*>
      defaulted "tags" .empty tagSet entries <*>
      defaulted "annotation" none (nullable text) entries

def ClassDecl.read : Reader ClassDecl :=
  closed "ClassDecl" ["kind", "name", "base", "fields", "tags", "annotation"] fun entries =>
    (fun _ name base fields tags annotation =>
      ⟨name.val, base, fields, tags, annotation, name.property⟩) <$>
      defaulted "kind" () (word "class") entries <*>
      required "name" nonEmptyText entries <*>
      defaulted "base" none (nullable text) entries <*>
      defaulted "fields" [] (listOf ClassField.read) entries <*>
      defaulted "tags" .empty tagSet entries <*>
      defaulted "annotation" none (nullable text) entries

/-- The display name has two keys, and the first one that is there counts. -/
def EnumValue.displayKey (entries : Entries) : String :=
  if (Value.find? "displayName" entries).isSome then "displayName" else "display_name"

def EnumValue.read : Reader EnumValue :=
  model "EnumValue"
    (fun entries =>
      (fun name displayName annotation =>
        ⟨name.val, displayName, annotation, name.property⟩) <$>
        required "name" nonEmptyText entries <*>
        defaulted (displayKey entries) none (nullable text) entries <*>
        defaulted "annotation" none (nullable text) entries)
    (fun entries => closedFaults ["name", displayKey entries, "annotation"] entries)

def EnumDecl.read : Reader EnumDecl :=
  closed "EnumDecl" ["kind", "name", "base", "values", "annotation"] fun entries =>
    (fun _ name base values annotation =>
      ⟨name.val, base, values, annotation, name.property⟩) <$>
      defaulted "kind" () (word "enum") entries <*>
      required "name" nonEmptyText entries <*>
      defaulted "base" none (nullable text) entries <*>
      defaulted "values" [] (listOf EnumValue.read) entries <*>
      defaulted "annotation" none (nullable text) entries

def OtherDecl.read : Reader OtherDecl :=
  model "OtherDecl"
    (fun entries =>
      (fun kind name => ⟨kind, name, openExtras ["kind", "name"] entries⟩) <$>
        required "kind" text entries <*>
        defaulted "name" none (nullable text) entries)
    (openFaults ["kind", "name"])

/-- The kind of a declaration decides which model reads it. -/
def Decl.kindOf (given : Value) : String :=
  match given.unrolled with
  | .map entries =>
      match Value.find? "kind" entries with
      | some (.text "class") => "class"
      | some (.text "enum") => "enum"
      | _ => "other"
  | _ => "other"

def Decl.read : Reader Decl := fun value =>
  match kindOf value with
  | "class" => ((ClassDecl.read value).map .classDecl).within (.key "class")
  | "enum" => ((EnumDecl.read value).map .enumDecl).within (.key "enum")
  | _ => ((OtherDecl.read value).map .otherDecl).within (.key "other")

def Schema.read : Reader Schema :=
  closed "Schema" ["namespace", "decls"] fun entries =>
    Schema.mk <$>
      defaulted "namespace" none (nullable text) entries <*>
      defaulted "decls" [] (listOf Decl.read) entries

end RosettaDaml
