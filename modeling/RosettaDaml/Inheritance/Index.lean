/-
This file finds classes and enums by name.
-/

import RosettaDaml.Inheritance.Cycle
import RosettaDaml.Log.Trace
import RosettaDaml.Schema.Decl

namespace RosettaDaml

/-- Declarations that take over the parts of a base. -/
class Inheriting (Declared : Type) (Part : outParam Type) where
  kind : String
  name : Declared → String
  base : Declared → Option String
  parts : Declared → List Part
  withParts : Declared → List Part → Declared

instance : Inheriting ClassDecl ClassField where
  kind := "class"
  name := ClassDecl.name
  base := ClassDecl.base
  parts := ClassDecl.fields
  withParts decl fields := { decl with fields }

instance : Inheriting EnumDecl EnumValue where
  kind := "enum"
  name := EnumDecl.name
  base := EnumDecl.base
  parts := EnumDecl.values
  withParts decl values := { decl with values }

abbrev Registry (Declared : Type) := OrderedMap String Declared

namespace Registry

variable {Declared Part : Type} [Inheriting Declared Part]

/-- The last declaration of a name counts; the first one gives its place. -/
def ofDecls (decls : List Declared) : Registry Declared :=
  decls.foldl (fun registry decl => registry.insert (Inheriting.name decl) decl) .empty

def bases (registry : Registry Declared) : Bases where
  entries := registry.entries.map fun (name, decl) => (name, Inheriting.base decl)
  nodup := by
    rw [List.map_map]
    exact registry.nodup

end Registry

/-- Classes and enums have names of their own. -/
structure Index where
  classes : Registry ClassDecl
  enums : Registry EnumDecl

namespace Index

def logger : String := "cdm_metagen.transform.index"

def nameOrNone : Option String → String
  | none => "None"
  | some name => name

def duplicateRecord (kind name : String) : LogRecord :=
  ⟨.warning, logger, s!"Duplicate {kind} {name}, keeping the last one"⟩

/-- The record that a declaration leaves when those before it are given. -/
def recordsOf (before : List Decl) : Decl → List LogRecord
  | .classDecl decl =>
      if before.any (fun | .classDecl other => other.name == decl.name | _ => false) then
        [duplicateRecord "class" decl.name]
      else []
  | .enumDecl decl =>
      if before.any (fun | .enumDecl other => other.name == decl.name | _ => false) then
        [duplicateRecord "enum" decl.name]
      else []
  | .otherDecl decl =>
      [⟨.debug, logger, s!"Ignoring {decl.kind} declaration {nameOrNone decl.name}"⟩]

def recordsFrom (before : List Decl) : List Decl → List LogRecord
  | [] => []
  | decl :: rest => recordsOf before decl ++ recordsFrom (before ++ [decl]) rest

def ofSchema (schema : Schema) : Index :=
  ⟨.ofDecls schema.classes, .ofDecls schema.enums⟩

def check (index : Index) : Except CyclicInheritance Unit := do
  index.classes.bases.checkAcyclic "class"
  index.enums.bases.checkAcyclic "enum"

/-- An index whose base chains all end. -/
def build (schema : Schema) : Traced CyclicInheritance Index := do
  let index := ofSchema schema
  Traced.leave (recordsFrom [] schema.decls)
  Traced.ofExcept index.check
  Traced.leave [⟨.debug, logger,
    s!"Indexed {index.classes.size} classes and {index.enums.size} enums"⟩]
  return index

end Index

end RosettaDaml
