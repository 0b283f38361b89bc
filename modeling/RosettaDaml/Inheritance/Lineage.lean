/-
This file follows the bases of a declaration and puts the parts of all its ancestors in front of
its own.
-/

import RosettaDaml.Inheritance.Index

namespace RosettaDaml

namespace Registry

variable {Declared Part : Type} [Inheriting Declared Part]

def baseOf? (registry : Registry Declared) (decl : Declared) : Option Declared :=
  (Inheriting.base decl).bind registry.get?

/-- The ancestors of a declaration, the root first. The bound is a number of steps. -/
def ancestorsWithin (registry : Registry Declared) : Nat → Declared → List Declared
  | 0, _ => []
  | steps + 1, decl =>
      match registry.baseOf? decl with
      | none => []
      | some base => registry.ancestorsWithin steps base ++ [base]

/-- A chain that never comes back has no more ancestors than there are names, so it is followed to its
end, however long it is. -/
def ancestors (registry : Registry Declared) (decl : Declared) : List Declared :=
  registry.ancestorsWithin registry.size decl

def lineage (registry : Registry Declared) (decl : Declared) : List Declared :=
  registry.ancestors decl ++ [decl]

def inheritedParts (registry : Registry Declared) (decl : Declared) : List Part :=
  (registry.lineage decl).flatMap Inheriting.parts

/-- The declaration with the parts of its lineage; its base stays as it is. -/
def flatten (registry : Registry Declared) (decl : Declared) : Declared :=
  Inheriting.withParts decl (registry.inheritedParts decl)

def root (registry : Registry Declared) (decl : Declared) : Declared :=
  (registry.ancestors decl).headD decl

/-- Whether flattening finds nothing to put in front. -/
def isFlat (registry : Registry Declared) (decl : Declared) : Bool :=
  (registry.ancestors decl).isEmpty

def lineageLogger : String := "cdm_metagen.transform.transformer"

/-- A lineage that ends at a base that is not declared leaves a warning. -/
def lineageRecords (registry : Registry Declared) (decl : Declared) : List LogRecord :=
  let root := registry.root decl
  match Inheriting.base root with
  | none => []
  | some base =>
      [⟨.warning, lineageLogger, s!"Base {Inheriting.kind Declared} {base} of " ++
        s!"{Inheriting.name root} is not declared, ignoring it"⟩]

end Registry

end RosettaDaml
