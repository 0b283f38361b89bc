/-
This file checks drafts of modules.
-/

import RosettaDaml.Consistency.Check
import RosettaDaml.TypeModel.Draft

namespace RosettaDaml

/-- A value without a name stands where a declaration should be. -/
structure Nameless where
  given : Data.Value

def Nameless.message (nameless : Nameless) : String :=
  s!"'{nameless.given.kindName}' object has no attribute 'name'"

/-- Whether a check looks at the name of every declaration. -/
def Check.needsNames : Check → Bool
  | .emptyVariants => false
  | _ => true

namespace Draft

def named (draft : Draft) : Except Nameless Module :=
  match draft.unknownDeclaration? with
  | some given => .error ⟨given⟩
  | none => .ok draft.knownPart

/-- Checks that need no names pass over what is no declaration. -/
def report (draft : Draft) (checks : List Check) : Except Nameless Report :=
  if checks.any Check.needsNames then draft.named.map fun model => model.report checks
  else .ok (draft.knownPart.report checks)

theorem report_ofModule (model : Module) (checks : List Check) :
    (ofModule model).report checks = .ok (model.report checks) := by
  simp [report, named, unknownDeclaration?_ofModule, knownPart_ofModule, Except.map]

end Draft

end RosettaDaml
