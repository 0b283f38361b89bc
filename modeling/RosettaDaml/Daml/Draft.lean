/-
This file writes drafts of modules. A value in the place of a declaration becomes a comment, and
one in the place of an import is refused.
-/

import RosettaDaml.Daml.Render
import RosettaDaml.TypeModel.Draft

namespace RosettaDaml.Daml

/-- A comment takes the place of a declaration of no known kind; it stays on one line. -/
def unknownDeclaration (given : Data.Value) : Rendering Lines := do
  Traced.leave [⟨.warning, logger, s!"Unsupported declaration {given.kindName}"⟩]
  let line := s!"-- UNSUPPORTED: {given.literal}"
  return [String.ofList (line.toList.map fun char => if char == '\n' then ' ' else char)]

def givenDeclaration (config : Config) : Given Declaration → Rendering Lines
  | .known declaration => Daml.declaration config declaration
  | .unknown given => unknownDeclaration given

def givenImportLine : Given Import → Except RenderFailure String
  | .known line => .ok (importLine line)
  | .unknown given => .error (.unknownImport given)

/-- The imports are written before the declarations. -/
def draftLines (config : Config) (draft : Draft) : Rendering Lines := do
  let comment ← headComment config draft.comment
  let imports ← Traced.forEach (fun given => Traced.ofExcept (givenImportLine given)) draft.imports
  let declarations ← Traced.forEach (givenDeclaration config) draft.declarations
  return joinBlocks ((comment ++ header draft.name) :: imports.map (fun line => [line]) ++
    declarations)

/-- The draft of a module is written like the module. -/
theorem draftLines_ofModule (config : Config) (model : Module) :
    draftLines config (.ofModule model) = moduleLines config model := by
  have imports : Traced.forEach (fun given => Traced.ofExcept (givenImportLine given))
      (model.imports.map .known) = .ok (model.imports.map importLine) := by
    rw [Traced.forEach_map]
    exact Traced.forEach_ok importLine model.imports
  have declarations : Traced.forEach (givenDeclaration config) (model.declarations.map .known) =
      Traced.forEach (declaration config) model.declarations := Traced.forEach_map _ _ _
  simp only [draftLines, moduleLines, Draft.ofModule, imports, declarations, importBlocks]
  refine congrArg (headComment config model.comment >>= ·) (funext fun comment => ?_)
  refine (Traced.andThen_ok (model.imports.map importLine) _).trans ?_
  simp only [List.map_map]
  rfl

def renderDraft (config : Config) (draft : Draft) : Rendering String := do
  let lines ← draftLines config draft
  finish draft.name lines

theorem renderDraft_ofModule (config : Config) (model : Module) :
    renderDraft config (.ofModule model) = render config model := by
  simp only [renderDraft, render, draftLines_ofModule]
  rfl

end RosettaDaml.Daml
