/-
This file holds drafts of modules, in which a value may stand where an import or a declaration
should be.
-/

import RosettaDaml.TypeModel.Module

namespace RosettaDaml

inductive Given (Content : Type) where
  | known (content : Content)
  | unknown (value : Data.Value)

namespace Given

variable {Content : Type}

def known? : Given Content → Option Content
  | .known content => some content
  | .unknown _ => none

def unknown? : Given Content → Option Data.Value
  | .known _ => none
  | .unknown value => some value

def same (sameContent : Content → Content → Bool) : Given Content → Given Content → Bool
  | .known left, .known right => sameContent left right
  | .unknown left, .unknown right => left.same right
  | _, _ => false

def allSame (sameContent : Content → Content → Bool) :
    List (Given Content) → List (Given Content) → Bool
  | [], [] => true
  | left :: lefts, right :: rights =>
      left.same sameContent right && allSame sameContent lefts rights
  | _, _ => false

end Given

structure Draft where
  name : String
  imports : List (Given Import)
  declarations : List (Given Declaration)
  comment : Option String

namespace Draft

def ofModule (model : Module) : Draft :=
  ⟨model.name, model.imports.map .known, model.declarations.map .known, model.comment⟩

/-- The module without the values that are none of its parts. -/
def knownPart (draft : Draft) : Module :=
  ⟨draft.name, draft.imports.filterMap Given.known?, draft.declarations.filterMap Given.known?,
    draft.comment⟩

/-- The first value that stands where a declaration should be. -/
def unknownDeclaration? (draft : Draft) : Option Data.Value :=
  draft.declarations.findSome? Given.unknown?

def same (left right : Draft) : Bool :=
  left.name == right.name && Given.allSame (· == ·) left.imports right.imports &&
    Given.allSame Declaration.same left.declarations right.declarations &&
    left.comment == right.comment

theorem knownPart_ofModule (model : Module) : (ofModule model).knownPart = model := by
  simp [ofModule, knownPart, List.filterMap_map, Function.comp_def, Given.known?]

theorem unknownDeclaration?_ofModule (model : Module) :
    (ofModule model).unknownDeclaration? = none := by
  simp [ofModule, unknownDeclaration?, Given.unknown?]

/-- Modules are the same as drafts when they are the same as modules. -/
theorem same_ofModule (left right : Module) :
    (ofModule left).same (ofModule right) = left.same right := by
  have imports (lefts rights : List Import) :
      Given.allSame (· == ·) (lefts.map .known) (rights.map .known) = (lefts == rights) := by
    induction lefts generalizing rights with
    | nil => cases rights <;> rfl
    | cons left lefts inductionHypothesis =>
        cases rights with
        | nil => rfl
        | cons right rights =>
            simp [Given.allSame, Given.same, inductionHypothesis, List.cons_beq_cons]
  have declarations (lefts rights : List Declaration) :
      Given.allSame Declaration.same (lefts.map .known) (rights.map .known) =
        Module.sameDeclarations lefts rights := by
    induction lefts generalizing rights with
    | nil => cases rights <;> rfl
    | cons left lefts inductionHypothesis =>
        cases rights with
        | nil => rfl
        | cons right rights =>
            simp [Given.allSame, Given.same, Module.sameDeclarations, inductionHypothesis]
  simp [same, ofModule, imports, declarations, Module.same]

end Draft

end RosettaDaml
