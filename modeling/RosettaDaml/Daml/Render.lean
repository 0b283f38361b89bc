/-
This file writes modules as DAML.
-/

import RosettaDaml.Config
import RosettaDaml.Daml.TypeText
import RosettaDaml.Layout.Fill
import RosettaDaml.Log.Trace
import RosettaDaml.TypeModel.Module

namespace RosettaDaml

inductive RenderFailure where
  | type (fault : TypeFault)
  | unknownImport (given : Data.Value)
  | emptyVariant (name : String)
  | invalidWidth (failure : InvalidWidth)
  /-- The line length lies beyond the floating-point numbers. -/
  | widthOverflow

def RenderFailure.message : RenderFailure → String
  | .type fault => fault.message
  | .unknownImport given => s!"Unknown import: {given.literal}"
  | .emptyVariant name => s!"Variant {name} has no alternatives"
  | .invalidWidth failure => failure.message
  | .widthOverflow => "int too large to convert to float"

abbrev Rendering := Traced RenderFailure

namespace Daml

def logger : String := "cdm_metagen.render.daml"

def derivingClause : String := "deriving (Eq, Ord, Show)"

def textWidth (config : Config) : Rendering Int :=
  match config.textWidth? with
  | some width => .ok width
  | none => .fail .widthOverflow

/-- The width is needed for every place where a comment may stand, also without one. -/
def comment (config : Config) (position : CommentPosition) (text : Option String) :
    Rendering Lines :=
  (textWidth config).andThen fun width =>
    Traced.ofExcept ((commentLines width position text).mapError .invalidWidth)

def typeText (type : TypeExpr) (multiplicity : Multiplicity) (position : TypePosition) :
    Rendering String :=
  Traced.ofExcept ((type.shapedText multiplicity position).mapError .type)

/-- The first item goes behind an equals sign and each other one behind a bar. -/
def blockItems : List Lines → Lines
  | [] => []
  | first :: rest => hang "=" first ++ rest.flatMap (hang "|")

def block (items : List Lines) : Lines := blockItems items ++ [derivingClause]

def field (config : Config) (member : Member TypeExpr) : Rendering Lines := do
  let type ← typeText member.type member.multiplicity .alone
  let comment ← comment config .after member.comment
  return s!"{member.name} : {type}" :: nest 4 comment

def fields (config : Config) (members : List (Member TypeExpr)) : Rendering Lines := do
  let blocks ← Traced.forEach (field config) members
  return blocks.flatten

def constructor (config : Config) (owner : String) (constructor : Constructor) : Rendering Lines := do
  let comment ← comment config .after constructor.comment
  return s!"{owner}_{constructor.name} ()" :: comment

def alternative (config : Config) (owner : String) (member : Member TypeExpr) : Rendering Lines := do
  let type ← typeText member.type member.multiplicity .argument
  let comment ← comment config .after member.comment
  return s!"{owner}_{member.name} {type}" :: comment

def record (config : Config) (name : String) (note : Option String)
    (members : List (Member TypeExpr)) : Rendering Lines := do
  let comment ← comment config .before note
  let fields ← fields config members
  return comment ++ s!"data {name} = {name} with" :: nest 4 fields ++ nest 6 [derivingClause]

def choices (config : Config) (name : String) (note : Option String) (items : Rendering (List Lines)) :
    Rendering Lines := do
  let items ← items
  let comment ← comment config .before note
  return comment ++ s!"data {name}" :: nest 4 (block items)

/-- A type with nothing to choose from has one constructor of its own name, unless that is
forbidden. -/
def placeholder (config : Config) (name : String) (note : Option String) : Rendering Lines :=
  match config.emptyVariant with
  | .error => .fail (.emptyVariant name)
  | .placeholder => do
      Traced.leave [⟨.warning, logger, s!"Rendering empty {name} as a placeholder constructor"⟩]
      let comment ← comment config .before note
      return comment ++ s!"data {name} = {name} ()" :: nest 4 [derivingClause]

def synonym (config : Config) (name : String) (note : Option String) (type : TypeExpr) :
    Rendering Lines := do
  let comment ← comment config .before note
  let type ← typeText type .exactlyOne .alone
  return comment ++ [s!"type {name} = {type}"]

def template (config : Config) (name : String) (note : Option String)
    (members : List (Member TypeExpr)) (signatory : String) : Rendering Lines := do
  let comment ← comment config .before note
  let fields ← fields config members
  return comment ++ s!"template {name} with" :: nest 4 fields ++
    ["  where", s!"    signatory {signatory}"]

def declaration (config : Config) (declaration : Declaration) : Rendering Lines :=
  let name := declaration.name
  let note := declaration.comment
  match declaration.body with
  | .enumeration [] => placeholder config name note
  | .enumeration constructors =>
      choices config name note (Traced.forEach (constructor config name) constructors)
  | .record members => record config name note members
  | .variant [] => placeholder config name note
  | .variant members => choices config name note (Traced.forEach (alternative config name) members)
  | .synonym type => synonym config name note type
  | .template members signatory => template config name note members signatory

def importLine : Import → String
  | .plain moduleName => s!"import {moduleName}"
  | .qualified moduleName shortName => s!"import qualified {moduleName} as {shortName}"

/-- An empty comment at the head of a module counts as none. -/
def headComment (config : Config) (note : Option String) : Rendering Lines :=
  match Text.nonEmpty? note with
  | none => .ok []
  | some text => do
      let width ← textWidth config
      let lines ← Traced.ofExcept ((fill width text).mapError .invalidWidth)
      return lines.map fun line => s!"-- {line}"

def header (name : String) : Lines := [s!"module {name}", s!"  ( module {name} ) where"]

def importBlocks (imports : List Import) : List Lines :=
  imports.map fun given => [importLine given]

/-- The header, each import and each declaration are blocks of their own. -/
def moduleLines (config : Config) (model : Module) : Rendering Lines := do
  let comment ← headComment config model.comment
  let declarations ← Traced.forEach (declaration config) model.declarations
  return joinBlocks ((comment ++ header model.name) :: importBlocks model.imports ++ declarations)

def linesText (lines : Lines) : String := "\n".intercalate lines ++ "\n"

/-- The text of the lines of a module, with a record that counts them. -/
def finish (name : String) (lines : Lines) : Rendering String := do
  Traced.leave [⟨.debug, logger, s!"Rendered module {name}: {lines.length} lines"⟩]
  return linesText lines

def render (config : Config) (model : Module) : Rendering String := do
  let lines ← moduleLines config model
  finish model.name lines

end Daml

end RosettaDaml
