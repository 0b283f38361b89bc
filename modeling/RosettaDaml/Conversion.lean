/-
This file converts a schema into the text of a DAML module.
-/

import RosettaDaml.Consistency.Check
import RosettaDaml.Daml.Render
import RosettaDaml.Transform

namespace RosettaDaml

inductive ConversionFailure where
  | cyclic (failure : CyclicInheritance)
  | inconsistent (report : Report)
  | rendering (failure : RenderFailure)

/-- An empty short name counts as none. -/
def ImportSpec.toImport (spec : ImportSpec) : Import :=
  match Text.nonEmpty? spec.qualifiedAs with
  | some shortName => .qualified spec.moduleName shortName
  | none => .plain spec.moduleName

def Config.moduleImports (config : Config) : List Import :=
  config.imports.map ImportSpec.toImport

namespace Schema

def conversionLogger : String := "cdm_metagen.pipeline"

def warningRecords (report : Report) : List LogRecord :=
  report.warnings.map fun issue => ⟨.warning, conversionLogger, issue.text⟩

/-- The module of a schema, once it passes its checks; what is left of warnings is recorded. -/
def build (schema : Schema) (config : Config) (name : String) :
    Traced ConversionFailure Module := do
  let model ← (schema.transform config.moduleImports name).mapFailure .cyclic
  let report ← Traced.ofExcept
    ((model.validateStrictly config.strict).mapError ConversionFailure.inconsistent)
  Traced.leave (warningRecords report)
  return model

def convert (schema : Schema) (config : Config) (name : String) :
    Traced ConversionFailure String := do
  let model ← schema.build config name
  (Daml.render config model).mapFailure .rendering

end Schema

end RosettaDaml
