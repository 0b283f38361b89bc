/-
This file holds the command that writes the module of a schema file.
-/

import RosettaDaml.Command.Outcome
import RosettaDaml.Command.Request
import RosettaDaml.Log.Logger
import RosettaDaml.Text.Encoding
import RosettaDaml.Text.Integer

namespace RosettaDaml.Command

open RosettaDaml.Data RosettaDaml.Screen

/-- How far a conversion has come, with what it has built so far. -/
inductive Stage where
  | loading
  | building (schema : Schema)
  | rendering (schema : Schema) (model : Module)
  | complete (schema : Schema) (model : Module)

namespace Stage

def schema? : Stage → Option Schema
  | .loading => none
  | .building schema => some schema
  | .rendering schema _ => some schema
  | .complete schema _ => some schema

def module? : Stage → Option Module
  | .rendering _ model => some model
  | .complete _ model => some model
  | _ => none

/-- A line for each task that was begun. -/
def tasks : Stage → List String
  | .loading => ["Loading schema..."]
  | .building _ => ["✓ Loaded", "Building type model..."]
  | .rendering _ _ => ["✓ Loaded", "✓ Type model built", "Rendering DAML..."]
  | .complete _ _ => ["✓ Loaded", "✓ Type model built", "✓ Rendered"]

/-- The counts stand above the tasks. -/
def view (stage : Stage) : List Block :=
  let counts :=
    (stage.schema?.toList.flatMap fun schema =>
      [s!"  Classes: {schema.classes.length}", s!"  Enums: {schema.enums.length}"]) ++
    stage.module?.toList.map fun model => s!"  Declarations: {model.declarations.length}"
  (counts ++ stage.tasks).map fun line => .text (.raw line)

end Stage

/-- The text of a conversion or its failure, the stage it came to, and the records it left. -/
structure Conversion where
  stage : Stage
  log : List LogRecord
  result : Except CommandFailure String

def Conversion.run (store : Store) (path : Path) (config : Config) (name : String) : Conversion :=
  match store.loadSchema path with
  | .error failure => ⟨.loading, [], .error (.ofLoad failure)⟩
  | .ok schema =>
      let built := schema.build config name
      match built.result with
      | .error failure => ⟨.building schema, built.log, .error (.ofConversion failure)⟩
      | .ok model =>
          let rendered := Daml.render config model
          let log := built.log ++ rendered.log
          match rendered.result with
          | .error failure => ⟨.rendering schema model, log, .error (.ofRender failure)⟩
          | .ok text => ⟨.complete schema model, log, .ok text⟩

namespace ConvertOptions

/-- Without a place for it the output goes beside the input. -/
def outputPlace (options : ConvertOptions) : List String :=
  options.output.getD ((Path.ofPlace options.input).withSuffix ".daml").parts

def outputName (options : ConvertOptions) : String := (Path.ofPlace options.outputPlace).text

/-- The option for strictness takes the place of the setting; without it the setting holds. -/
def overrides (options : ConvertOptions) : List (String × Value) :=
  [("strict", if options.strict then .bool true else .null)]

def logSetup (options : ConvertOptions) : LogSetup :=
  ⟨some (.from (if options.verbose then .debug else .warning))⟩

/-- An output that is there stays as it is unless it may be overwritten or nothing is written. -/
def isBlocked (store : Store) (options : ConvertOptions) : Bool :=
  (store.entryAt? options.outputPlace).isSome && !options.force && !options.dryRun

end ConvertOptions

def logBlocks (options : ConvertOptions) (log : List LogRecord) : List Block :=
  (log.filter options.logSetup.writes).map fun record => .text (.raw record.line)

def writtenText (options : ConvertOptions) (verb : String) (content : ByteArray) : Block :=
  .marked (s!"[bold green]✓ {verb} {Text.groupThousands content.size} bytes to " ++
    s!"{options.outputName}[/bold green]")

/-- Puts the text of a conversion in its place, and says why that fails. A text without bytes leaves
an empty file behind. -/
def writeText (store : Store) (place : List String) (text : String) :
    Store × Except String ByteArray :=
  let encoded := Text.encode text
  match store.write place (encoded.toOption.getD .empty) with
  | .ok written => (written, encoded.mapError Text.EncodingFault.message)
  | .error fault => (store, .error (fault.message place))

/-- Writes the text of a conversion; without a text the store stays as it is. -/
def finish (store : Store) (options : ConvertOptions) (conversion : Conversion) : Outcome :=
  let before :=
    onErrors (logBlocks options conversion.log) ++
      onOutput (if options.verbose then conversion.stage.view else [])
  match conversion.result with
  | .error failure => .failed store (before ++ onErrors (failure.view false))
  | .ok text =>
      let (store, verb, written) :=
        if options.dryRun then
          (store, "Would write", (Text.encode text).mapError Text.EncodingFault.message)
        else
          let (store, written) := writeText store options.outputPlace text
          (store, "Wrote", written)
      match written with
      | .ok content => .done store (before ++ onOutput [writtenText options verb content])
      | .error message =>
          .failed store (before ++ onErrors ((CommandFailure.unexpected message).view false))

def convert (store : Store) (options : ConvertOptions) : Outcome :=
  if options.isBlocked store then
    .failed store (onErrors
      [.marked (s!"[bold red]✗ Output file already exists: {options.outputName}" ++
        "[/bold red]\nUse --force to overwrite.")])
  else
    match store.loadConfig (options.config.map Path.ofPlace) options.overrides with
    | .error failure => .failed store (onErrors ((CommandFailure.ofLoad failure).view false))
    | .ok config =>
        finish store options
          (Conversion.run store (Path.ofPlace options.input) config options.moduleName)

end RosettaDaml.Command
