/-
This file holds the command that checks a schema file and the module built from it.
-/

import RosettaDaml.Command.Outcome
import RosettaDaml.Command.Request

namespace RosettaDaml.Command

open RosettaDaml.Screen

/-- The parts in front of the first colon with a space behind it, and behind them. -/
def cutAtColon? : List Char → Option (List Char × List Char)
  | [] => none
  | ':' :: ' ' :: rest => some ([], rest)
  | char :: rest => (cutAtColon? rest).map fun (before, after) => (char :: before, after)

/-- The place and the message of a problem. -/
def splitProblem (problem : String) : String × String :=
  match cutAtColon? problem.toList with
  | some (before, after) => (String.ofList before, String.ofList after)
  | none => ("", problem)

def problemRow (number : Nat) (problem : String) : List Label :=
  let (place, message) := splitProblem problem
  [.raw (toString number), .marked place, .marked message]

def problemColumns : List Column := [⟨"#", some 4⟩, ⟨"Location", none⟩, ⟨"Error", none⟩]

def problemTable (problems : List String) : Block :=
  .table "Validation Errors" problemColumns
    (problems.mapIdx fun index problem => problemRow (index + 1) problem)

/-- The report of a module, and a last line for a schema that passes. -/
def judge (store : Store) (options : ValidateOptions) (model : Module) : Outcome :=
  let report := model.validate
  let issues := if report.isAccepted true then [] else
    reportView options.style (some model.name) report
  let name := (Path.ofPlace options.input).name
  if report.isAccepted options.strict then
    let passed :=
      if report.warnings.isEmpty then s!"[bold green]✓ {name} is valid[/bold green]"
      else s!"[bold yellow]⚠ {name} is valid with warnings[/bold yellow]"
    .done store (onErrors issues ++ onOutput (if options.quiet then [] else [.marked passed]))
  else .failed store (onErrors issues)

def validate (store : Store) (options : ValidateOptions) : Outcome :=
  let path := Path.ofPlace options.input
  match store.schemaProblems path, store.loadSchema path with
  | .ok [], .ok schema =>
      match (schema.transform [] path.stem).result with
      | .ok model => judge store options model
      | .error cyclic =>
          .failed store (onErrors [.marked s!"[bold red]✗ {cyclic.message}[/bold red]"])
  | .ok problems, _ =>
      .failed store
        (onErrors [.marked s!"[bold red]✗ Validation failed for {path.name}[/bold red]"] ++
          onOutput [problemTable problems])
  | .error failure, _ => .escape store failure

end RosettaDaml.Command
