/-
This file holds the command that counts what is in a schema file.
-/

import RosettaDaml.Command.Outcome

namespace RosettaDaml.Command

open RosettaDaml.Screen

-- A sum starts from the number zero itself, whatever else is known of numbers.
attribute [local instance(2000)] Zero.ofOfNat0

def sortedKinds (schema : Schema) : List String :=
  (TagSet.ofList (schema.others.map OtherDecl.kind)).tags

/-- How many classes and enums have a base. -/
def derivedCount (schema : Schema) : Nat :=
  (schema.classes.filter fun decl => (Text.nonEmpty? decl.base).isSome).length +
    (schema.enums.filter fun decl => (Text.nonEmpty? decl.base).isSome).length

def summaryRows (schema : Schema) : List (List Label) :=
  let fields := (schema.classes.map fun decl => decl.fields.length).sum
  let values := (schema.enums.map fun decl => decl.values.length).sum
  let kinds := ", ".intercalate (sortedKinds schema)
  ((Text.nonEmpty? schema.namespaceName).toList.map fun name =>
    [.raw "Namespace", .marked name]) ++
  [("Classes", schema.classes.length), ("Enums", schema.enums.length), ("Attributes", fields),
    ("Enum values", values), ("With base", derivedCount schema)].map
      (fun (name, count) => [.raw name, .raw (toString count)]) ++
  (if schema.others.isEmpty then [] else
    [[.raw "Ignored", .marked s!"{schema.others.length} ({kinds})"]])

def summaryColumns : List Column := [⟨"", none⟩, ⟨"", none⟩]

def unreadBlock (message : String) : Block :=
  .marked s!"[bold red]✗ Failed to read file: {message}[/bold red]"

def info (store : Store) (input : List String) : Outcome :=
  let path := Path.ofPlace input
  match store.loadSchema path with
  | .ok schema =>
      .done store (onOutput
        [.panel "File Info" (.marked s!"[bold]Rosetta Schema[/bold]\nFile: {path.text}"),
          .table "Schema Summary" summaryColumns (summaryRows schema)])
  | .error (.invalid model first more) =>
      .failed store (onErrors [unreadBlock (faultsText model (first :: more))])
  | .error (.unread (.refused path fault)) =>
      .failed store (onErrors [unreadBlock (ReadFailure.refused path fault).message])
  | .error (.unread failure) => .escape store failure

end RosettaDaml.Command
