/-
This file reads data files, schemas and settings from a store.
-/

import RosettaDaml.Config
import RosettaDaml.Store.Basic
import RosettaDaml.Text.Case
import RosettaDaml.Yaml.Document

namespace RosettaDaml

open RosettaDaml.Data

/-- Why a file is not taken as a data file. -/
inductive FileFault where
  | missing
  | notFile
  | suffix (given : String)
  /-- The text breaks the rules of the format, perhaps by a tag without a meaning. -/
  | malformed (undefinedTag : Option String)
  | empty
  | rootKind (kind : String)
  deriving DecidableEq, Repr

def FileFault.message (path : Path) : FileFault → String
  | .missing => s!"File not found: {path.text}"
  | .notFile => s!"Not a file: {path.text}"
  | .suffix given => s!"Unsupported file extension: {given}. Use .yaml, .yml, or .json"
  | .malformed none => "YAML parsing error:"
  | .malformed (some tag) =>
      "YAML parsing error: could not determine a constructor for the tag " ++ Text.quoted tag
  | .empty => "File is empty"
  | .rootKind kind => s!"Expected dictionary at root level, got {kind}"

inductive ReadFailure where
  | refused (path : Path) (fault : FileFault)
  | notUtf8
  | value (fault : Yaml.ValueFault)

def ReadFailure.message : ReadFailure → String
  | .refused path fault => s!"{path.text}: {fault.message path}"
  | .notUtf8 => "The file is not UTF-8 text"
  | .value fault => fault.message

inductive LoadFailure where
  | unread (failure : ReadFailure)
  | invalid (model : String) (first : Fault) (more : List Fault)

def dataSuffixes : List String := [".yaml", ".yml", ".json"]

/-- The data of a file that holds a map. -/
def dataOf (path : Path) (content : ByteArray) : Except ReadFailure Reader.Entries := do
  let suffix := Text.lower path.suffix
  if !dataSuffixes.contains suffix then throw (.refused path (.suffix suffix))
  match (Yaml.valueOf (.ofBytes content)).map Value.unrolled with
  | .error .malformed => throw (.refused path (.malformed none))
  | .error (.undefinedTag tag) => throw (.refused path (.malformed (some tag)))
  | .error .notUtf8 => throw .notUtf8
  | .error (.value fault) => throw (.value fault)
  | .ok .null => throw (.refused path .empty)
  | .ok (.map entries) => return entries
  | .ok other => throw (.refused path (.rootKind other.kindName))

namespace Store

def readData (store : Store) (path : Path) : Except ReadFailure Reader.Entries :=
  match store.locate? path with
  | none => .error (.refused path .missing)
  | some place =>
      match store.file? place with
      | none => .error (.refused path .notFile)
      | some content => dataOf path content

def checkedAs {Content : Type} (model : String) :
    Checked Content → Except LoadFailure Content
  | .valid content => .ok content
  | .invalid first more => .error (.invalid model first more)

def loadSchema (store : Store) (path : Path) : Except LoadFailure Schema := do
  let entries ← (store.readData path).mapError .unread
  checkedAs "Schema" (Schema.read (.map entries))

/-- The settings of a file, if there is one, below those that are given by name. -/
def loadConfig (store : Store) (path : Option Path) (overrides : List (String × Value)) :
    Except LoadFailure Config := do
  let entries ← match path with
    | none => pure []
    | some path => (store.readData path).mapError .unread
  checkedAs "ConverterConfig" (Config.read (.map (Config.override entries overrides)))

/-- What is wrong with a schema file, one text for each fault; none for a schema that loads. -/
def schemaProblems (store : Store) (path : Path) : Except ReadFailure (List String) :=
  match store.readData path with
  | .ok entries => .ok ((Schema.read (.map entries)).faults.map Fault.line)
  | .error (.refused path fault) => .ok [(ReadFailure.refused path fault).message]
  | .error failure => .error failure

end Store

end RosettaDaml
