/-
This file reads a command and its options from the words of a command line.
-/

import RosettaDaml.Command.Arguments
import RosettaDaml.Screen.ReportView
import RosettaDaml.Store.Basic

namespace RosettaDaml.Command

structure ValidateOptions where
  input : List String
  quiet : Bool
  style : Screen.ReportStyle
  strict : Bool
  deriving DecidableEq, Repr

structure ConvertOptions where
  input : List String
  moduleName : String
  output : Option (List String)
  config : Option (List String)
  force : Bool
  dryRun : Bool
  strict : Bool
  verbose : Bool
  deriving DecidableEq, Repr

inductive Request where
  | version
  | help
  | validate (options : ValidateOptions)
  | convert (options : ConvertOptions)
  | info (input : List String)
  deriving DecidableEq, Repr

def helpForm : OptionForm := ⟨"help", ["--help"], false⟩

def programForms : List OptionForm := [⟨"version", ["--version", "-v"], false⟩, helpForm]

def validateForms : List OptionForm :=
  [⟨"quiet", ["--quiet", "-q"], false⟩, ⟨"format", ["--format", "-f"], true⟩,
   ⟨"strict", ["--strict"], false⟩, helpForm]

def convertForms : List OptionForm :=
  [⟨"module", ["--module", "-m"], true⟩, ⟨"output", ["--output", "-o"], true⟩,
   ⟨"config", ["--config", "-c"], true⟩, ⟨"force", ["--force", "-f"], false⟩,
   ⟨"dryRun", ["--dry-run"], false⟩, ⟨"strict", ["--strict"], false⟩,
   ⟨"verbose", ["--verbose", "-V"], false⟩, helpForm]

def infoForms : List OptionForm := [helpForm]

/-- The place of a file that is there. -/
def existingFile? (store : Store) (name : String) : Option (List String) :=
  let place := (Path.ofText name).resolve store.here
  if (store.file? place).isSome then some place else none

/-- A place that is not a directory. -/
def filePlace? (store : Store) (name : String) : Option (List String) :=
  let place := (Path.ofText name).resolve store.here
  if store.isDirectory place then none else some place

/-- The only word of a command, which names a file. -/
def inputFile? (store : Store) (arguments : Arguments) : Option (List String) :=
  match arguments.words with
  | [name] => existingFile? store name
  | _ => none

/-- An option may be missing; where it is given its value must pass. -/
def optional? {Content : Type} (read : String → Option Content) :
    Option String → Option (Option Content)
  | none => some none
  | some text => (read text).map some

def validateRequest? (store : Store) (arguments : Arguments) : Option Request := do
  let input ← inputFile? store arguments
  return .validate
    { input
      quiet := arguments.has "quiet"
      style := .ofName ((arguments.value? "format").getD "text")
      strict := arguments.has "strict" }

def convertRequest? (store : Store) (arguments : Arguments) : Option Request := do
  let input ← inputFile? store arguments
  let moduleName ← arguments.value? "module"
  let output ← optional? (filePlace? store) (arguments.value? "output")
  let config ← optional? (existingFile? store) (arguments.value? "config")
  return .convert
    { input, moduleName, output, config
      force := arguments.has "force"
      dryRun := arguments.has "dryRun"
      strict := arguments.has "strict"
      verbose := arguments.has "verbose" }

def infoRequest? (store : Store) (arguments : Arguments) : Option Request :=
  (inputFile? store arguments).map .info

/-- Help is given whatever else is missing. -/
def commandRequest? (forms : List OptionForm) (read : Arguments → Option Request)
    (words : List String) : Option Request := do
  let arguments ← arguments? forms true words
  if arguments.has "help" then some .help else read arguments

/-- What a command line asks for; nothing when it cannot be understood. Of the version and help,
the one that comes first counts. -/
def Request.ofWords? (store : Store) (words : List String) : Option Request := do
  let arguments ← arguments? programForms false words
  match arguments.options with
  | ("version", _) :: _ => some .version
  | ("help", _) :: _ => some .help
  | _ =>
      match arguments.words with
      | "validate" :: rest => commandRequest? validateForms (validateRequest? store) rest
      | "convert" :: rest => commandRequest? convertForms (convertRequest? store) rest
      | "info" :: rest => commandRequest? infoForms (infoRequest? store) rest
      | _ => none

end RosettaDaml.Command
