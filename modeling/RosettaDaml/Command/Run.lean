/-
This file runs a command line against a store of files.
-/

import RosettaDaml.Command.Convert
import RosettaDaml.Command.Info
import RosettaDaml.Command.Validate

namespace RosettaDaml.Command

def programVersion : String := "0.1.0"

def Request.run (store : Store) : Request → Outcome
  | .version => .done store (onOutput [.text (.raw s!"metagen version {programVersion}")])
  | .help => .done store []
  | .validate options => Command.validate store options
  | .convert options => Command.convert store options
  | .info input => Command.info store input

def run (store : Store) (words : List String) : Outcome :=
  match Request.ofWords? store words with
  | some request => request.run store
  | none => .misused store

end RosettaDaml.Command
