/-
This file names loggers, sets their threshold, and writes records with the arguments in their
messages.
-/

import RosettaDaml.Log.Trace
import RosettaDaml.Template.Fill

namespace RosettaDaml

def packageLogger : String := "cdm_metagen"

/-- A name that does not begin with that of the package is put below it. -/
def loggerName (name : String) : String :=
  if name.startsWith packageLogger then name else packageLogger ++ "." ++ name

def isPackageLogger (name : String) : Bool :=
  name == packageLogger || name.startsWith (packageLogger ++ ".")

/-- The least level of the records that are written; the standard one where none is set. -/
inductive Threshold where
  | notSet
  | from (level : Level)
  deriving DecidableEq, Repr

namespace Threshold

def ofName? : String → Option Threshold
  | "DEBUG" => some (.from .debug)
  | "INFO" => some (.from .info)
  | "WARN" => some (.from .warning)
  | "WARNING" => some (.from .warning)
  | "ERROR" => some (.from .error)
  | "FATAL" => some (.from .critical)
  | "CRITICAL" => some (.from .critical)
  | "NOTSET" => some .notSet
  | _ => none

def name : Threshold → String
  | .notSet => "NOTSET"
  | .from level => level.name

def weight : Threshold → Nat
  | .notSet => Level.warning.weight
  | .from level => level.weight

end Threshold

/-- Why a name is not that of a level. -/
inductive LevelFault where
  | unknown (name : String)
  /-- The name of a text that is no level. -/
  | layoutText
  /-- The name of a list of layouts. -/
  | layouts
  | notText (kind : String)
  deriving DecidableEq, Repr

/-- The layout of a record. -/
def recordLayout : String := "%(levelname)s:%(name)s:%(message)s"

/-- All layouts of a record by the sign of their slots. -/
def recordLayouts : String :=
  "\x7b'%': (<class 'logging.PercentStyle'>, '%(levelname)s:%(name)s:%(message)s'), " ++
    "'\x7b': (<class 'logging.StrFormatStyle'>, " ++
    "'\x7blevelname\x7d:\x7bname\x7d:\x7bmessage\x7d'), " ++
    "'$': (<class 'logging.StringTemplateStyle'>, " ++
    "'$\x7blevelname\x7d:$\x7bname\x7d:$\x7bmessage\x7d')\x7d"

namespace LevelFault

def ofName : String → LevelFault
  | "BASIC_FORMAT" => .layoutText
  | "_STYLES" => .layouts
  | name => .unknown name

def message : LevelFault → String
  | .unknown name => s!"module 'logging' has no attribute '{name}'"
  | .layoutText => s!"Unknown level: '{recordLayout}'"
  | .layouts => s!"Level not an integer or a valid string: {recordLayouts}"
  | .notText kind => s!"'{kind}' object has no attribute 'upper'"

end LevelFault

/-- Before a threshold is chosen nothing is written. -/
structure LogSetup where
  threshold : Option Threshold
  deriving DecidableEq, Repr

namespace LogSetup

def initial : LogSetup := ⟨none⟩

/-- The case of the name does not matter. -/
def choose : Data.Value → Except LevelFault LogSetup
  | .text name =>
      match Threshold.ofName? (Text.upper name) with
      | some threshold => .ok ⟨some threshold⟩
      | none => .error (.ofName (Text.upper name))
  | given => .error (.notText given.kindName)

def writes (setup : LogSetup) (record : LogRecord) : Bool :=
  isPackageLogger record.logger &&
    match setup.threshold with
    | none => false
    | some threshold => record.passes threshold.weight

/-- The record that is written for a message, if any is. Only then are its arguments looked at. -/
def write (setup : LogSetup) (level : Level) (logger template : String)
    (arguments : List Data.Value) : Except Template.TemplateFault (Option LogRecord) :=
  if setup.writes ⟨level, logger, template⟩ then
    (Template.fill template arguments).map fun message => some ⟨level, logger, message⟩
  else .ok none

end LogSetup

end RosettaDaml

