/-
This file holds the settings of a conversion and reads them from data.
-/

import RosettaDaml.Schema.Dump
import RosettaDaml.Schema.Read

namespace RosettaDaml

open RosettaDaml.Data RosettaDaml.Numeric Reader

/-- What happens to an enum or a variant without constructors. -/
inductive EmptyVariantPolicy where
  | placeholder
  | error
  deriving DecidableEq, Repr

structure ImportSpec where
  moduleName : String
  qualifiedAs : Option String
  moduleName_ne_empty : moduleName ≠ ""

structure Config where
  lineLength : Nat
  ribbonsPerLine : Binary64
  emptyVariant : EmptyVariantPolicy
  strict : Bool
  imports : List ImportSpec
  lineLength_ge : 20 ≤ lineLength
  ribbonsPerLine_ge : ribbonsPerLine.atLeast 1 = true

def EmptyVariantPolicy.name : EmptyVariantPolicy → String
  | .placeholder => "placeholder"
  | .error => "error"

def EmptyVariantPolicy.read : Reader EmptyVariantPolicy := fun given =>
  match given with
  | .text "placeholder" => .valid .placeholder
  | .text "error" => .valid .error
  | .text content =>
      (wholeText given content).andThen fun _ => .fail given (.choice ["placeholder", "error"])
  | _ => .fail given (.choice ["placeholder", "error"])

def ImportSpec.read : Reader ImportSpec :=
  closed "ImportSpec" ["module", "qualified_as"] fun entries =>
    (fun ⟨moduleName, given⟩ qualifiedAs => ⟨moduleName, qualifiedAs, given⟩) <$>
      required "module" nonEmptyText entries <*>
      defaulted "qualified_as" none (nullable text) entries

def ImportSpec.dump (spec : ImportSpec) : Value :=
  mapOf [("module", .text spec.moduleName), ("qualified_as", .ofText? spec.qualifiedAs)]

namespace Config

-- Powers are those of the numbers themselves, whatever else is known of them.
attribute [local instance(2000)] instPowNat instNatPowNat

/-- Three halves of a line. -/
def standardRibbons : Binary64 := .finite false (3 * 2 ^ (51 : Nat)) (-52)

def standard : Config where
  lineLength := 80
  ribbonsPerLine := standardRibbons
  emptyVariant := .placeholder
  strict := false
  imports := []
  lineLength_ge := by decide
  ribbonsPerLine_ge := by decide

def read : Reader Config :=
  closed "ConverterConfig"
    ["line_length", "ribbons_per_line", "empty_variant", "strict", "imports"] fun entries =>
    (fun lineLength ribbonsPerLine emptyVariant strict imports =>
      ⟨lineLength.val, ribbonsPerLine.val, emptyVariant, strict, imports, lineLength.property,
        ribbonsPerLine.property⟩) <$>
      defaulted "line_length" ⟨80, by decide⟩ (integerFrom 20) entries <*>
      defaulted "ribbons_per_line" ⟨standardRibbons, by decide⟩ (realFrom 1) entries <*>
      defaulted "empty_variant" .placeholder EmptyVariantPolicy.read entries <*>
      defaulted "strict" false boolean entries <*>
      defaulted "imports" [] (listOf ImportSpec.read) entries

/-- The name under which the file of the settings is given, which is none of them. -/
def fileName : String := "path"

/-- A second file among the values that are given by name. -/
structure SecondFile where
  deriving DecidableEq, Repr

def SecondFile.message (_ : SecondFile) : String :=
  s!"load_config() got multiple values for argument '{fileName}'"

def acceptOverrides (overrides : List (String × Value)) :
    Except SecondFile (List (String × Value)) :=
  if overrides.any fun (name, _) => name == fileName then .error {} else .ok overrides

/-- Values given by name take the place of those in the data; null gives nothing. -/
def override (entries : Entries) (overrides : List (String × Value)) : Entries :=
  overrides.foldl
    (fun entries (name, content) =>
      match content with
      | .null => entries
      | _ => upsert Value.sameKey (.text name) content entries)
    entries

/-- The greatest number of characters of text on a comment line: the line length divided by the
ribbons and rounded. There is none when the line length lies beyond the floating-point numbers. -/
def textWidth? (config : Config) : Option Int :=
  (Binary64.ofInt? config.lineLength).bind fun length =>
    ((length.divide config.ribbonsPerLine).roundToInt?).map (min config.lineLength)

/-- All settings as data that `read` takes back. -/
def dump (config : Config) : Value :=
  mapOf [("line_length", .int config.lineLength), ("ribbons_per_line", .float config.ribbonsPerLine),
    ("empty_variant", .text config.emptyVariant.name), ("strict", .bool config.strict),
    ("imports", .list (config.imports.map ImportSpec.dump))]

end Config

end RosettaDaml
