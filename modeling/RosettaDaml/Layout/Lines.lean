/-
This file puts lines of text together.
-/

import RosettaDaml.Text.Place

namespace RosettaDaml

abbrev Lines := List String

def blanks (count : Nat) : String := String.ofList (List.replicate count ' ')

/-- Every line but an empty one goes to the right. -/
def nest (amount : Nat) (lines : Lines) : Lines :=
  lines.map fun line => if line.isEmpty then line else blanks amount ++ line

/-- The first line goes behind the lead and the others below it. -/
def hang (lead : String) : Lines → Lines
  | [] => [lead]
  | first :: rest => (lead ++ " " ++ first) :: nest (Text.size lead.toList + 1) rest

/-- One empty line stands between two blocks. -/
def joinBlocks : List Lines → Lines
  | [] => []
  | [block] => block
  | block :: rest => block ++ "" :: joinBlocks rest

end RosettaDaml
