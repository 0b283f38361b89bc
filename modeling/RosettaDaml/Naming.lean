/-
This file keeps names of a schema away from the names that DAML gives a meaning.
-/

namespace RosettaDaml

def typeRenames : List (String × String) :=
  [("Event", "EventData"), ("Contract", "ContractData"), ("Party", "PartyData")]

def fieldRenames : List (String × String) :=
  [("type", "typ"), ("exercise", "exe")]

/-- The keywords of DAML. -/
def keywords : List String :=
  ["agreement", "as", "case", "choice", "class", "controller", "data", "deriving", "do", "else",
   "ensure", "exercise", "hiding", "if", "import", "in", "infix", "infixl", "infixr", "instance",
   "interface", "key", "let", "maintainer", "module", "nonconsuming", "observer", "of",
   "preconsuming", "postconsuming", "qualified", "signatory", "template", "then", "type", "where",
   "with"]

def renameWith (renames : List (String × String)) (name : String) : String :=
  (renames.lookup name).getD name

def renameType (name : String) : String := renameWith typeRenames name

def renameField (name : String) : String := renameWith fieldRenames name

def isKeyword (name : String) : Bool := keywords.contains name

end RosettaDaml
