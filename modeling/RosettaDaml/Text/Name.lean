/-
This file says which characters make up names and words.
-/

import RosettaDaml.Text.Case
import RosettaDaml.Text.NameTable

namespace RosettaDaml.Text

def isPlainNameChar (char : Char) : Bool := char.isAlphanum || char == '_'

def isNameStart (char : Char) : Bool :=
  char.isAlpha || char == '_' || inRanges nameStartRanges char

def isNameChar (char : Char) : Bool :=
  isPlainNameChar char || inRanges nameStartRanges char || inRanges nameMoreRanges char

/-- Letters and numbers of every script, and the low line. -/
def isWordChar (char : Char) : Bool :=
  isPlainNameChar char || inRanges numberRanges char ||
    (inRanges nameStartRanges char && !inRanges symbolRanges char)

/-- The first character of some that keeps them from being a name. -/
def strangeChar? : List Char → Option Char
  | [] => none
  | first :: rest => if isNameStart first then rest.find? (!isNameChar ·) else some first

end RosettaDaml.Text
