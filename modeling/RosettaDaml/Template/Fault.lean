/-
This file names the ways in which a template and its arguments do not go together.
-/

import RosettaDaml.Text.Quoted

namespace RosettaDaml.Template

inductive TemplateFault where
  | incomplete
  | incompleteKey
  | unknownMark (mark : Text.Place) (index : Nat)
  | widthTooBig
  | precisionTooBig
  | noMapping
  | missingKey (key : String)
  | tooFewArguments
  | tooManyArguments
  /-- The argument for a width or a precision is no integer. -/
  | extentNotInteger
  | notReal (mark : Text.Place) (kind : String)
  | notInteger (mark : Text.Place) (kind : String)
  | notFloat (kind : String)
  | notChar
  | notANumber
  /-- The argument is too large for its place. -/
  | overflow
  /-- The text is too long to be kept. -/
  | noRoom
  deriving DecidableEq, Repr

namespace TemplateFault

def markText (mark : Text.Place) : String :=
  String.ofList (if 31 ≤ mark.code && mark.code < 127 then mark.chars else ['?'])

def message : TemplateFault → String
  | .incomplete => "incomplete format"
  | .incompleteKey => "incomplete format key"
  | .unknownMark mark index =>
      let code := String.ofList (Nat.toDigits 16 mark.code)
      s!"unsupported format character '{markText mark}' (0x{code}) at index {index}"
  | .widthTooBig => "width too big"
  | .precisionTooBig => "precision too big"
  | .noMapping => "format requires a mapping"
  | .missingKey key => Text.quoted key
  | .tooFewArguments => "not enough arguments for format string"
  | .tooManyArguments => "not all arguments converted during string formatting"
  | .extentNotInteger => "* wants int"
  | .notReal mark kind => s!"%{markText mark} format: a real number is required, not {kind}"
  | .notInteger mark kind => s!"%{markText mark} format: an integer is required, not {kind}"
  | .notFloat kind => s!"must be real number, not {kind}"
  | .notChar => "%c requires int or char"
  | .notANumber => "cannot convert float NaN to integer"
  | .overflow => ""
  | .noRoom => ""

end TemplateFault

end RosettaDaml.Template
