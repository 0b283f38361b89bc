/-
This file says why a YAML text has no value.
-/

import RosettaDaml.Data.Calendar
import RosettaDaml.Text.Integer
import RosettaDaml.Text.Quoted

namespace RosettaDaml.Yaml

open RosettaDaml.Data RosettaDaml.Text

/-- A well-formed text with a value that cannot be built. -/
inductive ValueFault where
  | calendar (fault : CalendarFault)
  | integerSyntax (base : Nat) (text : String)
  | integerDigits (count : Nat)
  | realSyntax (text : String)
  /-- A number is multiplied by a power of sixty that is no floating-point number. -/
  | realSize
  | emptyNumber
  | boolean (text : String)
  | timestamp
  /-- A mapping stands where the text of a moment is looked for. -/
  | timestampKind
  | codePoint
  | codePointSize
  /-- A mapping stands for itself, or collections are nested too far. -/
  | tooDeep

inductive Failure where
  /-- A text that breaks the rules of the format. -/
  | malformed
  | undefinedTag (name : String)
  | notUtf8
  | value (fault : ValueFault)

namespace ValueFault

/-- The longest part of a text that is told of one that is no integer. -/
def toldLength : Nat := 200

def message : ValueFault → String
  | .calendar fault => fault.message
  | .integerSyntax base text =>
      s!"invalid literal for int() with base {base}: " ++
        String.ofList ((quoted text).toList.take toldLength)
  | .integerDigits count => tooManyDigits count
  | .realSyntax text => "could not convert string to float: " ++ quoted text
  | .realSize => "int too large to convert to float"
  | .emptyNumber => "string index out of range"
  | .boolean text => quoted text
  | .timestamp => "'NoneType' object has no attribute 'groupdict'"
  | .timestampKind => "expected string or bytes-like object, got 'list'"
  | .codePoint => "chr() arg not in range(0x110000)"
  | .codePointSize => "Python int too large to convert to C int"
  | .tooDeep => "maximum recursion depth exceeded"

end ValueFault

end RosettaDaml.Yaml
