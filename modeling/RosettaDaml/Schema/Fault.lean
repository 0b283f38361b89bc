/-
This file says what can be wrong with data that is read into a model, where, and in which words.
-/

import RosettaDaml.Schema.Cardinality

namespace RosettaDaml

open RosettaDaml.Data

/-- One step down into a value. -/
inductive Step where
  | key (name : String)
  | index (position : Int)
  /-- A truth value where an index could stand. -/
  | flag (truth : Bool)
  deriving DecidableEq, Repr

abbrev Location := List Step

def Step.text : Step → String
  | .key name => name
  | .index position => toString position
  | .flag truth => (Value.bool truth).literal

namespace Location

/-- A dot stands before each key but a first one. What is no key stands in brackets. -/
def pathFrom (started : Bool) : Location → String
  | [] => ""
  | .key name :: rest => (if started then "." else "") ++ name ++ pathFrom true rest
  | step :: rest => s!"[{step.text}]" ++ pathFrom true rest

def path (location : Location) : String := pathFrom false location

def dotted (location : Location) : String :=
  ".".intercalate (location.map Step.text)

end Location

inductive FaultCause where
  | missing
  | unknownKey
  | keyNotText
  | notText
  | textNotUnicode
  | emptyText
  | notInteger
  | integerSyntax
  | integerSize
  | fractional
  | notFinite
  | notNumber
  | numberSyntax
  | notBoolean
  | booleanSyntax
  /-- The value is none of the allowed words. -/
  | choice (allowed : List String)
  | kind (expected : String)
  | notList
  | notTags
  | below (bound : Nat)
  | belowReal (bound : Nat)
  | notModel (model : String)
  | bounds (fault : BoundFault)

/-- What is wrong, where, and with which value. -/
structure Fault where
  location : Location
  cause : FaultCause
  given : Value

/-- A fault in words: a code, a message and the details it was made from. -/
structure Notice where
  code : String
  message : String
  context : List (String × Value)

namespace FaultCause

def quotedChoices (allowed : List String) : String :=
  " or ".intercalate (allowed.map Text.quoted)

def notice : FaultCause → Notice
  | .missing => ⟨"missing", "Field required", []⟩
  | .unknownKey => ⟨"extra_forbidden", "Extra inputs are not permitted", []⟩
  | .keyNotText => ⟨"invalid_key", "Keys should be strings", []⟩
  | .notText => ⟨"string_type", "Input should be a valid string", []⟩
  | .textNotUnicode =>
      ⟨"string_unicode",
        "Input should be a valid string, unable to parse raw data as a unicode string", []⟩
  | .emptyText =>
      ⟨"string_too_short", "String should have at least 1 character", [("min_length", .int 1)]⟩
  | .notInteger => ⟨"int_type", "Input should be a valid integer", []⟩
  | .integerSyntax =>
      ⟨"int_parsing", "Input should be a valid integer, unable to parse string as an integer", []⟩
  | .integerSize =>
      ⟨"int_parsing_size",
        "Unable to parse input string as an integer, exceeded maximum size", []⟩
  | .fractional =>
      ⟨"int_from_float",
        "Input should be a valid integer, got a number with a fractional part", []⟩
  | .notFinite => ⟨"finite_number", "Input should be a finite number", []⟩
  | .notNumber => ⟨"float_type", "Input should be a valid number", []⟩
  | .numberSyntax =>
      ⟨"float_parsing", "Input should be a valid number, unable to parse string as a number", []⟩
  | .notBoolean => ⟨"bool_type", "Input should be a valid boolean", []⟩
  | .booleanSyntax =>
      ⟨"bool_parsing", "Input should be a valid boolean, unable to interpret input", []⟩
  | .choice allowed =>
      ⟨"enum", s!"Input should be {quotedChoices allowed}",
        [("expected", .text (quotedChoices allowed))]⟩
  | .kind expected =>
      ⟨"literal_error", s!"Input should be {Text.quoted expected}",
        [("expected", .text (Text.quoted expected))]⟩
  | .notList => ⟨"list_type", "Input should be a valid list", []⟩
  | .notTags => ⟨"frozen_set_type", "Input should be a valid frozenset", []⟩
  | .below bound =>
      ⟨"greater_than_equal", s!"Input should be greater than or equal to {bound}",
        [("ge", .int bound)]⟩
  | .belowReal bound =>
      ⟨"greater_than_equal", s!"Input should be greater than or equal to {bound}",
        [("ge", .float (.ofInt bound))]⟩
  | .notModel model =>
      ⟨"model_type", s!"Input should be a valid dictionary or instance of {model}",
        [("class_name", .text model)]⟩
  | .bounds fault =>
      ⟨"value_error", Text.withoutHalves s!"Value error, {fault.message}",
        [("error", .text fault.message)]⟩

end FaultCause

/-- A value that stands where the details of a notice should be. -/
structure NoDetails where
  given : Value

def NoDetails.message (fault : NoDetails) : String :=
  s!"'{fault.given.kindName}' object has no attribute 'get'"

/-- Details by their names. A value with nothing in it counts as none. -/
def detailsOf (given : Value) : Except NoDetails (List (String × Value)) :=
  match given with
  | .map entries => .ok (entries.map fun (key, content) => (key.display, content))
  | _ => if given.isNothing then .ok [] else .error ⟨given⟩

namespace Notice

def detail? (notice : Notice) (name : String) : Option Value :=
  notice.context.lookup name

/-- A detail in words, or other words where there is none. -/
def detailOr (notice : Notice) (name absent : String) : String :=
  ((notice.detail? name).map Value.display).getD absent

/-- The message in plain words for those codes that have one. -/
def plain (notice : Notice) : String :=
  match notice.code with
  | "missing" => "This field is required but was not provided"
  | "extra_forbidden" => "This field is not allowed in this context"
  | "string_type" => "Must be a string"
  | "int_type" => "Must be an integer"
  | "int_parsing" => "Must be an integer"
  | "list_type" => "Must be a list"
  | "dict_type" => "Must be an object/dictionary"
  | "frozen_set_type" => "Must be a list of tags"
  | "union_tag_invalid" => "Unknown declaration kind"
  | "literal_error" => "Must be one of: " ++ notice.detailOr "expected" "unknown"
  | "string_too_short" => "Must be at least " ++ notice.detailOr "min_length" "0" ++ " characters"
  | "greater_than_equal" => "Must be greater than or equal to " ++ notice.detailOr "ge" "0"
  | "value_error" =>
      match notice.detail? "error" with
      | none => "Invalid value"
      | some .null => "Invalid value"
      | some reason => s!"Invalid value: {reason.display}"
  | _ => notice.message

def suggestion? (notice : Notice) : Option String :=
  match notice.code with
  | "missing" => some "Add the required field to the schema file"
  | "extra_forbidden" => some "Remove this field or check for typos"
  | "literal_error" =>
      some ("Use one of the allowed values: " ++ notice.detailOr "expected" "check documentation")
  | "value_error" =>
      some "Cardinalities look like '0..*', '(1..1)' or \x7blower: 0, upper: '*'\x7d"
  | _ => none

end Notice

def Fault.notice (fault : Fault) : Notice := fault.cause.notice

/-- A fault on one line: the place, a colon and the message. -/
def Fault.line (fault : Fault) : String :=
  s!"{fault.location.dotted}: {fault.notice.message}"

/-! All faults of a value as one text. -/

/-- The number of faults and the model that has them. -/
def faultsTitle (model : String) (count : Nat) : String :=
  let noun := if count = 1 then "error" else "errors"
  s!"{count} validation {noun} for {model}"

/-- The longest run of characters at the front that takes at most a number of bytes. -/
def takeBytes (size : Nat) : List Char → List Char
  | [] => []
  | char :: rest =>
      if char.utf8Size ≤ size then char :: takeBytes (size - char.utf8Size) rest else []

/-- A text of at most fifty bytes, or the beginning and the end of a longer one. -/
def shortened (text : String) : String :=
  if text.utf8ByteSize ≤ 50 then text
  else
    let chars := text.toList
    String.ofList (takeBytes 25 chars ++ "...".toList ++ (takeBytes 24 chars.reverse).reverse)

/-- A value as it stands in a text on its faults. -/
def givenText (given : Value) : String :=
  if given.isWritable then shortened given.literal
  else s!"<unprintable {given.kindName} object>"

namespace Fault

/-- A step with a dot in its name stands between backquotes. -/
def stepText (step : Step) : String :=
  if step.text.contains '.' then "\x60" ++ step.text ++ "\x60" else step.text

def placeText (fault : Fault) : String :=
  if fault.location.isEmpty then ""
  else ".".intercalate (fault.location.map stepText) ++ "\n"

def details (fault : Fault) : String :=
  let notice := fault.notice
  s!"{fault.placeText}  {notice.message} [type={notice.code}, " ++
    s!"input_value={givenText fault.given}, input_type={fault.given.kindName}]\n" ++
    s!"    For further information visit the description of all error codes/{notice.code}"

end Fault

def faultsText (model : String) (faults : List Fault) : String :=
  "\n".intercalate (faultsTitle model faults.length :: faults.map Fault.details)

end RosettaDaml
