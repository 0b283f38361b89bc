/-
This file reads values from JSON text and writes JSON text.
-/

import RosettaDaml.Data.Value
import RosettaDaml.Numeric.DecimalText
import RosettaDaml.Text.Place

namespace RosettaDaml.Data

open RosettaDaml.Numeric

/-- What can be written. The entries of an object keep their order. -/
inductive Json where
  | null
  | bool (truth : Bool)
  | int (number : Int)
  | text (content : String)
  | list (items : List Json)
  | object (entries : List (String × Json))
  deriving Inhabited

namespace Json

def texts (texts : List String) : Json := .list (texts.map .text)

def text? : Option String → Json
  | none => .null
  | some content => .text content

/-! Writing. -/

def escape : Text.Place → List Char
  | .half number => '\\' :: 'u' :: Text.hexDigits 4 (Text.Place.half number).code
  | .plain char =>
      if char == '"' || char == '\\' then ['\\', char]
      else if char.toNat < 0x20 || char.toNat == 0x7F then
        '\\' :: 'u' :: Text.hexDigits 4 char.toNat
      else [char]

def writeText (content : String) : String :=
  String.ofList ('"' :: (Text.places content.toList).flatMap escape ++ ['"'])

mutual

def write : Json → String
  | .null => "null"
  | .bool truth => if truth then "true" else "false"
  | .int number => toString number
  | .text content => writeText content
  | .list items => "[" ++ ",".intercalate (writeItems items) ++ "]"
  | .object entries => "\x7b" ++ ",".intercalate (writeEntries entries) ++ "\x7d"

def writeItems : List Json → List String
  | [] => []
  | item :: rest => item.write :: writeItems rest

def writeEntries : List (String × Json) → List String
  | [] => []
  | entry :: rest => writeEntry entry :: writeEntries rest

def writeEntry : String × Json → String
  | (name, content) => writeText name ++ ":" ++ content.write

end

/-! Reading. -/

def isSpace (char : Char) : Bool := [' ', '\t', '\r', '\n'].contains char

def hexCode (digits : List Char) : Nat :=
  digits.foldl
    (fun code digit =>
      16 * code +
        (if digit.isDigit then digit.toNat - '0'.toNat else digit.toLower.toNat - 'a'.toNat + 10))
    0

/-- The character of two halves of a surrogate pair. -/
def ofHalves (high low : Nat) : Char :=
  Char.ofNat (0x10000 + (high - 0xD800) * 0x400 + (low - 0xDC00))

def escaped (char : Char) : Char :=
  match char with
  | 'n' => '\n'
  | 't' => '\t'
  | 'r' => '\r'
  | 'b' => '\x08'
  | 'f' => '\x0c'
  | other => other

/-- The text up to the closing quote behind the places that are read of it, the last one first, and
what follows. -/
def readText? (read : List Text.Place) : Nat → List Char → Option (String × List Char)
  | 0, _ => none
  | fuel + 1, chars =>
      match chars with
      | '"' :: rest => some (String.ofList (Text.ofPlaces read.reverse), rest)
      | '\\' :: 'u' :: a :: b :: c :: d :: rest =>
          let code := hexCode [a, b, c, d]
          match rest with
          | '\\' :: 'u' :: e :: f :: g :: h :: more =>
              let low := hexCode [e, f, g, h]
              if 0xD800 ≤ code && code < 0xDC00 && 0xDC00 ≤ low && low < 0xE000 then
                readText? (.plain (ofHalves code low) :: read) fuel more
              else readText? (.ofCode code :: read) fuel rest
          | _ => readText? (.ofCode code :: read) fuel rest
      | '\\' :: char :: rest => readText? (.plain (escaped char) :: read) fuel rest
      | char :: rest => readText? (.plain char :: read) fuel rest
      | [] => none

/-- A number with a point or an exponent is not an integer. -/
def readNumber? (chars : List Char) : Option (Value × List Char) :=
  let (digits, rest) := chars.span fun char =>
    char.isDigit || ['-', '+', '.', 'e', 'E'].contains char
  if digits.any fun char => ['.', 'e', 'E'].contains char then
    (decimal? digits).map fun number => (.float number, rest)
  else
    let (negative, magnitude) := Text.splitSign digits
    some (.int (Text.signed negative (plainDigits magnitude)), rest)

/-- The words for values, among them the numbers that are none. -/
def words : List (String × Value) :=
  [("true", .bool true), ("false", .bool false), ("null", .null), ("NaN", .float .nan),
   ("Infinity", .float (.infinite false)), ("-Infinity", .float (.infinite true))]

mutual

def readValue? : Nat → List Char → Option (Value × List Char)
  | 0, _ => none
  | fuel + 1, chars =>
      match chars.dropWhile isSpace with
      | '\x7b' :: rest =>
          match rest.dropWhile isSpace with
          | '\x7d' :: more => some (.map [], more)
          | more => readEntries? [] fuel more
      | '[' :: rest =>
          match rest.dropWhile isSpace with
          | ']' :: more => some (.list [], more)
          | more => readItems? [] fuel more
      | '"' :: rest =>
          (readText? [] (fuel + 1) rest).map fun (content, more) => (.text content, more)
      | rest =>
          match words.find? fun word => word.1.toList.isPrefixOf rest with
          | some (word, value) => some (value, rest.drop word.length)
          | none => readNumber? rest

def readItems? (read : List Value) : Nat → List Char → Option (Value × List Char)
  | 0, _ => none
  | fuel + 1, chars => do
      let (item, rest) ← readValue? fuel chars
      match rest.dropWhile isSpace with
      | ',' :: more => readItems? (item :: read) fuel more
      | ']' :: more => some (.list (item :: read).reverse, more)
      | _ => none

/-- A repeated key keeps its first place and takes the last value. -/
def readEntries? (read : List (Value × Value)) : Nat → List Char → Option (Value × List Char)
  | 0, _ => none
  | fuel + 1, chars => do
      let (key, rest) ← readValue? fuel chars
      match rest.dropWhile isSpace with
      | ':' :: rest =>
          let (content, rest) ← readValue? fuel rest
          let read := upsert Value.sameKey key content read
          match rest.dropWhile isSpace with
          | ',' :: more => readEntries? read fuel more
          | '\x7d' :: more => some (.map read, more)
          | _ => none
      | _ => none

end

/-- The value at the start of a text. -/
def read? (text : String) : Option Value :=
  (readValue? (text.length + 1) text.toList).map Prod.fst

end Json

end RosettaDaml.Data
