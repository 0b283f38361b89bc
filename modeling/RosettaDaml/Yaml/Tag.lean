/-
This file names the types that a YAML node can have and tells the type of a scalar from its text.
-/

import RosettaDaml.Yaml.Cursor

namespace RosettaDaml.Yaml

inductive Tag where
  | null
  | bool
  | int
  | float
  | text
  | binary
  | timestamp
  | sequence
  | mapping
  | set
  | orderedMap
  | pairs
  /-- The key whose value is a mapping to take entries from. -/
  | merge
  /-- The key whose value stands for the whole mapping. -/
  | default
  | other (name : String)
  deriving DecidableEq, Repr

namespace Tag

def lead : String := "tag:yaml.org,2002:"

/-- Every known type under its name. -/
def known : List (String × Tag) :=
  [("null", .null), ("bool", .bool), ("int", .int), ("float", .float), ("str", .text),
   ("binary", .binary), ("timestamp", .timestamp), ("seq", .sequence), ("map", .mapping),
   ("set", .set), ("omap", .orderedMap), ("pairs", .pairs), ("merge", .merge), ("value", .default)]

def ofName (name : String) : Tag :=
  ((known.find? fun entry => lead ++ entry.1 == name).map Prod.snd).getD (.other name)

def name : Tag → String
  | .other name => name
  | tag => lead ++ ((known.find? fun entry => entry.2 == tag).map Prod.fst).getD ""

/-- The type of an indicator that stands alone, for which there are no values. -/
def indicator : Tag := ofName (lead ++ "yaml")

end Tag

/-! The forms of plain scalars. -/

def isPlainDigit (char : Char) : Bool := '0' ≤ char && char ≤ '9'

def isNull (text : String) : Bool := ["", "~", "null", "Null", "NULL"].contains text

def booleanWords : List String :=
  ["yes", "Yes", "YES", "no", "No", "NO", "true", "True", "TRUE", "false", "False", "FALSE",
   "on", "On", "ON", "off", "Off", "OFF"]

def dropSign : List Char → List Char
  | '-' :: rest => rest
  | '+' :: rest => rest
  | rest => rest

def splitAtColons (chars : List Char) : List (List Char) :=
  match chars with
  | [] => [[]]
  | ':' :: rest => [] :: splitAtColons rest
  | char :: rest =>
      match splitAtColons rest with
      | [] => [[char]]
      | piece :: pieces => (char :: piece) :: pieces

/-- A number below sixty in one or two digits. -/
def isSixtieth : List Char → Bool
  | [digit] => isPlainDigit digit
  | [tens, digit] => '0' ≤ tens && tens ≤ '5' && isPlainDigit digit
  | _ => false

def isDigitOrLine (char : Char) : Bool := isPlainDigit char || char == '_'

/-- At least one character, the first of which passes a test of its own. -/
def startsAndGoes (first rest : Char → Bool) : List Char → Bool
  | [] => false
  | char :: more => first char && more.all rest

def isNonZeroDigit (char : Char) : Bool := '1' ≤ char && char ≤ '9'

def isSexagesimal (whole : List Char → Bool) (chars : List Char) : Bool :=
  match splitAtColons chars with
  | first :: second :: rest => whole first && (second :: rest).all isSixtieth
  | _ => false

def isMagnitude : List Char → Bool
  | '0' :: 'b' :: digits => !digits.isEmpty && digits.all fun char => char == '0' || char == '1' || char == '_'
  | '0' :: 'x' :: digits => !digits.isEmpty && digits.all fun char => isHexDigit char || char == '_'
  | ['0'] => true
  | '0' :: digits => digits.all fun char => ('0' ≤ char && char ≤ '7') || char == '_'
  | digits =>
      startsAndGoes isNonZeroDigit isDigitOrLine digits ||
        isSexagesimal (startsAndGoes isNonZeroDigit isDigitOrLine) digits

def isInt (chars : List Char) : Bool := isMagnitude (dropSign chars)

/-- No exponent, or a mark, a sign and digits. -/
def isExponent : List Char → Bool
  | [] => true
  | mark :: sign :: digits =>
      (mark == 'e' || mark == 'E') && (sign == '-' || sign == '+') && !digits.isEmpty &&
        digits.all isPlainDigit
  | _ => false

def isDotted (chars : List Char) : Bool :=
  match chars.span (· != '.') with
  | (whole, _ :: fraction) =>
      startsAndGoes isPlainDigit isDigitOrLine whole && isExponent (fraction.dropWhile isDigitOrLine)
  | _ => false

/-- A point in front of the first digit, which allows no sign. -/
def isPointed : List Char → Bool
  | '.' :: digit :: fraction => isPlainDigit digit && isExponent (fraction.dropWhile isDigitOrLine)
  | _ => false

def isSexagesimalReal (chars : List Char) : Bool :=
  match chars.span (· != '.') with
  | (whole, _ :: fraction) =>
      isSexagesimal (startsAndGoes isPlainDigit isDigitOrLine) whole && fraction.all isDigitOrLine
  | _ => false

def isFloat (chars : List Char) : Bool :=
  isDotted (dropSign chars) || isPointed chars || isSexagesimalReal (dropSign chars) ||
    [".inf", ".Inf", ".INF"].contains (String.ofList (dropSign chars)) ||
    [".nan", ".NaN", ".NAN"].contains (String.ofList chars)

/-! Dates and moments. -/

/-- The parts of a date and, where there is a time, of the time. -/
structure TimeParts where
  hour : List Char
  minute : List Char
  second : List Char
  fraction : List Char
  zone : Option (Bool × List Char × List Char)

structure MomentParts where
  year : List Char
  month : List Char
  day : List Char
  time : Option TimeParts

/-- Between one and two digits, as many as there are. -/
def oneOrTwo? : List Char → Option (List Char × List Char)
  | first :: second :: rest =>
      if isPlainDigit first then
        if isPlainDigit second then some ([first, second], rest) else some ([first], second :: rest)
      else none
  | [first] => if isPlainDigit first then some ([first], []) else none
  | [] => none

def exactly? (count : Nat) (chars : List Char) : Option (List Char × List Char) :=
  let digits := chars.take count
  if digits.length == count && digits.all isPlainDigit then some (digits, chars.drop count) else none

def char? (wanted : Char) : List Char → Option (List Char)
  | char :: rest => if char == wanted then some rest else none
  | [] => none

def isTabOrSpace (char : Char) : Bool := char == ' ' || char == '\t'

/-- A letter or blanks between date and time. -/
def timeMark? : List Char → Option (List Char)
  | [] => none
  | char :: rest =>
      if char == 'T' || char == 't' then some rest
      else if isTabOrSpace char then some (rest.dropWhile isTabOrSpace)
      else none

def zoneMinutes? : List Char → Option (List Char)
  | [] => some []
  | ':' :: rest =>
      match exactly? 2 rest with
      | some (minutes, []) => some minutes
      | _ => none
  | _ => none

/-- Nothing, a letter for the zero meridian, or a sign, hours and minutes. -/
def zone? (chars : List Char) : Option (Option (Bool × List Char × List Char)) :=
  match chars with
  | [] => some none
  | _ =>
      match chars.dropWhile isTabOrSpace with
      | ['Z'] => some (some (false, ['0'], []))
      | sign :: rest =>
          if sign == '-' || sign == '+' then do
            let (hours, rest) ← oneOrTwo? rest
            let minutes ← zoneMinutes? rest
            some (some (sign == '-', hours, minutes))
          else none
      | [] => none

def time? (chars : List Char) : Option TimeParts := do
  let (hour, rest) ← oneOrTwo? chars
  let rest ← char? ':' rest
  let (minute, rest) ← exactly? 2 rest
  let rest ← char? ':' rest
  let (second, rest) ← exactly? 2 rest
  let (fraction, rest) := match rest with
    | '.' :: more => more.span isPlainDigit
    | _ => ([], rest)
  some ⟨hour, minute, second, fraction, ← zone? rest⟩

/-- A text without one line feed at its end. The line feed does not count when the type of a text
is told. -/
def withoutLineEnd (chars : List Char) : List Char :=
  if chars.getLast? == some '\n' then chars.dropLast else chars

/-- A date with month and day in one or two digits, alone or with a time. -/
def moment? (chars : List Char) : Option MomentParts := do
  let (year, rest) ← exactly? 4 chars
  let rest ← char? '-' rest
  let (month, rest) ← oneOrTwo? rest
  let rest ← char? '-' rest
  let (day, rest) ← oneOrTwo? rest
  match rest with
  | [] => some ⟨year, month, day, none⟩
  | _ => some ⟨year, month, day, some (← time? (← timeMark? rest))⟩

/-- A plain date has its month and day in two digits. -/
def isTimestamp (chars : List Char) : Bool :=
  match moment? chars with
  | some ⟨_, month, day, none⟩ => month.length == 2 && day.length == 2
  | some _ => true
  | none => false

def indicators : List String := ["!", "&", "*"]

/-- The type of a text without a tag. -/
def Tag.ofPlain (text : String) : Tag :=
  let chars := if text == "\n" then text.toList else withoutLineEnd text.toList
  let text := String.ofList chars
  if isNull text then .null
  else if booleanWords.contains text then .bool
  else if isFloat chars then .float
  else if isInt chars then .int
  else if isTimestamp chars then .timestamp
  else if text == "<<" then .merge
  else if text == "=" then .default
  else if indicators.contains text then .indicator
  else .text

end RosettaDaml.Yaml
