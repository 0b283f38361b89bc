/-
This file writes a text between quotes, with the characters that would not show spelled out.
-/

import RosettaDaml.Text.Place
import RosettaDaml.Text.Printable

namespace RosettaDaml.Text

/-- The single quote, unless the text holds one and no double quote. -/
def quoteMark (chars : List Char) : Char :=
  if chars.contains '\'' && !chars.contains '"' then '"' else '\''

/-- The last `width` hexadecimal digits of a number. -/
def hexDigits : Nat → Nat → List Char
  | 0, _ => []
  | width + 1, number => hexDigits width (number / 16) ++ [Nat.digitChar (number % 16)]

/-- A code point by its number. -/
def spellCode (code : Nat) : List Char :=
  if code ≤ 0xFF then '\\' :: 'x' :: hexDigits 2 code
  else if code ≤ 0xFFFF then '\\' :: 'u' :: hexDigits 4 code
  else '\\' :: 'U' :: hexDigits 8 code

def escapeChar (mark char : Char) : List Char :=
  if char == mark || char == '\\' then ['\\', char]
  else if char == '\n' then ['\\', 'n']
  else if char == '\r' then ['\\', 'r']
  else if char == '\t' then ['\\', 't']
  else if isPrintable char then [char]
  else spellCode char.toNat

def escape (mark : Char) : Place → List Char
  | .plain char => escapeChar mark char
  | .half number => spellCode (Place.half number).code

def quoted (text : String) : String :=
  let mark := quoteMark text.toList
  String.ofList (mark :: (places text.toList).flatMap (escape mark) ++ [mark])

/-- A text with its halves of surrogate pairs spelled out. -/
def spellHalves (text : String) : String :=
  writePlaces (fun place => if place.isHalf then spellCode place.code else place.chars) text

/-- A text with all characters spelled out that are not plain ones. -/
def spellForeign (text : String) : String :=
  writePlaces (fun place => if place.code < 0x80 then place.chars else spellCode place.code) text

end RosettaDaml.Text
