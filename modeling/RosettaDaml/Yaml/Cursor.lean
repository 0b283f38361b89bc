/-
This file moves through the characters of a YAML text and keeps count of lines and columns.
-/

import RosettaDaml.Yaml.Source

namespace RosettaDaml.Yaml

/-- The characters that are left, their number, why there are no more of them, and where the first
of them stands. -/
structure Cursor where
  rest : List Char
  left : Nat
  ending : Option Failure
  line : Nat
  column : Nat

abbrev Scan := StateT Cursor (Except Failure)

/-- No text holds this character; it is what stands behind the end. -/
def endMark : Char := '\x00'

def isBreak (char : Char) : Bool :=
  char == '\n' || char == '\r' || char == '\x85' || char == '\u2028' || char == '\u2029'

def isBreakOrEnd (char : Char) : Bool := isBreak char || char == endMark

def isSpaceBreakOrEnd (char : Char) : Bool := char == ' ' || isBreakOrEnd char

/-- What may stand behind an indicator. -/
def isGap (char : Char) : Bool := char == '\t' || isSpaceBreakOrEnd char

def isWordChar (char : Char) : Bool :=
  ('0' ≤ char && char ≤ '9') || ('A' ≤ char && char ≤ 'Z') || ('a' ≤ char && char ≤ 'z') ||
    char == '-' || char == '_'

def isHexDigit (char : Char) : Bool :=
  ('0' ≤ char && char ≤ '9') || ('A' ≤ char && char ≤ 'F') || ('a' ≤ char && char ≤ 'f')

def byteOrderMark : Char := '\ufeff'

namespace Cursor

def charAt (cursor : Cursor) (offset : Nat) : Char := (cursor.rest.drop offset).headD endMark

/-- A carriage return ends a line unless a line feed follows; a byte order mark has no width. -/
def step (cursor : Cursor) : Cursor :=
  match cursor.rest with
  | [] => cursor
  | char :: rest =>
      let next : Cursor := { cursor with rest, left := cursor.left - 1 }
      if isBreak char && !(char == '\r' && rest.headD endMark == '\n') then
        { next with line := cursor.line + 1, column := 0 }
      else if char == byteOrderMark then next
      else { next with column := cursor.column + 1 }

def advance : Nat → Cursor → Cursor
  | 0, cursor => cursor
  | count + 1, cursor => advance count cursor.step

/-- The start of a source, behind a byte order mark. -/
def ofSource (source : Source) : Cursor :=
  let cursor : Cursor := ⟨source.chars, source.chars.length, source.ending, 0, 0⟩
  if cursor.charAt 0 == byteOrderMark then cursor.step else cursor

end Cursor

/-- Asks for some characters; those behind the end of the text are there, too. -/
def reach (count : Nat) : Scan Unit := do
  let cursor ← get
  if cursor.left < count then
    if let some failure := cursor.ending then throw failure

def peekAt (offset : Nat) : Scan Char := do
  reach (offset + 1)
  return (← get).charAt offset

def peek : Scan Char := peekAt 0

/-- More steps than characters are left. -/
def enough : Scan Nat := return (← get).left + 2

/-- Leaves some characters behind. The one that comes next must be there. -/
def forward (count : Nat) : Scan Unit := do
  reach (count + 1)
  modify (Cursor.advance count)

def malformed {Content : Type} : Scan Content := throw .malformed

def demand (holds : Bool) : Scan Unit := if holds then pure () else malformed

/-- The longest run of characters that pass, with the one that ends it still to come. -/
def runOf (passes : Char → Bool) : Scan (List Char) := do
  let run := (← get).rest.takeWhile passes
  reach (run.length + 1)
  return run

/-- The longest run of characters that pass, which is left behind. -/
def takeRun (passes : Char → Bool) : Scan (List Char) := do
  let run ← runOf passes
  forward run.length
  return run

/-- Some characters before a count is reached that pass. -/
def skipUpTo (passes : Char → Bool) : Nat → Scan Unit
  | 0 => pure ()
  | count + 1 => do
      if passes (← peek) then
        forward 1
        skipUpTo passes count

/-- A line break, as it counts in a text; no characters where there is none. -/
def lineBreak : Scan (List Char) := do
  let char ← peek
  if char == '\r' && (← peekAt 1) == '\n' then
    forward 2
    return ['\n']
  else if char == '\u2028' || char == '\u2029' then
    forward 1
    return [char]
  else if isBreak char then
    forward 1
    return ['\n']
  else return []

/-- Whether a document marker made of three equal characters stands at the start of a line. -/
def isMarker (char : Char) : Scan Bool := do
  reach 3
  if (← get).rest.take 3 == [char, char, char] then return isGap (← peekAt 3) else return false

def atSeparator : Scan Bool := do
  if ← isMarker '-' then return true else isMarker '.'

def hexNumber (digits : List Char) : Nat :=
  digits.foldl
    (fun total char =>
      16 * total +
        (if char ≤ '9' then char.toNat - '0'.toNat
         else if char ≤ 'F' then char.toNat - 'A'.toNat + 10
         else char.toNat - 'a'.toNat + 10))
    0

/-- The rest of a line with at most a comment on it. -/
def endOfLine : Scan Unit := do
  let _ ← takeRun (· == ' ')
  if (← peek) == '#' then
    let _ ← takeRun (!isBreak ·)
  demand (isBreakOrEnd (← peek))
  let _ ← lineBreak

end RosettaDaml.Yaml
