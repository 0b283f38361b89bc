/-
This file holds the characters of a YAML file. They come in blocks, and what is wrong with a block
is met only when the first of its characters is needed.
-/

import RosettaDaml.Text.Place
import RosettaDaml.Text.Utf8
import RosettaDaml.Yaml.Failure

namespace RosettaDaml.Yaml

open RosettaDaml.Text

/-- The characters that can be read, and why there are no more of them; without a reason, the text
ends there. -/
structure Source where
  chars : List Char
  ending : Option Failure

namespace Source

/-- A line may end with a carriage return, with a line feed, or with both in this order. -/
def unifyLines : List Char → List Char
  | [] => []
  | '\r' :: '\n' :: rest => '\n' :: unifyLines rest
  | '\r' :: rest => '\n' :: unifyLines rest
  | char :: rest => char :: unifyLines rest

def isAllowed (char : Char) : Bool :=
  let code := char.toNat
  code == 0x09 || code == 0x0A || code == 0x0D || (0x20 ≤ code && code ≤ 0x7E) || code == 0x85 ||
    (0xA0 ≤ code && code ≤ 0xD7FF) || (0xE000 ≤ code && code ≤ 0xFFFD) || 0x10000 ≤ code

/-! Blocks of characters. -/

def blockLength : Nat := 4096

/-- The first character of the block that holds a position. The first two blocks come as one. -/
def blockStart (position : Nat) : Nat :=
  if position < 2 * blockLength then 0 else position / blockLength * blockLength

/-- Characters up to the block of the first one that is not allowed, or all of them. -/
def ofChars (chars : List Char) (ending : Option Failure) : Source :=
  match chars.findIdx? fun char => !isAllowed char with
  | some position => ⟨chars.take (blockStart position), some .malformed⟩
  | none => ⟨chars, ending⟩

/-! Portions of bytes. -/

/-- Bytes are taken in portions of this length, or of more when characters take many bytes. -/
def portionLength : Nat := 8192

/-- How far bytes have been taken and turned into characters. -/
structure Intake where
  bytesTaken : Nat
  charsMade : Nat
  /-- A carriage return at the end of a portion waits for what follows it. -/
  waiting : Bool
  /-- The bytes and the characters of the last portion. -/
  lastBytes : Nat
  lastChars : Nat

namespace Intake

-- A sum starts from the number zero itself, whatever else is known of numbers.
attribute [local instance(2000)] Zero.ofOfNat0

/-- The bytes that are asked for so that the current block of characters gets full. -/
def portion (intake : Intake) : Nat :=
  let missing := blockLength - intake.charsMade % blockLength
  max portionLength (if intake.lastChars = 0 then 0 else intake.lastBytes * missing / intake.lastChars)

/-- The characters that end within a number of bytes, and those behind them. -/
def charsWithin (size : Nat) : List Char → List Char × List Char
  | [] => ([], [])
  | char :: rest =>
      if size < char.utf8Size then ([], char :: rest)
      else
        let (within, behind) := charsWithin (size - char.utf8Size) rest
        (char :: within, behind)

/-- Adds a portion of bytes with the characters that end in it. -/
def add (intake : Intake) (bytes : Nat) (chars : List Char) : Intake :=
  let chars := if intake.waiting then '\r' :: chars else chars
  let waiting := chars.getLast? == some '\r'
  let made := (unifyLines (if waiting then chars.dropLast else chars)).length
  ⟨intake.bytesTaken + bytes, intake.charsMade + made, waiting, bytes, made⟩

/-- The characters that are made before a portion shows that the bytes are not well-formed. -/
def madeBefore (total seen : Nat) : Nat → Nat → Intake → List Char → Nat
  | 0, _, intake, _ => intake.charsMade
  | fuel + 1, decoded, intake, chars =>
      let taken := min (intake.bytesTaken + intake.portion) total
      if seen < taken || intake.bytesTaken == total then intake.charsMade
      else
        let (within, behind) := charsWithin (taken - decoded) chars
        let width := (within.map Char.utf8Size).sum
        madeBefore total seen fuel (decoded + width) (intake.add (taken - intake.bytesTaken) within)
          behind

end Intake

/-- Bytes that are not well-formed: what comes before the block in which this is met. -/
def ofBrokenBytes (bytes : List UInt8) : Source :=
  let (chars, seen) := Utf8.decode bytes
  let made := Intake.madeBefore bytes.length seen (bytes.length + 1) 0 ⟨0, 0, false, 0, 0⟩ chars.toList
  ofChars ((unifyLines chars.toList).take (blockStart made)) (some .notUtf8)

def ofBytes (bytes : ByteArray) : Source :=
  match String.fromUTF8? bytes with
  | some text => ofChars (unifyLines text.toList) none
  | none => ofBrokenBytes bytes.toList

end Source

end RosettaDaml.Yaml
