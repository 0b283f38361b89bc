/-
This file writes a text in small and in capital letters.
-/

import RosettaDaml.Text.CaseTable

namespace RosettaDaml.Text

def inRanges (ranges : List (Nat × Nat)) (char : Char) : Bool :=
  ranges.any fun (first, last) => first ≤ char.toNat && char.toNat ≤ last

/-- The form of a character in the run that holds it, or the character itself. -/
def shiftIn (runs : List (Nat × Nat × Nat × Int)) (char : Char) : Char :=
  let code := char.toNat
  match runs.find? fun (first, last, step, _) =>
      first ≤ code && code ≤ last && (code - first) % step == 0 with
  | some (_, _, _, distance) => Char.ofNat (code + distance).toNat
  | none => char

/-- The small form of a character that stands alone. The capital I with a dot keeps its dot. -/
def lowerChar (char : Char) : List Char :=
  if char.toNat < 0x80 then [char.toLower]
  else if char.toNat = 0x130 then ['i', Char.ofNat 0x307]
  else [shiftIn lowerRuns char]

def upperChar (char : Char) : List Char :=
  if char.toNat < 0x80 then [char.toUpper]
  else
    match upperExpansions.lookup char.toNat with
    | some codes => codes.map Char.ofNat
    | none => [shiftIn upperRuns char]

/-- Whether the nearest character that counts is a letter with case. -/
def meetsLetter (chars : List Char) : Bool :=
  match chars.dropWhile (inRanges caseIgnorableRanges) with
  | [] => false
  | char :: _ => inRanges casedRanges char

/-- The small letters of a text behind others, given in reverse. A sigma at the end of a word has
a form of its own. -/
def lowerFrom (before : List Char) : List Char → List Char
  | [] => []
  | char :: rest =>
      (if char.toNat = 0x3A3 then
        [Char.ofNat (if meetsLetter before && !meetsLetter rest then 0x3C2 else 0x3C3)]
      else lowerChar char) ++ lowerFrom (char :: before) rest

def lower (text : String) : String := String.ofList (lowerFrom [] text.toList)

def upper (text : String) : String := String.ofList (text.toList.flatMap upperChar)

end RosettaDaml.Text
