/-
This file fits texts into the cells of a screen.
-/

import RosettaDaml.Screen.CellTable
import RosettaDaml.Text.Blank
import RosettaDaml.Text.Place

namespace RosettaDaml.Screen

-- A sum starts from the number zero itself, whatever else is known of numbers.
attribute [local instance(2000)] Zero.ofOfNat0

/-- The cells that what stands in a place takes. -/
def cellsOf (place : Text.Place) : Nat :=
  let code := place.code
  if 0x20 ≤ code && code < 0x7F then 1
  else
    match cellRanges.find? fun (first, last, _) => first ≤ code && code ≤ last with
    | some (_, _, cells) => cells
    | none => 1

def cellCount (places : List Text.Place) : Nat := (places.map cellsOf).sum

def blank : Text.Place := .plain ' '

def isBlank : Text.Place → Bool
  | .plain char => Text.isBlank char
  | .half _ => false

/-- How many places to keep so that they take a number of cells, and whether a blank takes the
place of the last one of them. The search halves the range in which the answer lies. -/
def cutLength (places : List Text.Place) (cells : Nat) : Nat → Nat → Nat → Nat × Bool
  | 0, first, _ => (first, false)
  | fuel + 1, first, last =>
      let middle := (first + last) / 2
      let kept := places.take (middle + 1)
      let width := cellCount kept
      if width == cells + 1 && kept.getLast?.map cellsOf == some 2 then (middle + 1, true)
      else if width == cells then (middle + 1, false)
      else if cells < width then cutLength places cells fuel first middle
      else cutLength places cells fuel middle last

/-- The places that take a number of cells, with blanks where there are too few. -/
def fitCells (cells : Nat) (places : List Text.Place) : List Text.Place :=
  let width := cellCount places
  if width ≤ cells then places ++ List.replicate (cells - width) blank
  else
    match cutLength places cells (places.length + 8) 0 places.length with
    | (length, true) => places.take (length - 1) ++ [blank]
    | (length, false) => places.take length

/-- What happens to a word that is wider than its line. -/
inductive Overflow where
  | fold
  | ellipsis
  deriving DecidableEq

/-- The words of a line with the blanks behind them. Blanks in front belong to the first one. -/
def spacedWords (places : List Text.Place) : List (List Text.Place) :=
  match places.splitBy fun place next => !isBlank place || isBlank next with
  | first :: rest =>
      if first.all isBlank then
        match rest with
        | [] => []
        | second :: more => (first ++ second) :: more
      else first :: rest
  | [] => []

def trimEnd (places : List Text.Place) : List Text.Place :=
  (places.reverse.dropWhile isBlank).reverse

/-- The lengths of the parts of a word that each fit into a line, given the length of the first part
so far and its cells. -/
def chopLengths (width : Nat) (length cells : Nat) : List Text.Place → List Nat
  | [] => [length]
  | place :: rest =>
      if width < cells + cellsOf place then length :: chopLengths width 1 (cellsOf place) rest
      else chopLengths width (length + 1) (cells + cellsOf place) rest

/-- Where parts of the given lengths begin. -/
def startsOf (position : Nat) : List Nat → List Nat
  | [] => []
  | length :: rest => position :: startsOf (position + length) rest

/-- The positions in front of which a line is cut, given the words from a position on and the cells
of the line that are taken. -/
def cutsFrom (width : Nat) (overflow : Overflow) (position taken : Nat) :
    List (List Text.Place) → List Nat
  | [] => []
  | word :: rest =>
      let next := position + word.length
      let needed := cellCount (trimEnd word)
      if taken + needed ≤ width then
        cutsFrom width overflow next (taken + cellCount word) rest
      else if width < needed then
        match overflow with
        | .fold =>
            let lengths := chopLengths width 0 0 word
            let last := word.drop (lengths.dropLast.sum)
            (startsOf position lengths).filter (· != 0) ++
              cutsFrom width overflow next (cellCount last) rest
        | .ellipsis =>
            [position].filter (· != 0) ++ cutsFrom width overflow next (cellCount word) rest
      else if taken != 0 && position != 0 then
        position :: cutsFrom width overflow next (cellCount word) rest
      else cutsFrom width overflow next taken rest

/-- The parts of a line between cuts, the first of which lies behind as many places as given. -/
def divideFrom (position : Nat) (places : List Text.Place) : List Nat → List (List Text.Place)
  | [] => [places]
  | cut :: cuts =>
      places.take (cut - position) :: divideFrom cut (places.drop (cut - position)) cuts

/-- Blanks at the end that lie beyond the width are left out. -/
def dropEndBlanks (width : Nat) (places : List Text.Place) : List Text.Place :=
  let blanks := (places.reverse.takeWhile isBlank).length
  places.take (places.length - min blanks (places.length - width))

def clip (width : Nat) (overflow : Overflow) (places : List Text.Place) : List Text.Place :=
  if cellCount places ≤ width then places
  else
    match overflow with
    | .fold => fitCells width places
    | .ellipsis => fitCells (width - 1) places ++ [.plain '…']

def tabWidth : Nat := 8

/-- Blanks in place of tabs, up to the next multiple of the tab width. -/
def expandTabs (taken : Nat) : List Text.Place → List Text.Place
  | [] => []
  | place :: rest =>
      if place == .plain '\t' then
        let blanks := tabWidth - taken % tabWidth
        List.replicate blanks blank ++ expandTabs (taken + blanks) rest
      else place :: expandTabs (taken + cellsOf place) rest

/-- The lines that a screen of some width makes of a line. -/
def wrapLine (width : Nat) (overflow : Overflow) (line : List Text.Place) :
    List (List Text.Place) :=
  let line := expandTabs 0 line
  let cuts := cutsFrom width overflow 0 0 (spacedWords line)
  (divideFrom 0 line cuts).map fun part => clip width overflow (dropEndBlanks width part)

/-- The lines of a text on a screen of some width. -/
def wrap (width : Nat) (overflow : Overflow) (text : String) : List String :=
  (Text.splitChars (· == '\n') text.toList).flatMap fun line =>
    (wrapLine width overflow (Text.places line)).map fun line => String.ofList (Text.ofPlaces line)

end RosettaDaml.Screen
