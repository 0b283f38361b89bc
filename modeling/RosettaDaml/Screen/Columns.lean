/-
This file shares the width of a screen among the columns of a table.
-/

import RosettaDaml.Numeric.Binary64
import RosettaDaml.Screen.Cells

namespace RosettaDaml.Screen

-- A sum starts from the number zero itself, whatever else is known of numbers.
attribute [local instance(2000)] Zero.ofOfNat0

/-- A column of a table. Without a width of its own it takes what its cells need. -/
structure Column where
  title : String
  width : Option Nat
  deriving DecidableEq, Repr

/-- The blanks to the left and to the right of a cell. -/
def cellMargin : Nat := 2

/-- The characters that end a line where the width of a text is measured. -/
def isLineEnd (char : Char) : Bool :=
  [0x0A, 0x0B, 0x0C, 0x0D, 0x1C, 0x1D, 0x1E, 0x85, 0x2028, 0x2029].contains char.toNat

/-- The cells that the longest line of a text takes. Tabs and other controls take none here. -/
def textCells (text : String) : Nat :=
  ((Text.splitChars isLineEnd text.toList).map fun line => cellCount (Text.places line)).foldl max 0

/-- A width with its margin, and whether it may become less. -/
structure Share where
  flexible : Bool
  width : Nat
  deriving DecidableEq, Repr

/-- What a column asks for, given the texts in its cells. -/
def Column.share (limit : Nat) (column : Column) (texts : List String) : Share :=
  match column.width with
  | some width => ⟨false, min limit (width + cellMargin)⟩
  | none => ⟨true, min limit ((texts.map textCells).foldl max 0 + cellMargin)⟩

/-- Takes an amount in equal parts off as many of the shares of a width as there are. No part is
larger than allowed. -/
def takeEvenly (width amount allowed : Nat) : Nat → List Share → List Share
  | _, [] => []
  | count, share :: rest =>
      if share.flexible && share.width == width then
        let part := min allowed (Numeric.roundQuotient amount count)
        { share with width := width - part } ::
          takeEvenly width (amount - part) allowed (count - 1) rest
      else share :: takeEvenly width amount allowed count rest

def totalWidth (shares : List Share) : Nat := (shares.map Share.width).sum

def flexibleWidths (shares : List Share) : List Nat :=
  (shares.filter Share.flexible).map Share.width

/-- The widest shares become less until all fit or the next ones are as wide. -/
def shrink (limit : Nat) : Nat → List Share → List Share
  | 0, shares => shares
  | fuel + 1, shares =>
      let excess := totalWidth shares - limit
      let widths := flexibleWidths shares
      let widest := widths.foldl max 0
      let next := (widths.filter (· != widest)).foldl max 0
      if excess = 0 ∨ widest = next then shares
      else
        shrink limit fuel
          (takeEvenly widest excess (min excess (widest - next)) (widths.count widest) shares)

/-- The shares of some columns with the texts in their cells, which together fit into a width. Each
step of the shrinking takes at least one cell. -/
def sharesOf (limit : Nat) (columns : List (Column × List String)) : List Share :=
  let shares := columns.map fun (column, texts) => column.share limit texts
  shrink limit (totalWidth shares) shares

end RosettaDaml.Screen
