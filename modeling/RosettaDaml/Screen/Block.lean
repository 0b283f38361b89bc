/-
This file holds what is written on a screen, and its lines. How the lines are laid out is left to
the screen.
-/

import RosettaDaml.Screen.Columns
import RosettaDaml.Screen.Markup
import RosettaDaml.Text.Quoted

namespace RosettaDaml.Screen

/-- A text that is shown as it is, or one with tags. -/
inductive Label where
  | raw (text : String)
  | marked (text : String)
  deriving DecidableEq, Repr

def Label.shown : Label → Except MarkupFault String
  | .raw text => .ok (Screen.raw text)
  | .marked text => plain text

inductive Block where
  | text (content : Label)
  | panel (title : String) (content : Label)
  | table (title : String) (columns : List Column) (rows : List (List Label))
  | tree (label : String) (branches : List (Label × List Label))
  deriving DecidableEq, Repr

/-- The cells of a line on a screen that is wide enough for almost everything. It is only what the
functions below take when no width is given. -/
def screenWidth : Nat := 4000

def linesOf (text : String) : List String := Text.splitAtChar '\n' text

/-- The lines of the cells of a row, side by side. -/
def rowLines (cells : List (List String)) : List String :=
  let height := (cells.map List.length).foldl max 0
  (List.range height).map fun index => " ".intercalate (cells.filterMap fun cell => cell[index]?)

namespace Block

/-- A text with tags. -/
def marked (text : String) : Block := .text (.marked text)

/-- The cells that decide about the width of their columns, column by column. -/
def measuredCells (columns : List Column) (rows : List (List Label)) : List Label :=
  columns.zipIdx.flatMap fun (column, index) =>
    if column.width.isSome then [] else rows.filterMap fun row => row[index]?

/-- A table whose columns have titles has a frame: an edge on both sides, and bars in between. -/
def frameWidth (columns : List Column) : Nat :=
  if columns.all fun column => column.title.isEmpty then 0 else columns.length + 1

/-- The lines of the cells of a row. A word that is too wide for its column ends in an ellipsis. -/
def fittedRow (shares : List Share) (texts : List String) : List String :=
  rowLines ((shares.zip texts).map fun (share, content) =>
    wrap (share.width - cellMargin) .ellipsis content)

/-- The lines of a table. The cells that are measured are looked at before the others. Titles, here and
below, are the few short ones of the program, and are taken to fit. -/
def tableLines (title : String) (columns : List Column) (rows : List (List Label))
    (width : Nat := screenWidth) : Except MarkupFault (List String) := do
  (measuredCells columns rows).forM fun label => do
    let _ ← label.shown
  let rows ← rows.mapM fun row => row.mapM Label.shown
  let rows := columns.map Column.title :: rows
  let cells := columns.zipIdx.map fun (column, index) =>
    (column, rows.filterMap fun row => row[index]?)
  let shares := sharesOf (width - frameWidth columns) cells
  return linesOf title ++ rows.flatMap (fittedRow shares)

/-- A step down a tree takes four cells. -/
def treeLines (label : String) (branches : List (Label × List Label))
    (width : Nat := screenWidth) : Except MarkupFault (List String) := do
  let branches ← branches.mapM fun (branch, leaves) => do
    let branch := wrap (width - 4) .fold (← branch.shown)
    let leaves ← leaves.mapM fun leaf => return wrap (width - 8) .fold (← leaf.shown)
    return branch ++ leaves.flatten
  return linesOf label ++ branches.flatten

/-- The lines of a block on a screen of some width. The frame of a panel takes four cells. Lines
without words and the space around the words are left out, as nobody looks at them. -/
def lines (block : Block) (width : Nat := screenWidth) : Except MarkupFault (List String) :=
  match block with
  | .text content => return wrap width .fold (← content.shown)
  | .panel title content =>
      return linesOf title ++ wrap (width - 4) .fold (← content.shown)
  | .table title columns rows => tableLines title columns rows width
  | .tree label branches => treeLines label branches width

end Block

/-- The lines of some blocks, which are all shown or none. -/
def linesOfBlocks (blocks : List Block) (width : Nat := screenWidth) :
    Except MarkupFault (List String) :=
  return (← blocks.mapM fun block => block.lines width).flatten

/-! What is shown in the course of time. -/

inductive Channel where
  | output
  | errors
  deriving DecidableEq, Repr

/-- Why a screen stops: a text with a wrong tag, or one that cannot be written. -/
inductive ScreenFault where
  | markup (fault : MarkupFault)
  | halves
  deriving DecidableEq, Repr

/-- The lines on both channels up to the first block that cannot be shown. -/
structure Shown where
  output : List String
  errors : List String
  fault : Option ScreenFault
  deriving DecidableEq, Repr

namespace Shown

def empty : Shown := ⟨[], [], none⟩

/-- A half of a surrogate pair is spelled out on the channel for errors and fits on no other. -/
def add (shown : Shown) (channel : Channel) (lines : List String) : Shown :=
  match channel with
  | .errors => { shown with errors := shown.errors ++ lines.map Text.spellHalves }
  | .output =>
      if lines.any Text.hasHalf then { shown with fault := some .halves }
      else { shown with output := shown.output ++ lines }

/-- What blocks come to on a screen of some width. -/
def ofBlocks (blocks : List (Channel × Block)) (width : Nat := screenWidth) : Shown :=
  blocks.foldl
    (fun shown (channel, block) =>
      if shown.fault.isSome then shown
      else
        match block.lines width with
        | .ok lines => shown.add channel lines
        | .error fault => { shown with fault := some (.markup fault) })
    empty

end Shown

/-! Words on lines. -/

/-- Frames, bars and spinners. -/
def isDrawn (char : Char) : Bool :=
  (0x2500 ≤ char.toNat && char.toNat ≤ 0x259F) || (0x2800 ≤ char.toNat && char.toNat ≤ 0x28FF)

/-- The words of a line with one space between them: what is observed of a line. -/
def wording (line : String) : String :=
  " ".intercalate (Text.words (String.ofList (line.toList.map fun char =>
    if isDrawn char then ' ' else char)))

/-- The lines that have words on them. Blank lines are not observed. -/
def worded (lines : List String) : List String :=
  (lines.map wording).filter fun line => !line.isEmpty

end RosettaDaml.Screen
