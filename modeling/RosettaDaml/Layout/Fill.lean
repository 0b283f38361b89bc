/-
This file wraps words into lines of a given width and writes comments.
-/

import RosettaDaml.Layout.Lines
import RosettaDaml.Text.Blank
import RosettaDaml.Text.Place

namespace RosettaDaml

/-- The lines as lists of words. The current line has its words and its size; a word goes onto it
while the width allows, and no word is split. -/
def fillWords (width : Nat) (line : List String) (used : Nat) : List String → List (List String)
  | [] => [line]
  | word :: rest =>
      let size := Text.size word.toList
      if used + 1 + size ≤ width then fillWords width (line ++ [word]) (used + 1 + size) rest
      else line :: fillWords width [word] size rest

def wrapWords (width : Nat) : List String → List (List String)
  | [] => []
  | word :: rest => fillWords width [word] (Text.size word.toList) rest

def wrapText (width : Nat) (text : String) : Lines :=
  (wrapWords width (Text.words text)).map (" ".intercalate ·)

/-- A width that leaves no room for text. -/
structure InvalidWidth where
  width : Int
  deriving DecidableEq, Repr

def InvalidWidth.message (failure : InvalidWidth) : String :=
  s!"invalid width {failure.width} (must be > 0)"

/-- The width is looked at even when there are no words. -/
def fill (width : Int) (text : String) : Except InvalidWidth Lines :=
  if 0 < width then .ok (wrapText width.toNat text) else .error ⟨width⟩

/-- Whether a comment stands before or behind what it is about. -/
inductive CommentPosition where
  | before
  | after
  deriving DecidableEq, Repr

def CommentPosition.mark : CommentPosition → String
  | .before => "|"
  | .after => "^"

def markLines (position : CommentPosition) : Lines → Lines
  | [] => []
  | first :: rest => s!"-- {position.mark} {first}" :: rest.map fun line => s!"--   {line}"

def commentLines (width : Int) (position : CommentPosition) :
    Option String → Except InvalidWidth Lines
  | none => .ok []
  | some text => (fill width text).map (markLines position)

end RosettaDaml
