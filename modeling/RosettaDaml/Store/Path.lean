/-
This file holds the names of files, with their parts, stems and suffixes.
-/

import RosettaDaml.Text.Blank

namespace RosettaDaml

/-- The parts of a name between its slashes. Empty parts and single dots are left out. -/
structure Path where
  rooted : Bool
  parts : List String
  deriving DecidableEq, Repr

namespace Path

def ofText (text : String) : Path :=
  ⟨text.startsWith "/", (Text.splitAtChar '/' text).filter fun part => part != "" && part != "."⟩

def text (path : Path) : String :=
  if path.rooted then "/" ++ "/".intercalate path.parts
  else if path.parts.isEmpty then "."
  else "/".intercalate path.parts

def name (path : Path) : String := path.parts.getLast?.getD ""

/-- Cuts a name in front of its last dot, which is neither its first character nor its last. -/
def splitName (name : String) : String × String :=
  let (after, before) := name.toList.reverse.span (· != '.')
  match before with
  | _ :: stem =>
      if after.isEmpty || stem.isEmpty then (name, "")
      else (String.ofList stem.reverse, String.ofList ('.' :: after.reverse))
  | [] => (name, "")

def stem (path : Path) : String := (splitName path.name).1

def suffix (path : Path) : String := (splitName path.name).2

def withSuffix (path : Path) (suffix : String) : Path :=
  { path with parts := path.parts.dropLast ++ [path.stem ++ suffix] }

/-- One part further down, or one step up. -/
def walk (place : List String) (part : String) : List String :=
  if part = ".." then place.dropLast else place ++ [part]

/-- The place of a name as seen from another place. -/
def resolve (here : List String) (path : Path) : List String :=
  path.parts.foldl walk (if path.rooted then [] else here)

def ofPlace (place : List String) : Path := ⟨true, place⟩

end Path

end RosettaDaml
