/-
This file runs a command line on the files of the machine.
-/

import RosettaDaml.Command.Run

open RosettaDaml RosettaDaml.Command

/-- The parts of a word that may name a file: the word, and what stands behind its option. -/
def namesIn (word : String) : List String :=
  let chars := word.toList
  let behindSign := (chars.dropWhile (· != '=')).drop 1
  (word :: [chars.drop 2, behindSign].map String.ofList).filter fun name => !name.isEmpty

/-- The places that the words of a command line may name, with the output beside each. -/
def placesIn (here : List String) (words : List String) : List (List String) :=
  (words.flatMap namesIn).flatMap fun name =>
    let place := (Path.ofText name).resolve here
    [place, ((Path.ofPlace place).withSuffix ".daml").parts]

/-- The name of a place on the machine. -/
def machineName (place : List String) : String := Text.charText (Path.ofPlace place).text

/-- Takes a file or a directory of the machine into a store. -/
def takeIn (store : Store) (place : List String) : IO Store := do
  let path := (← IO.currentDir) / machineName place
  if ← path.isDir then return store.putDirectory place
  if ← path.pathExists then
    return (store.putDirectory place.dropLast).put place (.file (← IO.FS.readBinFile path))
  match path.parent with
  | some parent => if ← parent.isDir then return store.putDirectory place.dropLast else return store
  | none => return store

/-- Writes those files of a store that differ from an earlier one. -/
def putOut (earlier later : Store) : IO Unit := do
  for (place, _) in later.entries.entries do
    if let some content := later.file? place then
      if (earlier.file? place).map (·.data) != some content.data then
        IO.FS.writeBinFile (machineName place) content

def main (words : List String) : IO UInt32 := do
  let words := words.map Text.ofString
  let here := (Path.ofText (Text.ofString (← IO.currentDir).toString)).parts
  let start := (Store.empty here).putDirectory here
  let store ← (placesIn here words).foldlM takeIn start
  let outcome := Command.run store words
  putOut store outcome.store
  let shown := outcome.shown
  for line in shown.output do
    IO.println (Text.charText line)
  for line in shown.errors do
    IO.eprintln (Text.charText line)
  if let some (.markup fault) := shown.fault then
    IO.eprintln fault.message
  if let some failure := outcome.escaped then
    IO.eprintln failure.message
  return UInt32.ofNat outcome.exitCode
