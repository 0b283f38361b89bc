/-
This file holds a tree of files and says what can be read from it and written to it.
-/

import RosettaDaml.OrderedMap
import RosettaDaml.Store.Path
import RosettaDaml.Text.Quoted

namespace RosettaDaml

inductive StoreEntry where
  | file (content : ByteArray)
  | directory

/-- A place is the list of names that lead to it from the root, which is a directory. -/
structure Store where
  here : List String
  entries : OrderedMap (List String) StoreEntry

inductive WriteFault where
  | noParent
  | parentIsFile
  | isDirectory
  deriving DecidableEq, Repr

def WriteFault.message (place : List String) (fault : WriteFault) : String :=
  let reason := match fault with
    | .noParent => "[Errno 2] No such file or directory: "
    | .parentIsFile => "[Errno 20] Not a directory: "
    | .isDirectory => "[Errno 21] Is a directory: "
  reason ++ Text.quoted (Path.ofPlace place).text

namespace Store

def empty (here : List String) : Store := ⟨here, .empty⟩

def entryAt? (store : Store) (place : List String) : Option StoreEntry :=
  if place.isEmpty then some .directory else store.entries.get? place

def file? (store : Store) (place : List String) : Option ByteArray :=
  match store.entryAt? place with
  | some (.file content) => some content
  | _ => none

def isDirectory (store : Store) (place : List String) : Bool :=
  match store.entryAt? place with
  | some .directory => true
  | _ => false

def put (store : Store) (place : List String) (entry : StoreEntry) : Store :=
  { store with entries := store.entries.insert place entry }

/-- A directory with all directories around it. -/
def putDirectory (store : Store) (place : List String) : Store :=
  (List.range place.length).foldl
    (fun store count => store.put (place.take (count + 1)) .directory)
    store

def walkFrom (store : Store) (place : List String) : List String → Option (List String)
  | [] => if (store.entryAt? place).isSome then some place else none
  | part :: rest =>
      if store.isDirectory place then store.walkFrom (Path.walk place part) rest else none

/-- The place that a path leads to. Every step on the way there must be a directory. -/
def locate? (store : Store) (path : Path) : Option (List String) :=
  store.walkFrom (if path.rooted then [] else store.here) path.parts

/-- The first place around a place that is not a directory. -/
def parentFault? (store : Store) (place : List String) : Option WriteFault :=
  (List.range place.length).findSome? fun count =>
    match store.entryAt? (place.take count) with
    | none => some .noParent
    | some (.file _) => some .parentIsFile
    | some .directory => none

/-- Puts a file in its place, whole or not at all. -/
def write (store : Store) (place : List String) (content : ByteArray) : Except WriteFault Store :=
  match store.parentFault? place with
  | some fault => .error fault
  | none =>
      if store.isDirectory place then .error .isDirectory
      else .ok (store.put place (.file content))

theorem entryAt?_put (store : Store) (place wanted : List String) (entry : StoreEntry)
    (inside : wanted ≠ []) :
    (store.put place entry).entryAt? wanted =
      if wanted = place then some entry else store.entryAt? wanted := by
  have notRoot : wanted.isEmpty = false := by
    cases wanted with
    | nil => exact absurd rfl inside
    | cons => rfl
  simp [entryAt?, put, notRoot, OrderedMap.get?_insert]

end Store

end RosettaDaml
