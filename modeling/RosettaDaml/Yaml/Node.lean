/-
This file builds the one document of a YAML text from its tokens. The document is a graph: a name
given to a node stands for the node itself, which may be a part of its own parts.
-/

import RosettaDaml.Yaml.Tag
import RosettaDaml.Yaml.Token

namespace RosettaDaml.Yaml

/-- The parts of a collection are known by their numbers. -/
inductive Node where
  | scalar (tag : Tag) (text : String)
  | sequence (tag : Tag) (items : List Nat)
  | mapping (tag : Tag) (entries : List (Nat × Nat))

instance : Inhabited Node := ⟨.scalar .null ""⟩

abbrev Graph := Array Node

/-- The nodes so far, the tag handles, the numbers of the nodes that have a name, and the number of
collections around the next node. -/
structure Composer where
  nodes : Graph
  handles : List (String × String)
  anchors : List (String × Nat)
  depth : Nat

abbrev Compose := StateT Composer Lexing

namespace Compose

def fail {Content : Type} : Compose Content := throw .malformed

/-- The next token; where the tokens end early, the reason why. -/
def next : Compose Token := Lexing.next

def drop : Compose Unit := Lexing.drop

def expect (token : Token) : Compose Unit := do
  if (← next) == token then drop else fail

/-- Takes a token if it is the next one. -/
def skip? (token : Token) : Compose Bool := do
  if (← next) == token then
    drop
    return true
  else return false

def nextIsAmong (tokens : List Token) : Compose Bool := do
  return tokens.contains (← next)

/-- The number of a new node. -/
def add (node : Node) : Compose Nat :=
  modifyGet fun composer =>
    (composer.nodes.size, { composer with nodes := composer.nodes.push node })

def emptyNode : Compose Nat := add (.scalar .null "")

/-- An anchor and a tag may stand in front of a node in either order. -/
structure Properties where
  anchor : Option String
  tag : Option TagText

def anchor? : Compose (Option String) := do
  match ← next with
  | .anchor name =>
      drop
      return some name
  | _ => return none

def tag? : Compose (Option TagText) := do
  match ← next with
  | .tag tag =>
      drop
      return some tag
  | _ => return none

def properties : Compose Properties := do
  match ← anchor? with
  | some name => return ⟨some name, ← tag?⟩
  | none =>
      match ← tag? with
      | some tag => return ⟨← anchor?, some tag⟩
      | none => return ⟨none, none⟩

/-- The full name of a tag. -/
def tagName? : Option TagText → Compose (Option String)
  | none => return none
  | some ⟨none, suffix⟩ => return some suffix
  | some ⟨some handle, suffix⟩ => do
      match (← get).handles.lookup handle with
      | some lead => return some (lead ++ suffix)
      | none => fail

/-- A lone exclamation mark asks for the type that no tag would give. -/
def tagOr (name : Option String) (implicit : Tag) : Tag :=
  match name with
  | none => implicit
  | some "!" => implicit
  | some name => .ofName name

/-- Gives a name to a node; no two nodes share one. -/
def nameNode (anchor : Option String) (number : Nat) : Compose Unit := do
  if let some name := anchor then
    if ((← get).anchors.lookup name).isSome then fail
    modify fun composer => { composer with anchors := (name, number) :: composer.anchors }

def scalar (anchor : Option String) (tag : Tag) (text : String) : Compose Nat := do
  let number ← add (.scalar tag text)
  nameNode anchor number
  return number

/-- The number of collections that can be nested. The reader calls itself for each of them, and this
stands for the calls that are left to it where a program is run as usual: the same for both kinds of
collections, and an estimate by a few levels. Deeper texts are refused; nothing else depends on it,
and nothing is proved about its value. -/
def depthLimit : Nat := 488

/-- Reads what stands inside one more collection. -/
def inside {Parts : Type} (parts : Compose Parts) : Compose Parts := do
  let depth := (← get).depth
  if depthLimit ≤ depth then throw (.value .tooDeep)
  modify fun composer => { composer with depth := depth + 1 }
  let parts ← parts
  modify fun composer => { composer with depth }
  return parts

/-- A collection has its number and its name before its parts are read. -/
def collection {Parts : Type} (anchor : Option String) (make : Parts → Node)
    (parts : Compose Parts) : Compose Nat := do
  let number ← emptyNode
  nameNode anchor number
  let parts ← inside parts
  modify fun composer => { composer with nodes := composer.nodes.setIfInBounds number (make parts) }
  return number

def reference (name : String) : Compose Nat := do
  match (← get).anchors.lookup name with
  | some number => return number
  | none => fail

/-- Where a node may stand decides which collections it can be. -/
structure Place where
  inBlock : Bool
  /-- The entries of a sequence may stand at the column of the key before it. -/
  atKey : Bool

def flowPlace : Place := ⟨false, false⟩

def blockPlace : Place := ⟨true, false⟩

def keyPlace : Place := ⟨true, true⟩

/-- A name or a tag alone makes an empty node. -/
def missing (anchor tag : Option String) : Compose Nat := do
  if anchor.isNone && tag.isNone then fail
  scalar anchor (tagOr tag (if tag.isNone || tag == some "!" then .null else .text)) ""

mutual

def node (place : Place) : Nat → Compose Nat
  | 0 => fail
  | fuel + 1 => do
      if let .reference name ← next then
        drop
        return ← reference name
      let properties ← properties
      let tag ← tagName? properties.tag
      let anchor := properties.anchor
      match ← next with
      | .blockEntry =>
          if place.atKey then
            collection anchor (.sequence (tagOr tag .sequence)) (keyEntries fuel)
          else missing anchor tag
      | .scalar plain text =>
          drop
          let implicit := if (plain && tag.isNone) || tag == some "!" then .ofPlain text else .text
          scalar anchor (tagOr tag implicit) text
      | .flowSequenceStart =>
          drop
          collection anchor (.sequence (tagOr tag .sequence)) (flowItems true fuel)
      | .flowMappingStart =>
          drop
          collection anchor (.mapping (tagOr tag .mapping)) (flowEntries true fuel)
      | .blockSequenceStart =>
          if place.inBlock then
            drop
            collection anchor (.sequence (tagOr tag .sequence)) (blockItems fuel)
          else missing anchor tag
      | .blockMappingStart =>
          if place.inBlock then
            drop
            collection anchor (.mapping (tagOr tag .mapping)) (blockEntries fuel)
          else missing anchor tag
      | _ => missing anchor tag

/-- A node, or an empty one in front of the given tokens. -/
def nodeUnless (tokens : List Token) (place : Place) : Nat → Compose Nat
  | 0 => fail
  | fuel + 1 => do
      if ← nextIsAmong tokens then emptyNode else node place fuel

def blockItems : Nat → Compose (List Nat)
  | 0 => fail
  | fuel + 1 => do
      if ← skip? .blockEntry then
        let item ← nodeUnless [.blockEntry, .blockEnd] blockPlace fuel
        return item :: (← blockItems fuel)
      expect .blockEnd
      return []

/-- Entries at the column of a key, which no token closes. -/
def keyEntries : Nat → Compose (List Nat)
  | 0 => fail
  | fuel + 1 => do
      if ← skip? .blockEntry then
        let item ← nodeUnless [.blockEntry, .key, .value, .blockEnd] blockPlace fuel
        return item :: (← keyEntries fuel)
      return []

/-- The node behind a value token; an empty one where there is no such token. -/
def valueUnless (tokens : List Token) (place : Place) : Nat → Compose Nat
  | 0 => fail
  | fuel + 1 => do
      if ← skip? .value then nodeUnless tokens place fuel else emptyNode

def blockEntries : Nat → Compose (List (Nat × Nat))
  | 0 => fail
  | fuel + 1 => do
      let ends : List Token := [.key, .value, .blockEnd]
      if ← skip? .key then
        let key ← nodeUnless ends keyPlace fuel
        let content ← valueUnless ends keyPlace fuel
        return (key, content) :: (← blockEntries fuel)
      expect .blockEnd
      return []

/-- The items of a flow sequence; a key token makes an item a mapping with one entry. -/
def flowItems (first : Bool) : Nat → Compose (List Nat)
  | 0 => fail
  | fuel + 1 => do
      if ← skip? .flowSequenceEnd then return []
      if !first then expect .flowEntry
      if ← skip? .key then
        let entry ← inside do
          let key ← nodeUnless [.value, .flowEntry, .flowSequenceEnd] flowPlace fuel
          return (key, ← valueUnless [.flowEntry, .flowSequenceEnd] flowPlace fuel)
        let item ← add (.mapping .mapping [entry])
        return item :: (← flowItems false fuel)
      else if ← skip? .flowSequenceEnd then return []
      else
        let item ← node flowPlace fuel
        return item :: (← flowItems false fuel)

def flowEntries (first : Bool) : Nat → Compose (List (Nat × Nat))
  | 0 => fail
  | fuel + 1 => do
      if ← skip? .flowMappingEnd then return []
      if !first then expect .flowEntry
      if ← skip? .key then
        let key ← nodeUnless [.value, .flowEntry, .flowMappingEnd] flowPlace fuel
        let content ← valueUnless [.flowEntry, .flowMappingEnd] flowPlace fuel
        return (key, content) :: (← flowEntries false fuel)
      else if ← skip? .flowMappingEnd then return []
      else
        let key ← node flowPlace fuel
        let content ← emptyNode
        return (key, content) :: (← flowEntries false fuel)

end

/-! Documents. -/

def standardHandles : List (String × String) := [("!", "!"), ("!!", Tag.lead)]

/-- At most one version, which must be a first one, and each handle at most once. -/
def directives : Nat → Bool → List (String × String) → Compose (List (String × String))
  | 0, _, _ => fail
  | fuel + 1, versioned, handles => do
      match ← next with
      | .directive (.version major) =>
          drop
          if versioned || major != 1 then fail
          directives fuel true handles
      | .directive (.handle handle lead) =>
          drop
          if (handles.lookup handle).isSome then fail
          directives fuel versioned ((handle, lead) :: handles)
      | .directive .other =>
          drop
          directives fuel versioned handles
      | _ => return handles

def skipEnds : Nat → Compose Unit
  | 0 => pure ()
  | fuel + 1 => do
      if ← skip? .documentEnd then skipEnds fuel

def isDocumentBound : Token → Bool
  | .directive _ => true
  | .documentStart => true
  | .documentEnd => true
  | .streamEnd => true
  | _ => false

/-- A document that begins with a marker and may be empty, or none at the end of the text. -/
def markedDocument (fuel : Nat) : Compose (Option Nat) := do
  if (← next) == .streamEnd then return none
  let handles ← directives fuel false []
  modify fun composer => { composer with handles := handles ++ standardHandles }
  expect .documentStart
  if isDocumentBound (← next) then return some (← emptyNode)
  else return some (← node blockPlace fuel)

/-- A document without a marker, where no marker stands. -/
def firstDocument (fuel : Nat) : Compose (Option Nat) := do
  match ← next with
  | .directive _ => markedDocument fuel
  | .documentStart => markedDocument fuel
  | .streamEnd => markedDocument fuel
  | _ => return some (← node blockPlace fuel)

/-- The only document of a text. Another one behind it is read up to its start. -/
def document (fuel : Nat) : Compose (Option Nat) := do
  let found ← firstDocument fuel
  skipEnds fuel
  if (← next) != .streamEnd then
    let _ ← directives fuel false []
    fail
  return found

end Compose

/-- A graph and the node that stands for the whole document; none for a text without content. -/
structure Document where
  nodes : Graph
  root : Option Nat

def Document.ofSource (source : Source) : Except Failure Document := do
  let cursor := Cursor.ofSource source
  let composer : Composer := ⟨#[], Compose.standardHandles, [], 0⟩
  let fuel := 20 * source.chars.length + 50
  let (((root, composer), _), _) ← (((Compose.document fuel).run composer).run .start).run cursor
  return ⟨composer.nodes, root⟩

end RosettaDaml.Yaml
