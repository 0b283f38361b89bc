/-
This file builds the value of a YAML document from its nodes. The collections on one level are
filled before those on the next, so that a flaw on an upper level is met first.
-/

import RosettaDaml.Yaml.Merge
import RosettaDaml.Yaml.ScalarValue

namespace RosettaDaml.Yaml

open RosettaDaml.Data

/-- A value that is no collection, or the number of a collection. What is no number is the same as
another only if both have the same identity. -/
inductive Piece where
  | single (identity : Nat) (value : Value)
  | part (number : Nat)

inductive Content where
  | list (items : List Piece)
  | pairs (items : List (Piece × Piece))
  | map (entries : List (Value × Piece))
  | set (members : List Value)

/-- What is known of the nodes, the last collections that are not filled yet, and the contents of
the others. -/
structure Builder where
  nodes : Graph
  mergeFuel : Nat
  pieces : Array (Option Piece)
  waiting : List Nat
  contents : Array (Option Content)

abbrev Build := StateT Builder (Except Failure)

namespace Build

def fail {Result : Type} : Build Result := throw .malformed

def node (number : Nat) : Build Node := return (← get).nodes.node number

/-- The text of a scalar. A mapping stands for the value of its default key. -/
def scalarText (graph : Graph) : Nat → Nat → Except Failure String
  | 0, _ => .error (.value .tooDeep)
  | fuel + 1, number =>
      match graph.node number with
      | .scalar _ text => .ok text
      | .sequence _ _ => .error .malformed
      | .mapping _ entries =>
          match entries.find? fun (key, _) => graph.tagAt key = .default with
          | some (_, content) => scalarText graph fuel content
          | none => .error .malformed

def isCollection (tag : Tag) : Bool :=
  [.sequence, .mapping, .set, .orderedMap, .pairs].contains tag

/-- The tags without values of their own. -/
def isUndefined : Tag → Bool
  | .merge => true
  | .default => true
  | .other _ => true
  | _ => false

/-- The word for what is no number stands for one value everywhere. -/
def single (number : Nat) (node : Node) : Build Piece := do
  let tag := node.tag
  if isUndefined tag then throw (.undefinedTag tag.name)
  let graph := (← get).nodes
  let text ← scalarText graph (graph.size + 1) number
  if tag = .timestamp && node.isMapping then throw (.value .timestampKind)
  return .single (if isNanWord text then 0 else number + 1) (← tag.scalarValue text)

/-- A node is built once. A collection is there before its parts are. -/
def piece (number : Nat) : Build Piece := do
  match (← get).pieces[number]?.join with
  | some known => return known
  | none =>
      let node ← node number
      let built ← if isCollection node.tag then pure (Piece.part number) else single number node
      modify fun builder =>
        { builder with
          pieces := builder.pieces.setIfInBounds number (some built)
          waiting := match built with
            | .part number => number :: builder.waiting
            | .single _ _ => builder.waiting }
      return built

def isNan : Value → Bool
  | .float .nan => true
  | _ => false

def sameKey (key other : Nat × Value) : Bool :=
  if isNan key.2 && isNan other.2 then key.1 == other.1 else Value.sameKey key.2 other.2

/-- The entries of a mapping. Collections cannot be keys, and a later value takes the place of an
earlier one with the same key. -/
def entries (number : Nat) : Build (List (Value × Piece)) := do
  let builder ← get
  if !(builder.nodes.node number).isMapping then fail
  let nodes ← Graph.flatten builder.mergeFuel number builder.nodes
  set { builder with nodes }
  let gathered ← (nodes.entriesAt number).foldlM
    (fun gathered (key, content) => do
      match ← piece key with
      | .part _ => fail
      | .single identity value =>
          return upsert sameKey (identity, value) (← piece content) gathered)
    []
  return gathered.map fun ((_, key), content) => (key, content)

def items (number : Nat) : Build (List Nat) := do
  match ← node number with
  | .sequence _ items => return items
  | _ => fail

/-- A pair is written as a mapping with one entry. -/
def pair (number : Nat) : Build (Piece × Piece) := do
  match ← node number with
  | .mapping _ [(key, content)] =>
      let key ← piece key
      return (key, ← piece content)
  | _ => fail

def content (number : Nat) : Build Content := do
  match (← node number).tag with
  | .mapping => return .map (← entries number)
  | .set => return .set ((← entries number).map Prod.fst)
  | .sequence => return .list (← (← items number).mapM piece)
  | _ => return .pairs (← (← items number).mapM pair)

def fill (number : Nat) : Build Unit := do
  let content ← content number
  modify fun builder =>
    { builder with contents := builder.contents.setIfInBounds number (some content) }

/-- Fills all collections, level by level. -/
def fillLevels : Nat → Build Unit
  | 0 => pure ()
  | fuel + 1 => do
      let level := (← get).waiting.reverse
      modify fun builder => { builder with waiting := [] }
      if !level.isEmpty then
        level.forM fill
        fillLevels fuel

end Build

/-! Values from contents. -/

/-- Values of collections that do not depend on what stands around them. -/
abbrev Assembly := StateM (Array (Option Value))

namespace Assembly

/-- A value, and the labels in it that stand for collections around it. -/
abbrev Labelled := Value × List Nat

def gather (parts : List Labelled) : List Value × List Nat :=
  (parts.map Prod.fst, (parts.flatMap Prod.snd).eraseDups)

/-- Closes a collection. It gets a label if some label in it stands for it or for a collection
around it. -/
def close (number : Nat) (value : Value) (labels : List Nat) : Assembly Labelled := do
  let value := if labels.isEmpty then value else .loop number value
  let labels := labels.filter (· != number)
  if labels.isEmpty then modify (·.setIfInBounds number (some value))
  return (value, labels)

mutual

def ofPiece (contents : Array (Option Content)) (around : List Nat) :
    Nat → Piece → Assembly Labelled
  | _, .single _ value => return (value, [])
  | 0, .part _ => return (.null, [])
  | fuel + 1, .part number => do
      if around.contains number then return (.again number, [number])
      match (← get)[number]?.join with
      | some value => return (value, [])
      | none => ofContent contents around number fuel (contents[number]?.join.getD (.list []))

def ofContent (contents : Array (Option Content)) (around : List Nat) (number : Nat) :
    Nat → Content → Assembly Labelled
  | _, .set members => return (.set members, [])
  | 0, _ => return (.null, [])
  | fuel + 1, .list items => do
      let (values, labels) :=
        gather (← items.mapM fun item => ofPiece contents (number :: around) fuel item)
      close number (.list values) labels
  | fuel + 1, .pairs items => do
      let firsts := gather (← items.mapM fun item =>
        ofPiece contents (number :: around) fuel item.1)
      let seconds := gather (← items.mapM fun item =>
        ofPiece contents (number :: around) fuel item.2)
      close number (.list (List.zipWith .pair firsts.1 seconds.1))
        ((firsts.2 ++ seconds.2).eraseDups)
  | fuel + 1, .map entries => do
      let (values, labels) :=
        gather (← entries.mapM fun entry => ofPiece contents (number :: around) fuel entry.2)
      close number (.map ((entries.map Prod.fst).zip values)) labels

end

end Assembly

/-- The value of a document; null for a text without content. -/
def Document.value (document : Document) : Except Failure Value :=
  match document.root with
  | none => .ok .null
  | some root => do
      let size := document.nodes.size
      let builder : Builder :=
        ⟨document.nodes, 2 * document.nodes.mergeCount + 4, .replicate size none, [],
          .replicate size none⟩
      let build : Build Piece := do
        let piece ← Build.piece root
        Build.fillLevels (size + 1)
        return piece
      let (piece, builder) ← build.run builder
      let assembly := Assembly.ofPiece builder.contents [] (2 * size + 2) piece
      return (assembly.run (.replicate size none)).1.1

/-- The value of the only document of a text. -/
def valueOf (source : Source) : Except Failure Value := do
  (← Document.ofSource source).value

end RosettaDaml.Yaml
