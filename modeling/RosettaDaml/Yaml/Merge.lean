/-
This file lets the mappings of a document take entries from others.
-/

import RosettaDaml.Yaml.Node

namespace RosettaDaml.Yaml

namespace Node

def tag : Node → Tag
  | .scalar tag _ => tag
  | .sequence tag _ => tag
  | .mapping tag _ => tag

def withTag (tag : Tag) : Node → Node
  | .scalar _ text => .scalar tag text
  | .sequence _ items => .sequence tag items
  | .mapping _ entries => .mapping tag entries

def entries : Node → List (Nat × Nat)
  | .mapping _ entries => entries
  | _ => []

def isMapping : Node → Bool
  | .mapping _ _ => true
  | _ => false

end Node

namespace Graph

-- A sum starts from the number zero itself, whatever else is known of numbers.
attribute [local instance(2000)] Zero.ofOfNat0

def node (graph : Graph) (number : Nat) : Node := graph[number]?.getD default

def tagAt (graph : Graph) (number : Nat) : Tag := (graph.node number).tag

def entriesAt (graph : Graph) (number : Nat) : List (Nat × Nat) := (graph.node number).entries

def change (graph : Graph) (number : Nat) (change : Node → Node) : Graph :=
  graph.modify number change

def setEntries (graph : Graph) (number : Nat) (entries : List (Nat × Nat)) : Graph :=
  graph.change number fun node => match node with
    | .mapping tag _ => .mapping tag entries
    | other => other

/-- A default key in a mapping that is built as such is a text. -/
def plainKeys (graph : Graph) (entries : List (Nat × Nat)) : Graph :=
  entries.foldl
    (fun graph (key, _) =>
      if graph.tagAt key = .default then graph.change key (.withTag .text) else graph)
    graph

/-- The content of the first merge key, and the entries without it. -/
def takeMerge? (graph : Graph) : List (Nat × Nat) → Option (Nat × List (Nat × Nat))
  | [] => none
  | (key, content) :: rest =>
      if graph.tagAt key = .merge then some (content, rest)
      else (graph.takeMerge? rest).map fun (found, others) => (found, (key, content) :: others)

mutual

/-- Replaces the merge keys of a mapping by the entries of the mappings that stand behind them.
These come first, so that its own entries replace them. -/
def flatten : Nat → Nat → Graph → Except Failure Graph
  | 0, _, graph => .ok graph
  | fuel + 1, number, graph => do
      let graph := graph.plainKeys (graph.entriesAt number)
      let (merged, graph) ← takeMerges fuel number [] graph
      if merged.isEmpty then return graph
      else return graph.setEntries number (merged ++ graph.entriesAt number)

/-- Takes one merge key after the other out of a mapping. Of several mappings in a list the first
one comes last. -/
def takeMerges : Nat → Nat → List (Nat × Nat) → Graph →
    Except Failure (List (Nat × Nat) × Graph)
  | 0, _, merged, graph => .ok (merged, graph)
  | fuel + 1, number, merged, graph =>
      match graph.takeMerge? (graph.entriesAt number) with
      | none => .ok (merged, graph)
      | some (content, others) => do
          let graph := graph.setEntries number others
          match graph.node content with
          | .mapping _ _ =>
              let graph ← flatten fuel content graph
              takeMerges fuel number (merged ++ graph.entriesAt content) graph
          | .sequence _ items =>
              let (lists, graph) ← items.foldlM
                (fun (lists, graph) item => do
                  if !(Graph.node graph item).isMapping then throw .malformed
                  let graph ← flatten fuel item graph
                  return (graph.entriesAt item :: lists, graph))
                ([], graph)
              takeMerges fuel number (merged ++ lists.flatten) graph
          | .scalar _ _ => throw .malformed

end

/-- The number of merge keys, of which each step takes one away. -/
def mergeCount (graph : Graph) : Nat :=
  (graph.toList.map fun node => (node.entries.filter fun (key, _) =>
    graph.tagAt key = .merge).length).sum

end Graph

end RosettaDaml.Yaml
