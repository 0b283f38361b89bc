/-
This file looks for a base chain that comes back to itself.
-/

import RosettaDaml.OrderedMap

namespace RosettaDaml

/-- The base of each name; a base that is not among the names ends a chain. -/
abbrev Bases := OrderedMap String (Option String)

structure CyclicInheritance where
  kind : String
  /-- The names along the cycle, the first one again at the end. -/
  cycle : List String
  deriving DecidableEq, Repr

def CyclicInheritance.message (failure : CyclicInheritance) : String :=
  s!"Cyclic {failure.kind} inheritance: " ++ " -> ".intercalate failure.cycle

namespace Bases

/-- The base of a name, where both are given. -/
def next? (bases : Bases) (name : String) : Option String :=
  (bases.get? name).join

/-- Follows bases from a name. The chain holds the names passed so far in order; a name met again
closes a cycle that starts where it stands in the chain. Without a cycle the chain ends at a name
that has no base, is not among the names or is known to be safe. -/
def follow (bases : Bases) (safe : List String) : Nat → List String → Option String →
    Except (List String) (List String)
  | 0, chain, _ => .ok chain
  | _ + 1, chain, none => .ok chain
  | fuel + 1, chain, some current =>
      if !bases.contains current || safe.contains current then .ok chain
      else if chain.contains current then .error (chain.dropWhile (· != current) ++ [current])
      else follow bases safe fuel (chain ++ [current]) (bases.next? current)

/-- A chain that has passed all names must have met one again. -/
def followFrom (bases : Bases) (safe : List String) (start : String) :
    Except (List String) (List String) :=
  follow bases safe (bases.size + 1) [] (some start)

/-- Tries names in order. The names of a chain without a cycle are safe from then on. -/
def cycleAmong (bases : Bases) (safe : List String) : List String → Option (List String)
  | [] => none
  | start :: rest =>
      if safe.contains start then cycleAmong bases safe rest
      else
        match bases.followFrom safe start with
        | .error cycle => some cycle
        | .ok chain => cycleAmong bases (safe ++ chain) rest

/-- The first cycle met when the names are tried in order. -/
def cycle? (bases : Bases) : Option (List String) :=
  bases.cycleAmong [] bases.keys

def checkAcyclic (kind : String) (bases : Bases) : Except CyclicInheritance Unit :=
  match bases.cycle? with
  | none => .ok ()
  | some cycle => .error ⟨kind, cycle⟩

end Bases

end RosettaDaml
