/-
This file says what a command leaves behind.
-/

import RosettaDaml.Screen.FailureView

namespace RosettaDaml.Command

open RosettaDaml.Screen

/-- What a command writes on both channels, in the order of time. A failure that it does not handle
leaves it early. -/
structure Outcome where
  exit : Nat
  screen : List (Channel × Block)
  escaped : Option ReadFailure
  store : Store

def onOutput (blocks : List Block) : List (Channel × Block) := blocks.map fun block => (.output, block)

def onErrors (blocks : List Block) : List (Channel × Block) := blocks.map fun block => (.errors, block)

namespace Outcome

def done (store : Store) (screen : List (Channel × Block)) : Outcome := ⟨0, screen, none, store⟩

def failed (store : Store) (screen : List (Channel × Block)) : Outcome := ⟨1, screen, none, store⟩

def escape (store : Store) (failure : ReadFailure) : Outcome := ⟨1, [], some failure, store⟩

/-- A command line that cannot be understood. -/
def misused (store : Store) : Outcome := ⟨2, [], none, store⟩

/-- What can be read on a screen of some width. -/
def shown (outcome : Outcome) (width : Nat := screenWidth) : Shown := .ofBlocks outcome.screen width

/-- A screen that stops early is a failure. -/
def exitCode (outcome : Outcome) (width : Nat := screenWidth) : Nat :=
  if (outcome.shown width).fault.isSome then 1 else outcome.exit

end Outcome

end RosettaDaml.Command
