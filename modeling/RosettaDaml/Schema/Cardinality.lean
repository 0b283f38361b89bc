/-
This file holds the occurrence bounds of a field and reads them from their written forms.
-/

import RosettaDaml.Data.Value
import RosettaDaml.Text.Integer

namespace RosettaDaml

open RosettaDaml.Data

/-- The occurrence bounds of a field; without an upper bound any number above the lower one is
allowed. -/
structure Cardinality where
  lower : Nat
  upper : Option Nat
  lower_le_upper : ∀ bound ∈ upper, lower ≤ bound
  deriving DecidableEq

inductive BoundFault where
  /-- An upper bound is a number, a text or null. -/
  | kind (given : Value)
  | upperText (trimmed : String)
  | rangeText (given : String)
  | lowerDigits (count : Nat)
  | order (lower upper : Int)

namespace BoundFault

/-- Numbers that are too long to be written are told of instead. -/
def message : BoundFault → String
  | .kind given =>
      if given.isWritable then s!"Cannot parse {given.kindName} as upper bound: {given.display}"
      else Text.unwritable
  | .upperText trimmed => s!"Invalid upper bound: {trimmed}"
  | .rangeText given =>
      s!"Invalid cardinality: {Text.quoted given}, expected e.g. '0..*' or '(1..1)'"
  | .lowerDigits count => Text.tooManyDigits count
  | .order lower upper =>
      if Text.isWritable upper && Text.isWritable lower then
        s!"upper bound {upper} is below lower bound {lower}"
      else Text.unwritable

end BoundFault

namespace Cardinality

def one : Cardinality := ⟨1, some 1, by simp⟩

def many : Cardinality := ⟨0, none, by simp⟩

/-- The texts that stand for no upper bound, in any case. -/
def unboundedMarkers : List String := ["*", "unbounded", "n"]

def isUnboundedMarker (text : String) : Bool :=
  unboundedMarkers.contains (String.ofList (text.toList.map Char.toLower))

def parseUpperText (text : String) : Except BoundFault (Option Int) :=
  let trimmed := Text.trim text
  if isUnboundedMarker trimmed then .ok none
  else
    match Text.readInteger trimmed with
    | .ok bound => .ok (some bound)
    | .error _ => .error (.upperText trimmed)

/-- The upper bound that a value stands for; none stands for no bound. -/
def parseUpper (given : Value) : Except BoundFault (Option Int) :=
  match given with
  | .null => .ok none
  | .int bound => .ok (some bound)
  | .text content => parseUpperText content
  | _ => .error (.kind given)

/-- The rest of a text behind one character, which may be missing. -/
def dropOptional (char : Char) : List Char → List Char
  | first :: rest => if first == char then rest else first :: rest
  | [] => []

/-- A run of digits of any script, at least one. -/
def scanDigits? (chars : List Char) : Option (List Char × List Char) :=
  match chars.span Text.isDigit with
  | ([], _) => none
  | run => some run

def scanDots? : List Char → Option (List Char)
  | '.' :: '.' :: rest => some rest
  | _ => none

/-- A star or a run of digits. -/
def scanLimit? : List Char → Option (Option (List Char) × List Char)
  | '*' :: rest => some (none, rest)
  | chars => (scanDigits? chars).map fun (digits, rest) => (some digits, rest)

/-- The two parts of a range. Each parenthesis may be missing, whether or not the other is
there. -/
def scanRange? (chars : List Char) : Option (List Char × Option (List Char)) := do
  let (lower, rest) ← scanDigits? ((dropOptional '(' chars).dropWhile Text.isBlank)
  let rest ← scanDots? (rest.dropWhile Text.isBlank)
  let (upper, rest) ← scanLimit? (rest.dropWhile Text.isBlank)
  match dropOptional ')' (rest.dropWhile Text.isBlank) with
  | [] => some (lower, upper)
  | _ => none

def parseLowerDigits (digits : List Char) : Except BoundFault Int :=
  match Text.readInteger (String.ofList digits) with
  | .ok bound => .ok bound
  | .error _ => .error (.lowerDigits digits.length)

def parseRange (text : String) : Except BoundFault (Int × Option Int) :=
  match scanRange? (Text.trimChars Text.isBlank text.toList) with
  | none => .error (.rangeText text)
  | some (lower, upper) => do
      let lower ← parseLowerDigits lower
      match upper with
      | none => return (lower, none)
      | some digits => return (lower, ← parseUpperText (String.ofList digits))

theorem le_of_mem_none (lower : Nat) : ∀ bound ∈ none, lower ≤ bound := by
  simp

theorem le_of_mem_toNat {lower : Nat} {upper : Int} (order : (lower : Int) ≤ upper) :
    ∀ bound ∈ some upper.toNat, lower ≤ bound := by
  intro bound member
  obtain rfl := Option.mem_some.1 member
  omega

/-- Bounds in the right order; the lower one is known not to be negative. -/
def ofBounds (lower : Nat) : Option Int → Except BoundFault Cardinality
  | none => .ok ⟨lower, none, le_of_mem_none lower⟩
  | some upper =>
      if order : (lower : Int) ≤ upper then .ok ⟨lower, some upper.toNat, le_of_mem_toNat order⟩
      else .error (.order lower upper)

def isUnbounded (cardinality : Cardinality) : Bool := cardinality.upper.isNone

/-- Whether the field may never be there. -/
def isZero (cardinality : Cardinality) : Bool :=
  cardinality.lower == 0 && cardinality.upper == some 0

def limitText : Option Nat → String
  | none => "*"
  | some bound => toString bound

def write (cardinality : Cardinality) : String :=
  s!"({cardinality.lower}..{limitText cardinality.upper})"

/-- The upper bound as a value that `parseUpper` takes back. -/
def dumpUpper : Option Int → Value
  | none => .text "*"
  | some bound => .int bound

end Cardinality

end RosettaDaml
