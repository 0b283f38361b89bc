/-
This file reads data into typed values and collects every fault on the way.
-/

import RosettaDaml.Schema.Decl
import RosettaDaml.Schema.Fault
import RosettaDaml.Numeric.DecimalText
import RosettaDaml.Text.Encoding

namespace RosettaDaml

open RosettaDaml.Data RosettaDaml.Numeric

/-- A value, or the faults that kept it from being read. -/
inductive Checked (Content : Type) where
  | valid (content : Content)
  | invalid (first : Fault) (more : List Fault)

namespace Checked

variable {Content Result : Type}

def faults : Checked Content → List Fault
  | .valid _ => []
  | .invalid first more => first :: more

def fail (given : Value) (cause : FaultCause) : Checked Content := .invalid ⟨[], cause, given⟩ []

def map (change : Content → Result) : Checked Content → Checked Result
  | .valid content => .valid (change content)
  | .invalid first more => .invalid first more

/-- The faults of both sides are kept, those of the function first. -/
def apply (change : Checked (Content → Result)) (content : Unit → Checked Content) :
    Checked Result :=
  match change, content () with
  | .valid change, .valid content => .valid (change content)
  | .valid _, .invalid first more => .invalid first more
  | .invalid first more, content => .invalid first (more ++ content.faults)

instance : Applicative Checked where
  pure := .valid
  map := map
  seq := apply

/-- A step that needs the value of the first one. -/
def andThen (checked : Checked Content) (next : Content → Checked Result) : Checked Result :=
  match checked with
  | .valid content => next content
  | .invalid first more => .invalid first more

/-- The same outcome with further faults at the end. -/
def alsoFaults (checked : Checked Content) (further : List Fault) : Checked Content :=
  match checked, further with
  | .valid content, [] => .valid content
  | .valid _, first :: more => .invalid first more
  | .invalid first more, further => .invalid first (more ++ further)

def within (step : Step) : Checked Content → Checked Content
  | .valid content => .valid content
  | .invalid first more =>
      let deepen (fault : Fault) : Fault := { fault with location := step :: fault.location }
      .invalid (deepen first) (more.map deepen)

end Checked

abbrev Reader (Content : Type) := Value → Checked Content

namespace Reader

variable {Content : Type}

open Checked

-- Powers are those of the numbers themselves, whatever else is known of them.
attribute [local instance(2000)] instPowNat instNatPowNat Int.instNatPow

/-- Bytes count as text when they are UTF-8. -/
def utf8? (bytes : List UInt8) : Option String :=
  Text.decode? ⟨bytes.toArray⟩

def text : Reader String := fun given =>
  match given with
  | .text content => .valid content
  | .bytes content =>
      match utf8? content with
      | some decoded => .valid decoded
      | none => fail given .textNotUnicode
  | _ => fail given .notText

/-- A text that is looked into holds no half of a surrogate pair. -/
def wholeText (given : Value) (content : String) : Checked String :=
  if Text.hasHalf content then fail given .textNotUnicode else .valid content

def nonEmptyText : Reader { content : String // content ≠ "" } := fun given =>
  (text given).andThen fun content => (wholeText given content).andThen fun content =>
    if empty : content = "" then fail given .emptyText else .valid ⟨content, empty⟩

def nullable (read : Reader Content) : Reader (Option Content)
  | .null => .valid none
  | given => (read given).map some

/-- The integers that fit into 64 bits; the least one is left out. -/
def fitsWord (number : Int) : Bool :=
  -(2 ^ (63 : Nat)) < number && number < 2 ^ (63 : Nat)

def integerOfFloat (given : Value) (number : Binary64) : Checked Int :=
  match number with
  | .finite _ _ _ =>
      match number.exactInt? with
      | none => fail given .fractional
      | some exact => if fitsWord exact then .valid exact else fail given .integerSize
  | _ => fail given .notFinite

def integerOfText (given : Value) (content : String) : Checked Int :=
  (wholeText given content).andThen fun content =>
    match looseInteger content with
    | .ok number => .valid number
    | .error .malformed => fail given .integerSyntax
    | .error (.tooLong _) => fail given .integerSize

def integer : Reader Int := fun given =>
  match given with
  | .int number => .valid number
  | .bool truth => .valid (if truth then 1 else 0)
  | .float number => integerOfFloat given number
  | .text content => integerOfText given content
  | .bytes content =>
      match utf8? content with
      | some decoded => integerOfText given decoded
      | none => fail given .integerSyntax
  | _ => fail given .notInteger

theorem le_toNat {bound : Nat} {number : Int} (enough : (bound : Int) ≤ number) :
    bound ≤ number.toNat := by
  omega

def integerFrom (bound : Nat) : Reader { number : Nat // bound ≤ number } := fun given =>
  (integer given).andThen fun number =>
    if enough : (bound : Int) ≤ number then .valid ⟨number.toNat, le_toNat enough⟩
    else fail given (.below bound)

def realOfText (given : Value) (content : String) : Checked Binary64 :=
  (wholeText given content).andThen fun content =>
    match looseReal? content with
    | some number => .valid number
    | none => fail given .numberSyntax

def real : Reader Binary64 := fun given =>
  match given with
  | .float number => .valid number
  | .int number =>
      match Binary64.ofInt? number with
      | some number => .valid number
      | none => fail given .notNumber
  | .bool truth => .valid (.ofInt (if truth then 1 else 0))
  | .text content => realOfText given content
  | .bytes content =>
      match utf8? content with
      | some decoded => realOfText given decoded
      | none => fail given .numberSyntax
  | _ => fail given .notNumber

def realFrom (bound : Nat) : Reader { number : Binary64 // number.atLeast bound = true } :=
  fun given =>
    (real given).andThen fun number =>
      if enough : number.atLeast bound = true then .valid ⟨number, enough⟩
      else fail given (.belowReal bound)

/-- The words for yes and no, in any case. -/
def yesWords : List String := ["1", "on", "t", "true", "y", "yes"]

def noWords : List String := ["0", "off", "f", "false", "n", "no"]

def booleanOfText (given : Value) (content : String) : Checked Bool :=
  (wholeText given content).andThen fun content =>
    let lowered := String.ofList (content.toList.map Char.toLower)
    if yesWords.contains lowered then .valid true
    else if noWords.contains lowered then .valid false
    else fail given .booleanSyntax

def booleanOfInteger (given : Value) (number : Int) : Checked Bool :=
  if number = 0 then .valid false
  else if number = 1 then .valid true
  else fail given .booleanSyntax

def boolean : Reader Bool := fun given =>
  match given with
  | .bool truth => .valid truth
  | .text content => booleanOfText given content
  | .bytes content =>
      match utf8? content with
      | some decoded => booleanOfText given decoded
      | none => fail given .booleanSyntax
  | .int number =>
      if fitsWord number || number = -(2 ^ (63 : Nat)) then booleanOfInteger given number
      else fail given .notBoolean
  | .float number =>
      match number.exactInt? with
      | some 0 => .valid false
      | some 1 => .valid true
      | _ => fail given .notBoolean
  | _ => fail given .notBoolean

/-- The kind of a declaration is one fixed word. -/
def word (expected : String) : Reader Unit := fun given =>
  match given with
  | .text content => if content = expected then .valid () else fail given (.kind expected)
  | _ => fail given (.kind expected)

def items? (given : Value) : Option (List Value) :=
  match given.unrolled with
  | .list items => some items
  | .pair first second => some [first, second]
  | .set members => some members
  | _ => none

def eachFrom (read : Reader Content) (position : Nat) : List Value → Checked (List Content)
  | [] => .valid []
  | item :: rest =>
      ((read item).within (.index position)).map List.cons <*> eachFrom read (position + 1) rest

def listOf (read : Reader Content) : Reader (List Content) := fun given =>
  match items? given with
  | some items => eachFrom read 0 items
  | none => fail given .notList

def tagSet : Reader TagSet := fun given =>
  match items? given with
  | some items => (eachFrom text 0 items).map TagSet.ofList
  | none => fail given .notTags

/-- The text of a key, where it is one. -/
def keyText? : Value → Option String
  | .text content => some content
  | _ => none

def keyStep (key : Value) : Step :=
  match key with
  | .text content => .key content
  | other =>
      match other.integer? with
      | some number =>
          if fitsWord number || number = -(2 ^ (63 : Nat)) then .index number else .key other.literal
      | none => .key other.literal

abbrev Entries := List (Value × Value)

def required (name : String) (read : Reader Content) (entries : Entries) : Checked Content :=
  match Value.find? name entries with
  | none => .invalid ⟨[.key name], .missing, .map entries⟩ []
  | some value => (read value).within (.key name)

def defaulted (name : String) (absent : Content) (read : Reader Content) (entries : Entries) :
    Checked Content :=
  match Value.find? name entries with
  | none => .valid absent
  | some value => (read value).within (.key name)

/-- The entries whose keys are not among those already read, with their keys as text. -/
def restOf (taken : List String) (entries : Entries) : List (Value × Option String × Value) :=
  entries.filterMap fun (key, content) =>
    match keyText? key with
    | none => some (key, none, content)
    | some name => if taken.contains name then none else some (key, some name, content)

/-- The known keys that are there. -/
def takenKeys (known : List String) (entries : Entries) : List String :=
  known.filter fun name => (Value.find? name entries).isSome

def closedFaults (known : List String) (entries : Entries) : List Fault :=
  (restOf (takenKeys known entries) entries).map fun (key, name, content) =>
    if name.isSome then ⟨[keyStep key], .unknownKey, content⟩
    else ⟨[keyStep key], .keyNotText, key⟩

def openFaults (known : List String) (entries : Entries) : List Fault :=
  (restOf (takenKeys known entries) entries).filterMap fun (key, name, _) =>
    if name.isSome then none else some ⟨[keyStep key], .keyNotText, key⟩

def openExtras (known : List String) (entries : Entries) : OrderedMap String Value :=
  .ofList ((restOf (takenKeys known entries) entries).filterMap fun (_, name, content) =>
    name.map fun name => (name, content))

/-- A key that is no whole text spoils the model, whatever else there is. -/
def brokenKey? (entries : Entries) : Option Value :=
  (entries.find? fun (key, _) => (keyText? key).any Text.hasHalf).map Prod.fst

/-- A model with entries, and with further faults where these are not allowed. -/
def model (name : String) (body : Entries → Checked Content) (further : Entries → List Fault) :
    Reader Content := fun given =>
  match given.unrolled with
  | .map entries =>
      match brokenKey? entries with
      | some key => fail key .textNotUnicode
      | none => (body entries).alsoFaults (further entries)
  | _ => fail given (.notModel name)

/-- A model that allows no other keys than the known ones. -/
def closed (name : String) (known : List String) (body : Entries → Checked Content) :
    Reader Content :=
  model name body (closedFaults known)

end Reader

end RosettaDaml
