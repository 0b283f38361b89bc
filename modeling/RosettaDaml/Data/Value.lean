/-
This file holds the values of a data file and writes them as text.
-/

import RosettaDaml.Data.Calendar
import RosettaDaml.Numeric.Shortest
import RosettaDaml.OrderedMap
import RosettaDaml.Text.Integer
import RosettaDaml.Text.Quoted

namespace RosettaDaml.Data

open RosettaDaml.Numeric

/-- A map keeps the order of its entries, and its keys differ by `Value.sameKey`. -/
inductive Value where
  | null
  | bool (truth : Bool)
  | int (number : Int)
  | float (number : Binary64)
  | text (content : String)
  | list (items : List Value)
  | pair (first second : Value)
  | map (entries : List (Value × Value))
  | bytes (content : List UInt8)
  | date (day : Date)
  | dateTime (moment : DateTime)
  | set (members : List Value)
  /-- A collection with a label, which stands for it inside its content. -/
  | loop (label : Nat) (content : Value)
  | again (label : Nat)
  deriving Inhabited

namespace Value

/-- Numbers lie between `1e-4` and `1e16` without an exponent. -/
def numberLayout : NumberLayout := ⟨-4, 16, 2, "inf", "nan"⟩

def kindName : Value → String
  | .null => "NoneType"
  | .bool _ => "bool"
  | .int _ => "int"
  | .float _ => "float"
  | .text _ => "str"
  | .list _ => "list"
  | .pair _ _ => "tuple"
  | .map _ => "dict"
  | .bytes _ => "bytes"
  | .date _ => "date"
  | .dateTime _ => "datetime"
  | .set _ => "set"
  | .loop _ content => content.kindName
  | .again _ => ""

/-! Collections that are parts of themselves. -/

mutual

/-- Puts a collection in the places where its label stands for it. -/
def substitute (label : Nat) (whole : Value) : Value → Value
  | .list items => .list (substituteAll label whole items)
  | .pair first second => .pair (substitute label whole first) (substitute label whole second)
  | .map entries => .map (substituteEntries label whole entries)
  | .loop inner content =>
      if inner = label then .loop inner content else .loop inner (substitute label whole content)
  | .again inner => if inner = label then whole else .again inner
  | value => value

def substituteAll (label : Nat) (whole : Value) : List Value → List Value
  | [] => []
  | item :: rest => substitute label whole item :: substituteAll label whole rest

def substituteEntries (label : Nat) (whole : Value) : List (Value × Value) → List (Value × Value)
  | [] => []
  | entry :: rest => substituteEntry label whole entry :: substituteEntries label whole rest

def substituteEntry (label : Nat) (whole : Value) : Value × Value → Value × Value
  | (key, content) => (key, substitute label whole content)

end

/-- A value whose outermost form can be seen. -/
def unrolled : Value → Value
  | .loop label content => substitute label (.loop label content) content
  | value => value

/-! Values without an end, and numbers too long to be written. -/

mutual

/-- Whether some part of a value passes. -/
def hasPart (passes : Value → Bool) : Value → Bool
  | .list items => passes (.list items) || anyPart passes items
  | .pair first second =>
      passes (.pair first second) || hasPart passes first || hasPart passes second
  | .map entries => passes (.map entries) || anyEntryPart passes entries
  | .loop label content => passes (.loop label content) || hasPart passes content
  | value => passes value

def anyPart (passes : Value → Bool) : List Value → Bool
  | [] => false
  | item :: rest => hasPart passes item || anyPart passes rest

def anyEntryPart (passes : Value → Bool) : List (Value × Value) → Bool
  | [] => false
  | entry :: rest => entryHasPart passes entry || anyEntryPart passes rest

def entryHasPart (passes : Value → Bool) : Value × Value → Bool
  | (key, content) => hasPart passes key || hasPart passes content

end

def isEndless (value : Value) : Bool :=
  value.hasPart fun part => match part with
    | .loop _ _ => true
    | _ => false

/-- Whether every number in a value is short enough to be written. -/
def isWritable (value : Value) : Bool :=
  !value.hasPart fun part => match part with
    | .int number => !Text.isWritable number
    | _ => false

/-- The quote follows the rule for texts; what is not plain ASCII is written as its code. -/
def bytesLiteral (bytes : List UInt8) : String :=
  let chars := bytes.map fun byte => Char.ofNat byte.toNat
  let mark := Text.quoteMark chars
  let write (char : Char) : List Char :=
    if char.toNat ≤ 0x7E then Text.escapeChar mark char
    else '\\' :: 'x' :: Text.hexDigits 2 char.toNat
  String.ofList ('b' :: mark :: chars.flatMap write ++ [mark])

/-- What stands for a collection inside itself. -/
def ellipsis : Value → String
  | .map _ => "\x7b...\x7d"
  | _ => "[...]"

mutual

/-- The text of a value inside others, whose labels are given with what stands for them. -/
def literalIn (around : List (Nat × String)) : Value → String
  | .null => "None"
  | .bool truth => if truth then "True" else "False"
  | .int number => toString number
  | .float number => number.write numberLayout
  | .text content => Text.quoted content
  | .list items => "[" ++ ", ".intercalate (literals around items) ++ "]"
  | .pair first second =>
      "(" ++ literalIn around first ++ ", " ++ literalIn around second ++ ")"
  | .map entries => "\x7b" ++ ", ".intercalate (entryLiterals around entries) ++ "\x7d"
  | .bytes content => bytesLiteral content
  | .date day => day.literal
  | .dateTime moment => moment.literal
  | .set [] => "set()"
  | .set members => "\x7b" ++ ", ".intercalate (literals around members) ++ "\x7d"
  | .loop label content =>
      (around.lookup label).getD (literalIn ((label, ellipsis content) :: around) content)
  | .again label => (around.lookup label).getD ""

def literals (around : List (Nat × String)) : List Value → List String
  | [] => []
  | item :: rest => literalIn around item :: literals around rest

def entryLiterals (around : List (Nat × String)) : List (Value × Value) → List String
  | [] => []
  | entry :: rest => entryLiteral around entry :: entryLiterals around rest

def entryLiteral (around : List (Nat × String)) : Value × Value → String
  | (key, content) => literalIn around key ++ ": " ++ literalIn around content

end

/-- The text of a value as it stands inside a list. -/
def literal (value : Value) : String := value.literalIn []

/-- The text of a value that stands alone. -/
def display : Value → String
  | .text content => content
  | .date day => day.write
  | .dateTime moment => moment.write " "
  | value => value.literal

/-- Booleans count as the numbers zero and one. -/
def integer? : Value → Option Int
  | .bool truth => some (if truth then 1 else 0)
  | .int number => some number
  | _ => none

/-- Two keys are the same when they are the same number, text or moment; the kind of the number
does not matter. -/
def sameKey : Value → Value → Bool
  | .null, .null => true
  | .text left, .text right => left == right
  | .bytes left, .bytes right => left == right
  | .date left, .date right => left == right
  | .dateTime left, .dateTime right => left.sameInstant right
  | .float left, .float right => left == right || (left.isZero && right.isZero)
  | .float left, right => right.integer?.isSome && left.exactInt? == right.integer?
  | left, .float right => left.integer?.isSome && right.exactInt? == left.integer?
  | left, right => left.integer?.isSome && left.integer? == right.integer?

mutual

/-- Two values are the same when all their parts are. -/
def same (value other : Value) : Bool :=
  match value with
  | .list items =>
      match other with
      | .list others => allSame items others
      | _ => false
  | .map entries =>
      match other with
      | .map others => entries.length == others.length && entriesAmong entries others
      | _ => false
  | value => sameKey value other

def allSame : List Value → List Value → Bool
  | [], [] => true
  | item :: rest, other :: others => same item other && allSame rest others
  | _, _ => false

def entriesAmong : List (Value × Value) → List (Value × Value) → Bool
  | [], _ => true
  | entry :: rest, others => others.any (fun other => sameEntry entry other) && entriesAmong rest others

def sameEntry : Value × Value → Value × Value → Bool
  | (key, content), (otherKey, otherContent) => sameKey key otherKey && same content otherContent

end

/-- Lists, maps and sets cannot be keys. -/
def isKey : Value → Bool
  | .list _ => false
  | .map _ => false
  | .set _ => false
  | .loop _ _ => false
  | .pair first second => isKey first && isKey second
  | _ => true

/-- Whether a value is zero or has nothing in it. -/
def isNothing : Value → Bool
  | .null => true
  | .bool truth => !truth
  | .int number => number == 0
  | .float number => number.isZero
  | .text content => content.isEmpty
  | .list items => items.isEmpty
  | .map entries => entries.isEmpty
  | .bytes content => content.isEmpty
  | .set members => members.isEmpty
  | _ => false

def find? (key : String) (entries : List (Value × Value)) : Option Value :=
  (entries.find? fun entry => sameKey (.text key) entry.1).map Prod.snd

def ofText? : Option String → Value
  | none => .null
  | some content => .text content

end Value

end RosettaDaml.Data
