/-
This file gives styles that look the same the same name.
-/

import RosettaDaml.OrderedMap
import RosettaDaml.Screen.ColorTable
import RosettaDaml.Text.Blank
import RosettaDaml.Text.Case
import RosettaDaml.Text.Integer

namespace RosettaDaml.Screen

/-- The attributes of a style in the order in which its name gives them. -/
def attributeNames : List String :=
  ["bold", "dim", "italic", "underline", "blink", "blink2", "reverse", "conceal", "strike",
   "underline2", "frame", "encircle", "overline"]

def attributeLetters : List (String × String) :=
  [("b", "bold"), ("d", "dim"), ("i", "italic"), ("u", "underline"), ("r", "reverse"),
   ("c", "conceal"), ("s", "strike"), ("uu", "underline2"), ("o", "overline")]

/-- The attribute that a word stands for. -/
def attribute? (word : String) : Option String :=
  if attributeNames.contains word then some word else attributeLetters.lookup word

/-! Colors. -/

/-- The text between a beginning and an ending. -/
def between? (beginning ending text : String) : Option (List Char) :=
  let chars := text.toList
  let inner := chars.drop beginning.length
  if beginning.toList.isPrefixOf chars && ending.toList.isSuffixOf inner then
    some (inner.take (inner.length - ending.length))
  else none

/-- A number of a color that is not read. -/
inductive ColorFault where
  | missingNumber
  | tooLong (digits : Nat)
  deriving DecidableEq, Repr

def ColorFault.message : ColorFault → String
  | .missingNumber => "invalid literal for int() with base 10: ''"
  | .tooLong digits => Text.tooManyDigits digits

/-- A number of a color, which is written in digits of any script. -/
def colorPart? (chars : List Char) : Option Nat :=
  match Text.readInteger (String.ofList chars) with
  | .ok number => if 0 ≤ number && number ≤ 255 then some number.toNat else none
  | .error _ => none

def isHexColor (text : String) : Bool :=
  match text.toList with
  | '#' :: digits => digits.length == 6 &&
      digits.all fun digit => digit.isDigit || ('a' ≤ digit && digit ≤ 'f')
  | _ => false

/-- A color of a palette is given by its number in plain digits. -/
def isPaletteColor (text : String) : Bool :=
  match between? "color(" ")" text with
  | some digits => digits.all Char.isDigit && digits.length ≤ 3 && (colorPart? digits).isSome
  | none => false

/-- Three numbers stand for a color mixed of red, green and blue. -/
def isMixedColor (text : String) : Except ColorFault Bool :=
  match between? "rgb(" ")" text with
  | none => .ok false
  | some parts =>
      let pieces := Text.splitChars (· == ',') parts
      if parts.isEmpty || pieces.length != 3 || !pieces.all (List.all · Text.isDigit) then .ok false
      else do
        let numbers ← pieces.mapM fun piece =>
          match Text.readInteger (String.ofList piece) with
          | .ok number => .ok number
          | .error .malformed => .error .missingNumber
          | .error (.tooLong digits) => .error (.tooLong digits)
        return numbers.all (· ≤ 255)

/-- The name of a color in small letters. -/
def color? (word : String) : Except ColorFault (Option String) := do
  let name := Text.lower word
  let mixed ← isMixedColor name
  if name == "default" || colorNames.contains name || isHexColor name || isPaletteColor name ||
      mixed then
    return some name
  else return none

/-! Styles. -/

structure Style where
  attributes : List (String × Bool)
  color : Option String
  background : Option String
  link : Option String

namespace Style

/-- A style with an attribute that it has or does not have. -/
def withAttribute? (style : Style) (given : Bool) (word : String) : Option Style :=
  (attribute? word).map fun name =>
    { style with attributes := upsert (· == ·) name given style.attributes }

/-- A style with what one word asks for. -/
def withWord? (style : Style) (word : String) : Except ColorFault (Option Style) :=
  match style.withAttribute? true (Text.lower word) with
  | some changed => .ok (some changed)
  | none => return (← color? word).map fun name => { style with color := some name }

/-- The words that need another one behind them. -/
def leadingWords : List String := ["on", "not", "link"]

def withWords? (style : Style) (leading word : String) : Except ColorFault (Option Style) :=
  match leading with
  | "on" => return (← color? word).map fun name => { style with background := some name }
  | "not" => .ok (style.withAttribute? false word)
  | _ => .ok (some { style with link := some word })

/-- The style that some words add up to; none when they do not describe one. -/
def ofWords? (style : Style) : List String → Except ColorFault (Option Style)
  | [] => .ok (some style)
  | [word] => style.withWord? word
  | word :: next :: rest =>
      if leadingWords.contains (Text.lower word) then
        match style.withWords? (Text.lower word) next with
        | .ok (some changed) => changed.ofWords? rest
        | result => result
      else
        match style.withWord? word with
        | .ok (some changed) => changed.ofWords? (next :: rest)
        | result => result

def name (style : Style) : String :=
  let attributes := attributeNames.filterMap fun name =>
    (style.attributes.lookup name).map fun given => if given then name else "not " ++ name
  let words := attributes ++ style.color.toList ++
    style.background.toList.map ("on " ++ ·) ++ style.link.toList.map ("link " ++ ·)
  if words.isEmpty then "none" else " ".intercalate words

end Style

/-- The one name of a style. What describes no style is a name in itself. -/
def styleName (text : String) : Except ColorFault String :=
  let trimmed := Text.trim text
  if trimmed == "none" || trimmed.isEmpty then .ok "none"
  else
    return match ← Style.ofWords? ⟨[], none, none, none⟩ (Text.words text) with
      | some style => style.name
      | none => Text.lower trimmed

end RosettaDaml.Screen
