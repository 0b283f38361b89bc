/-
This file says what a screen shows of a text with style tags in brackets. A tag that closes must
close something.
-/

import RosettaDaml.Screen.Action
import RosettaDaml.Screen.Emoji
import RosettaDaml.Screen.StyleName

namespace RosettaDaml.Screen

/-- A screen leaves these controls out: bell, backspace, vertical tab, form feed and carriage
return. -/
def isHidden (char : Char) : Bool :=
  [0x07, 0x08, 0x0B, 0x0C, 0x0D].contains char.toNat

def visible (chars : List Char) : List Char := chars.filter fun char => !isHidden char

/-- A text that is shown as it is. -/
def raw (text : String) : String := String.ofList (visible text.toList)

/-! Pieces of a text. -/

def startsTag (char : Char) : Bool :=
  ('a' ≤ char && char ≤ 'z') || char == '#' || char == '/' || char == '@'

/-- The characters up to a closing bracket, with no opening one among them. -/
def upToBracket? : List Char → Option (List Char)
  | [] => none
  | char :: rest =>
      if char == ']' then some []
      else if char == '[' then none
      else (upToBracket? rest).map (char :: ·)

/-- The text of a tag behind its opening bracket. -/
def tagBody? : List Char → Option (List Char)
  | [] => none
  | char :: rest => if startsTag char then (upToBracket? rest).map (char :: ·) else none

/-- The number of backslashes in front of a tag that begins here, and the text of the tag. -/
def tagHere? (chars : List Char) : Option (Nat × List Char) :=
  let slashes := (chars.takeWhile (· == '\\')).length
  match chars.drop slashes with
  | '[' :: rest => (tagBody? rest).map fun body => (slashes, body)
  | _ => none

inductive MarkupPiece where
  | plain (chars : List Char)
  | tag (position : Nat) (body : List Char)

/-- A tag with the backslashes in front of it. Two of them show as one, and a single one keeps the
tag. -/
def tagPieces (position slashes : Nat) (body : List Char) : List MarkupPiece :=
  (if slashes < 2 then [] else [.plain (List.replicate (slashes / 2) '\\')]) ++
    [if slashes % 2 = 1 then .plain ('[' :: body ++ [']']) else .tag (position + slashes / 2 * 2) body]

def plainPiece (chars : List Char) : List MarkupPiece :=
  if chars.isEmpty then [] else [.plain chars]

/-- The pieces from a position on, given the characters in front of it that belong to no piece yet,
the last one first, and the number of those that belong to a piece already. -/
def piecesFrom (position passed : Nat) (before : List Char) : List Char → List MarkupPiece
  | [] => plainPiece before.reverse
  | char :: rest =>
      let next := position + Text.size [char]
      match passed with
      | passed + 1 => piecesFrom next passed before rest
      | 0 =>
          match tagHere? (char :: rest) with
          | some (slashes, body) =>
              plainPiece before.reverse ++ tagPieces position slashes body ++
                piecesFrom next (slashes + body.length + 1) [] rest
          | none => piecesFrom next 0 (char :: before) rest

def pieces (text : String) : List MarkupPiece := piecesFrom 0 0 [] text.toList

/-! Tags. -/

inductive MarkupFault where
  /-- A closing tag for a style that is not open. -/
  | unopened (tag : String) (position : Nat)
  | nothingOpen (position : Nat)
  | color (fault : ColorFault)
  | action (fault : ActionFault)
  deriving DecidableEq, Repr

def MarkupFault.message : MarkupFault → String
  | .unopened tag position =>
      s!"closing tag '[{tag}]' at position {position} doesn't match any open tag"
  | .nothingOpen position => s!"closing tag '[/]' at position {position} has nothing to close"
  | .color fault => fault.message
  | .action fault => fault.message

def knownStyle (name : List Char) : Except MarkupFault String :=
  (styleName (String.ofList name)).mapError .color

/-- A tag whose style reaches from a place in what is shown. -/
structure OpenTag where
  name : String
  parameters : Option (List Char)
  start : Nat

def OpenTag.style (tag : OpenTag) : List Char :=
  tag.name.toList ++ (tag.parameters.map (' ' :: ·)).getD []

/-- A style from one place in what is shown to another. -/
structure Span where
  start : Nat
  stop : Nat
  style : List Char

def OpenTag.spanTo (stop : Nat) (tag : OpenTag) : Span := ⟨tag.start, stop, tag.style⟩

/-- Closes a tag. One whose name begins with an at sign asks for an action in place of a style. -/
def OpenTag.close (stop : Nat) (tag : OpenTag) : Except MarkupFault (List Span) :=
  match tag.name.toList, tag.parameters with
  | '@' :: _, none => .ok []
  | '@' :: _, some parameters => do
      checkAction parameters |>.mapError .action
      return []
  | _, _ => .ok [tag.spanTo stop]

/-- The tag that a name closes, and the others. -/
def takeNamed? (name : String) : List OpenTag → Option (OpenTag × List OpenTag)
  | [] => none
  | tag :: rest =>
      if tag.name == name then some (tag, rest)
      else (takeNamed? name rest).map fun (found, others) => (found, tag :: others)

/-- The name of a tag, and what stands behind the first equals sign. -/
def splitTag (body : List Char) : List Char × Option (List Char) :=
  let (name, rest) := body.span (· != '=')
  (name, rest.tail?)

/-- The open tags behind a tag, the last one first, and the styles that end with it. -/
def openTags (position count : Nat) (body : List Char) (opened : List OpenTag) :
    Except MarkupFault (List OpenTag × List Span) :=
  match splitTag body with
  | ('/' :: name, _) =>
      if (Text.trim (String.ofList name)).isEmpty then
        match opened with
        | [] => .error (.nothingOpen position)
        | tag :: rest => return (rest, ← tag.close count)
      else do
        match takeNamed? (← knownStyle name) opened with
        | some (tag, rest) => return (rest, ← tag.close count)
        | none => .error (.unopened (String.ofList body) position)
  | (name, parameters) => return (⟨← knownStyle name, parameters, count⟩ :: opened, [])

/-- A bracket that belongs to no tag loses one backslash in front of it. -/
def dropBracketSlashes : List Char → List Char
  | [] => []
  | char :: rest =>
      if char == '\\' && rest.head? == some '[' then dropBracketSlashes rest
      else char :: dropBracketSlashes rest

/-- The characters that are shown of some pieces, of which a number is shown before them, and their
styles. A tag that is never closed reaches to the end. -/
def shownPieces (count : Nat) (opened : List OpenTag) :
    List MarkupPiece → Except MarkupFault (List Char × List Span)
  | [] => .ok ([], opened.map (OpenTag.spanTo count))
  | .plain chars :: rest => do
      let chars := visible (withEmoji (dropBracketSlashes chars))
      let (more, spans) ← shownPieces (count + chars.length) opened rest
      return (chars ++ more, spans)
  | .tag position body :: rest => do
      let (opened, closed) ← openTags position count body opened
      let (more, spans) ← shownPieces count opened rest
      return (more, closed ++ spans)

/-- Whether a style is looked up: on a text of several parts an empty one is not. -/
def Span.counts (chars : List Char) (span : Span) : Bool :=
  span.start < span.stop || !(chars.contains '\n' || chars.contains '\t')

/-- What is shown of a text with tags. -/
def plain (text : String) : Except MarkupFault String := do
  let (chars, spans) ← shownPieces 0 [] (pieces text)
  (spans.filter (Span.counts chars)).forM fun span => do
    let _ ← knownStyle span.style
  return String.ofList chars

end RosettaDaml.Screen
