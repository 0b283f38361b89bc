/-
This file puts emoji in the places where a text names them between colons.
-/

import RosettaDaml.Screen.EmojiTable
import RosettaDaml.Text.Blank
import RosettaDaml.Text.Case
import RosettaDaml.Text.Place

namespace RosettaDaml.Screen

/-- The emoji behind a name in a list where names and emoji take turns. -/
def behindName? (name : String) : List String → Option String
  | first :: emoji :: rest => if first == name then some emoji else behindName? name rest
  | _ => none

def emoji? (name : String) : Option String :=
  emojiLines.findSome? fun line => behindName? name (Text.splitAtChar ':' line)

/-- A name between colons, the character that asks for a form of the emoji, and the characters from
the first colon to the last. -/
structure EmojiCode where
  name : List Char
  form : List Char
  length : Nat

/-- The endings of a name that ask for a form: as a text, or as a picture. -/
def emojiForms : List (String × Char) := [("-emoji:", '\ufe0f'), ("-text:", '\ufe0e')]

/-- The rest of a code whose name has begun. The name ends as early as it can. -/
def codeFrom? (name : List Char) : List Char → Option EmojiCode
  | [] => none
  | char :: rest =>
      match emojiForms.find? fun form => form.1.toList.isPrefixOf (char :: rest) with
      | some (ending, form) =>
          some ⟨name.reverse, [form], 1 + name.length + ending.length⟩
      | none =>
          if char == ':' then some ⟨name.reverse, [], name.length + 2⟩
          else if Text.isBlank char then none
          else codeFrom? (char :: name) rest

def code? : List Char → Option EmojiCode
  | ':' :: rest => codeFrom? [] rest
  | _ => none

/-- What is shown in the place of a code: the code itself where there is no such emoji. -/
def EmojiCode.shown (code : EmojiCode) (chars : List Char) : List Char :=
  match emoji? (Text.lower (String.ofList code.name)) with
  | some emoji => Text.ofChars emoji.toList ++ code.form
  | none => chars.take code.length

/-- A text whose first characters belong to a code that is already shown. -/
def withEmojiFrom (passed : Nat) : List Char → List Char
  | [] => []
  | char :: rest =>
      match passed with
      | passed + 1 => withEmojiFrom passed rest
      | 0 =>
          match code? (char :: rest) with
          | some code => code.shown (char :: rest) ++ withEmojiFrom (code.length - 1) rest
          | none => char :: withEmojiFrom 0 rest

def withEmoji (chars : List Char) : List Char := withEmojiFrom 0 chars

end RosettaDaml.Screen
