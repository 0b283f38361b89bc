/-
This file takes the words of a command line apart into options and the words between them.
-/

import RosettaDaml.Text.Blank

namespace RosettaDaml.Command

/-- An option has a key and the spellings that stand for it. -/
structure OptionForm where
  key : String
  spellings : List String
  takesValue : Bool
  deriving DecidableEq, Repr

/-- The options in the order in which they are given, and the other words. A flag has no value. -/
structure Arguments where
  options : List (String × Option String)
  words : List String
  deriving DecidableEq, Repr

namespace Arguments

def has (arguments : Arguments) (key : String) : Bool :=
  arguments.options.any fun option => option.1 == key

/-- The last value of an option. -/
def value? (arguments : Arguments) (key : String) : Option String :=
  ((arguments.options.filter fun option => option.1 == key).getLast?).bind Prod.snd

def withOptions (given : List (String × Option String)) (arguments : Arguments) : Arguments :=
  { arguments with options := given ++ arguments.options }

def withWord (word : String) (arguments : Arguments) : Arguments :=
  { arguments with words := word :: arguments.words }

end Arguments

/-- What one word gives: options that are complete, and the key of one that waits for its value. -/
structure OptionWord where
  given : List (String × Option String)
  waiting : Option String

def formOf? (forms : List OptionForm) (spelling : String) : Option OptionForm :=
  forms.find? fun form => form.spellings.contains spelling

/-- Letters behind a single dash, each an option of its own. What stands behind one that takes a
value is the value. -/
def letters? (forms : List OptionForm) : List Char → Option OptionWord
  | [] => some ⟨[], none⟩
  | letter :: rest => do
      let form ← formOf? forms (String.ofList ['-', letter])
      if form.takesValue then
        if rest.isEmpty then some ⟨[], some form.key⟩
        else some ⟨[(form.key, some (String.ofList rest))], none⟩
      else
        let more ← letters? forms rest
        some { more with given := (form.key, none) :: more.given }

/-- A name behind two dashes, with an equals sign in front of a value of its own. -/
def longOption? (forms : List OptionForm) (word : List Char) : Option OptionWord := do
  let (name, rest) := word.span (· != '=')
  let form ← formOf? forms (String.ofList name)
  match form.takesValue, rest with
  | true, _ :: value => some ⟨[(form.key, some (String.ofList value))], none⟩
  | true, [] => some ⟨[], some form.key⟩
  | false, [] => some ⟨[(form.key, none)], none⟩
  | false, _ => none

def optionWord? (forms : List OptionForm) (word : List Char) : Option OptionWord :=
  match word with
  | '-' :: '-' :: _ => longOption? forms word
  | _ => letters? forms (word.drop 1)

/-- A dash alone is a word like others. -/
def isOptionWord (word : String) : Bool :=
  word.startsWith "-" && word != "-"

/-- Takes options from among other words, or only in front of the first one. Two dashes end them. -/
def arguments? (forms : List OptionForm) (among : Bool) : List String → Option Arguments
  | [] => some ⟨[], []⟩
  | word :: rest =>
      if word = "--" then some ⟨[], rest⟩
      else if isOptionWord word then
        match optionWord? forms word.toList with
        | none => none
        | some ⟨given, none⟩ => (arguments? forms among rest).map (Arguments.withOptions given)
        | some ⟨given, some key⟩ =>
            match rest with
            | [] => none
            | value :: more =>
                (arguments? forms among more).map
                  (Arguments.withOptions (given ++ [(key, some value)]))
      else if among then (arguments? forms among rest).map (Arguments.withWord word)
      else some ⟨[], word :: rest⟩

end RosettaDaml.Command
