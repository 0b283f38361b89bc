/-
This file checks the action that a tag asks for: a name and arguments, which are literal values.
-/

import RosettaDaml.Screen.Argument.Literal

namespace RosettaDaml.Screen

structure ActionFault where
  /-- What the tag gives. -/
  parameters : String
  /-- The part of it that is read. -/
  arguments : String
  cause : ArgumentFault
  deriving DecidableEq, Repr

def ActionFault.message (fault : ActionFault) : String :=
  let reason := fault.cause.message
  if fault.cause.isOutside then s!"error parsing {Text.quoted fault.parameters}; {reason}"
  else s!"error parsing {Text.quoted fault.arguments} in {Text.quoted fault.parameters}; {reason}"

/-- The arguments in the parameters of an action. The name of the action, with or without
arguments in parentheses, need not be given. -/
def argumentsOf (parameters : List Char) : List Char :=
  let trimmed := Text.trimChars Text.isBlank parameters
  match trimmed.dropWhile fun char => Text.isWordChar char || char == '.' with
  | [] => ['(', ')']
  | '(' :: rest =>
      if rest.getLast? == some ')' && !rest.contains '\n' then '(' :: rest else trimmed
  | _ => trimmed

/-- The tokens of arguments. -/
def tokensOf (arguments : List Char) : Except ArgumentFault (List ArgumentToken) :=
  match Text.encodingFault? (String.ofList arguments) with
  | some fault => .error (.halves fault)
  | none =>
      if arguments.contains '\x00' then .error .nullChar
      else
        let chars := arguments.map fun char => if char == '\r' then '\n' else char
        ArgumentToken.ofChars 1 [] (chars.length + 1) chars

/-- Whether the parameters of an action can be read. -/
def checkAction (parameters : List Char) : Except ActionFault Unit :=
  if parameters.isEmpty then .ok ()
  else
    let arguments := argumentsOf parameters
    let refuse (cause : ArgumentFault) : ActionFault :=
      ⟨String.ofList parameters, String.ofList arguments, cause⟩
    match tokensOf arguments with
    | .error cause => .error (refuse cause)
    | .ok tokens =>
        match Argument.whole? (tokens.length + 1) tokens with
        | some (.refused kind) => .error (refuse (.unhashable kind))
        | some _ => .ok ()
        | none => .error (refuse (Argument.fault .start [] tokens))

end RosettaDaml.Screen
