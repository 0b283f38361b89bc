/-
This file reads the texts of scalars: plain, quoted and block ones, with their folding of lines.
-/

import RosettaDaml.Text.Place
import RosettaDaml.Yaml.Cursor

namespace RosettaDaml.Yaml

/-! Plain scalars. -/

def isFlowMark (char : Char) : Bool :=
  char == ',' || char == '[' || char == ']' || char == '\x7b' || char == '\x7d'

/-- Whether a plain scalar ends at a character. Inside brackets more characters end it. -/
def endsPlain (inFlow : Bool) (char next : Char) : Bool :=
  isGap char || (char == ':' && (isGap next || (inFlow && isFlowMark next))) ||
    (inFlow && (isFlowMark char || char == '?'))

def plainRun (inFlow : Bool) : List Char → List Char
  | [] => []
  | char :: rest =>
      if endsPlain inFlow char (rest.headD endMark) then [] else char :: plainRun inFlow rest

/-- Breaks and spaces in front of the next line of a plain scalar; none before a separator. -/
def plainBreaks : Nat → List Char → Scan (Option (List Char))
  | 0, breaks => return some breaks
  | fuel + 1, breaks => do
      let char ← peek
      if char == ' ' then
        forward 1
        plainBreaks fuel breaks
      else if isBreak char then
        let breaks := breaks ++ (← lineBreak)
        if ← atSeparator then return none else plainBreaks fuel breaks
      else return some breaks

/-- What stands between two lines of a folded text: a space for one line feed, else the breaks that
follow it. -/
def foldBreak (first breaks : List Char) : List Char :=
  (if first != ['\n'] then first else if breaks.isEmpty then [' '] else []) ++ breaks

/-- The spaces behind a run, and whether the line ended there. -/
def plainSpaces : Scan (List Char × Bool) := do
  let spaces ← takeRun (· == ' ')
  if isBreak (← peek) then
    let first ← lineBreak
    if ← atSeparator then return ([], true)
    match ← plainBreaks (← enough) [] with
    | none => return ([], true)
    | some breaks => return (foldBreak first breaks, true)
  else return (spaces, false)

/-- A run of a plain scalar. What stands behind a colon tells whether this one ends the run. -/
def plainRunHere (inFlow : Bool) : Scan (List Char) := do
  let run := plainRun inFlow (← get).rest
  if (← peekAt run.length) == ':' then reach (run.length + 2)
  return run

/-- Reads run after run. The spaces passed last belong to the text only if another run follows. -/
def plainFrom (inFlow : Bool) (indent : Int) :
    Nat → Array Char → List Char → Bool → Scan (Array Char × Bool)
  | 0, text, _, broke => return (text, broke)
  | fuel + 1, text, spaces, broke => do
      if (← peek) == '#' then return (text, broke)
      let run ← plainRunHere inFlow
      if run.isEmpty then return (text, broke)
      forward run.length
      let text := text ++ spaces ++ run
      let (spaces, broke) ← plainSpaces
      let outside := !inFlow && (((← get).column : Int) < indent)
      if spaces.isEmpty || (← peek) == '#' || outside then return (text, broke)
      plainFrom inFlow indent fuel text spaces broke

/-- The text of a plain scalar, and whether a line ended behind it. -/
def plainText (inFlow : Bool) (indent : Int) : Scan (List Char × Bool) := do
  let (text, broke) ← plainFrom inFlow indent (← enough) #[] [] false
  return (text.toList, broke)

/-! Quoted scalars. -/

def escapedChar? : Char → Option Char
  | '0' => some '\x00'
  | 'a' => some '\x07'
  | 'b' => some '\x08'
  | 't' => some '\x09'
  | '\t' => some '\x09'
  | 'n' => some '\x0a'
  | 'v' => some '\x0b'
  | 'f' => some '\x0c'
  | 'r' => some '\x0d'
  | 'e' => some '\x1b'
  | ' ' => some ' '
  | '"' => some '"'
  | '\\' => some '\\'
  | '/' => some '/'
  | 'N' => some '\x85'
  | '_' => some '\xa0'
  | 'L' => some '\u2028'
  | 'P' => some '\u2029'
  | _ => none

def escapeWidth? : Char → Option Nat
  | 'x' => some 2
  | 'u' => some 4
  | 'U' => some 8
  | _ => none

/-- Hexadecimal digits of a code point, which must be in its range. Halves of surrogate pairs are
in it, and no two of them are put together. -/
def codePoint (width : Nat) : Scan Text.Place := do
  let digits := ((← get).rest.take width).takeWhile isHexDigit
  if digits.length < width then
    reach (digits.length + 1)
    malformed
  let code := hexNumber digits
  if 0x7FFFFFFF < code then throw (.value .codePointSize)
  if 0x10FFFF < code then throw (.value .codePoint)
  forward width
  return .ofCode code

def skipBlanks : Scan Unit := do
  let _ ← takeRun fun char => char == ' ' || char == '\t'

/-- The breaks of empty lines inside a quoted scalar, where no document may begin or end. -/
def quotedBreaks : Nat → List Char → Scan (List Char)
  | 0, breaks => return breaks
  | fuel + 1, breaks => do
      if ← atSeparator then malformed
      skipBlanks
      if isBreak (← peek) then quotedBreaks fuel (breaks ++ (← lineBreak)) else return breaks

def allQuotedBreaks : Scan (List Char) := do
  quotedBreaks (← enough) []

/-- Characters that stand for themselves inside quotes. -/
def isQuotedChar (char : Char) : Bool :=
  !(isGap char || char == '\'' || char == '"' || char == '\\')

/-- An escape behind its backslash. -/
def escaped : Scan (List Char) := do
  let char ← peek
  match escapedChar? char, escapeWidth? char with
  | some meant, _ =>
      forward 1
      return [meant]
  | none, some width =>
      forward 1
      return (← codePoint width).chars
  | none, none =>
      demand (isBreak char)
      let _ ← lineBreak
      allQuotedBreaks

/-- The characters up to the next blank or to the closing quote. -/
def quotedRun (double : Bool) : Nat → Array Char → Scan (Array Char)
  | 0, text => return text
  | fuel + 1, text => do
      let text := text ++ (← takeRun isQuotedChar)
      let char ← peek
      if !double && char == '\'' then
        if (← peekAt 1) == '\'' then
          forward 2
          quotedRun double fuel (text.push '\'')
        else return text
      else if (double && char == '\'') || (!double && (char == '"' || char == '\\')) then
        forward 1
        quotedRun double fuel (text.push char)
      else if double && char == '\\' then
        forward 1
        quotedRun double fuel (text ++ (← escaped))
      else return text

def quotedSpaces : Scan (List Char) := do
  let spaces ← takeRun fun char => char == ' ' || char == '\t'
  let char ← peek
  demand (char != endMark)
  if isBreak char then
    let first ← lineBreak
    return foldBreak first (← allQuotedBreaks)
  else return spaces

def quotedFrom (double : Bool) : Nat → Array Char → Scan (Array Char)
  | 0, _ => malformed
  | fuel + 1, text => do
      let text ← quotedRun double (← enough) text
      if (← peek) == (if double then '"' else '\'') then
        forward 1
        return text
      else quotedFrom double fuel (text ++ (← quotedSpaces))

/-- The text of a quoted scalar, from its opening quote. -/
def quotedText : Scan (List Char) := do
  let double := (← peek) == '"'
  forward 1
  return (← quotedFrom double (← enough) #[]).toList

/-! Block scalars. -/

/-- What happens to the line breaks at the end of a block scalar. -/
inductive Chomping where
  | strip
  | clip
  | keep
  deriving DecidableEq

def chomping? : Char → Option Chomping
  | '+' => some .keep
  | '-' => some .strip
  | _ => none

def indentDigit? (char : Char) : Scan (Option Nat) := do
  if '0' ≤ char && char ≤ '9' then
    demand (char != '0')
    forward 1
    return some (char.toNat - '0'.toNat)
  else return none

/-- The sign and the digit behind a block indicator, in either order. -/
def blockIndicators : Scan (Chomping × Option Nat) := do
  let found ← match chomping? (← peek) with
    | some chomping => do
        forward 1
        pure (chomping, ← indentDigit? (← peek))
    | none => do
        match ← indentDigit? (← peek) with
        | none => pure (.clip, none)
        | some digit =>
            match chomping? (← peek) with
            | some chomping => do
                forward 1
                pure (chomping, some digit)
            | none => pure (.clip, some digit)
  demand (isSpaceBreakOrEnd (← peek))
  return found

/-- The breaks in front of the first line, and the widest indentation among them. -/
def blockLead : Nat → List Char → Nat → Scan (List Char × Nat)
  | 0, breaks, widest => return (breaks, widest)
  | fuel + 1, breaks, widest => do
      let char ← peek
      if char == ' ' then
        forward 1
        blockLead fuel breaks (max widest (← get).column)
      else if isBreak char then blockLead fuel (breaks ++ (← lineBreak)) widest
      else return (breaks, widest)

/-- The breaks of empty lines, with the indentation of each taken off. -/
def blockBreaks (indent : Nat) : Nat → List Char → Scan (List Char)
  | 0, breaks => return breaks
  | fuel + 1, breaks => do
      skipUpTo (· == ' ') (indent - (← get).column)
      if isBreak (← peek) then blockBreaks indent fuel (breaks ++ (← lineBreak))
      else return breaks

def isBlankChar (char : Char) : Bool := char == ' ' || char == '\t'

/-- Whether a line of a block scalar stands here. -/
def atBlockLine (indent : Nat) : Scan Bool := do
  if (← get).column == indent then return (← peek) != endMark else return false

/-- Reads line after line at the indentation of the scalar. The breaks stand in front of the next
line; folding joins two lines when neither begins with a blank. -/
def blockFrom (folded : Bool) (indent : Nat) :
    Nat → Array Char → List Char → List Char → Scan (Array Char × List Char × List Char)
  | 0, text, final, breaks => return (text, final, breaks)
  | fuel + 1, text, final, breaks => do
      if !(← atBlockLine indent) then return (text, final, breaks)
      let leading := !isBlankChar (← peek)
      let text := text ++ breaks ++ (← takeRun (!isBreak ·))
      let final ← lineBreak
      let breaks ← blockBreaks indent (← enough) []
      if ← atBlockLine indent then
        let joined :=
          if folded && final == ['\n'] && leading && !isBlankChar (← peek) then
            (if breaks.isEmpty then [' '] else [])
          else final
        blockFrom folded indent fuel (text ++ joined) [] breaks
      else return (text, final, breaks)

/-- The text of a block scalar, from its indicator. -/
def blockText (folded : Bool) (outer : Int) : Scan (List Char) := do
  forward 1
  let (chomping, digit) ← blockIndicators
  endOfLine
  let least := (max (outer + 1) 1).toNat
  let fuel ← enough
  let (breaks, indent) ← match digit with
    | none => do
        let (breaks, widest) ← blockLead fuel [] 0
        pure (breaks, max least widest)
    | some digit => do
        let indent := least + digit - 1
        pure (← blockBreaks indent fuel [], indent)
  let (text, final, breaks) ← blockFrom folded indent (← enough) #[] [] breaks
  return match chomping with
    | .strip => text.toList
    | .clip => text.toList ++ final
    | .keep => text.toList ++ final ++ breaks

end RosettaDaml.Yaml
