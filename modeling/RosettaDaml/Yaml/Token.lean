/-
This file cuts a YAML text into tokens. Indentation becomes tokens of its own, and a key that is
only known as one by the colon behind it gets its token put in front.
-/

import RosettaDaml.Text.Encoding
import RosettaDaml.Yaml.ScalarText

namespace RosettaDaml.Yaml

inductive Directive where
  | version (major : Nat)
  | handle (handle lead : String)
  | other
  deriving DecidableEq, Repr

/-- A tag as written: a handle, which a directive may define, and the rest. -/
structure TagText where
  handle : Option String
  suffix : String
  deriving DecidableEq, Repr

inductive Token where
  | directive (directive : Directive)
  | documentStart
  | documentEnd
  | streamEnd
  | blockSequenceStart
  | blockMappingStart
  | blockEnd
  | flowSequenceStart
  | flowSequenceEnd
  | flowMappingStart
  | flowMappingEnd
  | blockEntry
  | flowEntry
  | key
  | value
  | reference (name : String)
  | anchor (name : String)
  | tag (tag : TagText)
  | scalar (plain : Bool) (text : String)
  deriving DecidableEq, Repr

/-- A token that may turn out to start a key. The key token is put in front of it, behind as many
tokens as there were before. -/
structure PossibleKey where
  flowLevel : Nat
  tokensBefore : Nat
  required : Bool
  left : Nat
  line : Nat
  column : Nat

structure Scanner where
  /-- The tokens that are not taken yet, and the number of those that are. -/
  pending : List Token
  taken : Nat
  ended : Bool
  flowLevel : Nat
  /-- The column of the innermost block, and those of the blocks around it. -/
  indent : Int
  outer : List Int
  keyAllowed : Bool
  possibleKeys : List PossibleKey

abbrev Lexing := StateT Scanner Scan

namespace Scanner

def start : Scanner := ⟨[], 0, false, 0, -1, [], true, []⟩

def count (scanner : Scanner) : Nat := scanner.taken + scanner.pending.length

/-- Puts a token behind as many others as are given. -/
def insert (before : Nat) (token : Token) (scanner : Scanner) : Scanner :=
  { scanner with pending := scanner.pending.insertIdx (before - scanner.taken) token }

def push (token : Token) (scanner : Scanner) : Scanner :=
  { scanner with pending := scanner.pending ++ [token] }

/-- Whether the next token may still get a key token in front of it. -/
def awaitsKey (scanner : Scanner) : Bool :=
  scanner.possibleKeys.any fun key => key.tokensBefore == scanner.taken

def inFlow (scanner : Scanner) : Bool := 0 < scanner.flowLevel

end Scanner

namespace Lexing

def emit (token : Token) : Lexing Unit := modify (Scanner.push token)

def insertToken (before : Nat) (token : Token) : Lexing Unit :=
  modify (Scanner.insert before token)

def allowKey (allowed : Bool) : Lexing Unit :=
  modify fun scanner => { scanner with keyAllowed := allowed }

def cursor : Lexing Cursor := fun scanner => do return (← get, scanner)

/-- A possible key ends with its line and after 1024 characters; one that had to be a key is
missed then. -/
def dropStaleKeys : Lexing Unit := do
  let here ← cursor
  let isStale (key : PossibleKey) : Bool := key.line != here.line || 1024 < key.left - here.left
  let scanner ← get
  demand (!scanner.possibleKeys.any fun key => isStale key && key.required)
  set { scanner with possibleKeys := scanner.possibleKeys.filter fun key => !isStale key }

/-- Gives up the possible key of the current level. -/
def dropKey : Lexing Unit := do
  let scanner ← get
  let isHere (key : PossibleKey) : Bool := key.flowLevel == scanner.flowLevel
  demand (!scanner.possibleKeys.any fun key => isHere key && key.required)
  set { scanner with possibleKeys := scanner.possibleKeys.filter fun key => !isHere key }

/-- The possible key of the current level, which is none any more. -/
def takeKey : Lexing (Option PossibleKey) :=
  modifyGet fun scanner =>
    let (here, others) :=
      scanner.possibleKeys.partition fun key => key.flowLevel == scanner.flowLevel
    (here.head?, { scanner with possibleKeys := others })

def noteKey : Lexing Unit := do
  if (← get).keyAllowed then
    dropKey
    let here ← cursor
    modify fun scanner =>
      let required := !scanner.inFlow && scanner.indent == (here.column : Int)
      let key : PossibleKey :=
        ⟨scanner.flowLevel, scanner.count, required, here.left, here.line, here.column⟩
      { scanner with possibleKeys := key :: scanner.possibleKeys }

/-- Closes the blocks that lie further right than a column. -/
def closeBlocks (column : Int) : Nat → Lexing Unit
  | 0 => pure ()
  | fuel + 1 => do
      let scanner ← get
      if !scanner.inFlow && column < scanner.indent then
        set { scanner.push .blockEnd with
          indent := scanner.outer.headD (-1)
          outer := scanner.outer.tail }
        closeBlocks column fuel

def unwind (column : Int) : Lexing Unit := do
  closeBlocks column ((← get).outer.length + 1)

/-- Opens a block at a column unless the current one lies there already. -/
def openBlock (column : Nat) : Lexing Bool := do
  let scanner ← get
  if scanner.indent < (column : Int) then
    set { scanner with indent := (column : Int), outer := scanner.indent :: scanner.outer }
    return true
  else return false

/-- The blanks, comments and line breaks in front of a token. -/
def toNextToken : Nat → Lexing Unit
  | 0 => pure ()
  | fuel + 1 => do
      let _ ← takeRun (· == ' ')
      if (← peek) == '#' then
        let _ ← takeRun (!isBreak ·)
      if isBreak (← peek) then
        let _ ← lineBreak
        if !(← get).inFlow then allowKey true
        toNextToken fuel

def streamEnd : Lexing Unit := do
  unwind (-1)
  dropKey
  modify fun scanner => { scanner with keyAllowed := false, possibleKeys := [], ended := true }
  emit .streamEnd

/-! Directives, names and tags. -/

def wordRun : Scan (List Char) := do
  let word ← takeRun isWordChar
  demand !word.isEmpty
  return word

def number : Scan Nat := do
  let digits ← runOf Char.isDigit
  demand !digits.isEmpty
  if Text.digitLimit < digits.length then throw (.value (.integerDigits digits.length))
  forward digits.length
  return digits.foldl (fun total digit => 10 * total + (digit.toNat - '0'.toNat)) 0

def isUriChar (char : Char) : Bool :=
  isWordChar char || ";/?:@&=+$,_.!~*'()[]".toList.contains char

def uriEscapes : Nat → List UInt8 → Scan (List UInt8)
  | 0, bytes => return bytes
  | fuel + 1, bytes => do
      if (← peek) == '%' then
        forward 1
        let high ← peek
        demand (isHexDigit high)
        let low ← peekAt 1
        demand (isHexDigit low)
        forward 2
        uriEscapes fuel (bytes ++ [UInt8.ofNat (hexNumber [high, low])])
      else return bytes

def uriFrom : Nat → List Char → Scan (List Char)
  | 0, text => return text
  | fuel + 1, text => do
      let text := text ++ (← takeRun isUriChar)
      if (← peek) == '%' then
        let bytes ← uriEscapes (← enough) []
        match Text.decode? ⟨bytes.toArray⟩ with
        | some decoded => uriFrom fuel (text ++ decoded.toList)
        | none => malformed
      else return text

def uri : Scan String := do
  let text ← uriFrom (← enough) []
  demand !text.isEmpty
  return String.ofList text

/-- An exclamation mark, or a word between two of them. -/
def tagHandle : Scan String := do
  demand ((← peek) == '!')
  if (← peekAt 1) == ' ' then
    forward 1
    return "!"
  forward 1
  let word ← takeRun isWordChar
  if (← peek) == '!' then
    forward 1
    return String.ofList ('!' :: word ++ ['!'])
  else malformed

def directiveText : Scan Directive := do
  forward 1
  let name := String.ofList (← wordRun)
  demand (isSpaceBreakOrEnd (← peek))
  let directive ← match name with
    | "YAML" => do
        let _ ← takeRun (· == ' ')
        let major ← number
        demand ((← peek) == '.')
        forward 1
        let _ ← number
        demand (isSpaceBreakOrEnd (← peek))
        pure (Directive.version major)
    | "TAG" => do
        let _ ← takeRun (· == ' ')
        let handle ← tagHandle
        demand ((← peek) == ' ')
        let _ ← takeRun (· == ' ')
        let lead ← uri
        demand (isSpaceBreakOrEnd (← peek))
        pure (Directive.handle handle lead)
    | _ => do
        let _ ← takeRun (!isBreak ·)
        pure Directive.other
  endOfLine
  return directive

/-- The name behind the mark of an anchor or of a reference. -/
def anchorName : Scan String := do
  forward 1
  let word ← wordRun
  let next ← peek
  demand (isGap next || "?:,]\x7d%@`".toList.contains next)
  return String.ofList word

/-- Whether a second exclamation mark comes before the next gap. -/
def hasHandle : Scan Bool := do
  let word := ((← get).rest.drop 1).takeWhile fun char => !isSpaceBreakOrEnd char && char != '!'
  return (← peekAt (1 + word.length)) == '!'

def tagText : Scan TagText := do
  let next ← peekAt 1
  let tag ← if next == '<' then do
      forward 2
      let suffix ← uri
      demand ((← peek) == '>')
      forward 1
      pure (TagText.mk none suffix)
    else if isGap next then do
      forward 1
      pure (TagText.mk none "!")
    else do
      if ← hasHandle then
        let handle ← tagHandle
        pure (TagText.mk (some handle) (← uri))
      else do
        forward 1
        pure (TagText.mk (some "!") (← uri))
  demand (isSpaceBreakOrEnd (← peek))
  return tag

/-! One token. -/

def documentMark (token : Token) : Lexing Unit := do
  unwind (-1)
  dropKey
  allowKey false
  forward 3
  emit token

def directive : Lexing Unit := do
  unwind (-1)
  dropKey
  allowKey false
  emit (.directive (← directiveText))

def flowStart (token : Token) : Lexing Unit := do
  noteKey
  modify fun scanner => { scanner with flowLevel := scanner.flowLevel + 1, keyAllowed := true }
  forward 1
  emit token

def flowEnd (token : Token) : Lexing Unit := do
  dropKey
  modify fun scanner => { scanner with flowLevel := scanner.flowLevel - 1, keyAllowed := false }
  forward 1
  emit token

def flowEntry : Lexing Unit := do
  allowKey true
  dropKey
  forward 1
  emit .flowEntry

/-- Opens a block for an entry that starts here, where one may start. -/
def openEntry (token : Token) : Lexing Unit := do
  if !(← get).inFlow then
    demand (← get).keyAllowed
    if ← openBlock (← cursor).column then emit token

def blockEntry : Lexing Unit := do
  openEntry .blockSequenceStart
  allowKey true
  dropKey
  forward 1
  emit .blockEntry

def key : Lexing Unit := do
  openEntry .blockMappingStart
  allowKey !(← get).inFlow
  dropKey
  forward 1
  emit .key

/-- A colon behind a possible key makes it one; else it belongs to a key given before. -/
def value : Lexing Unit := do
  match ← takeKey with
  | some found =>
      insertToken found.tokensBefore .key
      if !(← get).inFlow then
        if ← openBlock found.column then insertToken found.tokensBefore .blockMappingStart
      allowKey false
  | none =>
      openEntry .blockMappingStart
      allowKey !(← get).inFlow
      dropKey
  forward 1
  emit .value

/-- A token that may start a key and behind which none can start. -/
def keyLike (scan : Scan Token) : Lexing Unit := do
  noteKey
  allowKey false
  emit (← scan)

def plain : Lexing Unit := do
  noteKey
  let inFlow := (← get).inFlow
  let indent := (← get).indent + 1
  let (text, broke) ← plainText inFlow indent
  allowKey broke
  emit (.scalar true (String.ofList text))

def block (folded : Bool) : Lexing Unit := do
  allowKey true
  dropKey
  emit (.scalar false (String.ofList (← blockText folded (← get).indent)))

def isIndicator (char : Char) : Bool :=
  "-?:,[]\x7b\x7d#&*!|>'\"%@`".toList.contains char

def gapFollows : Scan Bool := return isGap (← peekAt 1)

/-- Whether a document marker stands here, at the start of a line. -/
def markerHere (char : Char) : Scan Bool := do
  if (← get).column == 0 then isMarker char else return false

/-- Reads one token. An indicator with a gap behind it is a token, and else it may start a plain
scalar. -/
def step : Lexing Unit := do
  toNextToken (← enough)
  dropStaleKeys
  unwind (← cursor).column
  let inFlow := (← get).inFlow
  match ← peek with
  | '\x00' => streamEnd
  | '[' => flowStart .flowSequenceStart
  | '\x7b' => flowStart .flowMappingStart
  | ']' => flowEnd .flowSequenceEnd
  | '\x7d' => flowEnd .flowMappingEnd
  | ',' => flowEntry
  | '-' =>
      if ← markerHere '-' then documentMark .documentStart
      else if ← gapFollows then blockEntry
      else plain
  | '.' => if ← markerHere '.' then documentMark .documentEnd else plain
  | '?' =>
      if inFlow then key
      else if ← gapFollows then key
      else plain
  | ':' =>
      if inFlow then value
      else if ← gapFollows then value
      else plain
  | '*' => keyLike (do return .reference (← anchorName))
  | '&' => keyLike (do return .anchor (← anchorName))
  | '!' => keyLike (do return .tag (← tagText))
  | '\'' => keyLike (do return .scalar false (String.ofList (← quotedText)))
  | '"' => keyLike (do return .scalar false (String.ofList (← quotedText)))
  | char =>
      if char == '%' && (← cursor).column == 0 then directive
      else if char == '|' && !inFlow then block false
      else if char == '>' && !inFlow then block true
      else if isGap char || isIndicator char then
        reach 2
        malformed
      else plain

/-- Reads tokens until the next one is known. -/
def fill : Nat → Lexing Unit
  | 0 => malformed
  | fuel + 1 => do
      let scanner ← get
      if !scanner.ended then
        if scanner.pending.isEmpty then
          step
          fill fuel
        else
          dropStaleKeys
          if (← get).awaitsKey then
            step
            fill fuel

/-- The next token, which is not taken yet. -/
def next : Lexing Token := do
  fill ((← enough) + 1)
  match (← get).pending with
  | token :: _ => return token
  | [] => malformed

def drop : Lexing Unit := do
  let _ ← next
  modify fun scanner =>
    { scanner with pending := scanner.pending.tail, taken := scanner.taken + 1 }

end Lexing

end RosettaDaml.Yaml
