/-
This file cuts the arguments of an action into tokens, and names what can be wrong with arguments.
-/

import RosettaDaml.Text.Encoding
import RosettaDaml.Text.Integer
import RosettaDaml.Text.Name

namespace RosettaDaml.Screen

inductive ArgumentFault where
  | unmatched (bracket : Char)
  | crossed (closing opening : Char)
  | unclosed (bracket : Char)
  | openText (line : Nat)
  | openLongText (line : Nat)
  /-- A number with a base or a kind that ends in the wrong way. -/
  | numberEnd (kind : String)
  | leadingZero
  | strayBackslash
  | openLine
  /-- A character that stands in no name and means nothing else. -/
  | strange (char : Char)
  | nullChar
  /-- The arguments hold halves of surrogate pairs. -/
  | halves (fault : Text.EncodingFault)
  | missingComma
  | singleEquals
  | emptyEntry
  | wrongOrder
  /-- A text of characters stands beside one of bytes. -/
  | mixedTexts
  /-- A text of bytes that holds another character than the plain ones. -/
  | foreignByte
  /-- Something that is well formed and no literal value. -/
  | noLiteral
  /-- A key, or a member of a set, that can be changed. -/
  | unhashable (kind : String)
  deriving DecidableEq, Repr

/-- At least four hexadecimal digits, with capital letters. -/
def codeDigits (code : Nat) : List Char :=
  let digits := (Nat.toDigits 16 code).map Char.toUpper
  List.replicate (4 - digits.length) '0' ++ digits

def ArgumentFault.message : ArgumentFault → String
  | .unmatched bracket => s!"unmatched '{bracket}'"
  | .crossed closing opening =>
      s!"closing parenthesis '{closing}' does not match opening parenthesis '{opening}'"
  | .unclosed bracket => s!"'{bracket}' was never closed"
  | .openText line => s!"unterminated string literal (detected at line {line})"
  | .openLongText line => s!"unterminated triple-quoted string literal (detected at line {line})"
  | .numberEnd kind => s!"invalid {kind} literal"
  | .leadingZero =>
      "leading zeros in decimal integer literals are not permitted; " ++
        "use an 0o prefix for octal integers"
  | .strayBackslash => "unexpected character after line continuation character"
  | .openLine => "unexpected EOF while parsing"
  | .strange char =>
      let code := String.ofList (codeDigits char.toNat)
      if Text.isPrintable char then s!"invalid character '{char}' (U+{code})"
      else s!"invalid non-printable character U+{code}"
  | .nullChar => "source code string cannot contain null bytes"
  | .halves fault => fault.message
  | .missingComma => "invalid syntax. Perhaps you forgot a comma?"
  | .singleEquals => "invalid syntax. Maybe you meant '==' or ':=' instead of '='?"
  | .emptyEntry => "expression expected after dictionary key and ':'"
  | .wrongOrder => "invalid syntax"
  | .mixedTexts => "cannot mix bytes and nonbytes literals"
  | .foreignByte => "bytes can only contain ASCII literal characters"
  | .noLiteral => "malformed node or string on line 1"
  | .unhashable kind => s!"unhashable type: '{kind}'"

/-- Whether a fault lies outside the rules for writing arguments. -/
def ArgumentFault.isOutside : ArgumentFault → Bool
  | .noLiteral => true
  | .unhashable _ => true
  | .halves _ => true
  | _ => false

/-! Tokens. -/

/-- What a text between quotes holds. One that is filled in with values is no literal. -/
inductive TextKind where
  | characters
  | bytes
  | filled
  deriving DecidableEq, Repr

inductive ArgumentToken where
  | word (name : String)
  | number (imaginary : Bool)
  /-- A text may hold only plain characters. -/
  | quoted (kind : TextKind) (isPlain : Bool)
  | opening (bracket : Char)
  | closing (bracket : Char)
  | mark (text : String)
  deriving DecidableEq, Repr

namespace ArgumentToken

/-- The characters that are taken for a name before it is looked at. -/
def runsInName (char : Char) : Bool := Text.isPlainNameChar char || 0x80 ≤ char.toNat

/-- The marks of more than one character, the longer ones first. -/
def longMarks : List String :=
  ["...", "**=", "//=", "<<=", ">>=", "**", "//", "<<", ">>", "==", "!=", "<=", ">=", "->", ":=",
   "+=", "-=", "*=", "/=", "%=", "&=", "|=", "^=", "@=", "<>"]

/-- The words in front of a quote that say how the text is to be read. -/
def textLeads : List (String × TextKind) :=
  [("r", .characters), ("u", .characters), ("b", .bytes), ("br", .bytes), ("rb", .bytes),
   ("f", .filled), ("fr", .filled), ("rf", .filled)]

/-- The characters behind the closing quote; a backslash guards the character behind it. -/
def behindQuote? (quote : Char) : List Char → Option (List Char)
  | [] => none
  | '\\' :: _ :: rest => behindQuote? quote rest
  | char :: rest =>
      if char == quote then some rest
      else if char == '\n' then none
      else behindQuote? quote rest

/-- The characters behind three quotes. -/
def behindQuotes? (quote : Char) : List Char → Option (List Char)
  | [] => none
  | '\\' :: _ :: rest => behindQuotes? quote rest
  | first :: second :: third :: rest =>
      if first == quote && second == quote && third == quote then some rest
      else behindQuotes? quote (second :: third :: rest)
  | _ :: rest => behindQuotes? quote rest

def lineFeeds (chars : List Char) : Nat := chars.count '\n'

/-- The characters behind a text on a line, from its opening quote on. -/
def behindText (line : Nat) (quote : Char) (chars : List Char) :
    Except ArgumentFault (List Char) :=
  if [quote, quote].isPrefixOf chars then
    match behindQuotes? quote (chars.drop 2) with
    | some rest => .ok rest
    | none => .error (.openLongText (line + lineFeeds chars))
  else
    match behindQuote? quote chars with
    | some rest => .ok rest
    | none => .error (.openText line)

/-- The text from its opening quote on, which stands on a line. -/
def takeText (line : Nat) (kind : TextKind) (quote : Char) (chars : List Char) :
    Except ArgumentFault (ArgumentToken × List Char) := do
  let behind ← behindText line quote chars
  let text := chars.take (chars.length - behind.length)
  return (.quoted kind (text.all fun char => char.toNat < 0x80), behind)

/-- Digits with single underscores between them. -/
def isDigitRun (chars : List Char) : Bool :=
  (Text.digitRun? chars).isSome

def isDigitOrGap (char : Char) : Bool := char.isDigit || char == '_'

/-- The characters behind the power of ten of a number. -/
def behindPower : List Char → List Char
  | letter :: rest =>
      if letter.toLower == 'e' then
        let digits := match rest with
          | '+' :: more => more
          | '-' :: more => more
          | more => more
        if (digits.head?.map Char.isDigit).getD false then digits.dropWhile isDigitOrGap
        else letter :: rest
      else letter :: rest
  | [] => []

/-- The words that may follow a number without a blank, and whether they must end there. -/
def followingWords : List (String × Bool) :=
  [("and", true), ("else", true), ("for", true), ("if", false), ("in", false), ("is", false),
   ("not", true), ("or", true)]

/-- Whether a word stands here, with its end where it needs one. -/
def startsWord (chars : List Char) (given : String × Bool) : Bool :=
  let behind := chars.drop given.1.length
  given.1.toList.isPrefixOf chars && !(given.2 && (behind.head?.map runsInName).getD false)

/-- Whether a number is followed by what cannot follow it. -/
def runsOn (behind : List Char) : Bool :=
  (behind.head?.map Text.isPlainNameChar).getD false && !followingWords.any (startsWord behind)

/-- Reads a number from its first character on. -/
def takeNumber (chars : List Char) : Except ArgumentFault (ArgumentToken × List Char) := do
  let whole := chars.takeWhile isDigitOrGap
  let rest := chars.dropWhile isDigitOrGap
  let (fraction, rest) := match rest with
    | '.' :: more => (some (more.takeWhile isDigitOrGap), more.dropWhile isDigitOrGap)
    | other => (none, other)
  let behind := behindPower rest
  let powered := behind.length < rest.length
  let (imaginary, behind) := match behind with
    | letter :: more => if letter.toLower == 'j' then (true, more) else (false, behind)
    | [] => (false, [])
  let isEmptyOrRun (digits : List Char) : Bool := digits.isEmpty || isDigitRun digits
  if !isEmptyOrRun whole || !isEmptyOrRun (fraction.getD []) then throw (.numberEnd "decimal")
  if fraction.isNone && !powered && !imaginary && whole.head? == some '0' &&
      whole.any fun digit => digit != '0' && digit != '_' then throw .leadingZero
  if runsOn behind then throw (.numberEnd (if imaginary then "imaginary" else "decimal"))
  return (.number imaginary, behind)

/-- The digits of a base that is given by a letter, and its name. -/
def baseOf? (letter : Char) : Option ((Char → Bool) × String) :=
  match letter.toLower with
  | 'x' =>
      some (fun char => char.isDigit || ('a' ≤ char.toLower && char.toLower ≤ 'f'), "hexadecimal")
  | 'o' => some (fun char => '0' ≤ char && char ≤ '7', "octal")
  | 'b' => some (fun char => char == '0' || char == '1', "binary")
  | _ => none

/-- Reads a number in another base from its letter on. -/
def takeBased (isDigit : Char → Bool) (kind : String) (rest : List Char) :
    Except ArgumentFault (ArgumentToken × List Char) :=
  let behind := rest.dropWhile fun char => isDigit char || char == '_'
  if !(rest.head?.map isDigit).getD false || runsOn behind then .error (.numberEnd kind)
  else .ok (.number false, behind)

def opener : Char → Char
  | ')' => '('
  | _ => '\x7b'

/-- The token that begins here on a line, and the characters behind it. -/
def take (line : Nat) (char : Char) (rest : List Char) :
    Except ArgumentFault (ArgumentToken × List Char) := do
  if char.isDigit || (char == '.' && (rest.head?.map Char.isDigit).getD false) then
    match char, rest with
    | '0', letter :: digits =>
        match baseOf? letter with
        | some (isDigit, kind) => takeBased isDigit kind digits
        | none => takeNumber (char :: rest)
    | _, _ => takeNumber (char :: rest)
  else if runsInName char then
    let name := char :: rest.takeWhile runsInName
    if let some strange := Text.strangeChar? name then throw (.strange strange)
    let word := String.ofList name
    match rest.dropWhile runsInName with
    | [] => return (.word word, [])
    | quote :: more =>
        match textLeads.lookup word.toLower with
        | some kind =>
            if quote == '"' || quote == '\'' then takeText line kind quote more
            else return (.word word, quote :: more)
        | none => return (.word word, quote :: more)
  else if char == '"' || char == '\'' then takeText line .characters char rest
  else if char == '(' || char == '\x7b' then return (.opening char, rest)
  else if char == ')' || char == '\x7d' then return (.closing char, rest)
  else
    match longMarks.find? fun text => text.toList.isPrefixOf (char :: rest) with
    | some text => return (.mark text, rest.drop (text.length - 1))
    | none =>
        if Text.isPrintable char || char == '\n' then return (.mark char.toString, rest)
        else throw (.strange char)

/-- Blanks, and line feeds inside brackets. -/
def isSpace (opened : List Char) (char : Char) : Bool :=
  char == ' ' || char == '\t' || char == '\x0c' || (char == '\n' && !opened.isEmpty)

/-- The brackets that are open behind a token. -/
def bracketsBehind (opened : List Char) : ArgumentToken → Except ArgumentFault (List Char)
  | .opening bracket => .ok (bracket :: opened)
  | .closing bracket =>
      match opened with
      | [] => .error (.unmatched bracket)
      | last :: before =>
          if opener bracket == last then .ok before else .error (.crossed bracket last)
  | _ => .ok opened

/-- The tokens of some characters from a line on, with the brackets that are open before them. What
stands behind a number sign counts for nothing. A backslash takes the end of its line away; nothing
is read behind one that cannot. -/
def ofChars (line : Nat) (opened : List Char) :
    Nat → List Char → Except ArgumentFault (List ArgumentToken)
  | 0, _ => .ok []
  | _, [] => .ok []
  | fuel + 1, char :: rest => do
      if isSpace opened char then ofChars (line + lineFeeds [char]) opened fuel rest
      else if char == '#' then ofChars line opened fuel (rest.dropWhile (· != '\n'))
      else if char == '\\' then
        match rest with
        | ['\n'] => return [.mark "\\\n"]
        | '\n' :: more => ofChars (line + 1) opened fuel more
        | _ => return [.mark "\\"]
      else
        let (token, behind) ← take line char rest
        let passed := lineFeeds ((char :: rest).take (rest.length + 1 - behind.length))
        return token :: (← ofChars (line + passed) (← bracketsBehind opened token) fuel behind)

end ArgumentToken

end RosettaDaml.Screen
