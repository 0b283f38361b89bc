/-
This file says which tokens are literal values: numbers, texts, the words for true, false and
nothing, and collections of these.
-/

import RosettaDaml.Screen.Argument.Token

namespace RosettaDaml.Screen.Argument

/-- The words that are literal values. -/
def literalWords : List String := ["True", "False", "None"]

/-- What counts of a literal value. Only numbers can be put together. -/
inductive Literal where
  | number (imaginary signed : Bool)
  | constant
  /-- A collection that can be changed, or that holds one. -/
  | changing (kind : String)
  /-- A collection that cannot be built, since something in it can be changed. -/
  | refused (kind : String)
  deriving DecidableEq, Repr

namespace Literal

/-- Takes a value into a collection, as a key or a member where it must not change. -/
def join (fixed : Bool) : Literal → Literal → Literal
  | .refused kind, _ => .refused kind
  | _, .refused kind => .refused kind
  | whole, .changing kind =>
      if fixed then .refused kind
      else if whole = .constant then .changing kind else whole
  | whole, _ => whole

/-- A number with a sign in front of it. -/
def signed? : Literal → Option Literal
  | .number imaginary false => some (.number imaginary true)
  | _ => none

/-- A real and an imaginary number as one. -/
def sum? : Literal → Literal → Option Literal
  | .number false _, .number true false => some .constant
  | _, _ => none

end Literal

def isSign (text : String) : Bool := text == "+" || text == "-"

/-- The tokens behind texts that stand beside each other. -/
def behindTexts? (kind : TextKind) : List ArgumentToken → Option (List ArgumentToken)
  | .quoted other isPlain :: rest =>
      if other == kind && (isPlain || kind == .characters) then behindTexts? kind rest else none
  | rest => some rest

mutual

/-- A value, and the tokens behind it. -/
def value? : Nat → List ArgumentToken → Option (Literal × List ArgumentToken)
  | 0, _ => none
  | fuel + 1, tokens => do
      let (left, rest) ← signedValue? fuel tokens
      match rest with
      | .mark sign :: more =>
          if isSign sign then
            let (right, rest) ← plainValue? fuel more
            return (← left.sum? right, rest)
          else return (left, rest)
      | _ => return (left, rest)

def signedValue? : Nat → List ArgumentToken → Option (Literal × List ArgumentToken)
  | 0, _ => none
  | fuel + 1, tokens =>
      match tokens with
      | .mark sign :: rest => do
          if isSign sign then
            let (number, rest) ← plainValue? fuel rest
            return (← number.signed?, rest)
          else plainValue? fuel tokens
      | _ => plainValue? fuel tokens

/-- A value that begins with no sign. -/
def plainValue? : Nat → List ArgumentToken → Option (Literal × List ArgumentToken)
  | 0, _ => none
  | fuel + 1, tokens =>
      match tokens with
      | .number imaginary :: rest => some (.number imaginary false, rest)
      | .quoted .filled _ :: _ => none
      | .quoted kind _ :: _ => (behindTexts? kind tokens).map fun rest => (.constant, rest)
      | .mark "..." :: rest => some (.constant, rest)
      | .word "set" :: .opening '(' :: .closing ')' :: rest => some (.changing "set", rest)
      | .word name :: rest => if literalWords.contains name then some (.constant, rest) else none
      | .opening '(' :: .closing _ :: rest => some (.constant, rest)
      | .opening '(' :: rest => do
          let (first, more) ← value? fuel rest
          match more with
          | .closing _ :: behind => return (first, behind)
          | .mark "," :: more => items? false (.join false .constant first) fuel more
          | _ => none
      | .opening _ :: .closing _ :: rest => some (.changing "dict", rest)
      | .opening _ :: rest => do
          let (first, more) ← value? fuel rest
          match more with
          | .mark ":" :: _ => entries? (.changing "dict") fuel rest
          | .mark "," :: more => items? true (.join true (.changing "set") first) fuel more
          | .closing _ :: behind => return (.join true (.changing "set") first, behind)
          | _ => none
      | _ => none

/-- The other items of a collection, up to its closing bracket. -/
def items? (fixed : Bool) (whole : Literal) :
    Nat → List ArgumentToken → Option (Literal × List ArgumentToken)
  | 0, _ => none
  | fuel + 1, tokens =>
      match tokens with
      | .closing _ :: rest => some (whole, rest)
      | _ => do
          let (item, rest) ← value? fuel tokens
          match rest with
          | .closing _ :: more => return (.join fixed whole item, more)
          | .mark "," :: more => items? fixed (.join fixed whole item) fuel more
          | _ => none

/-- The entries of a map, up to its closing bracket. A value is built before its key is taken in. -/
def entries? (whole : Literal) :
    Nat → List ArgumentToken → Option (Literal × List ArgumentToken)
  | 0, _ => none
  | fuel + 1, tokens =>
      match tokens with
      | .closing _ :: rest => some (whole, rest)
      | _ => do
          let (key, rest) ← value? fuel tokens
          match rest with
          | .mark ":" :: rest =>
              let (content, rest) ← value? fuel rest
              let whole := .join true (.join false (.join false whole key) content) key
              match rest with
              | .closing _ :: more => return (whole, more)
              | .mark "," :: more => entries? whole fuel more
              | _ => none
          | _ => none

end

/-- The one value of some tokens: several with commas between them are the items of one. -/
def whole? : Nat → List ArgumentToken → Option Literal
  | 0, _ => none
  | fuel + 1, tokens => do
      let (value, rest) ← value? (4 * tokens.length + 4) tokens
      match rest with
      | [] => return value
      | [.mark ","] => return value
      | .mark "," :: more => return .join false value (← whole? fuel more)
      | _ => none

/-! Other tokens. -/

/-- The words that stand in front of an expression. -/
def leadingWords : List String := ["not", "lambda", "await", "yield"]

/-- The words that stand between two expressions. -/
def joiningWords : List String := ["and", "or", "in", "is", "not", "if", "else", "for"]

/-- The words that stand in no expression. -/
def statementWords : List String :=
  ["as", "assert", "async", "break", "class", "continue", "def", "del", "elif", "except", "finally",
   "from", "global", "import", "nonlocal", "pass", "raise", "return", "try", "while", "with"]

def joiningMarks : List String :=
  ["+", "-", "*", "/", "%", "@", "&", "|", "^", "<", ">", ".", ",", "**", "//", "<<", ">>", "==",
   "!=", "<=", ">="]

/-- What stands before a token. -/
inductive Before where
  | start
  | opening
  | comma
  | colon
  | joint
  | word
  | text (isBytes : Bool)
  | value
  deriving DecidableEq, Repr

namespace Before

def isExpression : Before → Bool
  | .word => true
  | .text _ => true
  | .value => true
  | _ => false

def isText : Before → Bool
  | .text _ => true
  | _ => false

end Before

/-- A bracket that is open, and whether it holds the arguments of a call. -/
abbrev Open := Char × Bool

/-- What is wrong where a value follows another one directly. -/
def adjacent (opened : List Open) (rest : List ArgumentToken) : ArgumentFault :=
  match opened, rest with
  | [], _ => .wrongOrder
  | (bracket, _) :: _, [] => .unclosed bracket
  | _, _ => .missingComma

/-- The fault of tokens that are no literal values. -/
def fault (before : Before) (opened : List Open) : List ArgumentToken → ArgumentFault
  | [] =>
      match opened with
      | (bracket, _) :: _ => .unclosed bracket
      | [] => if before.isExpression || before == .comma then .noLiteral else .wrongOrder
  | .word name :: rest =>
      if statementWords.contains name then .wrongOrder
      else if before.isExpression then
        if joiningWords.contains name then fault .joint opened rest
        else if leadingWords.contains name then .wrongOrder
        else adjacent opened rest
      else if leadingWords.contains name then fault .joint opened rest
      else if joiningWords.contains name then .wrongOrder
      else fault (if literalWords.contains name then .value else .word) opened rest
  | .number _ :: rest =>
      if before.isExpression then adjacent opened rest else fault .value opened rest
  | .quoted kind isPlain :: rest =>
      if before == .word && !rest.isEmpty then .wrongOrder
      else if before.isExpression && !before.isText then adjacent opened rest
      else if kind == .bytes && !isPlain then .foreignByte
      else if before == .text (kind != .bytes) then .mixedTexts
      else fault (.text (kind == .bytes)) opened rest
  | .opening bracket :: rest =>
      if before.isExpression && bracket != '(' then adjacent opened rest
      else fault .opening ((bracket, before.isExpression) :: opened) rest
  | .closing _ :: rest =>
      if before == .colon then .emptyEntry
      else if before == .joint then .wrongOrder
      else fault .value opened.tail rest
  | .mark "..." :: rest =>
      if before.isExpression then adjacent opened rest else fault .value opened rest
  | .mark "\\" :: _ => .strayBackslash
  | .mark "\\\n" :: _ => .openLine
  | .mark "," :: rest =>
      if before.isExpression then fault .comma opened rest else .wrongOrder
  | .mark ":" :: rest =>
      if before.isExpression && (opened.head?.map Prod.fst) == some '\x7b' then
        fault .colon opened rest
      else .wrongOrder
  | .mark "=" :: rest =>
      match opened with
      | [] => .wrongOrder
      | (_, isCall) :: _ =>
          if before != .word then .wrongOrder
          else if isCall then fault .joint opened rest
          else .singleEquals
  | .mark text :: rest =>
      if before.isExpression then
        if joiningMarks.contains text || text == ":=" then fault .joint opened rest
        else .wrongOrder
      else if ["+", "-", "~"].contains text || (!opened.isEmpty && ["*", "**"].contains text) then
        fault .joint opened rest
      else .wrongOrder

end RosettaDaml.Screen.Argument
