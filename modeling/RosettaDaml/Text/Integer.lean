/-
This file lists the decimal digits of every script and reads integers written with them.
-/

import RosettaDaml.Text.Blank

namespace RosettaDaml.Text

-- Powers are those of the numbers themselves, whatever else is known of them.
attribute [local instance(2000)] instPowNat instNatPowNat

/-- The digits zero of the scripts with decimal digits (general category Nd, Unicode 14). The
digits one to nine of a script follow its zero. -/
def digitZeros : List Nat :=
  [0x30, 0x660, 0x6F0, 0x7C0, 0x966, 0x9E6, 0xA66, 0xAE6, 0xB66, 0xBE6,
   0xC66, 0xCE6, 0xD66, 0xDE6, 0xE50, 0xED0, 0xF20, 0x1040, 0x1090, 0x17E0,
   0x1810, 0x1946, 0x19D0, 0x1A80, 0x1A90, 0x1B50, 0x1BB0, 0x1C40, 0x1C50, 0xA620,
   0xA8D0, 0xA900, 0xA9D0, 0xA9F0, 0xAA50, 0xABF0, 0xFF10, 0x104A0, 0x10D30, 0x11066,
   0x110F0, 0x11136, 0x111D0, 0x112F0, 0x11450, 0x114D0, 0x11650, 0x116C0, 0x11730, 0x118E0,
   0x11950, 0x11C50, 0x11D50, 0x11DA0, 0x16A60, 0x16AC0, 0x16B50, 0x1D7CE, 0x1D7D8, 0x1D7E2,
   0x1D7EC, 0x1D7F6, 0x1E140, 0x1E2F0, 0x1E950, 0x1FBF0]

def digitValue? (char : Char) : Option Nat :=
  (digitZeros.find? fun first => first ≤ char.toNat && char.toNat < first + 10).map
    fun first => char.toNat - first

def isDigit (char : Char) : Bool :=
  (digitValue? char).isSome

/-- Digits with at most one underscore between two of them. -/
def digitRun? : List Char → Option (List Nat)
  | [] => none
  | char :: rest =>
      match digitValue? char, rest with
      | none, _ => none
      | some digit, [] => some [digit]
      | some digit, '_' :: more => (digitRun? more).map (digit :: ·)
      | some digit, more => (digitRun? more).map (digit :: ·)

def natOfDigits (base : Nat) (digits : List Nat) : Nat :=
  digits.foldl (fun total digit => base * total + digit) 0

/-- The longest run of digits that is read as an integer. -/
def digitLimit : Nat := 4300

inductive IntegerFault where
  | malformed
  | tooLong (digits : Nat)
  deriving DecidableEq, Repr

/-- An optional sign in front of the rest. -/
def splitSign : List Char → Bool × List Char
  | '-' :: rest => (true, rest)
  | '+' :: rest => (false, rest)
  | rest => (false, rest)

def signed (negative : Bool) (magnitude : Nat) : Int :=
  if negative then -(magnitude : Int) else magnitude

/-- Reads an integer: blanks around it are dropped, one sign may stand in front. Too many digits are
found before anything behind them is. -/
def readInteger (text : String) : Except IntegerFault Int :=
  let (negative, rest) := splitSign (trimChars isWhiteSpace text.toList)
  let (run, behind) := rest.span fun char => isDigit char || char == '_'
  match digitRun? run with
  | none => .error .malformed
  | some digits =>
      if digitLimit < digits.length then .error (.tooLong digits.length)
      else if behind.isEmpty then .ok (signed negative (natOfDigits 10 digits))
      else .error .malformed

/-- The words for an integer whose text would be too long to be written or read. -/
def digitLimitText : String :=
  s!"Exceeds the limit ({digitLimit} digits) for integer string conversion"

def digitLimitAdvice : String := "use sys.set_int_max_str_digits() to increase the limit"

/-- Why a run of digits is not read. -/
def tooManyDigits (count : Nat) : String :=
  s!"{digitLimitText}: value has {count} digits; {digitLimitAdvice}"

def isWritable (number : Int) : Bool := number.natAbs < 10 ^ digitLimit

/-- Why a number is not written. -/
def unwritable : String := s!"{digitLimitText}; {digitLimitAdvice}"

/-- A digit of any script, or a blank, as the plain one. -/
def plainForm (char : Char) : Char :=
  if char.toNat < 0x80 then char
  else if isBlank char then ' '
  else
    match digitValue? char with
    | some digit => Char.ofNat ('0'.toNat + digit)
    | none => char

/-- The decimal text of a number with a comma between groups of three digits. -/
def groupThousands (number : Nat) : String :=
  let rec group : List Char → List Char
    | first :: second :: third :: fourth :: rest =>
        first :: second :: third :: ',' :: group (fourth :: rest)
    | rest => rest
  String.ofList (group (toString number).toList.reverse).reverse

end RosettaDaml.Text
