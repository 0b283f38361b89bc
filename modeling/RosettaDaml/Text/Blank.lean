/-
This file says which characters separate words, and cuts a text into its words.
-/

namespace RosettaDaml.Text

/-- The characters that separate words: the space and line separators of Unicode, the controls
that act as tabs and line ends, and the four information separators. -/
def isBlank (char : Char) : Bool :=
  let code := char.toNat
  (0x09 ≤ code && code ≤ 0x0D) || (0x1C ≤ code && code ≤ 0x20) || code == 0x85 || code == 0xA0 ||
    code == 0x1680 || (0x2000 ≤ code && code ≤ 0x200A) || code == 0x2028 || code == 0x2029 ||
    code == 0x202F || code == 0x205F || code == 0x3000

/-- The blanks of the Unicode property White_Space, which leaves the information separators out. -/
def isWhiteSpace (char : Char) : Bool :=
  isBlank char && !(0x1C ≤ char.toNat && char.toNat ≤ 0x1F)

def trimChars (blank : Char → Bool) (chars : List Char) : List Char :=
  ((chars.dropWhile blank).reverse.dropWhile blank).reverse

def trim (text : String) : String :=
  String.ofList (trimChars isBlank text.toList)

/-- The maximal runs of characters that are not blank, in order. -/
def wordsOf : List Char → List (List Char)
  | [] => []
  | char :: rest =>
      if isBlank char then wordsOf rest
      else
        match rest with
        | [] => [[char]]
        | next :: _ =>
            if isBlank next then [char] :: wordsOf rest
            else
              match wordsOf rest with
              | [] => [[char]]
              | word :: words => (char :: word) :: words

def words (text : String) : List String :=
  (wordsOf text.toList).map String.ofList

/-- The pieces of a text between the separators; always at least one. -/
def splitChars (isSeparator : Char → Bool) : List Char → List (List Char)
  | [] => [[]]
  | char :: rest =>
      if isSeparator char then [] :: splitChars isSeparator rest
      else
        match splitChars isSeparator rest with
        | [] => [[char]]
        | piece :: pieces => (char :: piece) :: pieces

def splitAtChar (separator : Char) (text : String) : List String :=
  (splitChars (· == separator) text.toList).map String.ofList

/-- An empty text counts as none. -/
def nonEmpty? : Option String → Option String
  | some text => if text.isEmpty then none else some text
  | none => none

theorem wordsOf_blank {char : Char} (rest : List Char) (blank : isBlank char = true) :
    wordsOf (char :: rest) = wordsOf rest := by
  simp [wordsOf, blank]

theorem splitChars_ne_nil (isSeparator : Char → Bool) (chars : List Char) :
    splitChars isSeparator chars ≠ [] := by
  cases chars with
  | nil => simp [splitChars]
  | cons char rest =>
      simp only [splitChars]
      split
      · simp
      · split <;> simp

end RosettaDaml.Text
