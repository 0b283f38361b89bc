/-
This file lets a text hold halves of surrogate pairs, which are no characters. A place of a text
holds a character or such a half, and what a list of places is kept as can be read back from it.
-/

namespace RosettaDaml.Text

/-- What stands in one place of a text. The halves are counted from the code point `D800` on. -/
inductive Place where
  | plain (char : Char)
  | half (number : Fin 0x800)
  deriving DecidableEq, Repr

/-- A half is kept as this mark and a private character behind it. Where a text has the mark itself,
one more private character stands behind it. No other character changes. -/
def halfMark : Char := '\uffff'

namespace Place

def ofCode (code : Nat) : Place :=
  if inRange : 0xD800 ≤ code ∧ code < 0xE000 then .half ⟨code - 0xD800, by omega⟩
  else .plain (Char.ofNat code)

def code : Place → Nat
  | .plain char => char.toNat
  | .half number => 0xD800 + number.val

def isHalf : Place → Bool
  | .plain _ => false
  | .half _ => true

def char? : Place → Option Char
  | .plain char => some char
  | .half _ => none

/-- The characters that a place is kept as. -/
def chars : Place → List Char
  | .plain char => if char = halfMark then [halfMark, Char.ofNat 0xE800] else [char]
  | .half number => [halfMark, Char.ofNat (0xE000 + number.val)]

/-- What the mark stands for in front of a character. -/
def ofPartner (partner : Char) : Place :=
  if inRange : 0xE000 ≤ partner.toNat ∧ partner.toNat < 0xE800 then
    .half ⟨partner.toNat - 0xE000, by omega⟩
  else .plain halfMark

end Place

/-- The places that are kept as some characters. -/
def places : List Char → List Place
  | [] => []
  | char :: rest =>
      if char = halfMark then
        match rest with
        | [] => []
        | partner :: rest => .ofPartner partner :: places rest
      else .plain char :: places rest

/-- The first place of a text, and the characters behind it. -/
def takePlace : List Char → Option Place × List Char
  | [] => (none, [])
  | char :: rest =>
      if char = halfMark then (rest.head?.map .ofPartner, rest.tail) else (some (.plain char), rest)

def ofPlaces (places : List Place) : List Char := places.flatMap Place.chars

/-- The number of places that are kept as some characters. -/
def size (chars : List Char) : Nat := chars.countP (· != halfMark)

/-- A text of the given characters. -/
def ofChars (chars : List Char) : List Char := ofPlaces (chars.map .plain)

/-- The first places of a text, at most as many as given. -/
def takePlaces (count : Nat) (chars : List Char) : List Char := ofPlaces ((places chars).take count)

/-- Writes each place of a text in some way. -/
def writePlaces (write : Place → List Char) (text : String) : String :=
  String.ofList ((places text.toList).flatMap write)

def hasHalf (text : String) : Bool := (places text.toList).any Place.isHalf

/-- A text in which three marks for unreadable bytes take the place of each half. -/
def withoutHalves (text : String) : String :=
  writePlaces (fun place => if place.isHalf then List.replicate 3 '\ufffd' else place.chars) text

def codes (text : String) : List Nat := (places text.toList).map Place.code

-- Lists are compared by their own order, whatever other orders are known.
attribute [local instance(2000)] List.instLE

/-- Whether a text comes before another one or is the same, by the codes of their places. -/
def comesFirst (text other : String) : Bool := decide (codes text ≤ codes other)

theorem toNat_ofNat {code : Nat} (low : 0xE000 ≤ code) (high : code < 0x110000) :
    (Char.ofNat code).toNat = code := by
  have valid : code.isValidChar := Or.inr ⟨by omega, high⟩
  rw [Char.ofNat, dif_pos valid]
  rfl

theorem places_chars_append (place : Place) (rest : List Char) :
    places (place.chars ++ rest) = place :: places rest := by
  cases place with
  | plain char =>
      by_cases isMark : char = halfMark
      · simp [Place.chars, places, isMark, Place.ofPartner, toNat_ofNat]
      · rw [Place.chars, if_neg isMark, List.singleton_append, places.eq_def]
        simp [isMark]
  | half number =>
      have code : (Char.ofNat (0xE000 + number.val)).toNat = 0xE000 + number.val :=
        toNat_ofNat (by omega) (by omega)
      have below : 0xE000 + number.val < 0xE800 := by omega
      simp [Place.chars, places, Place.ofPartner, code, below]

theorem takePlace_length (chars : List Char) : (takePlace chars).2.length ≤ chars.length := by
  unfold takePlace
  split
  · exact Nat.le_refl _
  · split
    · rw [List.length_tail, List.length_cons]
      omega
    · exact Nat.le_succ _

/-- What places are kept as gives them back. -/
theorem places_ofPlaces (given : List Place) : places (ofPlaces given) = given := by
  induction given with
  | nil => rfl
  | cons place rest inductionHypothesis =>
      change places (place.chars ++ ofPlaces rest) = _
      rw [places_chars_append, inductionHypothesis]

theorem size_append (chars more : List Char) : size (chars ++ more) = size chars + size more :=
  List.countP_append

end RosettaDaml.Text
