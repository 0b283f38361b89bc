/-
This file says which texts are read as ranges and which bounds they stand for.
-/

import RosettaDaml.Proofs.Text.Numeral
import RosettaDaml.Schema.Cardinality

namespace RosettaDaml

open Text

/-- Characters that are all blank. -/
abbrev Text.Blanks := { chars : List Char // ∀ char ∈ chars, isBlank char = true }

/-- What stands around the two bounds of a range: blanks around the whole and around the dots, and
inside each parenthesis that is there. -/
structure RangeLayout where
  before : Blanks
  opening : Option Blanks
  beforeDots : Blanks
  afterDots : Blanks
  closing : Option Blanks
  after : Blanks

/-- The characters of an upper bound, which are a star where there is none. -/
inductive IsLimit : List Char → Option Nat → Prop where
  | star : IsLimit ['*'] none
  | numeral {chars : List Char} {number : Nat} (numeral : IsNumeral chars number) :
      IsLimit chars (some number)

namespace RangeLayout

def openingChars : Option Blanks → List Char
  | none => []
  | some inside => '(' :: inside.val

def closingChars : Option Blanks → List Char
  | none => []
  | some inside => inside.val ++ [')']

/-- A range without the blanks around it. -/
def core (layout : RangeLayout) (lower upper : List Char) : List Char :=
  openingChars layout.opening ++ (lower ++ (layout.beforeDots.val ++ ('.' :: '.' ::
    (layout.afterDots.val ++ (upper ++ closingChars layout.closing)))))

def chars (layout : RangeLayout) (lower upper : List Char) : List Char :=
  layout.before.val ++ (layout.core lower upper ++ layout.after.val)

/-- The same with more blanks around it. -/
def within (layout : RangeLayout) (before after : Blanks) : RangeLayout :=
  { layout with
    before := ⟨before.val ++ layout.before.val,
      List.forall_mem_append.2 ⟨before.property, layout.before.property⟩⟩
    after := ⟨layout.after.val ++ after.val,
      List.forall_mem_append.2 ⟨layout.after.property, after.property⟩⟩ }

/-- Blanks around a range stand around its characters. -/
theorem chars_within (layout : RangeLayout) (before after : Blanks) (lower upper : List Char) :
    (layout.within before after).chars lower upper =
      before.val ++ (layout.chars lower upper ++ after.val) := by
  simp [chars, within, core]

/-- A text that is set in this way stands for two bounds. -/
def Spells (layout : RangeLayout) (text : String) (lower : Nat) (upper : Option Nat) : Prop :=
  ∃ lowerChars upperChars, text.toList = layout.chars lowerChars upperChars ∧
    IsNumeral lowerChars lower ∧ IsLimit upperChars upper

/-- Whether both parentheses are there or none is. -/
def isPaired (layout : RangeLayout) : Bool := layout.opening.isSome == layout.closing.isSome

end RangeLayout

namespace Text

/-- What is dropped in front of a text are blanks. -/
theorem exists_blanks (chars : List Char) :
    ∃ blanks : Blanks, chars = blanks.val ++ chars.dropWhile isBlank :=
  ⟨⟨chars.takeWhile isBlank, fun _ => List.mem_takeWhile_imp⟩,
    List.takeWhile_append_dropWhile.symm⟩

/-- Blanks are dropped up to the first character that is none. -/
theorem dropWhile_blanks (blanks : Blanks) {rest : List Char}
    (ends : ∀ char ∈ rest.head?, isBlank char = false) :
    (blanks.val ++ rest).dropWhile isBlank = rest := by
  rw [List.dropWhile_append_of_pos blanks.property]
  cases rest with
  | nil => rfl
  | cons char rest => exact List.dropWhile_cons_of_neg (by simp [ends char rfl])

/-- Blanks from behind are blanks. -/
theorem reverse_blanks (blanks : Blanks) : ∀ char ∈ blanks.val.reverse, isBlank char = true := by
  simpa using blanks.property

/-- Trimming leaves what stands between the outermost characters that are not blank. -/
theorem trimChars_blanks (before after : Blanks) {chars : List Char}
    (starts : ∀ char ∈ chars.head?, isBlank char = false)
    (ends : ∀ char ∈ chars.getLast?, isBlank char = false) (inhabited : chars ≠ []) :
    trimChars isBlank (before.val ++ (chars ++ after.val)) = chars := by
  have head : ∀ char ∈ (chars ++ after.val).head?, isBlank char = false := by
    rwa [List.head?_append_of_ne_nil _ inhabited]
  have last : ∀ char ∈ chars.reverse.head?, isBlank char = false := by
    rwa [List.head?_reverse]
  have back := dropWhile_blanks ⟨_, reverse_blanks after⟩ last
  rw [trimChars, dropWhile_blanks before head, List.reverse_append, back, List.reverse_reverse]

/-- A text is its trimmed core between blanks. -/
theorem exists_trimChars (chars : List Char) :
    ∃ before after : Blanks, chars = before.val ++ (trimChars isBlank chars ++ after.val) := by
  obtain ⟨before, front⟩ := exists_blanks chars
  obtain ⟨after, back⟩ := exists_blanks (chars.dropWhile isBlank).reverse
  refine ⟨before, ⟨_, reverse_blanks after⟩, ?_⟩
  rw [trimChars, ← List.reverse_append, ← back, List.reverse_reverse]
  exact front

end Text

namespace Cardinality

/-- A character that may be missing is dropped or was not there. -/
theorem dropOptional_cases (char : Char) (chars : List Char) :
    chars = char :: dropOptional char chars ∨ chars = dropOptional char chars := by
  cases chars with
  | nil => exact .inr rfl
  | cons first rest =>
      rw [dropOptional]
      split
      case isTrue same => exact .inl (by rw [beq_iff_eq.1 same])
      case isFalse => exact .inr rfl

/-- A text that begins with another character stays. -/
theorem dropOptional_of_head? {char : Char} {chars : List Char}
    (apart : ∀ first ∈ chars.head?, first ≠ char) : dropOptional char chars = chars := by
  cases chars with
  | nil => rfl
  | cons first rest => rw [dropOptional, if_neg (by simpa using apart first rfl)]

/-- Digits are scanned up to the first character that is none. -/
theorem scanDigits?_append {digits rest : List Char} (inhabited : digits ≠ [])
    (known : ∀ char ∈ digits, isDigit char = true)
    (ends : ∀ char ∈ rest.head?, isDigit char = false) :
    scanDigits? (digits ++ rest) = some (digits, rest) := by
  have behind : rest.takeWhile isDigit = [] ∧ rest.dropWhile isDigit = rest := by
    cases rest with
    | nil => simp
    | cons char rest => simp [ends char rfl]
  rw [scanDigits?, List.span_eq_takeWhile_dropWhile, List.takeWhile_append_of_pos known,
    List.dropWhile_append_of_pos known, behind.1, behind.2, List.append_nil]
  obtain ⟨first, others, rfl⟩ := List.exists_cons_of_ne_nil inhabited
  rfl

/-- What is scanned are digits, and at least one. -/
theorem of_scanDigits? {chars digits rest : List Char}
    (scanned : scanDigits? chars = some (digits, rest)) :
    digits ≠ [] ∧ (∀ char ∈ digits, isDigit char = true) ∧ chars = digits ++ rest := by
  rw [scanDigits?, List.span_eq_takeWhile_dropWhile] at scanned
  split at scanned
  case h_1 => cases scanned
  case h_2 nonEmpty =>
    obtain ⟨rfl, rfl⟩ := Prod.mk.inj (Option.some.inj scanned)
    exact ⟨fun empty => nonEmpty _ (by rw [empty]), fun _ => List.mem_takeWhile_imp,
      List.takeWhile_append_dropWhile.symm⟩

/-- Two dots are scanned as two dots. -/
theorem scanDots?_eq_some_iff {chars rest : List Char} :
    scanDots? chars = some rest ↔ chars = '.' :: '.' :: rest := by
  rw [scanDots?.eq_def]
  split <;> simp_all

/-- A limit that is scanned: a star or a run of digits. -/
inductive IsScanned : List Char → Option (List Char) → Prop where
  | star : IsScanned ['*'] none
  | digits {chars : List Char} (inhabited : chars ≠ [])
      (known : ∀ char ∈ chars, isDigit char = true) : IsScanned chars (some chars)

/-- What is scanned as a limit is a star or digits. -/
theorem of_scanLimit? {chars rest : List Char} {upper : Option (List Char)}
    (scanned : scanLimit? chars = some (upper, rest)) :
    ∃ limit, IsScanned limit upper ∧ chars = limit ++ rest := by
  rw [scanLimit?.eq_def] at scanned
  split at scanned
  case h_1 =>
    obtain ⟨rfl, rfl⟩ := Prod.mk.inj (Option.some.inj scanned)
    exact ⟨['*'], .star, rfl⟩
  case h_2 =>
    obtain ⟨⟨digits, behind⟩, run, same⟩ := Option.map_eq_some_iff.1 scanned
    obtain ⟨rfl, rfl⟩ := Prod.mk.inj same
    obtain ⟨inhabited, known, parts⟩ := of_scanDigits? run
    exact ⟨digits, .digits inhabited known, parts⟩

/-- A limit is scanned when no digit stands behind it. -/
theorem scanLimit?_append {limit rest : List Char} {upper : Option (List Char)}
    (scanned : IsScanned limit upper) (ends : ∀ char ∈ rest.head?, isDigit char = false) :
    scanLimit? (limit ++ rest) = some (upper, rest) := by
  cases scanned with
  | star => rfl
  | digits inhabited known =>
      have run := scanDigits?_append inhabited known ends
      obtain ⟨first, others, rfl⟩ := List.exists_cons_of_ne_nil inhabited
      have notStar : first ≠ '*' :=
        ne_of_isDigit (known first List.mem_cons_self) (isDigit_eq_false (by decide))
      rw [scanLimit?.eq_def]
      split
      case h_1 same => exact absurd (List.cons.inj same).1 notStar
      case h_2 => rw [run, Option.map_some]

/-- In front of the lower bound stand blanks and at most one parenthesis. -/
theorem exists_opening (chars : List Char) :
    ∃ (before : Blanks) (opening : Option Blanks), chars = before.val ++
      (RangeLayout.openingChars opening ++ (dropOptional '(' chars).dropWhile isBlank) := by
  obtain ⟨blanks, front⟩ := exists_blanks (dropOptional '(' chars)
  rcases dropOptional_cases '(' chars with opens | bare
  · refine ⟨⟨[], by simp⟩, some blanks, ?_⟩
    rw [List.nil_append, RangeLayout.openingChars, List.cons_append, ← front]
    exact opens
  · refine ⟨blanks, none, ?_⟩
    rw [RangeLayout.openingChars, List.nil_append, ← front]
    exact bare

/-- Behind the upper bound stand at most one parenthesis and blanks. -/
theorem exists_closing {chars : List Char}
    (ends : dropOptional ')' (chars.dropWhile isBlank) = []) :
    ∃ (closing : Option Blanks) (after : Blanks),
      chars = RangeLayout.closingChars closing ++ after.val := by
  obtain ⟨blanks, front⟩ := exists_blanks chars
  rcases dropOptional_cases ')' (chars.dropWhile isBlank) with closes | bare
  · refine ⟨some blanks, ⟨[], by simp⟩, ?_⟩
    rw [RangeLayout.closingChars, List.append_nil]
    rwa [closes, ends] at front
  · refine ⟨none, blanks, ?_⟩
    rw [RangeLayout.closingChars, List.nil_append]
    rwa [bare, ends, List.append_nil] at front

/-- What is scanned as a range is set as one. -/
theorem exists_layout_of_scanRange? {chars lower : List Char} {upper : Option (List Char)}
    (scanned : scanRange? chars = some (lower, upper)) :
    ∃ (layout : RangeLayout) (limit : List Char), chars = layout.chars lower limit ∧ lower ≠ [] ∧
      (∀ char ∈ lower, isDigit char = true) ∧ IsScanned limit upper := by
  simp only [scanRange?, Option.bind_eq_bind, Option.bind_eq_some_iff] at scanned
  obtain ⟨⟨digits, first⟩, lowerScanned, second, dots, ⟨bound, third⟩, upperScanned, closed⟩ :=
    scanned
  split at closed
  case h_2 => cases closed
  case h_1 ends =>
    obtain ⟨same, sameToo⟩ := Prod.mk.inj (Option.some.inj closed)
    subst same sameToo
    obtain ⟨before, opening, front⟩ := exists_opening chars
    obtain ⟨inhabited, known, lowerParts⟩ := of_scanDigits? lowerScanned
    obtain ⟨beforeDots, firstParts⟩ := exists_blanks first
    obtain ⟨afterDots, secondParts⟩ := exists_blanks second
    obtain ⟨limit, limited, upperParts⟩ := of_scanLimit? upperScanned
    obtain ⟨closing, after, back⟩ := exists_closing ends
    refine ⟨⟨before, opening, beforeDots, afterDots, closing, after⟩, limit, ?_, inhabited, known,
      limited⟩
    rw [scanDots?_eq_some_iff] at dots
    dsimp only at dots back ⊢
    rw [front, lowerParts, firstParts, dots, secondParts, upperParts, back]
    simp [RangeLayout.chars, RangeLayout.core]

/-- The blanks inside an opening parenthesis end at what is no blank and no parenthesis. -/
theorem dropWhile_opening (opening : Option Blanks) {rest : List Char}
    (ends : ∀ char ∈ rest.head?, isBlank char = false ∧ char ≠ '(') :
    (dropOptional '(' (RangeLayout.openingChars opening ++ rest)).dropWhile isBlank = rest := by
  cases opening with
  | none =>
      have apart := dropOptional_of_head? fun char first => (ends char first).2
      have bare := dropWhile_blanks ⟨[], by simp⟩ fun char first => (ends char first).1
      rwa [RangeLayout.openingChars, List.nil_append, apart]
  | some inside => exact dropWhile_blanks inside fun char first => (ends char first).1

/-- A parenthesis behind blanks leaves nothing. -/
theorem dropOptional_closing (closing : Option Blanks) :
    dropOptional ')' ((RangeLayout.closingChars closing).dropWhile isBlank) = [] := by
  cases closing with
  | none => rfl
  | some inside =>
      have solid : ∀ char ∈ [')'].head?, isBlank char = false := by
        rintro char ⟨rfl⟩
        decide
      rw [RangeLayout.closingChars, dropWhile_blanks inside solid]
      rfl

/-- No blank is a digit. -/
theorem isDigit_head?_blanks (blanks : Blanks) {rest : List Char}
    (ends : ∀ char ∈ rest.head?, isDigit char = false) :
    ∀ char ∈ (blanks.val ++ rest).head?, isDigit char = false := by
  obtain ⟨chars, blank⟩ := blanks
  cases chars with
  | nil => exact ends
  | cons first others =>
      rintro char ⟨rfl⟩
      exact isDigit_of_isBlank (blank first List.mem_cons_self)

/-- The closing parenthesis is no digit. -/
theorem isDigit_head?_closingChars (closing : Option Blanks) :
    ∀ char ∈ (RangeLayout.closingChars closing).head?, isDigit char = false := by
  cases closing with
  | none => simp [RangeLayout.closingChars]
  | some inside =>
      refine isDigit_head?_blanks inside ?_
      rintro char ⟨rfl⟩
      exact isDigit_eq_false (by decide)

/-- A limit does not begin with a blank. -/
theorem IsScanned.isBlank_head? {limit : List Char} {upper : Option (List Char)}
    (scanned : IsScanned limit upper) (rest : List Char) :
    ∀ char ∈ (limit ++ rest).head?, isBlank char = false := by
  cases scanned with
  | star =>
      rintro char ⟨rfl⟩
      decide
  | digits inhabited known =>
      obtain ⟨first, others, rfl⟩ := List.exists_cons_of_ne_nil inhabited
      rintro char ⟨rfl⟩
      exact isBlank_of_isDigit (known first List.mem_cons_self)

/-- What is set as a range is scanned as one. -/
theorem scanRange?_core (layout : RangeLayout) {lower limit : List Char}
    {upper : Option (List Char)} (inhabited : lower ≠ [])
    (known : ∀ char ∈ lower, isDigit char = true) (limited : IsScanned limit upper) :
    scanRange? (layout.core lower limit) = some (lower, upper) := by
  have dots (rest : List Char) :
      ∀ char ∈ ('.' :: rest).head?, isBlank char = false ∧ isDigit char = false := by
    rintro char ⟨rfl⟩
    exact ⟨by decide, isDigit_eq_false (by decide)⟩
  have starts (rest : List Char) :
      ∀ char ∈ (lower ++ rest).head?, isBlank char = false ∧ char ≠ '(' := by
    obtain ⟨first, others, rfl⟩ := List.exists_cons_of_ne_nil inhabited
    rintro char ⟨rfl⟩
    have digit := known first List.mem_cons_self
    exact ⟨isBlank_of_isDigit digit, ne_of_isDigit digit (isDigit_eq_false (by decide))⟩
  rw [scanRange?, RangeLayout.core, dropWhile_opening _ (starts _), Option.bind_eq_bind,
    scanDigits?_append inhabited known
      (isDigit_head?_blanks _ fun char first => (dots _ char first).2), Option.bind_some]
  simp only
  rw [dropWhile_blanks _ fun char first => (dots _ char first).1, Option.bind_eq_bind, scanDots?,
    Option.bind_some, dropWhile_blanks _ (limited.isBlank_head? _), Option.bind_eq_bind,
    scanLimit?_append limited (isDigit_head?_closingChars _), Option.bind_some]
  simp only [dropOptional_closing]

/-- Digits are no mark for a missing bound. -/
theorem isUnboundedMarker_of_isDigit {digits : List Char} (inhabited : digits ≠ [])
    (known : ∀ char ∈ digits, isDigit char = true) :
    isUnboundedMarker (String.ofList digits) = false := by
  have lowered : digits.map Char.toLower = digits := by
    rw [List.map_congr_left fun char member => toLower_of_isDigit (known char member), List.map_id']
  obtain ⟨first, others, rfl⟩ := List.exists_cons_of_ne_nil inhabited
  have digit := known first List.mem_cons_self
  rw [isUnboundedMarker, String.toList_ofList, lowered, Bool.eq_false_iff, Ne,
    List.contains_iff_mem]
  intro member
  -- No marker begins with a digit.
  have begins : ∀ marker ∈ unboundedMarkers, marker.toList.head?.any isDigit = false := by
    decide +kernel
  have notDigit := begins _ member
  simp [digit] at notDigit

/-- Digits are read as a lower bound exactly when they are a numeral. -/
theorem parseLowerDigits_eq_ok_iff {digits : List Char} (inhabited : digits ≠ [])
    (known : ∀ char ∈ digits, isDigit char = true) {bound : Int} :
    parseLowerDigits digits = .ok bound ↔
      ∃ number : Nat, IsNumeral digits number ∧ bound = number := by
  rw [← readInteger_eq_ok_iff known inhabited, parseLowerDigits]
  cases readInteger (String.ofList digits) <;> simp

/-- The same for an upper bound. -/
theorem parseUpperText_eq_ok_iff {digits : List Char} (inhabited : digits ≠ [])
    (known : ∀ char ∈ digits, isDigit char = true) {bound : Option Int} :
    parseUpperText (String.ofList digits) = .ok bound ↔
      ∃ number : Nat, IsNumeral digits number ∧ bound = some (number : Int) := by
  have trimmed : Text.trim (String.ofList digits) = String.ofList digits := by
    rw [Text.trim, String.toList_ofList,
      trimChars_eq_self fun char member => isBlank_of_isDigit (known char member)]
  have read : parseUpperText (String.ofList digits) = .ok bound ↔
      ∃ given : Int, readInteger (String.ofList digits) = .ok given ∧ bound = some given := by
    rw [parseUpperText, trimmed, isUnboundedMarker_of_isDigit inhabited known]
    cases readInteger (String.ofList digits) <;> simp [eq_comm]
  simp only [read, readInteger_eq_ok_iff known inhabited]
  constructor
  · rintro ⟨_, ⟨number, numeral, rfl⟩, rfl⟩
    exact ⟨number, numeral, rfl⟩
  · rintro ⟨number, numeral, rfl⟩
    exact ⟨number, ⟨number, numeral, rfl⟩, rfl⟩

end Cardinality

/-- A star stands for no bound. -/
theorem isLimit_star_iff {upper : Option Nat} : IsLimit ['*'] upper ↔ upper = none := by
  constructor
  · rintro (_ | numeral)
    · rfl
    · have notDigit : isDigit '*' = false := isDigit_eq_false (by decide)
      simp [numeral.isDigit '*' List.mem_cons_self] at notDigit
  · rintro rfl
    exact .star

/-- Digits stand for the number that they are a numeral of. -/
theorem isLimit_iff_of_isDigit {digits : List Char} (known : ∀ char ∈ digits, isDigit char = true)
    {upper : Option Nat} :
    IsLimit digits upper ↔ ∃ number, IsNumeral digits number ∧ upper = some number := by
  constructor
  · rintro (_ | numeral)
    · have notDigit : isDigit '*' = false := isDigit_eq_false (by decide)
      simp [known '*' List.mem_cons_self] at notDigit
    · exact ⟨_, numeral, rfl⟩
  · rintro ⟨number, numeral, rfl⟩
    exact .numeral numeral

/-- Every limit can be scanned. -/
theorem IsLimit.exists_isScanned {limit : List Char} {upper : Option Nat}
    (isLimit : IsLimit limit upper) : ∃ scanned, Cardinality.IsScanned limit scanned := by
  cases isLimit with
  | star => exact ⟨none, .star⟩
  | numeral numeral => exact ⟨some limit, .digits numeral.inhabited numeral.isDigit⟩

namespace RangeLayout

variable (layout : RangeLayout) {lower limit : List Char}

/-- A range begins with its parenthesis or with its lower bound. -/
theorem head?_core {first : Char} (starts : lower.head? = some first) (limit : List Char) :
    (layout.core lower limit).head? = some (if layout.opening.isSome then '(' else first) := by
  rw [core]
  cases layout.opening with
  | none => simp [openingChars, starts]
  | some inside => rfl

/-- It ends with its parenthesis or with its upper bound. -/
theorem getLast?_core {last : Char} (ends : limit.getLast? = some last) (lower : List Char) :
    (layout.core lower limit).getLast? =
      some (if layout.closing.isSome then ')' else last) := by
  have inhabited : limit ≠ [] := by
    rintro rfl
    cases ends
  obtain ⟨front, parts⟩ : ∃ front, layout.core lower limit =
      front ++ (limit ++ closingChars layout.closing) :=
    ⟨openingChars layout.opening ++ (lower ++ (layout.beforeDots.val ++ ('.' :: '.' ::
      layout.afterDots.val))), by simp [core]⟩
  rw [parts, List.getLast?_append_of_ne_nil _ (List.append_ne_nil_of_left_ne_nil inhabited _)]
  cases layout.closing with
  | none => simp [closingChars, ends]
  | some inside => simp [closingChars, ← List.append_assoc]

/-- Trimming takes the blanks around a range and nothing else. -/
theorem trimChars_chars {first last : Char} (starts : lower.head? = some first)
    (solid : isBlank first = false) (ends : limit.getLast? = some last)
    (solidToo : isBlank last = false) :
    trimChars isBlank (layout.chars lower limit) = layout.core lower limit := by
  have head := layout.head?_core starts limit
  have final := layout.getLast?_core ends lower
  refine trimChars_blanks layout.before layout.after ?_ ?_ ?_
  · rw [head]
    rintro char ⟨rfl⟩
    split
    · decide
    · exact solid
  · rw [final]
    rintro char ⟨rfl⟩
    split
    · decide
    · exact solidToo
  · intro empty
    simp [empty] at head

end RangeLayout

/-- A limit ends with a star or with a digit. -/
theorem IsLimit.exists_getLast? {limit : List Char} {upper : Option Nat}
    (isLimit : IsLimit limit upper) :
    ∃ last, limit.getLast? = some last ∧ isBlank last = false ∧ last ≠ ')' := by
  cases isLimit with
  | star => exact ⟨'*', rfl, by decide, by decide⟩
  | numeral numeral =>
      have digit := numeral.isDigit _ (List.getLast_mem numeral.inhabited)
      exact ⟨_, List.getLast?_eq_some_getLast numeral.inhabited, isBlank_of_isDigit digit,
        ne_of_isDigit digit (isDigit_eq_false (by decide))⟩

namespace RangeLayout

variable {layout : RangeLayout} {text : String} {lower : Nat} {upper : Option Nat}

/-- A text that is set as a range, without the blanks around it. -/
theorem Spells.exists_core (spells : layout.Spells text lower upper) :
    ∃ lowerChars upperChars, trimChars isBlank text.toList = layout.core lowerChars upperChars ∧
      IsNumeral lowerChars lower ∧ IsLimit upperChars upper := by
  obtain ⟨lowerChars, upperChars, set, numeral, isLimit⟩ := spells
  obtain ⟨first, starts, digit⟩ := numeral.exists_head?
  obtain ⟨last, ends, solid, -⟩ := isLimit.exists_getLast?
  refine ⟨lowerChars, upperChars, ?_, numeral, isLimit⟩
  rw [set, layout.trimChars_chars starts (isBlank_of_isDigit digit) ends solid]

end RangeLayout

namespace Cardinality

/-- Whether just one parenthesis stands at the ends of a trimmed text. -/
def isLopsided (text : String) : Bool :=
  let trimmed := trimChars isBlank text.toList
  (trimmed.head? == some '(') != (trimmed.getLast? == some ')')

/-- A range is lopsided exactly when one of its parentheses is alone. -/
theorem isLopsided_of_spells {layout : RangeLayout} {text : String} {lower : Nat}
    {upper : Option Nat} (spells : layout.Spells text lower upper) :
    isLopsided text = !layout.isPaired := by
  obtain ⟨lowerChars, upperChars, trimmed, numeral, isLimit⟩ := spells.exists_core
  obtain ⟨first, starts, digit⟩ := numeral.exists_head?
  obtain ⟨last, ends, -, notClosing⟩ := isLimit.exists_getLast?
  have notOpening : first ≠ '(' := ne_of_isDigit digit (isDigit_eq_false (by decide))
  rw [isLopsided, trimmed, layout.head?_core starts, layout.getLast?_core ends,
    RangeLayout.isPaired]
  cases layout.opening <;> cases layout.closing <;> simp [notOpening, notClosing]

/-- The upper bound that a scanned limit stands for. -/
def parseScanned : Option (List Char) → Except BoundFault (Option Int)
  | none => .ok none
  | some digits => parseUpperText (String.ofList digits)

/-- What is scanned is read as the limit that it is. -/
theorem parseScanned_eq_ok_iff {limit : List Char} {scanned : Option (List Char)}
    (limited : IsScanned limit scanned) {bound : Option Int} :
    parseScanned scanned = .ok bound ↔
      ∃ upper : Option Nat, IsLimit limit upper ∧ bound = upper.map Nat.cast := by
  cases limited with
  | star => simp [parseScanned, isLimit_star_iff, eq_comm]
  | digits inhabited known =>
      rw [parseScanned, parseUpperText_eq_ok_iff inhabited known]
      simp only [isLimit_iff_of_isDigit known]
      constructor
      · rintro ⟨number, numeral, rfl⟩
        exact ⟨some number, ⟨number, numeral, rfl⟩, rfl⟩
      · rintro ⟨_, ⟨number, numeral, rfl⟩, rfl⟩
        exact ⟨number, numeral, rfl⟩

/-- What is scanned is read when both of its bounds are. -/
theorem parseRange_of_scanned {text : String} {digits : List Char} {scanned : Option (List Char)}
    (range : scanRange? (trimChars isBlank text.toList) = some (digits, scanned))
    {bounds : Int × Option Int} :
    parseRange text = .ok bounds ↔
      parseLowerDigits digits = .ok bounds.1 ∧ parseScanned scanned = .ok bounds.2 := by
  obtain ⟨lower, upper⟩ := bounds
  rw [parseRange, range]
  simp only [bind, Except.bind, pure, Except.pure]
  cases parseLowerDigits digits with
  | error fault => simp
  | ok bound =>
      cases scanned with
      | none => simp [parseScanned]
      | some limit =>
          simp only [parseScanned]
          cases parseUpperText (String.ofList limit) <;> simp

/-- A text is read as bounds exactly when it is set as a range with these bounds, where each
parenthesis may be missing. -/
theorem parseRange_eq_ok_iff {text : String} {bounds : Int × Option Int} :
    parseRange text = .ok bounds ↔
      ∃ (layout : RangeLayout) (lower : Nat) (upper : Option Nat),
        layout.Spells text lower upper ∧ bounds = (↑lower, upper.map Nat.cast) := by
  constructor
  · intro parsed
    cases range : scanRange? (trimChars isBlank text.toList) with
    | none => simp [parseRange, range] at parsed
    | some parts =>
        obtain ⟨layout, limit, set, inhabited, known, limited⟩ :=
          exists_layout_of_scanRange? range
        obtain ⟨lowerRead, upperRead⟩ := (parseRange_of_scanned range).1 parsed
        obtain ⟨lower, numeral, lowerIs⟩ := (parseLowerDigits_eq_ok_iff inhabited known).1 lowerRead
        obtain ⟨upper, isLimit, upperIs⟩ := (parseScanned_eq_ok_iff limited).1 upperRead
        obtain ⟨before, after, around⟩ := exists_trimChars text.toList
        refine ⟨layout.within before after, lower, upper, ⟨parts.1, limit, ?_, numeral, isLimit⟩,
          Prod.ext lowerIs upperIs⟩
        rw [layout.chars_within, ← set]
        exact around
  · rintro ⟨layout, lower, upper, spells, rfl⟩
    obtain ⟨lowerChars, upperChars, trimmed, numeral, isLimit⟩ := spells.exists_core
    obtain ⟨scanned, limited⟩ := isLimit.exists_isScanned
    have range := scanRange?_core layout numeral.inhabited numeral.isDigit limited
    rw [← trimmed] at range
    rw [parseRange_of_scanned range, parseLowerDigits_eq_ok_iff numeral.inhabited numeral.isDigit,
      parseScanned_eq_ok_iff limited]
    exact ⟨⟨lower, numeral, rfl⟩, ⟨upper, isLimit, rfl⟩⟩

/-- What is read as bounds is set as a range with these bounds, and the parentheses are both there
or both missing exactly when the text is not lopsided. -/
theorem parseRange_exact (text : String) (bounds : Int × Option Int) :
    (parseRange text = .ok bounds ↔
      ∃ (layout : RangeLayout) (lower : Nat) (upper : Option Nat),
        layout.Spells text lower upper ∧ bounds = (↑lower, upper.map Nat.cast)) ∧
    ((∃ (layout : RangeLayout) (lower : Nat) (upper : Option Nat), layout.isPaired = true ∧
        layout.Spells text lower upper ∧ bounds = (↑lower, upper.map Nat.cast)) ↔
      parseRange text = .ok bounds ∧ isLopsided text = false) := by
  refine ⟨parseRange_eq_ok_iff, ?_⟩
  rw [parseRange_eq_ok_iff]
  constructor
  · rintro ⟨layout, lower, upper, paired, spells, same⟩
    exact ⟨⟨layout, lower, upper, spells, same⟩, by rw [isLopsided_of_spells spells, paired]; rfl⟩
  · rintro ⟨⟨layout, lower, upper, spells, same⟩, even⟩
    rw [isLopsided_of_spells spells, Bool.not_eq_false'] at even
    exact ⟨layout, lower, upper, even, spells, same⟩

/-- A range without its closing parenthesis is read. -/
theorem not_forall_parseRange_isPaired :
    ¬ ∀ (text : String) (bounds : Int × Option Int), parseRange text = .ok bounds ↔
      ∃ (layout : RangeLayout) (lower : Nat) (upper : Option Nat), layout.isPaired = true ∧
        layout.Spells text lower upper ∧ bounds = (↑lower, upper.map Nat.cast) := by
  intro holds
  have read : parseRange "(0..1" = .ok (0, some 1) := by rfl
  obtain ⟨layout, lower, upper, paired, spells, -⟩ := (holds _ _).1 read
  have lopsided : isLopsided "(0..1" = true := by decide
  rw [isLopsided_of_spells spells, paired] at lopsided
  cases lopsided

end Cardinality

end RosettaDaml
