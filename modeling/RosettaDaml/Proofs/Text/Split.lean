/-
This file shows that pieces of a text are read back at the separators between them.
-/

import Mathlib.Data.List.Basic
import RosettaDaml.Text.Blank

namespace RosettaDaml.Text

/-- A part in front that passes a test ends where the test fails. -/
theorem append_inj_of_forall {Item : Type} {test : Item → Bool}
    {firsts others lasts rest : List Item}
    (passes : ∀ item ∈ firsts, test item = true) (passesToo : ∀ item ∈ others, test item = true)
    (ends : ∀ item ∈ lasts.head?, test item = false)
    (endsToo : ∀ item ∈ rest.head?, test item = false)
    (same : firsts ++ lasts = others ++ rest) : firsts = others ∧ lasts = rest := by
  have front (list : List Item) (ended : ∀ item ∈ list.head?, test item = false) :
      list.takeWhile test = [] := by
    cases list with
    | nil => rfl
    | cons first _ => simp [ended first rfl]
  have taken := congrArg (List.takeWhile test) same
  rw [List.takeWhile_append_of_pos passes, List.takeWhile_append_of_pos passesToo,
    front lasts ends, front rest endsToo, List.append_nil, List.append_nil] at taken
  subst taken
  exact ⟨rfl, List.append_cancel_left same⟩

/-- A text without a character ends in front of a mark that begins with it. -/
theorem append_inj_of_not_mem {char : Char} {mark left right rest others : String}
    (starts : mark.toList.head? = some char) (free : char ∉ left.toList)
    (freeToo : char ∉ right.toList) (same : left ++ mark ++ rest = right ++ mark ++ others) :
    left = right ∧ rest = others := by
  have passes {text : String} (absent : char ∉ text.toList) :
      ∀ other ∈ text.toList, (other != char) = true := by
    intro other member
    exact bne_iff_ne.2 fun equal => absent (equal ▸ member)
  have ends (text : String) :
      ∀ other ∈ (mark.toList ++ text.toList).head?, (other != char) = false := by
    simp [List.head?_append, starts]
  have chars : left.toList ++ (mark.toList ++ rest.toList) =
      right.toList ++ (mark.toList ++ others.toList) := by
    simpa using congrArg String.toList same
  obtain ⟨front, behind⟩ :=
    append_inj_of_forall (passes free) (passes freeToo) (ends rest) (ends others) chars
  exact ⟨String.toList_injective front, String.toList_injective (List.append_cancel_left behind)⟩

/-- What stands in joined pieces stands in the separator or in a piece. -/
theorem mem_intercalate {Item : Type} {separator : List Item} {item : Item}
    {pieces : List (List Item)} (member : item ∈ separator.intercalate pieces) :
    item ∈ separator ∨ ∃ piece ∈ pieces, item ∈ piece := by
  induction pieces with
  | nil => simp at member
  | cons first rest inductionHypothesis =>
      cases rest with
      | nil => exact .inr ⟨first, List.mem_cons_self, by simpa using member⟩
      | cons second rest =>
          rw [List.intercalate_cons_cons, List.append_assoc, List.mem_append,
            List.mem_append] at member
          rcases member with inside | same | behind
          · exact .inr ⟨first, List.mem_cons_self, inside⟩
          · exact .inl same
          · exact (inductionHypothesis behind).imp_right fun ⟨piece, known, inside⟩ =>
              ⟨piece, List.mem_cons_of_mem first known, inside⟩

/-- What stands neither in the separator nor in a piece is not in joined pieces. -/
theorem not_mem_intercalate {mark : String} {char : Char} (apart : char ∉ mark.toList)
    {pieces : List String} (free : ∀ piece ∈ pieces, char ∉ piece.toList) :
    char ∉ (mark.intercalate pieces).toList := by
  rw [String.toList_intercalate]
  intro inside
  rcases mem_intercalate inside with between | ⟨_, chars, inside⟩
  · exact apart between
  · obtain ⟨piece, known, rfl⟩ := List.mem_map.1 chars
    exact free piece known inside

section Split

variable {isSeparator : Char → Bool}

/-- The first piece ends at the first separator. -/
theorem splitChars_append_cons {piece : List Char} (free : ∀ char ∈ piece, isSeparator char = false)
    {separator : Char} (separates : isSeparator separator = true) (rest : List Char) :
    splitChars isSeparator (piece ++ separator :: rest) = piece :: splitChars isSeparator rest := by
  induction piece with
  | nil => simp [splitChars, separates]
  | cons char piece inductionHypothesis =>
      obtain ⟨here, behind⟩ := List.forall_mem_cons.1 free
      simp [splitChars, here, inductionHypothesis behind]

/-- A text without separators is one piece. -/
theorem splitChars_of_free {piece : List Char} (free : ∀ char ∈ piece, isSeparator char = false) :
    splitChars isSeparator piece = [piece] := by
  induction piece with
  | nil => rfl
  | cons char piece inductionHypothesis =>
      obtain ⟨here, behind⟩ := List.forall_mem_cons.1 free
      simp [splitChars, here, inductionHypothesis behind]

/-- Pieces without a separator are read back from their text. -/
theorem splitChars_intercalate {separator : Char} {pieces : List (List Char)}
    (inhabited : pieces ≠ []) (free : ∀ piece ∈ pieces, separator ∉ piece) :
    splitChars (· == separator) ([separator].intercalate pieces) = pieces := by
  have apart {piece : List Char} (absent : separator ∉ piece) :
      ∀ char ∈ piece, (char == separator) = false := by
    rintro char inside
    exact beq_eq_false_iff_ne.2 fun same => absent (same ▸ inside)
  induction pieces with
  | nil => exact absurd rfl inhabited
  | cons first rest inductionHypothesis =>
      obtain ⟨here, behind⟩ := List.forall_mem_cons.1 free
      cases rest with
      | nil => simpa using splitChars_of_free (apart here)
      | cons second rest =>
          rw [List.intercalate_cons_cons, List.append_assoc, List.singleton_append,
            splitChars_append_cons (apart here) (beq_self_eq_true separator),
            inductionHypothesis (List.cons_ne_nil second rest) behind]

/-- The pieces on either side of a separator are those of the text there. -/
theorem splitChars_append_separator (front : List Char) {separator : Char}
    (separates : isSeparator separator = true) (rest : List Char) :
    splitChars isSeparator (front ++ separator :: rest) =
      splitChars isSeparator front ++ splitChars isSeparator rest := by
  induction front with
  | nil => simp [splitChars, separates]
  | cons char front inductionHypothesis =>
      obtain ⟨piece, pieces, pieced⟩ :=
        List.exists_cons_of_ne_nil (splitChars_ne_nil isSeparator front)
      simp only [List.cons_append, splitChars, inductionHypothesis, pieced]
      split <;> rfl

/-- Joined at the separator, the pieces of a text give the text. -/
theorem intercalate_splitChars (separator : Char) (chars : List Char) :
    [separator].intercalate (splitChars (· == separator) chars) = chars := by
  induction chars with
  | nil => rfl
  | cons char rest inductionHypothesis =>
      obtain ⟨piece, pieces, pieced⟩ :=
        List.exists_cons_of_ne_nil (splitChars_ne_nil (· == separator) rest)
      rw [pieced] at inductionHypothesis
      rw [splitChars, pieced]
      by_cases separates : char = separator
      · simp [separates, inductionHypothesis]
      · rw [if_neg (by simpa using separates)]
        cases pieces <;> simpa using inductionHypothesis

end Split

/-- The pieces of a text that has a mark between any two of them. -/
theorem splitAtChar_intercalate {mark : String} {separator : Char}
    (isMark : mark.toList = [separator]) {pieces : List String} (inhabited : pieces ≠ [])
    (free : ∀ piece ∈ pieces, separator ∉ piece.toList) :
    splitAtChar separator (mark.intercalate pieces) = pieces := by
  rw [splitAtChar, String.toList_intercalate, isMark,
    splitChars_intercalate (by simpa using inhabited) (by simpa using free), List.map_map]
  simp [Function.comp_def]

/-- Pieces that are joined again make up the text. -/
theorem intercalate_splitAtChar {mark : String} {separator : Char}
    (isMark : mark.toList = [separator]) (text : String) :
    mark.intercalate (splitAtChar separator text) = text := by
  apply String.toList_injective
  rw [String.toList_intercalate, isMark, splitAtChar, List.map_map]
  simp [Function.comp_def, intercalate_splitChars]

/-- Nothing stands behind a separator at the end. -/
theorem getLast?_splitAtChar {separator : Char} {text : String}
    (ends : text.toList.getLast? = some separator) :
    (splitAtChar separator text).getLast? = some "" := by
  obtain ⟨front, parts⟩ := List.getLast?_eq_some_iff.1 ends
  have separates : (separator == separator) = true := beq_self_eq_true separator
  have pieces := @splitChars_append_separator (· == separator) front separator separates []
  rw [splitAtChar, parts, pieces]
  simp [splitChars]

/-- The characters of a piece are characters of the text. -/
theorem mem_of_mem_splitChars {isSeparator : Char → Bool} {chars piece : List Char}
    (member : piece ∈ splitChars isSeparator chars) {char : Char} (inside : char ∈ piece) :
    char ∈ chars := by
  induction chars generalizing piece with
  | nil =>
      obtain rfl := List.mem_singleton.1 member
      exact inside
  | cons first rest inductionHypothesis =>
      rw [splitChars] at member
      split at member
      · rcases List.mem_cons.1 member with rfl | behind
        · exact absurd inside (by simp)
        · exact List.mem_cons_of_mem first (inductionHypothesis behind inside)
      · cases pieces : splitChars isSeparator rest with
        | nil => exact absurd pieces (splitChars_ne_nil isSeparator rest)
        | cons next others =>
            rw [pieces] at member inductionHypothesis
            rcases List.mem_cons.1 member with rfl | behind
            · rcases List.mem_cons.1 inside with rfl | inside
              · exact List.mem_cons_self
              · exact List.mem_cons_of_mem first (inductionHypothesis List.mem_cons_self inside)
            · exact List.mem_cons_of_mem first
                (inductionHypothesis (List.mem_cons_of_mem next behind) inside)

/-- No piece holds a separator. -/
theorem not_separator_of_mem_splitChars {isSeparator : Char → Bool} {chars piece : List Char}
    (member : piece ∈ splitChars isSeparator chars) : ∀ char ∈ piece, isSeparator char = false := by
  induction chars generalizing piece with
  | nil =>
      obtain rfl := List.mem_singleton.1 member
      simp
  | cons first rest inductionHypothesis =>
      rw [splitChars] at member
      split at member
      case isTrue =>
        rcases List.mem_cons.1 member with rfl | behind
        · simp
        · exact inductionHypothesis behind
      case isFalse other =>
        cases pieces : splitChars isSeparator rest with
        | nil => exact absurd pieces (splitChars_ne_nil isSeparator rest)
        | cons next others =>
            rw [pieces] at member inductionHypothesis
            rcases List.mem_cons.1 member with rfl | behind
            · exact List.forall_mem_cons.2
                ⟨eq_false_of_ne_true other, inductionHypothesis List.mem_cons_self⟩
            · exact inductionHypothesis (List.mem_cons_of_mem next behind)

/-- So no piece of a text does. -/
theorem not_mem_of_mem_splitAtChar {separator : Char} {text piece : String}
    (member : piece ∈ splitAtChar separator text) : separator ∉ piece.toList := by
  obtain ⟨chars, known, rfl⟩ := List.mem_map.1 member
  rw [String.toList_ofList]
  intro inside
  exact absurd (not_separator_of_mem_splitChars known _ inside) (by simp)

/-- The characters of a piece of a text are characters of the text. -/
theorem mem_of_mem_splitAtChar {separator : Char} {text piece : String}
    (member : piece ∈ splitAtChar separator text) {char : Char} (inside : char ∈ piece.toList) :
    char ∈ text.toList := by
  obtain ⟨chars, known, rfl⟩ := List.mem_map.1 member
  rw [String.toList_ofList] at inside
  exact mem_of_mem_splitChars known inside

/-- A word has characters, and none of them is blank. -/
theorem mem_wordsOf {chars word : List Char} (member : word ∈ wordsOf chars) :
    word ≠ [] ∧ ∀ char ∈ word, isBlank char = false := by
  induction chars generalizing word with
  | nil => simp [wordsOf] at member
  | cons char rest inductionHypothesis =>
      rw [wordsOf.eq_def] at member
      simp only at member
      split at member
      case isTrue => exact inductionHypothesis member
      case isFalse solid =>
        rw [Bool.not_eq_true] at solid
        have single : ∀ other ∈ [char], isBlank other = false := by simpa using solid
        cases rest with
        | nil =>
            obtain rfl := List.mem_singleton.1 member
            exact ⟨List.cons_ne_nil char [], single⟩
        | cons next rest =>
            simp only at member
            split at member
            case isTrue =>
              rcases List.mem_cons.1 member with rfl | behind
              · exact ⟨List.cons_ne_nil char [], single⟩
              · exact inductionHypothesis behind
            case isFalse =>
              cases found : wordsOf (next :: rest) with
              | nil =>
                  rw [found] at member
                  obtain rfl := List.mem_singleton.1 member
                  exact ⟨List.cons_ne_nil char [], single⟩
              | cons first others =>
                  rw [found] at member inductionHypothesis
                  rcases List.mem_cons.1 member with rfl | behind
                  · obtain ⟨-, solidToo⟩ := inductionHypothesis List.mem_cons_self
                    exact ⟨List.cons_ne_nil char first, List.forall_mem_cons.2 ⟨solid, solidToo⟩⟩
                  · exact inductionHypothesis (List.mem_cons_of_mem first behind)

/-- Words have characters, and no blanks. -/
theorem mem_words {text word : String} (member : word ∈ words text) :
    word.toList ≠ [] ∧ ∀ char ∈ word.toList, isBlank char = false := by
  obtain ⟨chars, inside, rfl⟩ := List.mem_map.1 member
  simpa using mem_wordsOf inside

end RosettaDaml.Text
