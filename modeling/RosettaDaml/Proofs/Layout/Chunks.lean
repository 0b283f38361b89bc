/-
This file fills lines with chunks, which are words and the spaces between them, and shows that the
lines are those that are filled word by word.
-/

import RosettaDaml.Proofs.Layout.Wrapping

namespace RosettaDaml

namespace Chunk

/-- The words of a text with a space between any two of them. -/
def between (words : List String) : List String := words.intersperse " "

def isBlank (chunk : String) : Bool := chunk.toList.all Text.isBlank

/-- Chunks go onto a line as long as the width allows; the others are left. -/
def take (width : Nat) (line : List String) (used : Nat) : List String → List String × List String
  | [] => (line, [])
  | chunk :: rest =>
      let size := Text.size chunk.toList
      if used + size ≤ width then take width (line ++ [chunk]) (used + size) rest
      else (line, chunk :: rest)

/-- A chunk that is longer than a whole line stands on a line of its own. -/
def takeOverlong : List String × List String → List String × List String
  | ([], chunk :: rest) => ([chunk], rest)
  | taken => taken

/-- A blank chunk is dropped at the head of every line but the first one. -/
def dropBlankHead (begun : Bool) : List String → List String
  | [] => []
  | chunk :: rest => if begun && isBlank chunk then rest else chunk :: rest

/-- A blank chunk is dropped at the end of a line. -/
def dropBlankLast (line : List String) : List String :=
  if line.getLast?.any isBlank then line.dropLast else line

/-- What is taken leaves no more chunks. -/
theorem length_take_le (width : Nat) (line : List String) (used : Nat) (chunks : List String) :
    (take width line used chunks).2.length ≤ chunks.length := by
  induction chunks generalizing line used with
  | nil => simp [take]
  | cons chunk rest inductionHypothesis =>
      rw [take]
      split
      · exact (inductionHypothesis _ _).trans (Nat.le_succ _)
      · exact le_rfl

/-- At least one chunk is taken. -/
theorem length_takeOverlong_le (width : Nat) (chunk : String) (rest : List String) :
    (takeOverlong (take width [] 0 (chunk :: rest))).2.length ≤ rest.length := by
  rw [take]
  split
  · have shorter := length_take_le width ([] ++ [chunk]) (0 + Text.size chunk.toList) rest
    revert shorter
    generalize take width ([] ++ [chunk]) (0 + Text.size chunk.toList) rest = taken
    unfold takeOverlong
    split
    · intro shorter
      simp only [List.length_cons] at shorter ⊢
      omega
    · exact id
  · exact le_rfl

/-- What is dropped leaves no more chunks. -/
theorem length_dropBlankHead_le (begun : Bool) (chunks : List String) :
    (dropBlankHead begun chunks).length ≤ chunks.length := by
  cases chunks with
  | nil => exact le_rfl
  | cons chunk rest =>
      rw [dropBlankHead]
      split
      · exact Nat.le_succ _
      · exact le_rfl

/-- The lines of some chunks, where it is known whether a line was begun before. -/
def linesFrom (width : Nat) (begun : Bool) : List String → List (List String)
  | [] => []
  | chunk :: rest =>
      let taken := takeOverlong (take width [] 0 (chunk :: rest))
      let line := dropBlankLast taken.1
      let begun := begun || !line.isEmpty
      let others := linesFrom width begun (dropBlankHead begun taken.2)
      if line.isEmpty then others else line :: others
  termination_by chunks => chunks.length
  decreasing_by
    apply Nat.lt_succ_of_le
    exact (length_dropBlankHead_le _ _).trans (length_takeOverlong_le width chunk rest)

def lines (width : Nat) (words : List String) : Lines :=
  (linesFrom width false (between words)).map String.join

/-- Words behind a line, each with the space in front of it. -/
def spaced (words : List String) : List String := words.flatMap fun word => [" ", word]

/-- The chunks of words are the first word and the others behind blanks. -/
theorem between_cons (word : String) (rest : List String) :
    between (word :: rest) = word :: spaced rest := by
  induction rest generalizing word with
  | nil => rfl
  | cons next rest inductionHypothesis =>
      unfold between at inductionHypothesis ⊢
      rw [List.intersperse_cons_cons, inductionHypothesis]
      rfl

/-- The chunks of two lists of words stand one behind the other. -/
theorem between_append {line : List String} (inhabited : line ≠ []) (words : List String) :
    between (line ++ words) = between line ++ spaced words := by
  obtain ⟨first, others, rfl⟩ := List.exists_cons_of_ne_nil inhabited
  rw [List.cons_append, between_cons, between_cons, spaced, List.flatMap_append]
  rfl

/-- The chunks of words make up their line. -/
theorem join_between (words : List String) :
    String.join (between words) = " ".intercalate words := by
  induction words with
  | nil => rfl
  | cons word rest inductionHypothesis =>
      cases rest with
      | nil => simp [between]
      | cons next rest =>
          unfold between at inductionHypothesis ⊢
          rw [List.intersperse_cons_cons, String.join_cons, String.join_cons, inductionHypothesis,
            String.intercalate_cons_cons, String.append_assoc]

/-- The chunk between two words is blank. -/
theorem isBlank_space : isBlank " " = true := by decide

/-- What is left behind a line: the words from the next one on, with or without the space in front,
which then stands at the end of the line. -/
inductive Leaves (line rest : List String) : List String × List String → Prop where
  | spaced : Leaves line rest (between line, spaced rest)
  | behindSpace (inhabited : rest ≠ []) : Leaves line rest (between line ++ [" "], between rest)

/-- As many chunks are taken as words go on the line, by induction on the words. -/
theorem exists_take_spaced (width : Nat) {line : List String} (inhabited : line ≠ []) (used : Nat)
    (words : List String) :
    ∃ more rest, words = more ++ rest ∧
      fillWords width line used words = (line ++ more) :: wrapWords width rest ∧
      Leaves (line ++ more) rest (take width (between line) used (spaced words)) := by
  induction words generalizing line used with
  | nil =>
      refine ⟨[], [], rfl, ?_, ?_⟩
      · simp [fillWords, wrapWords]
      · rw [List.append_nil]
        exact .spaced
  | cons word words inductionHypothesis =>
      have space : Text.size " ".toList = 1 := rfl
      have longer : between (line ++ [word]) = between line ++ [" "] ++ [word] := by
        rw [between_append inhabited, List.append_assoc]
        rfl
      change ∃ more rest, _ ∧ _ ∧
        Leaves _ _ (take width (between line) used (" " :: word :: spaced words))
      by_cases fits : used + 1 + Text.size word.toList ≤ width
      · obtain ⟨more, rest, rfl, filled, leaves⟩ :=
          inductionHypothesis (by simp : line ++ [word] ≠ []) (used + 1 + Text.size word.toList)
        refine ⟨word :: more, rest, rfl, ?_, ?_⟩
        · rw [fillWords, if_pos fits, filled, List.append_assoc]
          rfl
        · rw [take, space, if_pos (by omega), take, if_pos fits, ← longer]
          simpa using leaves
      · refine ⟨[], word :: words, rfl, ?_, ?_⟩
        · rw [fillWords, if_neg fits, List.append_nil]
          rfl
        · rw [List.append_nil, take, space]
          -- The space may still fit where the word does not; it is dropped from the end of the line
          -- later.
          by_cases spaceFits : used + 1 ≤ width
          · rw [if_pos spaceFits, take, if_neg fits, ← between_cons]
            exact .behindSpace (List.cons_ne_nil word words)
          · rw [if_neg spaceFits]
            exact .spaced

/-- Chunks are taken for a line as words are, but for one space at its end or behind it. -/
theorem exists_takeOverlong_between (width : Nat) (word : String) (words : List String) :
    ∃ more rest, words = more ++ rest ∧
      wrapWords width (word :: words) = (word :: more) :: wrapWords width rest ∧
      Leaves (word :: more) rest
        (takeOverlong (take width [] 0 (between (word :: words)))) := by
  have whole (taken : List String × List String) (line rest : List String)
      (leaves : Leaves (word :: line) rest taken) : takeOverlong taken = taken := by
    cases leaves with
    | spaced => rw [between_cons]; rfl
    | behindSpace => rw [between_cons]; rfl
  rw [between_cons, take]
  by_cases fits : 0 + Text.size word.toList ≤ width
  · obtain ⟨more, rest, same, filled, leaves⟩ :=
      exists_take_spaced width (List.cons_ne_nil word []) (Text.size word.toList) words
    refine ⟨more, rest, same, filled, ?_⟩
    rw [if_pos fits, Nat.zero_add]
    exact (whole _ _ _ leaves).symm ▸ leaves
  · refine ⟨[], words, rfl, ?_, ?_⟩
    · cases words with
      | nil => rfl
      | cons next words =>
          change fillWords width [word] _ (next :: words) = _
          rw [fillWords, if_neg (by omega)]
          rfl
    · rw [if_neg fits]
      exact .spaced

/-- A blank chunk at the end is dropped. -/
theorem dropBlankLast_append_space (line : List String) : dropBlankLast (line ++ [" "]) = line := by
  simp [dropBlankLast, isBlank_space]

/-- So is one at the start of a further line. -/
theorem dropBlankHead_spaced (words : List String) :
    dropBlankHead true (spaced words) = between words := by
  cases words with
  | nil => rfl
  | cons word rest =>
      rw [between_cons]
      simp [spaced, dropBlankHead, isBlank_space]

section Solid

variable {words : List String} (solid : ∀ word ∈ words, isBlank word = false)

include solid

/-- A word at the start stays. -/
theorem dropBlankHead_between (begun : Bool) :
    dropBlankHead begun (between words) = between words := by
  cases words with
  | nil => rfl
  | cons word rest => simp [between_cons, dropBlankHead, solid word List.mem_cons_self]

/-- So does one at the end. -/
theorem dropBlankLast_between : dropBlankLast (between words) = between words := by
  rcases List.eq_nil_or_concat words with rfl | ⟨front, last, rfl⟩
  · rfl
  · have visible := solid last (by simp)
    have ends : (between (front ++ [last])).getLast? = some last := by
      by_cases empty : front = []
      · simp [empty, between]
      · simp [between_append empty, spaced]
    simp [dropBlankLast, ends, visible]

/-- What is left behind a line is ready for the next one once the space is dropped. -/
theorem Leaves.drop {line : List String} (solidLine : ∀ word ∈ line, isBlank word = false)
    {taken : List String × List String} (leaves : Leaves line words taken) :
    dropBlankLast taken.1 = between line ∧ dropBlankHead true taken.2 = between words := by
  cases leaves with
  | spaced => exact ⟨dropBlankLast_between solidLine, dropBlankHead_spaced words⟩
  | behindSpace => exact ⟨dropBlankLast_append_space _, dropBlankHead_between solid true⟩

/-- Line by line both ways take the same words, by induction on how many there are. -/
theorem linesFrom_between (width : Nat) (begun : Bool) :
    linesFrom width begun (between words) = (wrapWords width words).map between := by
  induction length : words.length using Nat.strong_induction_on generalizing words begun with
  | _ size inductionHypothesis =>
      cases words with
      | nil => simp [between, linesFrom, wrapWords]
      | cons word words =>
          obtain ⟨more, rest, rfl, filled, leaves⟩ := exists_takeOverlong_between width word words
          obtain ⟨solidLine, solidRest⟩ := List.forall_mem_append.1
            (List.cons_append ▸ solid : ∀ other ∈ (word :: more) ++ rest, isBlank other = false)
          have shorter : rest.length < size := by
            rw [← length, List.length_cons, List.length_append]
            omega
          have onward := inductionHypothesis rest.length shorter solidRest true rfl
          obtain ⟨line, others⟩ := leaves.drop solidRest solidLine
          rw [between_cons] at line others ⊢
          rw [linesFrom]
          simp only [line, List.isEmpty_cons, Bool.not_false, Bool.or_true, others, onward, filled,
            List.map_cons, between_cons, Bool.false_eq_true, if_false]

end Solid

/-- Both ways of wrapping a text give the same lines. -/
theorem lines_words (width : Nat) (text : String) :
    lines width (Text.words text) = wrapText width text := by
  have solid : ∀ word ∈ Text.words text, isBlank word = false := by
    intro word member
    obtain ⟨inhabited, visible⟩ := Text.mem_words member
    obtain ⟨first, others, chars⟩ := List.exists_cons_of_ne_nil inhabited
    have seen := visible first (by simp [chars])
    simp [isBlank, chars, seen]
  rw [lines, linesFrom_between solid, List.map_map, wrapText]
  exact List.map_congr_left fun piece _ => join_between piece

end Chunk

/-- A text is filled, by chunks as well as by words, with the only lines that hold its words in
order, stay within the width but for single words, and have no room for the word behind them. -/
theorem fill_exact {width : Int} (room : 1 ≤ width) (text : String) :
    ∃ lines, fill width text = .ok lines ∧ Chunk.lines width.toNat (Text.words text) = lines ∧
      ∀ others, IsFilling width text others ↔ others = lines := by
  obtain ⟨size, rfl⟩ := Int.eq_ofNat_of_zero_le (by omega : 0 ≤ width)
  refine ⟨wrapText size text, fill_of_pos room text, Chunk.lines_words size text, ?_⟩
  intro others
  exact isFilling_iff

/-- Words with blanks of many kinds between them, one of the words longer than a line. -/
def blankText : String := " a\tbb\u2028overlong-word  cc\n\nd "

theorem fill_exact_blankText :
    (1 : Int) ≤ 4 ∧ fill 4 blankText = .ok ["a bb", "overlong-word", "cc d"] ∧
      IsFilling 4 blankText ["a bb", "overlong-word", "cc d"] := by
  have filled : fill 4 blankText = .ok ["a bb", "overlong-word", "cc d"] := by decide
  obtain ⟨lines, given, -, exact⟩ := fill_exact (by decide : (1 : Int) ≤ 4) blankText
  refine ⟨by decide, filled, (exact _).2 ?_⟩
  exact Except.ok.inj (filled.symm.trans given)

end RosettaDaml
