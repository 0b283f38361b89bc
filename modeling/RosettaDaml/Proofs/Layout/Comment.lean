/-
This file shows that the words of comments are read back from their lines.
-/

import RosettaDaml.Layout.Fill
import RosettaDaml.Proofs.Layout.Lines

namespace RosettaDaml

/-- The words of a comment; where there is none there are no words. -/
def commentWords : Option String → List String
  | none => []
  | some text => Text.words text

/-- The words of each comment that has any. -/
def noteWords (notes : List (Option String)) : List (List String) :=
  (notes.map commentWords).filter (!·.isEmpty)

/-- The words of two lists of notes stand one behind the other. -/
theorem noteWords_append (notes more : List (Option String)) :
    noteWords (notes ++ more) = noteWords notes ++ noteWords more := by
  rw [noteWords, List.map_append, List.filter_append]
  rfl

/-- The words of the first note come first. -/
theorem noteWords_cons (note : Option String) (notes : List (Option String)) :
    noteWords (note :: notes) = noteWords [note] ++ noteWords notes :=
  noteWords_append [note] notes

/-- The words of a note have characters, and no blanks. -/
theorem mem_commentWords {note : Option String} {word : String}
    (member : word ∈ commentWords note) :
    word.toList ≠ [] ∧ ∀ char ∈ word.toList, Text.isBlank char = false := by
  cases note with
  | none => simp [commentWords] at member
  | some text => exact Text.mem_words member

/-- Filling keeps all words in order. -/
theorem flatten_fillWords (width : Nat) (line : List String) (used : Nat) (words : List String) :
    (fillWords width line used words).flatten = line ++ words := by
  induction words generalizing line used with
  | nil => simp [fillWords]
  | cons word rest inductionHypothesis =>
      rw [fillWords]
      split
      · rw [inductionHypothesis, List.append_assoc, List.singleton_append]
      · rw [List.flatten_cons, inductionHypothesis, List.singleton_append]

/-- No line is empty. -/
theorem ne_nil_of_mem_fillWords {width : Nat} {line : List String} {used : Nat}
    {words piece : List String} (inhabited : line ≠ [])
    (member : piece ∈ fillWords width line used words) : piece ≠ [] := by
  induction words generalizing line used with
  | nil => exact List.mem_singleton.1 member ▸ inhabited
  | cons word rest inductionHypothesis =>
      rw [fillWords] at member
      split at member
      · exact inductionHypothesis (by simp) member
      · rcases List.mem_cons.1 member with rfl | behind
        · exact inhabited
        · exact inductionHypothesis (List.cons_ne_nil word []) behind

/-- Wrapping keeps all words in their order. -/
theorem flatten_wrapWords (width : Nat) (words : List String) :
    (wrapWords width words).flatten = words := by
  cases words with
  | nil => rfl
  | cons word rest => exact flatten_fillWords width [word] _ rest

/-- The same for wrapping. -/
theorem ne_nil_of_mem_wrapWords {width : Nat} {words piece : List String}
    (member : piece ∈ wrapWords width words) : piece ≠ [] := by
  cases words with
  | nil => simp [wrapWords] at member
  | cons word rest => exact ne_nil_of_mem_fillWords (List.cons_ne_nil word []) member

/-- The lines on which words are written. -/
def wordLines (width : Nat) (words : List String) : Lines :=
  (wrapWords width words).map (" ".intercalate ·)

/-- The words on the lines are words of the note. -/
theorem mem_commentWords_of_mem_wrapWords {width : Nat} {note : Option String}
    {piece : List String} {word : String} (member : piece ∈ wrapWords width (commentWords note))
    (inside : word ∈ piece) : word ∈ commentWords note := by
  rw [← flatten_wrapWords width (commentWords note)]
  exact List.mem_flatten_of_mem member inside

/-- The words of a line are its pieces between spaces. -/
theorem splitAtChar_of_mem_wrapWords {width : Nat} {note : Option String} {piece : List String}
    (member : piece ∈ wrapWords width (commentWords note)) :
    Text.splitAtChar ' ' (" ".intercalate piece) = piece := by
  apply Text.splitAtChar_intercalate rfl (ne_nil_of_mem_wrapWords member)
  intro word inside space
  have solid := (mem_commentWords (mem_commentWords_of_mem_wrapWords member inside)).2
  exact absurd (solid ' ' space) (by decide)

/-- The words of a comment are the pieces of its lines between spaces. -/
theorem flatMap_wordLines (width : Nat) (note : Option String) :
    (wordLines width (commentWords note)).flatMap (Text.splitAtChar ' ') = commentWords note := by
  rw [wordLines, List.flatMap_map, List.flatMap_congr fun _ => splitAtChar_of_mem_wrapWords,
    List.flatMap_id', flatten_wrapWords]

/-- No line of a comment ends within itself. -/
theorem newline_not_mem_wordLines {width : Nat} {note : Option String} {line : String}
    (member : line ∈ wordLines width (commentWords note)) : '\n' ∉ line.toList := by
  obtain ⟨piece, known, rfl⟩ := List.mem_map.1 member
  refine Text.not_mem_intercalate (by decide) fun word inside ends => ?_
  have solid := (mem_commentWords (mem_commentWords_of_mem_wrapWords known inside)).2
  exact absurd (solid '\n' ends) (by decide)

/-- The lines of a comment in front of or behind what it is about. -/
def noteLines (width : Nat) (position : CommentPosition) (note : Option String) : Lines :=
  markLines position (wordLines width (commentWords note))

/-- The lines of a comment at the head of a module. -/
def headLines (width : Nat) (note : Option String) : Lines :=
  (wordLines width (commentWords note)).map fun line => s!"-- {line}"

/-- A line without the spaces in front. -/
def unindented (line : String) : List Char := line.toList.dropWhile (· == ' ')

def isCommentLine (line : String) : Bool := ['-', '-'].isPrefixOf (unindented line)

def spacedWords (chars : List Char) : List String :=
  (Text.splitChars (· == ' ') chars).map String.ofList

/-- The words of the lines of a comment at the head of a module. -/
def readHead : Lines → Option (List String)
  | [] => some []
  | line :: rest =>
      match unindented line with
      | '-' :: '-' :: ' ' :: content => (readHead rest).map (spacedWords content ++ ·)
      | _ => none

/-- The words of a comment line behind its marker, and whether the marker begins a comment. -/
def markedWords? (line : String) : Option (Bool × List String) :=
  match unindented line with
  | '-' :: '-' :: ' ' :: '|' :: ' ' :: rest => some (true, spacedWords rest)
  | '-' :: '-' :: ' ' :: '^' :: ' ' :: rest => some (true, spacedWords rest)
  | '-' :: '-' :: ' ' :: ' ' :: ' ' :: rest => some (false, spacedWords rest)
  | _ => none

/-- The words of the comments on some lines. Words in front of the first marker that begins a
comment belong to an earlier one and stand apart. -/
def readMarked : Lines → Option (List String × List (List String))
  | [] => some ([], [])
  | line :: rest => do
      let (begins, words) ← markedWords? line
      let (onward, comments) ← readMarked rest
      if begins then return ([], (words ++ onward) :: comments)
      else return (words ++ onward, comments)

/-- The words of a comment are read back from its lines at the head of a module. -/
theorem readHead_headLines (width : Nat) (note : Option String) :
    readHead (headLines width note) = some (commentWords note) := by
  rw [headLines]
  refine Eq.trans ?_ (congrArg some (flatMap_wordLines width note))
  generalize wordLines width (commentWords note) = lines
  induction lines with
  | nil => rfl
  | cons line rest inductionHypothesis =>
      have chars : unindented s!"-- {line}" = '-' :: '-' :: ' ' :: line.toList := by
        simp [unindented, toString]
      rw [List.map_cons, readHead, chars]
      simp only
      rw [inductionHypothesis]
      rfl

/-- Blanks in front of a line do not matter for what stands behind them. -/
theorem unindented_blanks_append (amount : Nat) (line : String) :
    unindented (blanks amount ++ line) = unindented line := by
  rw [unindented, String.toList_append, blanks, String.toList_ofList,
    List.dropWhile_append_of_pos (by simp [List.mem_replicate])]
  rfl

/-- Nor for the words behind its mark. -/
theorem markedWords?_blanks_append (amount : Nat) (line : String) :
    markedWords? (blanks amount ++ line) = markedWords? line := by
  rw [markedWords?, unindented_blanks_append]
  rfl

/-- The first line of a comment has the mark of its position. -/
theorem markedWords?_first (position : CommentPosition) (line : String) :
    markedWords? s!"-- {position.mark} {line}" = some (true, Text.splitAtChar ' ' line) := by
  have chars : unindented s!"-- {position.mark} {line}" =
      '-' :: '-' :: ' ' :: (position.mark.toList ++ ' ' :: line.toList) := by
    simp [unindented, toString]
  rw [markedWords?, chars]
  cases position with
  | before => rfl
  | after => rfl

/-- The others have blanks in its place. -/
theorem markedWords?_further (line : String) :
    markedWords? s!"--   {line}" = some (false, Text.splitAtChar ' ' line) := by
  have chars : unindented s!"--   {line}" = '-' :: '-' :: ' ' :: ' ' :: ' ' :: line.toList := by
    simp [unindented, toString]
  rw [markedWords?, chars]
  rfl

/-- A comment that is moved to the right is moved line by line. -/
theorem nest_markLines (amount : Nat) (position : CommentPosition) (first : String) (rest : Lines) :
    nest amount (markLines position (first :: rest)) =
      (blanks amount ++ s!"-- {position.mark} {first}") ::
        rest.map fun line => blanks amount ++ s!"--   {line}" := by
  rw [markLines, nest_cons amount (by simp [toString]), nest, List.map_map]
  refine congrArg _ (List.map_congr_left fun line _ => ?_)
  simp [toString]

/-- Lines behind the first one of a comment go on with it. -/
theorem readMarked_further {amount : Nat} {rest : Lines} {comments : List (List String)}
    (read : readMarked rest = some ([], comments)) (lines : Lines) :
    readMarked ((lines.map fun line => blanks amount ++ s!"--   {line}") ++ rest) =
      some (lines.flatMap (Text.splitAtChar ' '), comments) := by
  induction lines with
  | nil => exact read
  | cons line lines inductionHypothesis =>
      rw [List.map_cons, List.cons_append, readMarked, markedWords?_blanks_append,
        markedWords?_further, inductionHypothesis]
      rfl

/-- A comment with words is read as one comment, at whatever column it stands. -/
theorem readMarked_append (amount width : Nat) (position : CommentPosition) (note : Option String)
    {rest : Lines} {comments : List (List String)} (read : readMarked rest = some ([], comments)) :
    readMarked (nest amount (noteLines width position note) ++ rest) =
      some ([], noteWords [note] ++ comments) := by
  have words := flatMap_wordLines width note
  rw [noteLines, noteWords, List.map_singleton]
  cases written : wordLines width (commentWords note) with
  | nil =>
      rw [written] at words
      simp only [← words]
      exact read
  | cons first lines =>
      rw [written, List.flatMap_cons] at words
      rw [nest_markLines, List.cons_append, readMarked, markedWords?_blanks_append,
        markedWords?_first, readMarked_further read, ← words]
      have inhabited : Text.splitAtChar ' ' first ≠ [] := by
        simp [Text.splitAtChar, Text.splitChars_ne_nil]
      simp [inhabited]

/-- The words of a comment are read back from its lines. -/
theorem commentWords_eq_of_nest_eq {amount more width : Nat} {position other : CommentPosition}
    {left right : Option String}
    (same : nest amount (noteLines width position left) = nest more (noteLines width other right)) :
    commentWords left = commentWords right := by
  have read : readMarked (nest amount (noteLines width position left) ++ []) =
      some ([], noteWords [left] ++ []) := readMarked_append amount width position left rfl
  rw [same, readMarked_append more width other right rfl] at read
  have words : noteWords [right] = noteWords [left] := by simpa using read
  simpa [noteWords, List.flatten_filter_not_isEmpty] using congrArg List.flatten words.symm

/-- A comment that is moved to the right is one. -/
theorem isCommentLine_blanks_append (amount : Nat) (line : String) :
    isCommentLine (blanks amount ++ line) = isCommentLine line := by
  rw [isCommentLine, unindented_blanks_append]
  rfl

/-- A line behind two dashes is one. -/
theorem isCommentLine_dashes_append (line : String) : isCommentLine ("--" ++ line) = true := by
  simp [isCommentLine, unindented, List.isPrefixOf]

/-- A line of a comment is a comment line that does not end within itself. -/
theorem isCommentLine_of_mem {amount width : Nat} {position : CommentPosition}
    {note : Option String} {line : String}
    (member : line ∈ nest amount (noteLines width position note)) :
    isCommentLine line = true ∧ '\n' ∉ line.toList := by
  have free := @newline_not_mem_wordLines width note
  rw [noteLines] at member
  cases written : wordLines width (commentWords note) with
  | nil => simp [written, markLines, nest] at member
  | cons first lines =>
      rw [written] at member free
      rw [nest_markLines, List.mem_cons, List.mem_map] at member
      rcases member with rfl | ⟨content, inside, rfl⟩
      · have freeHere := free List.mem_cons_self
        rw [isCommentLine_blanks_append]
        refine ⟨isCommentLine_dashes_append s!" {position.mark} {first}", ?_⟩
        cases position <;> simpa [blanks, toString, CommentPosition.mark] using freeHere
      · have freeHere := free (List.mem_cons_of_mem first inside)
        rw [isCommentLine_blanks_append]
        refine ⟨isCommentLine_dashes_append s!"   {content}", ?_⟩
        simpa [blanks, toString] using freeHere

/-- All lines of a note are comments. -/
theorem isCommentLine_of_mem_noteLines {width : Nat} {position : CommentPosition}
    {note : Option String} {line : String} (member : line ∈ noteLines width position note) :
    isCommentLine line = true ∧ '\n' ∉ line.toList := by
  rw [← nest_zero (noteLines width position note)] at member
  exact isCommentLine_of_mem member

/-- So are those of a note above a declaration. -/
theorem isCommentLine_of_mem_headLines {width : Nat} {note : Option String} {line : String}
    (member : line ∈ headLines width note) : isCommentLine line = true ∧ '\n' ∉ line.toList := by
  obtain ⟨content, inside, rfl⟩ := List.mem_map.1 member
  have free := newline_not_mem_wordLines inside
  exact ⟨isCommentLine_dashes_append s!" {content}", by simpa [toString] using free⟩

end RosettaDaml
