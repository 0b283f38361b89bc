/-
This file says what a filled text is, and shows that every text is filled in exactly one way.
-/

import Mathlib.Data.List.Chain
import RosettaDaml.Proofs.Daml.Outcome
import RosettaDaml.Proofs.Layout.Comment

namespace RosettaDaml

/-- The size of a line with one space between any two words. -/
def lineSize (words : List String) : Nat := Text.size (" ".intercalate words).toList

/-- A line of one word is as long as the word. -/
theorem lineSize_singleton (word : String) : lineSize [word] = Text.size word.toList := by
  simp [lineSize]

/-- Two lines that are put together take one blank more. -/
theorem lineSize_append {line more : List String} (inhabited : line ≠ [])
    (inhabitedToo : more ≠ []) : lineSize (line ++ more) = lineSize line + 1 + lineSize more := by
  unfold lineSize
  rw [String.intercalate_append_of_ne_nil inhabited inhabitedToo, String.toList_append,
    String.toList_append, Text.size_append, Text.size_append]
  rfl

/-- No line becomes shorter by more words. -/
theorem lineSize_le_append (line more : List String) : lineSize line ≤ lineSize (line ++ more) := by
  by_cases empty : line = []
  · simp [empty, lineSize, Text.size]
  by_cases emptyToo : more = []
  · simp [emptyToo]
  have size := lineSize_append empty emptyToo
  omega

/-- Words cut into lines. A line has words, and they fit into the width unless there is only one. -/
structure IsCut (width : Nat) (words : List String) (pieces : List (List String)) : Prop where
  whole : pieces.flatten = words
  inhabited : ∀ piece ∈ pieces, piece ≠ []
  bounded : ∀ piece ∈ pieces, lineSize piece ≤ width ∨ piece.length = 1

/-- No line has room for the first word of the next one. -/
def AreFull (width : Nat) (pieces : List (List String)) : Prop :=
  pieces.IsChain fun piece next => ∀ word ∈ next.head?, width < lineSize (piece ++ [word])

/-- Full pieces are full without the first one. -/
theorem AreFull.tail {width : Nat} {piece : List String} {pieces : List (List String)}
    (full : AreFull width (piece :: pieces)) : AreFull width pieces :=
  List.IsChain.tail full

section Fill

variable {width used : Nat} {line words : List String}

/-- Filling goes on with the line that it was given. -/
theorem exists_fillWords_eq (width : Nat) (line : List String) (used : Nat) (words : List String) :
    ∃ more pieces, fillWords width line used words = (line ++ more) :: pieces := by
  induction words generalizing line used with
  | nil => exact ⟨[], [], by simp [fillWords]⟩
  | cons word rest inductionHypothesis =>
      rw [fillWords]
      split
      · obtain ⟨more, pieces, begun⟩ := inductionHypothesis (line ++ [word])
          (used + 1 + Text.size word.toList)
        exact ⟨word :: more, pieces, by simp [begun]⟩
      · exact ⟨[], _, by rw [List.append_nil]⟩

/-- A line fits or has one word only, by induction on the words that are left. -/
theorem bounded_of_mem_fillWords (inhabited : line ≠ []) (measured : used = lineSize line)
    (bounded : lineSize line ≤ width ∨ line.length = 1) {piece : List String}
    (member : piece ∈ fillWords width line used words) :
    lineSize piece ≤ width ∨ piece.length = 1 := by
  induction words generalizing line used with
  | nil =>
      obtain rfl := List.mem_singleton.1 member
      exact bounded
  | cons word rest inductionHypothesis =>
      have longer := lineSize_append inhabited (List.cons_ne_nil word [])
      rw [lineSize_singleton] at longer
      rw [fillWords] at member
      split at member
      · exact inductionHypothesis (by simp) (by omega) (by omega) member
      · rcases List.mem_cons.1 member with rfl | behind
        · exact bounded
        · exact inductionHypothesis (by simp) (lineSize_singleton word).symm (by simp) behind

/-- No line has room for the word that begins the next one. -/
theorem areFull_fillWords (inhabited : line ≠ []) (measured : used = lineSize line) :
    AreFull width (fillWords width line used words) := by
  induction words generalizing line used with
  | nil => exact List.isChain_singleton line
  | cons word rest inductionHypothesis =>
      have longer := lineSize_append inhabited (List.cons_ne_nil word [])
      rw [lineSize_singleton] at longer
      rw [fillWords]
      split
      · exact inductionHypothesis (by simp) (by omega)
      · have onward := inductionHypothesis (List.cons_ne_nil word []) (lineSize_singleton word).symm
        obtain ⟨more, pieces, begun⟩ :=
          exists_fillWords_eq width [word] (Text.size word.toList) rest
        simp only [AreFull, begun] at onward ⊢
        apply List.isChain_cons_cons.2
        constructor
        · intro other first
          obtain rfl : word = other := by simpa using first
          omega
        · exact onward

end Fill

/-- Wrapping cuts the words into lines that fit. -/
theorem isCut_wrapWords (width : Nat) (words : List String) :
    IsCut width words (wrapWords width words) where
  whole := flatten_wrapWords width words
  inhabited _ := ne_nil_of_mem_wrapWords
  bounded piece member := by
    cases words with
    | nil => simp [wrapWords] at member
    | cons word rest =>
        exact bounded_of_mem_fillWords (List.cons_ne_nil word []) (lineSize_singleton word).symm
          (.inr rfl) member

/-- And the lines are full. -/
theorem areFull_wrapWords (width : Nat) (words : List String) :
    AreFull width (wrapWords width words) := by
  cases words with
  | nil => exact List.isChain_nil
  | cons word rest =>
      exact areFull_fillWords (List.cons_ne_nil word []) (lineSize_singleton word).symm

namespace IsCut

variable {width : Nat} {words piece : List String} {pieces others : List (List String)}

/-- A cut without its first piece is a cut of the other words. -/
theorem tail (cut : IsCut width words (piece :: pieces)) : IsCut width pieces.flatten pieces where
  whole := rfl
  inhabited _ member := cut.inhabited _ (List.mem_cons_of_mem piece member)
  bounded _ member := cut.bounded _ (List.mem_cons_of_mem piece member)

/-- No words are cut into no pieces. -/
theorem eq_nil (cut : IsCut width [] pieces) : pieces = [] := by
  cases pieces with
  | nil => rfl
  | cons piece pieces =>
      have empty := (List.append_eq_nil_iff.1 cut.whole).1
      exact absurd empty (cut.inhabited piece List.mem_cons_self)

/-- The first line of full lines takes as many words as any line that begins like it. -/
theorem eq_nil_of_append {more rest : List String} (cut : IsCut width words (piece :: pieces))
    (full : AreFull width (piece :: pieces)) (onward : pieces.flatten = more ++ rest)
    (bounded : lineSize (piece ++ more) ≤ width ∨ (piece ++ more).length = 1) : more = [] := by
  cases more with
  | nil => rfl
  | cons word more =>
      exfalso
      cases pieces with
      | nil => simp at onward
      | cons next pieces =>
          have inhabited := cut.inhabited next (by simp)
          obtain ⟨first, others, rfl⟩ := List.exists_cons_of_ne_nil inhabited
          obtain rfl : first = word := by simpa using congrArg List.head? onward
          have crowded := (List.isChain_cons_cons.1 full).1 first rfl
          have longer := lineSize_le_append (piece ++ [first]) more
          rw [List.append_assoc, List.singleton_append] at longer
          have begun := List.length_pos_iff.2 (cut.inhabited piece List.mem_cons_self)
          rw [List.length_append, List.length_cons] at bounded
          omega

/-- There is one way to cut words into full lines. -/
theorem unique (cut : IsCut width words pieces) (full : AreFull width pieces)
    (cutToo : IsCut width words others) (fullToo : AreFull width others) : pieces = others := by
  induction pieces generalizing words others with
  | nil =>
      obtain rfl : [] = words := cut.whole
      exact cutToo.eq_nil.symm
  | cons piece pieces inductionHypothesis =>
      cases others with
      | nil =>
          obtain rfl : [] = words := cutToo.whole
          exact cut.eq_nil
      | cons other others =>
          have same : piece ++ pieces.flatten = other ++ others.flatten :=
            cut.whole.trans cutToo.whole.symm
          have begun : piece = other := by
            rcases List.append_eq_append_iff.1 same with ⟨more, rfl, onward⟩ | ⟨more, rfl, onward⟩
            · simp [cut.eq_nil_of_append full onward (cutToo.bounded _ List.mem_cons_self)]
            · simp [cutToo.eq_nil_of_append fullToo onward (cut.bounded _ List.mem_cons_self)]
          subst begun
          have behind := List.append_cancel_left same
          rw [inductionHypothesis cut.tail full.tail (behind ▸ cutToo.tail) fullToo.tail]

end IsCut

/-- A line with words in it and no space in front of it, behind it or beside another one. -/
structure IsSpaced (line : String) : Prop where
  inhabited : line ≠ ""
  head : line.toList.head? ≠ some ' '
  last : line.toList.getLast? ≠ some ' '
  single : ¬ [' ', ' '] <:+: line.toList

/-- A line is spaced when its words are not empty. -/
theorem isSpaced_of_not_mem {line : String} (full : "" ∉ Text.splitAtChar ' ' line) :
    IsSpaced line := by
  have apart (front rest : List Char) (cut : line.toList = front ++ ' ' :: rest) :
      [] ∉ Text.splitChars (· == ' ') front ∧ [] ∉ Text.splitChars (· == ' ') rest := by
    rw [Text.splitAtChar, cut, Text.splitChars_append_separator front rfl rest] at full
    simpa [not_or] using full
  constructor
  · rintro rfl
    exact full (by decide)
  · intro space
    obtain ⟨rest, begun⟩ := List.head?_eq_some_iff.1 space
    exact (apart [] rest begun).1 (by simp [Text.splitChars])
  · intro space
    obtain ⟨front, ended⟩ := List.getLast?_eq_some_iff.1 space
    exact (apart front [] ended).2 (by simp [Text.splitChars])
  · rintro ⟨front, rest, spaces⟩
    exact (apart front (' ' :: rest) (by simp [← spaces])).2 (by simp [Text.splitChars])

/-- The lines of a text, no longer than the width allows. The words between their spaces are those
of the text; a line is too long only when it is one word, and has no room for the word behind it. -/
structure IsFilling (width : Int) (text : String) (lines : Lines) : Prop where
  words : lines.flatMap (Text.splitAtChar ' ') = Text.words text
  spaced : ∀ line ∈ lines, IsSpaced line
  bounded : ∀ line ∈ lines, Text.size line.toList ≤ width ∨ line ∈ Text.words text
  full : lines.IsChain fun line next => ∀ word ∈ (Text.splitAtChar ' ' next).head?,
    width < Text.size (line ++ " " ++ word).toList

section Text

variable {width : Nat} {text : String} {lines : Lines}

/-- A line with one word more is as long as its words with one blank between any two. -/
theorem size_append_word {piece : List String} (inhabited : piece ≠ []) (word : String) :
    Text.size (" ".intercalate piece ++ " " ++ word).toList = lineSize (piece ++ [word]) := by
  rw [lineSize, String.intercalate_append_of_ne_nil inhabited (List.cons_ne_nil word []),
    String.intercalate_singleton]

/-- A wrapped text is a filling. -/
theorem isFilling_wrapText (width : Nat) (text : String) :
    IsFilling width text (wrapText width text) where
  words := flatMap_wordLines width (some text)
  spaced line member := by
    obtain ⟨piece, known, rfl⟩ := List.mem_map.1 member
    replace known : piece ∈ wrapWords width (commentWords (some text)) := known
    apply isSpaced_of_not_mem
    rw [splitAtChar_of_mem_wrapWords known]
    intro empty
    have inside := mem_commentWords_of_mem_wrapWords known empty
    exact (mem_commentWords inside).1 rfl
  bounded line member := by
    obtain ⟨piece, known, rfl⟩ := List.mem_map.1 member
    have cut := isCut_wrapWords width (Text.words text)
    rcases cut.bounded piece known with fits | single
    · left
      exact Int.ofNat_le.2 fits
    · right
      obtain ⟨word, rfl⟩ := List.length_eq_one_iff.1 single
      rw [String.intercalate_singleton, ← cut.whole]
      exact List.mem_flatten_of_mem known List.mem_cons_self
  full := by
    apply (List.isChain_map _).2
    apply (areFull_wrapWords width (Text.words text)).imp_of_mem_imp
    intro piece next known knownToo crowded word first
    replace knownToo : next ∈ wrapWords width (commentWords (some text)) := knownToo
    rw [splitAtChar_of_mem_wrapWords knownToo] at first
    rw [size_append_word (ne_nil_of_mem_wrapWords known)]
    exact Int.ofNat_lt.2 (crowded word first)

/-- A line is as long as its words with one blank between any two. -/
theorem IsFilling.size_eq (line : String) :
    Text.size line.toList = lineSize (Text.splitAtChar ' ' line) := by
  rw [lineSize, Text.intercalate_splitAtChar rfl]

/-- The lines of a filling cut the words of the text. -/
theorem IsFilling.isCut (filling : IsFilling width text lines) :
    IsCut width (Text.words text) (lines.map (Text.splitAtChar ' ')) where
  whole := by rw [← List.flatMap_def, filling.words]
  inhabited piece member := by
    obtain ⟨line, _, rfl⟩ := List.mem_map.1 member
    simp [Text.splitAtChar, Text.splitChars_ne_nil]
  bounded piece member := by
    obtain ⟨line, known, rfl⟩ := List.mem_map.1 member
    rcases filling.bounded line known with fits | word
    · left
      rw [← size_eq]
      exact Int.ofNat_le.1 fits
    · right
      have solid := (Text.mem_words word).2
      have single : Text.splitChars (· == ' ') line.toList = [line.toList] := by
        apply Text.splitChars_of_free
        intro char inside
        apply beq_eq_false_iff_ne.2
        rintro rfl
        exact absurd (solid _ inside) (by decide)
      rw [Text.splitAtChar, single]
      rfl

/-- The lines of a filling are full. -/
theorem IsFilling.areFull (filling : IsFilling width text lines) :
    AreFull width (lines.map (Text.splitAtChar ' ')) := by
  apply (List.isChain_map _).2
  apply filling.full.imp
  intro line next crowded word first
  have inhabited : Text.splitAtChar ' ' line ≠ [] := by
    simp [Text.splitAtChar, Text.splitChars_ne_nil]
  rw [← size_append_word inhabited, Text.intercalate_splitAtChar rfl]
  exact Int.ofNat_lt.1 (crowded word first)

/-- A text has one filling, which wrapping gives. -/
theorem isFilling_iff : IsFilling width text lines ↔ lines = wrapText width text := by
  constructor
  · intro filling
    have same := filling.isCut.unique filling.areFull (isCut_wrapWords width _)
      (areFull_wrapWords width _)
    rw [wrapText, ← same, List.map_map]
    have back : (" ".intercalate ·) ∘ Text.splitAtChar ' ' = id :=
      funext fun line => Text.intercalate_splitAtChar rfl line
    rw [back, List.map_id]
  · rintro rfl
    exact isFilling_wrapText width text

end Text

end RosettaDaml
