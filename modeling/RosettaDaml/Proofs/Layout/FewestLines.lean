/-
This file shows that no way to cut a text into lines of a width needs fewer lines than filling it.
-/

import Mathlib.Order.Bounds.Defs
import RosettaDaml.Proofs.Layout.Wrapping

namespace RosettaDaml

section Fill

variable {width : Nat}

/-- A line that is less full needs no more lines behind it, and whatever the first lines hold, the
numbers of lines differ by one at most. Both are needed at once, as a word that goes onto one line
may begin the next one on the other side. -/
theorem length_fillWords_le (words line other : List String) (used more : Nat) :
    (used ≤ more →
      (fillWords width line used words).length ≤ (fillWords width other more words).length) ∧
    (fillWords width line used words).length ≤ (fillWords width other more words).length + 1 := by
  induction words generalizing line other used more with
  | nil => simp [fillWords]
  | cons word rest inductionHypothesis =>
      have size : Text.size word.toList ≤ more + 1 + Text.size word.toList := by omega
      have fitting := inductionHypothesis (line ++ [word]) (other ++ [word])
        (used + 1 + Text.size word.toList) (more + 1 + Text.size word.toList)
      have behind := (inductionHypothesis (line ++ [word]) [word]
        (used + 1 + Text.size word.toList) (Text.size word.toList)).2
      have ahead := (inductionHypothesis [word] (other ++ [word]) (Text.size word.toList)
        (more + 1 + Text.size word.toList)).1 size
      -- Both lines take the word, or only one of them, or none; the longer line never gains by it.
      rw [fillWords, fillWords]
      split
      · split
        · constructor
          · intro less
            exact fitting.1 (by omega)
          · exact fitting.2
        · rw [List.length_cons]
          constructor
          · intro less
            exact behind
          · omega
      · split
        · rw [List.length_cons]
          constructor
          · intro less
            omega
          · omega
        · rw [List.length_cons, List.length_cons]
          constructor
          · intro less
            exact le_rfl
          · omega

/-- A line takes all words that fit onto it. -/
theorem fillWords_append {line piece : List String} (inhabited : line ≠ [])
    (fits : lineSize (line ++ piece) ≤ width) (words : List String) :
    fillWords width line (lineSize line) (piece ++ words) =
      fillWords width (line ++ piece) (lineSize (line ++ piece)) words := by
  induction piece generalizing line with
  | nil => simp
  | cons word piece inductionHypothesis =>
      have longer := lineSize_append inhabited (List.cons_ne_nil word [])
      rw [lineSize_singleton] at longer
      have split : line ++ word :: piece = line ++ [word] ++ piece := by simp
      have short := lineSize_le_append (line ++ [word]) piece
      rw [← split] at short
      rw [List.cons_append, fillWords, if_pos (by omega), ← longer,
        inductionHypothesis (by simp) (split ▸ fits), split]

/-- A line of words in front adds one line at most. -/
theorem length_wrapWords_append_le {piece : List String}
    (bounded : lineSize piece ≤ width ∨ piece.length = 1) (words : List String) :
    (wrapWords width (piece ++ words)).length ≤ (wrapWords width words).length + 1 := by
  cases piece with
  | nil => exact Nat.le_succ _
  | cons first piece =>
      have taken : wrapWords width (first :: piece ++ words) =
          fillWords width (first :: piece) (lineSize (first :: piece)) words := by
        change fillWords width [first] (Text.size first.toList) (piece ++ words) = _
        rw [← lineSize_singleton]
        rcases bounded with fits | single
        · exact fillWords_append (List.cons_ne_nil first []) fits words
        · obtain rfl : piece = [] := by simpa using single
          rfl
      rw [taken]
      cases words with
      | nil => simp [fillWords]
      | cons word rest =>
          change _ ≤ (fillWords width [word] (Text.size word.toList) rest).length + 1
          rw [fillWords]
          split
          · exact (length_fillWords_le rest _ [word] _ _).2
          · exact le_rfl

end Fill

/-- No cut has fewer lines. -/
theorem IsCut.length_wrapWords_le {width : Nat} {words : List String} {pieces : List (List String)}
    (cut : IsCut width words pieces) : (wrapWords width words).length ≤ pieces.length := by
  induction pieces generalizing words with
  | nil =>
      obtain rfl : [] = words := cut.whole
      exact le_rfl
  | cons piece pieces inductionHypothesis =>
      obtain rfl : piece ++ pieces.flatten = words := cut.whole
      calc (wrapWords width (piece ++ pieces.flatten)).length
          ≤ (wrapWords width pieces.flatten).length + 1 :=
            length_wrapWords_append_le (cut.bounded piece List.mem_cons_self) _
        _ ≤ pieces.length + 1 := Nat.succ_le_succ (inductionHypothesis cut.tail)

/-- A cut for a width is a cut for every larger one. -/
theorem IsCut.widen {width wider : Nat} {words : List String} {pieces : List (List String)}
    (cut : IsCut width words pieces) (larger : width ≤ wider) : IsCut wider words pieces where
  whole := cut.whole
  inhabited := cut.inhabited
  bounded piece member := (cut.bounded piece member).imp_left (le_trans · larger)

theorem length_wrapText_le {width wider : Nat} (larger : width ≤ wider) (text : String) :
    (wrapText wider text).length ≤ (wrapText width text).length := by
  have cut := (isCut_wrapWords width (Text.words text)).widen larger
  simpa [wrapText] using cut.length_wrapWords_le

theorem length_markLines (position : CommentPosition) (lines : Lines) :
    (markLines position lines).length = lines.length := by
  cases lines <;> simp [markLines]

theorem commentLines_of_pos {width : Int} (room : 1 ≤ width) (position : CommentPosition)
    (text : String) : commentLines width position (some text) =
      .ok (markLines position (wrapText width.toNat text)) := by
  rw [commentLines, fill_of_pos room]
  rfl

/-- Filling a text takes the fewest lines that its words can be cut into, and neither it nor a
comment takes more lines where there is more room. -/
theorem fill_fewest {width : Int} (room : 1 ≤ width) (text : String) :
    ∃ lines, fill width text = .ok lines ∧
      IsLeast {count | ∃ pieces, IsCut width.toNat (Text.words text) pieces ∧
        pieces.length = count} lines.length ∧
      (∀ wider, width ≤ wider →
        ∃ others, fill wider text = .ok others ∧ others.length ≤ lines.length) ∧
      ∀ position, ∃ comment, commentLines width position (some text) = .ok comment ∧
        ∀ wider, width ≤ wider → ∃ others, commentLines wider position (some text) = .ok others ∧
          others.length ≤ comment.length := by
  have fewer {wider : Int} (larger : width ≤ wider) :
      (wrapText wider.toNat text).length ≤ (wrapText width.toNat text).length :=
    length_wrapText_le (Int.toNat_le_toNat larger) text
  refine ⟨wrapText width.toNat text, fill_of_pos room text, ?_, ?_, ?_⟩
  · rw [wrapText, List.length_map]
    constructor
    · exact ⟨_, isCut_wrapWords width.toNat (Text.words text), rfl⟩
    · rintro count ⟨pieces, cut, rfl⟩
      exact cut.length_wrapWords_le
  · intro wider larger
    exact ⟨_, fill_of_pos (Int.le_trans room larger) text, fewer larger⟩
  · intro position
    refine ⟨_, commentLines_of_pos room position text, ?_⟩
    intro wider larger
    refine ⟨_, commentLines_of_pos (Int.le_trans room larger) position text, ?_⟩
    rw [length_markLines, length_markLines]
    exact fewer larger

/-- A text whose second word could as well begin the second line. -/
def raggedText : String := "aaa bb cc ddddd"

theorem fill_fewest_raggedText :
    (1 : Int) ≤ 6 ∧ fill 6 raggedText = .ok ["aaa bb", "cc", "ddddd"] ∧
      IsLeast {count | ∃ pieces, IsCut 6 ["aaa", "bb", "cc", "ddddd"] pieces ∧
        pieces.length = count} 3 ∧
      ∃ others, fill 9 raggedText = .ok others ∧ others.length ≤ 3 := by
  have filled : fill 6 raggedText = .ok ["aaa bb", "cc", "ddddd"] := by decide
  obtain ⟨lines, given, least, wider, -⟩ := fill_fewest (by decide : (1 : Int) ≤ 6) raggedText
  obtain rfl := Except.ok.inj (filled.symm.trans given)
  have words : Text.words raggedText = ["aaa", "bb", "cc", "ddddd"] := by decide
  rw [words] at least
  exact ⟨by decide, filled, least, wider 9 (by decide)⟩

end RosettaDaml
