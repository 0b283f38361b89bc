/-
This file shows that lines and blocks of lines are read back from what they are put together to.
-/

import RosettaDaml.Daml.Render
import RosettaDaml.Proofs.Text.Split

namespace RosettaDaml

/-- Lines are moved to the right one by one. -/
theorem nest_append (amount : Nat) (lines more : Lines) :
    nest amount (lines ++ more) = nest amount lines ++ nest amount more :=
  List.map_append

/-- A line that is not empty is moved behind blanks. -/
theorem nest_cons (amount : Nat) {line : String} (inhabited : line ≠ "") (rest : Lines) :
    nest amount (line :: rest) = (blanks amount ++ line) :: nest amount rest := by
  rw [nest, List.map_cons, if_neg (by simpa using inhabited)]
  rfl

/-- The lines of each item may be moved before or after they are put together. -/
theorem nest_flatMap {Item : Type} (amount : Nat) (give : Item → Lines) (items : List Item) :
    nest amount (items.flatMap give) = items.flatMap fun item => nest amount (give item) :=
  List.map_flatMap

/-- Blanks add up. -/
theorem blanks_add (more amount : Nat) : blanks (more + amount) = blanks more ++ blanks amount := by
  rw [blanks, blanks, blanks, ← String.ofList_append, List.replicate_add]

/-- A line behind blanks is not empty. -/
theorem blanks_append_ne_empty (amount : Nat) {line : String} (inhabited : line ≠ "") :
    blanks amount ++ line ≠ "" := by
  simp [inhabited]

/-- Nothing is moved by nothing. -/
theorem nest_zero (lines : Lines) : nest 0 lines = lines := by
  simp [nest, blanks]

/-- Going to the right twice is going to the right once. -/
theorem nest_nest (more amount : Nat) (lines : Lines) :
    nest more (nest amount lines) = nest (more + amount) lines := by
  rw [nest, nest, nest, List.map_map]
  refine List.map_congr_left fun line _ => ?_
  by_cases empty : line = ""
  · simp [empty]
  · have shifted := blanks_append_ne_empty amount empty
    simp [empty, blanks_add, String.append_assoc]

/-- An empty line stands between two blocks. -/
theorem joinBlocks_cons_cons (first second : Lines) (rest : List Lines) :
    joinBlocks (first :: second :: rest) = first ++ "" :: joinBlocks (second :: rest) := rfl

/-- So joined blocks are blocks with empty lines between them. -/
theorem joinBlocks_eq_intercalate (blocks : List Lines) :
    joinBlocks blocks = [""].intercalate blocks := by
  induction blocks with
  | nil => rfl
  | cons first rest inductionHypothesis =>
      cases rest with
      | nil => exact List.intercalate_singleton.symm
      | cons second rest =>
          rw [joinBlocks_cons_cons, inductionHypothesis, List.intercalate_cons_cons,
            List.append_assoc, List.singleton_append]

/-- Blocks without empty lines are read back from the lines that they are joined to. -/
theorem joinBlocks_injective {lefts rights : List Lines} (inhabited : lefts ≠ [])
    (inhabitedToo : rights ≠ []) (full : ∀ block ∈ lefts, "" ∉ block)
    (fullToo : ∀ block ∈ rights, "" ∉ block) (same : joinBlocks lefts = joinBlocks rights) :
    lefts = rights := by
  rw [joinBlocks_eq_intercalate, joinBlocks_eq_intercalate] at same
  have split := congrArg (List.splitOn "") same
  rwa [List.splitOn_intercalate "" full inhabited,
    List.splitOn_intercalate "" fullToo inhabitedToo] at split

/-- A line of joined blocks is empty or a line of a block. -/
theorem mem_joinBlocks {blocks : List Lines} {line : String} (member : line ∈ joinBlocks blocks) :
    line = "" ∨ ∃ block ∈ blocks, line ∈ block :=
  (Text.mem_intercalate (joinBlocks_eq_intercalate blocks ▸ member)).imp_left List.mem_singleton.1

/-- Leaving lines out of joined blocks leaves them out of each block. -/
theorem filter_joinBlocks {keeps : String → Bool} (keepsEmpty : keeps "" = true)
    (blocks : List Lines) :
    (joinBlocks blocks).filter keeps = joinBlocks (blocks.map (List.filter keeps)) := by
  induction blocks with
  | nil => rfl
  | cons first rest inductionHypothesis =>
      cases rest with
      | nil => rfl
      | cons second rest =>
          rw [joinBlocks_cons_cons, List.filter_append, List.filter_cons_of_pos keepsEmpty,
            inductionHypothesis]
          rfl

/-- Lines that are not empty come from the blocks alone. -/
theorem filter_joinBlocks_of_empty {keeps : String → Bool} (dropsEmpty : keeps "" = false)
    (blocks : List Lines) :
    (joinBlocks blocks).filter keeps = blocks.flatMap (List.filter keeps) := by
  induction blocks with
  | nil => rfl
  | cons first rest inductionHypothesis =>
      cases rest with
      | nil => exact (List.append_nil _).symm
      | cons second rest =>
          rw [joinBlocks_cons_cons, List.filter_append,
            List.filter_cons_of_neg (by simp [dropsEmpty]), inductionHypothesis, ← List.flatMap_cons]

/-- What stands in front of the lines of a first block stands in front of all lines. -/
theorem joinBlocks_append_cons (front first : Lines) (rest : List Lines) :
    joinBlocks ((front ++ first) :: rest) = front ++ joinBlocks (first :: rest) := by
  cases rest with
  | nil => rfl
  | cons second rest => rw [joinBlocks_cons_cons, joinBlocks_cons_cons, List.append_assoc]

/-- A text ends with the end of its last line. -/
theorem intercalate_append_empty {lines : Lines} (inhabited : lines ≠ []) :
    "\n".intercalate (lines ++ [""]) = Daml.linesText lines := by
  rw [String.intercalate_append_of_ne_nil inhabited (List.cons_ne_nil _ _)]
  simp [Daml.linesText]

/-- Lines without line ends of their own are read back from their text. -/
theorem splitAtChar_linesText {lines : Lines} (inhabited : lines ≠ [])
    (free : ∀ line ∈ lines, '\n' ∉ line.toList) :
    Text.splitAtChar '\n' (Daml.linesText lines) = lines ++ [""] := by
  have freeToo : ∀ line ∈ lines ++ [""], '\n' ∉ line.toList := by
    simpa [or_imp, forall_and] using free
  rw [← intercalate_append_empty inhabited, Text.splitAtChar_intercalate rfl (by simp) freeToo]

end RosettaDaml
