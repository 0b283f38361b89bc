/-
This file shows that a screen folds long lines without a loss, as long as all that is not blank
takes a cell.
-/

import Mathlib.Algebra.Ring.Nat
import Mathlib.Data.List.SplitBy
import RosettaDaml.Proofs.Screen.Lines
import RosettaDaml.Proofs.Screen.Unmarked

namespace RosettaDaml.Screen

open RosettaDaml.Text (Place ArePlain IsPlain solid solid_append)

/-! Cells. -/

/-- No place takes more than two cells. -/
theorem cellsOf_le (place : Place) : cellsOf place ≤ 2 := by
  unfold cellsOf
  dsimp only
  split
  · decide
  · split
    · rename_i first last cells found
      have ranges : ∀ range ∈ cellRanges, range.2.2 ≤ 2 := by decide +kernel
      exact ranges _ (List.mem_of_find?_eq_some found)
    · decide

/-- The cells of a line are counted place by place. -/
theorem cellCount_cons (place : Place) (rest : List Place) :
    cellCount (place :: rest) = cellsOf place + cellCount rest := rfl

/-- The cells of two parts add up. -/
theorem cellCount_append (front rest : List Place) :
    cellCount (front ++ rest) = cellCount front + cellCount rest := by
  induction front with
  | nil => exact (Nat.zero_add _).symm
  | cons place front inductionHypothesis =>
      rw [List.cons_append, cellCount_cons, cellCount_cons, inductionHypothesis, Nat.add_assoc]

/-- A part in front takes no more than the whole. -/
theorem cellCount_take_le (count : Nat) (places : List Place) :
    cellCount (places.take count) ≤ cellCount places := by
  conv_rhs => rw [← List.take_append_drop count places, cellCount_append]
  exact Nat.le_add_right _ _

/-- The next place adds its own cells. -/
theorem cellCount_take_succ {places : List Place} {count : Nat} (inside : count < places.length) :
    cellCount (places.take (count + 1)) = cellCount (places.take count) + cellsOf places[count] := by
  rw [← List.take_append_getElem inside, cellCount_append]
  rfl

/-! The search for the last place that fits. -/

/-- The places that are kept take some cells, or one more where the last of them takes two. -/
def IsCutAt (cells : Nat) (places : List Place) : Nat × Bool → Prop
  | (count, false) => cellCount (places.take count) = cells
  | (count, true) => 0 < count ∧ cellCount (places.take count) = cells + 1

/-- A part that is too wide by its last place was at least full without it, unless a wide place at
its end is what makes it one cell too wide. -/
theorem le_cellCount_take {places : List Place} {cells count : Nat} (inside : count < places.length)
    (notMore : ¬ (cellCount (places.take (count + 1)) = cells + 1 ∧
      (places.take (count + 1)).getLast?.map cellsOf = some 2))
    (many : cells < cellCount (places.take (count + 1))) : cells ≤ cellCount (places.take count) := by
  by_contra few
  have step := cellCount_take_succ inside
  have small := cellsOf_le places[count]
  refine notMore ⟨by omega, ?_⟩
  rw [← List.take_append_getElem inside, List.getLast?_concat, Option.map_some]
  exact congrArg some (by omega)

/-- The answer lies between both ends of the range, which becomes smaller with each step. -/
theorem isCutAt_cutLength {places : List Place} {cells : Nat} (positive : 0 < cells)
    (fuel : Nat) {first last : Nat} (ordered : first < last) (inside : last ≤ places.length)
    (enough : last - first ≤ fuel)
    (low : first = 0 ∨ cellCount (places.take (first + 1)) < cells)
    (high : cells ≤ cellCount (places.take last)) :
    IsCutAt cells places (cutLength places cells fuel first last) := by
  induction fuel generalizing first last with
  | zero => omega
  | succ fuel inductionHypothesis =>
      obtain ⟨middle, known⟩ : ∃ middle, middle = (first + last) / 2 := ⟨_, rfl⟩
      have bounds : first ≤ middle ∧ middle < last := by omega
      have next : first = middle → last = first + 1 := by omega
      rw [cutLength, ← known]
      split
      case isTrue oneMore =>
        rw [Bool.and_eq_true, beq_iff_eq, beq_iff_eq] at oneMore
        exact ⟨Nat.succ_pos _, oneMore.1⟩
      case isFalse notMore =>
        rw [Bool.and_eq_true, beq_iff_eq, beq_iff_eq] at notMore
        split
        case isTrue fits => exact beq_iff_eq.1 fits
        case isFalse other =>
          rw [beq_iff_eq] at other
          split
          case isTrue many =>
            have left := le_cellCount_take (Nat.lt_of_lt_of_le bounds.2 inside) notMore many
            -- The middle is never the first place, or the range would not become smaller.
            have apart : first ≠ middle := by
              intro same
              obtain rfl | few := low
              · have nothing : cellCount (places.take middle) = 0 := by rw [← same]; rfl
                omega
              · rw [same] at few
                omega
            exact inductionHypothesis (by omega) (by omega) (by omega) low left
          case isFalse few =>
            have apart : first ≠ middle := by
              intro same
              rw [next same, same] at high
              omega
            exact inductionHypothesis bounds.2 inside (by omega) (.inr (by omega)) high

/-! Parts of a line. -/

/-- The places of a line that are not blank. -/
def solidPlaces (places : List Place) : List Place := places.filter fun place => !isBlank place

/-- The solid places of two parts stand one behind the other. -/
theorem solidPlaces_append (front rest : List Place) :
    solidPlaces (front ++ rest) = solidPlaces front ++ solidPlaces rest :=
  List.filter_append _ _

/-- Blanks have no solid places. -/
theorem solidPlaces_eq_nil {places : List Place} (blanks : ∀ place ∈ places, isBlank place = true) :
    solidPlaces places = [] :=
  List.filter_eq_nil_iff.2 fun place member => by simp [blanks place member]

/-- The blanks that fill a line up are blanks. -/
theorem solidPlaces_blanks (count : Nat) : solidPlaces (List.replicate count blank) = [] :=
  solidPlaces_eq_nil fun place member => by
    rw [List.eq_of_mem_replicate member]
    decide

/-- A line is what is left of it without the blanks at its end, and these. -/
theorem exists_blanks (places : List Place) :
    ∃ blanks, places = trimEnd places ++ blanks ∧ (∀ place ∈ blanks, isBlank place = true) ∧
      blanks.length = (places.reverse.takeWhile isBlank).length := by
  refine ⟨(places.reverse.takeWhile isBlank).reverse, ?_, fun place member => ?_, by simp⟩
  · rw [trimEnd, ← List.reverse_append, List.takeWhile_append_dropWhile, List.reverse_reverse]
  · exact List.mem_takeWhile_imp (List.mem_reverse.1 member)

/-- The last place in front of the blanks at the end is not blank. -/
theorem isBlank_of_trimEnd {places front : List Place} {last : Place}
    (ends : trimEnd places = front ++ [last]) : isBlank last = false := by
  have begins : places.reverse.dropWhile isBlank = last :: front.reverse := by
    rw [← List.reverse_reverse (places.reverse.dropWhile isBlank)]
    change (trimEnd places).reverse = _
    simp [ends]
  have inhabited : places.reverse.dropWhile isBlank ≠ [] := by simp [begins]
  have notBlank := List.head_dropWhile_not isBlank inhabited
  simpa [begins] using notBlank

/-- Some blanks at the end are left out. -/
theorem exists_dropEndBlanks (width : Nat) (places : List Place) :
    ∃ blanks, dropEndBlanks width places = trimEnd places ++ blanks ∧
      ∀ place ∈ blanks, isBlank place = true := by
  obtain ⟨blanks, whole, blank, length⟩ := exists_blanks places
  have lengths := congrArg List.length whole
  rw [List.length_append, length] at lengths
  rw [dropEndBlanks]
  generalize kept : places.length -
    min (places.reverse.takeWhile isBlank).length (places.length - width) = count
  have enough : (trimEnd places).length ≤ count := by omega
  refine ⟨blanks.take (count - (trimEnd places).length), ?_,
    fun place member => blank place (List.mem_of_mem_take member)⟩
  conv_lhs => rw [whole, List.take_append, List.take_of_length_le enough]

section Clip

variable {core blanks : List Place} {count width : Nat}

/-- A part of the core takes no more than the core. -/
theorem cellCount_take_append_le (short : count ≤ core.length) :
    cellCount ((core ++ blanks).take count) ≤ cellCount core := by
  rw [List.take_append_of_le_length short]
  exact cellCount_take_le count core

/-- A shorter part takes less when the last place of the core takes a cell. -/
theorem cellCount_take_append_lt (shorter : count < core.length)
    (visible : ∀ front last, core = front ++ [last] → 0 < cellsOf last) :
    cellCount ((core ++ blanks).take count) < cellCount core := by
  obtain ⟨front, last, rfl⟩ : ∃ front last, core = front ++ [last] :=
    ⟨_, _, (List.dropLast_append_getLast (List.ne_nil_of_length_pos (by omega))).symm⟩
  rw [List.length_append, List.length_singleton] at shorter
  rw [List.append_assoc, List.take_append_of_le_length (by omega), cellCount_append]
  have before := cellCount_take_le count front
  have here := visible front last rfl
  have single : cellCount [last] = cellsOf last := rfl
  omega

section Blank

variable (blank : ∀ place ∈ blanks, isBlank place = true)

include blank

/-- A part that holds the core holds all solid places. -/
theorem solidPlaces_take_append (long : core.length ≤ count) :
    solidPlaces ((core ++ blanks).take count) = solidPlaces core := by
  rw [List.take_append, List.take_of_length_le long, solidPlaces_append,
    solidPlaces_eq_nil fun place member => blank place (List.mem_of_mem_take member),
    List.append_nil]

/-- All that is not blank stays when a line is cut at its width, if nothing of it reaches beyond. -/
theorem solidPlaces_clip (positive : 0 < width) (few : cellCount core ≤ width)
    (visible : ∀ front last, core = front ++ [last] → 0 < cellsOf last) :
    solidPlaces (clip width .fold (core ++ blanks)) = solidPlaces core := by
  rw [clip]
  split
  · rw [solidPlaces_append, solidPlaces_eq_nil blank, List.append_nil]
  · rename_i wide
    have inhabited : 0 < (core ++ blanks).length := by
      refine List.length_pos_of_ne_nil fun nothing => wide ?_
      rw [nothing]
      exact Nat.zero_le _
    have full : width ≤ cellCount ((core ++ blanks).take (core ++ blanks).length) := by
      rw [List.take_length]
      exact Nat.le_of_not_le wide
    have cut := isCutAt_cutLength positive ((core ++ blanks).length + 8) inhabited (Nat.le_refl _)
      (by omega) (.inl rfl) full
    rw [fitCells, if_neg wide]
    split
    case h_1 count found =>
      rw [found] at cut
      obtain ⟨-, cells⟩ := cut
      have long : core.length < count := by
        by_contra short
        have small := @cellCount_take_append_le core blanks count (Nat.le_of_not_lt short)
        omega
      have nothing : solidPlaces [Screen.blank] = [] := solidPlaces_blanks 1
      rw [solidPlaces_append, solidPlaces_take_append blank (by omega), nothing, List.append_nil]
    case h_2 count found =>
      rw [found] at cut
      have cells : cellCount ((core ++ blanks).take count) = width := cut
      refine solidPlaces_take_append blank (Nat.le_of_not_lt fun shorter => ?_)
      have small := @cellCount_take_append_lt core blanks count shorter visible
      omega

end Blank

end Clip

/-- A line that is cut shows nothing that it did not hold. -/
theorem solidPlaces_clip_sublist (width : Nat) (places : List Place) :
    (solidPlaces (clip width .fold places)).Sublist (solidPlaces places) := by
  have front (count : Nat) : (solidPlaces (places.take count)).Sublist (solidPlaces places) :=
    (List.take_sublist count places).filter _
  have nothing : solidPlaces [blank] = [] := solidPlaces_blanks 1
  rw [clip]
  split
  · exact List.Sublist.refl _
  · change (solidPlaces (fitCells width places)).Sublist _
    rw [fitCells]
    split
    · rw [solidPlaces_append, solidPlaces_blanks, List.append_nil]
    · split
      · rw [solidPlaces_append, nothing, List.append_nil]
        exact front _
      · exact front _

/-- Blanks in the place of a tab change no solid place. -/
theorem solidPlaces_expandTabs (taken : Nat) (places : List Place) :
    solidPlaces (expandTabs taken places) = solidPlaces places := by
  induction places generalizing taken with
  | nil => rfl
  | cons place rest inductionHypothesis =>
      rw [expandTabs]
      split
      case isTrue tab =>
        obtain rfl := beq_iff_eq.1 tab
        rw [solidPlaces_append, solidPlaces_blanks, inductionHypothesis]
        rfl
      case isFalse =>
        change solidPlaces ([place] ++ _) = solidPlaces ([place] ++ rest)
        rw [solidPlaces_append, solidPlaces_append, inductionHypothesis]

/-- The parts between the cuts make up the line. -/
theorem flatten_divideFrom (position : Nat) (places : List Place) (cuts : List Nat) :
    (divideFrom position places cuts).flatten = places := by
  induction cuts generalizing position places with
  | nil => simp [divideFrom]
  | cons cut cuts inductionHypothesis =>
      rw [divideFrom, List.flatten_cons, inductionHypothesis, List.take_append_drop]

/-! Where a line is cut. -/

/-- A part of a line that reaches beyond the width with blanks only. -/
def Fits (width : Nat) (part : List Place) : Prop := cellCount (trimEnd part) ≤ width

/-- A part takes no more without the blanks at its end. -/
theorem cellCount_trimEnd_le (places : List Place) : cellCount (trimEnd places) ≤ cellCount places := by
  obtain ⟨blanks, whole, -⟩ := exists_blanks places
  conv_rhs => rw [whole, cellCount_append]
  exact Nat.le_add_right _ _

/-- A part with few cells fits. -/
theorem Fits.of_le {width : Nat} {part : List Place} (few : cellCount part ≤ width) :
    Fits width part :=
  (cellCount_trimEnd_le part).trans few

/-- A word fits behind others if it does without the blanks at its end. -/
theorem Fits.append {width : Nat} {part word : List Place} (fits : Fits width part)
    (few : cellCount part + cellCount (trimEnd word) ≤ width) : Fits width (part ++ word) := by
  rw [Fits, trimEnd, List.reverse_append, List.dropWhile_append]
  split
  · exact fits
  · rw [List.reverse_append, List.reverse_reverse, cellCount_append]
    exact few

/-- Whether all parts of a line fit when it is cut at some positions. -/
def PartsFit (width start : Nat) (places : List Place) (cuts : List Nat) : Prop :=
  ∀ part ∈ divideFrom start places cuts, Fits width part

/-- Without cuts the line is the only part. -/
theorem PartsFit.nil {width start : Nat} {places : List Place} (fits : Fits width places) :
    PartsFit width start places [] :=
  List.forall_mem_singleton.2 fits

/-- A cut ends a part that fits. -/
theorem PartsFit.cons {width start position : Nat} {taken rest : List Place} {cuts : List Nat}
    (here : position = start + taken.length) (fits : Fits width taken)
    (behind : PartsFit width position rest cuts) :
    PartsFit width start (taken ++ rest) (position :: cuts) := by
  rw [PartsFit, divideFrom, here, Nat.add_sub_cancel_left, List.take_left, List.drop_left]
  exact List.forall_mem_cons.2 ⟨fits, here ▸ behind⟩

/-- The lengths of the parts of a word are those of its first part and of others. -/
theorem exists_chopLengths (width length cells : Nat) (places : List Place) :
    ∃ first more, chopLengths width length cells places = first :: more := by
  cases places with
  | nil => exact ⟨_, _, rfl⟩
  | cons place rest =>
      rw [chopLengths]
      split
      · exact ⟨_, _, rfl⟩
      · exact exists_chopLengths _ _ _ rest

section Chop

variable {width : Nat} (wide : 2 ≤ width) {cuts : List Nat} {behind : List Place}

include wide

/-- The parts of a word that is too wide fit each into a line. The last one may be followed by other
words. -/
theorem partsFit_chop {start : Nat} {taken places : List Place} (few : cellCount taken ≤ width)
    (rest : ∀ last position, cellCount last ≤ width →
      last = (taken ++ places).drop
        (chopLengths width taken.length (cellCount taken) places).dropLast.sum →
      position + last.length = start + (taken ++ places).length →
      PartsFit width position (last ++ behind) cuts) :
    PartsFit width start (taken ++ places ++ behind)
      (((startsOf start (chopLengths width taken.length (cellCount taken) places)).tail.filter
        (· != 0)) ++ cuts) := by
  induction places generalizing start taken with
  | nil =>
      have last := rest taken start few (by simp [chopLengths]) (by simp)
      simpa [chopLengths, startsOf] using last
  | cons place places inductionHypothesis =>
      by_cases beyond : width < cellCount taken + cellsOf place
      · have inhabited : taken ≠ [] := by
          rintro rfl
          have small := cellsOf_le place
          have nothing : cellCount [] = 0 := rfl
          omega
        rw [chopLengths, if_pos beyond] at rest ⊢
        rw [startsOf, List.tail_cons]
        obtain ⟨first, more, lengths⟩ := exists_chopLengths width 1 (cellsOf place) places
        -- A part that is full is closed, and the place that did not fit begins the next one.
        have again : PartsFit width (start + taken.length) ([place] ++ places ++ behind)
            ((startsOf (start + taken.length) (chopLengths width 1 (cellsOf place) places)).tail.filter
              (· != 0) ++ cuts) := by
          refine inductionHypothesis ((cellsOf_le place).trans wide) fun last position small same ends => ?_
          refine rest last position small ?_ ?_
          · change last = ([place] ++ places).drop
              (chopLengths width 1 (cellsOf place) places).dropLast.sum at same
            rw [lengths] at same ⊢
            rw [List.dropLast_cons_cons, List.sum_cons, ← List.drop_drop, List.drop_left]
            exact same
          · simp only [List.length_append, List.length_cons, List.length_nil] at ends ⊢
            omega
        have notZero : (start + taken.length != 0) = true := by
          have positive := List.length_pos_of_ne_nil inhabited
          exact bne_iff_ne.2 (by omega)
        rw [lengths, startsOf, List.tail_cons] at again
        rw [lengths, startsOf, List.filter_cons, if_pos notZero, List.cons_append, List.append_assoc]
        exact .cons rfl (.of_le few) again
      · -- A place that fits only makes the part longer, so the same part goes on.
        have longer : chopLengths width taken.length (cellCount taken) (place :: places) =
            chopLengths width (taken ++ [place]).length (cellCount (taken ++ [place])) places := by
          rw [chopLengths, if_neg beyond, cellCount_append, List.length_append]
          rfl
        have parts : taken ++ place :: places = taken ++ [place] ++ places := by simp
        rw [longer, parts] at rest
        rw [longer, parts]
        have fewToo : cellCount (taken ++ [place]) ≤ width := by
          rw [cellCount_append]
          exact Nat.le_of_not_lt beyond
        exact inductionHypothesis fewToo rest

/-- The parts of a line fit, whatever stands in the part that is still open. -/
theorem partsFit_cutsFrom {words : List (List Place)} {start position : Nat} {taken : List Place}
    (here : position = start + taken.length) (fits : Fits width taken) :
    PartsFit width start (taken ++ words.flatten)
      (cutsFrom width .fold position (cellCount taken) words) := by
  induction words generalizing start position taken with
  | nil =>
      rw [List.flatten_nil, List.append_nil]
      exact .nil fits
  | cons word words inductionHypothesis =>
      have parts : taken ++ (word :: words).flatten = taken ++ word ++ words.flatten := by simp
      rw [cutsFrom]
      dsimp only
      split
      case isTrue few =>
        rw [← cellCount_append, parts]
        refine inductionHypothesis ?_ (fits.append few)
        rw [here, List.length_append, Nat.add_assoc]
      case isFalse many =>
        split
        case isTrue tooWide =>
          have chopped : PartsFit width position (word ++ words.flatten)
              ((startsOf position (chopLengths width 0 0 word)).tail.filter (· != 0) ++
                cutsFrom width .fold (position + word.length)
                  (cellCount (word.drop (chopLengths width 0 0 word).dropLast.sum)) words) := by
            refine @partsFit_chop width wide _ words.flatten position [] word (Nat.zero_le _)
              fun last place few same ends => ?_
            obtain rfl : last = word.drop (chopLengths width 0 0 word).dropLast.sum := same
            exact inductionHypothesis ends.symm (.of_le few)
          obtain ⟨first, more, lengths⟩ := exists_chopLengths width 0 0 word
          rw [lengths, startsOf, List.tail_cons] at chopped
          rw [lengths, startsOf, List.filter_cons, List.flatten_cons]
          split
          case isTrue => exact .cons here fits chopped
          case isFalse zero =>
            have begins : position = 0 := by simpa using zero
            obtain rfl : taken = [] := List.eq_nil_of_length_eq_zero (by omega)
            obtain rfl : start = position := by simpa using here.symm
            exact chopped
        case isFalse narrow =>
          split
          case isTrue inside =>
            exact .cons here fits (inductionHypothesis rfl (Nat.le_of_not_lt narrow))
          case isFalse outside =>
            -- The first word of a line is never left out.
            have nothing : position = 0 → cellCount taken = 0 := by
              intro begins
              obtain rfl : taken = [] := List.eq_nil_of_length_eq_zero (by omega)
              rfl
            simp only [Bool.and_eq_true, bne_iff_ne, not_and_or, not_not] at outside
            omega

/-- The cuts of a line that is wrapped leave parts that fit. -/
theorem partsFit_wrapLine (line : List Place) :
    PartsFit width 0 line (cutsFrom width .fold 0 0 (spacedWords line)) := by
  have whole (words : List (List Place)) (parts : words.flatten = line) :
      PartsFit width 0 line (cutsFrom width .fold 0 0 words) := by
    have found := @partsFit_cutsFrom width wide words 0 0 [] rfl (Nat.zero_le _)
    rw [List.nil_append, parts] at found
    exact found
  have parts := List.flatten_splitBy (fun place next => !isBlank place || isBlank next) line
  unfold spacedWords
  split
  case h_1 first rest cut =>
    rw [cut] at parts
    split
    case isTrue blanks =>
      cases rest with
      | nil =>
          rw [List.flatten_singleton] at parts
          have nothing : trimEnd line = [] := by
            rw [trimEnd, List.dropWhile_eq_nil_iff.2 fun place member => ?_, List.reverse_nil]
            exact List.all_eq_true.1 blanks place (parts ▸ List.mem_reverse.1 member)
          refine .nil ?_
          rw [Fits, nothing]
          exact Nat.zero_le _
      | cons second more => exact whole _ (by simpa using parts)
    case isFalse => exact whole _ parts
  case h_2 cut =>
    rw [cut] at parts
    exact whole _ parts

end Chop

/-- No solid place stands among the blanks at the end. -/
theorem solidPlaces_trimEnd (places : List Place) : solidPlaces (trimEnd places) = solidPlaces places := by
  obtain ⟨blanks, whole, blank, -⟩ := exists_blanks places
  conv_rhs => rw [whole, solidPlaces_append, solidPlaces_eq_nil blank, List.append_nil]

/-- So no more of them is dropped with some of these blanks. -/
theorem solidPlaces_dropEndBlanks (width : Nat) (places : List Place) :
    solidPlaces (dropEndBlanks width places) = solidPlaces places := by
  obtain ⟨blanks, same, blank⟩ := exists_dropEndBlanks width places
  rw [same, solidPlaces_append, solidPlaces_eq_nil blank, List.append_nil, solidPlaces_trimEnd]

/-- The solid places of parts stand part by part. -/
theorem solidPlaces_flatten (parts : List (List Place)) :
    solidPlaces parts.flatten = (parts.map solidPlaces).flatten :=
  List.filter_flatten

/-- A part takes no more than all parts together. -/
theorem cellCount_le_of_mem {parts : List (List Place)} {part : List Place} (member : part ∈ parts) :
    cellCount part ≤ cellCount parts.flatten := by
  obtain ⟨front, rest, rfl⟩ := List.append_of_mem member
  rw [List.flatten_append, List.flatten_cons, cellCount_append, cellCount_append]
  omega

/-- Whether a line fits on a screen, or all that is not blank in it takes a cell. -/
def HasRoomFor (width : Nat) (line : List Place) : Prop :=
  cellCount (expandTabs 0 line) ≤ width ∨ ∀ place ∈ line, isBlank place = false → 0 < cellsOf place

/-- A line with enough room is folded without a loss. -/
theorem solidPlaces_wrapLine {width : Nat} (wide : 2 ≤ width) {line : List Place}
    (room : HasRoomFor width line) :
    solidPlaces (wrapLine width .fold line).flatten = solidPlaces line := by
  have whole := flatten_divideFrom 0 (expandTabs 0 line)
    (cutsFrom width .fold 0 0 (spacedWords (expandTabs 0 line)))
  have fits := partsFit_wrapLine wide (expandTabs 0 line)
  rw [PartsFit] at fits
  rw [wrapLine]
  generalize divideFrom 0 (expandTabs 0 line) _ = parts at whole fits ⊢
  -- Each part fits into the width but for the blanks at its end, so nothing else is clipped.
  have each : ∀ part ∈ parts,
      solidPlaces (clip width .fold (dropEndBlanks width part)) = solidPlaces part := by
    intro part member
    obtain short | visible := room
    · have few : cellCount (dropEndBlanks width part) ≤ width := by
        refine (cellCount_take_le _ part).trans ((cellCount_le_of_mem member).trans ?_)
        rw [whole]
        exact short
      rw [clip, if_pos few, solidPlaces_dropEndBlanks]
    · obtain ⟨blanks, same, blank⟩ := exists_dropEndBlanks width part
      have visibleToo := keep_expandTabs (fun place => isBlank place = false → 0 < cellsOf place)
        (fun notBlank => absurd notBlank (by decide)) 0 visible
      rw [same, solidPlaces_clip blank (by omega) (fits part member) ?_, solidPlaces_trimEnd]
      intro front last ends
      refine visibleToo last ?_ (isBlank_of_trimEnd ends)
      rw [← whole]
      refine List.mem_flatten.2 ⟨part, member, ?_⟩
      obtain ⟨others, parted, -⟩ := exists_blanks part
      rw [parted, ends]
      simp
  have mapped : parts.map (solidPlaces ∘ fun part => clip width .fold (dropEndBlanks width part)) =
      parts.map solidPlaces := List.map_congr_left each
  rw [solidPlaces_flatten, List.map_map, mapped, ← solidPlaces_flatten, whole,
    solidPlaces_expandTabs]

/-- Wrapping shows no solid place that is not in the line. -/
theorem solidPlaces_wrapLine_sublist (width : Nat) (line : List Place) :
    (solidPlaces (wrapLine width .fold line).flatten).Sublist (solidPlaces line) := by
  have whole := flatten_divideFrom 0 (expandTabs 0 line)
    (cutsFrom width .fold 0 0 (spacedWords (expandTabs 0 line)))
  rw [wrapLine]
  generalize divideFrom 0 (expandTabs 0 line) _ = parts at whole ⊢
  rw [← solidPlaces_expandTabs 0 line, ← whole]
  clear whole
  induction parts with
  | nil => exact .slnil
  | cons part parts inductionHypothesis =>
      rw [List.map_cons, List.flatten_cons, List.flatten_cons, solidPlaces_append,
        solidPlaces_append]
      refine .append ?_ inductionHypothesis
      rw [← solidPlaces_dropEndBlanks width part]
      exact solidPlaces_clip_sublist width _

/-! Texts on lines. -/

/-- The characters of a place are solid or blank as the place is. -/
theorem solid_chars (place : Place) :
    solid place.chars = if isBlank place then [] else place.chars := by
  cases place with
  | plain char =>
      rw [Place.chars]
      split
      case isTrue same =>
        subst same
        decide
      case isFalse =>
        cases blank : Text.isBlank char <;> simp [solid, isBlank, blank]
  | half number =>
      have code : (Char.ofNat (0xE000 + number.val)).toNat = 0xE000 + number.val :=
        Text.toNat_ofNat (by omega) (by omega)
      have notBlank : Text.isBlank (Char.ofNat (0xE000 + number.val)) = false := by
        simp only [Text.isBlank, code, Bool.or_eq_false_iff, Bool.and_eq_false_imp, beq_eq_false_iff_ne,
          decide_eq_true_eq, decide_eq_false_iff_not]
        omega
      have mark : Text.isBlank Text.halfMark = false := by decide
      simp [Place.chars, solid, isBlank, mark, notBlank]

/-- Solid characters are those of solid places. -/
theorem solid_ofPlaces (places : List Place) :
    solid (Text.ofPlaces places) = Text.ofPlaces (solidPlaces places) := by
  induction places with
  | nil => rfl
  | cons place rest inductionHypothesis =>
      change solid (place.chars ++ Text.ofPlaces rest) = Text.ofPlaces (solidPlaces (place :: rest))
      rw [solid_append, solid_chars, inductionHypothesis, solidPlaces, solidPlaces, List.filter_cons]
      cases isBlank place <;> rfl

/-- Characters are read as places and written back. -/
theorem ofPlaces_places {chars : List Char} (plain : ArePlain chars) :
    Text.ofPlaces (Text.places chars) = chars := by
  obtain ⟨given, rfl⟩ := plain.exists_ofChars
  rw [Text.ofChars, Text.places_ofPlaces]

/-- No solid character stands between two lines. -/
theorem solid_splitChars (chars : List Char) :
    (Text.splitChars (· == '\n') chars).flatMap solid = solid chars := by
  induction chars with
  | nil => rfl
  | cons char rest inductionHypothesis =>
      obtain ⟨piece, pieces, pieced⟩ :=
        List.exists_cons_of_ne_nil (Text.splitChars_ne_nil (· == '\n') rest)
      change _ = solid ([char] ++ rest)
      rw [solid_append, ← inductionHypothesis, Text.splitChars, pieced]
      split
      case isTrue separates =>
        obtain rfl := beq_iff_eq.1 separates
        rfl
      case isFalse =>
        change solid ([char] ++ piece) ++ _ = _
        rw [solid_append, List.append_assoc]
        rfl

/-- What is not blank on some lines. -/
def solidLines (lines : List String) : List Char := solid (String.join lines).toList

/-- The solid characters on wrapped lines are those of their places. -/
theorem solidLines_wrap (width : Nat) (overflow : Overflow) (text : String) :
    solidLines (wrap width overflow text) =
      (Text.splitChars (· == '\n') text.toList).flatMap fun line =>
        Text.ofPlaces (solidPlaces (wrapLine width overflow (Text.places line)).flatten) := by
  have written (parts : List (List Place)) :
      solid ((parts.map fun part => String.ofList (Text.ofPlaces part)).flatMap String.toList) =
        Text.ofPlaces (solidPlaces parts.flatten) := by
    rw [← solid_ofPlaces, List.flatMap_map]
    simp only [String.toList_ofList]
    congr 1
    induction parts with
    | nil => rfl
    | cons part parts inductionHypothesis =>
        rw [List.flatMap_cons, inductionHypothesis, List.flatten_cons]
        exact List.flatMap_append.symm
  rw [solidLines, wrap, String.toList_join, List.flatMap_assoc, solid, List.filter_flatMap]
  exact List.flatMap_congr fun line member => written _

/-- Lines show no more than the text on them. -/
theorem solidLines_wrap_sublist {text : String} (plain : IsPlain text) (width : Nat) :
    (solidLines (wrap width .fold text)).Sublist (solid text.toList) := by
  have plainChars := Text.IsPlain.iff_arePlain.1 plain
  rw [solidLines_wrap, ← solid_splitChars text.toList]
  refine List.Sublist.flatMap_right _ fun line member => ?_
  have plainLine := plainChars.splitChars (by decide) (by decide) line member
  conv_rhs => rw [← ofPlaces_places plainLine, solid_ofPlaces]
  exact (solidPlaces_wrapLine_sublist width (Text.places line)).flatMap Place.chars

/-- Whether all lines of a text fit on a screen, or have nothing between blanks but what takes a
cell. -/
def HasRoom (width : Nat) (chars : List Char) : Prop :=
  ∀ line ∈ Text.splitChars (· == '\n') chars, HasRoomFor width (Text.places line)

/-- The lines of a text with enough room show all of it but blanks. -/
theorem solidLines_wrap_of_hasRoom {text : String} (plain : IsPlain text) {width : Nat}
    (wide : 2 ≤ width) (room : HasRoom width text.toList) :
    solidLines (wrap width .fold text) = solid text.toList := by
  have plainChars := Text.IsPlain.iff_arePlain.1 plain
  rw [solidLines_wrap, ← solid_splitChars text.toList]
  refine List.flatMap_congr fun line member => ?_
  have plainLine := plainChars.splitChars (by decide) (by decide) line member
  rw [solidPlaces_wrapLine wide (room line member), ← solid_ofPlaces, ofPlaces_places plainLine]

end RosettaDaml.Screen
