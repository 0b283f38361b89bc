/-
This file cuts a text in front of its tags.
-/

import Mathlib.Data.List.Infix
import RosettaDaml.Screen.Markup

namespace RosettaDaml.Screen

/-! Where tags begin. -/

/-- Whether no tag begins in a text. -/
def HasNoTag (chars : List Char) : Prop := ∀ rest ∈ chars.tails, tagHere? rest = none

instance (chars : List Char) : Decidable (HasNoTag chars) :=
  inferInstanceAs (Decidable (∀ rest ∈ chars.tails, tagHere? rest = none))

/-- A text has no tag if none begins with its first character, and none behind it. -/
theorem hasNoTag_cons {char : Char} {rest : List Char} :
    HasNoTag (char :: rest) ↔ tagHere? (char :: rest) = none ∧ HasNoTag rest := by
  simp [HasNoTag]

/-- What stands before the first closing bracket holds no other bracket. -/
theorem exists_upToBracket? {chars body : List Char} (found : upToBracket? chars = some body) :
    ∃ rest, chars = body ++ ']' :: rest ∧ '[' ∉ body ∧ ']' ∉ body := by
  induction chars generalizing body with
  | nil => cases found
  | cons char chars inductionHypothesis =>
      rw [upToBracket?] at found
      split at found
      case isTrue closes =>
        cases found
        obtain rfl := beq_iff_eq.1 closes
        exact ⟨chars, rfl, List.not_mem_nil, List.not_mem_nil⟩
      case isFalse other =>
        split at found
        · cases found
        · rename_i opens
          obtain ⟨body, behind, rfl⟩ := Option.map_eq_some_iff.1 found
          obtain ⟨rest, rfl, noOpen, noClose⟩ := inductionHypothesis behind
          refine ⟨rest, rfl, ?_, ?_⟩
          · simpa [noOpen] using Ne.symm (beq_eq_false_iff_ne.1 (Bool.eq_false_iff.2 opens))
          · simpa [noClose] using Ne.symm (beq_eq_false_iff_ne.1 (Bool.eq_false_iff.2 other))

/-- The same for the body of a tag. -/
theorem exists_tagBody? {chars body : List Char} (found : tagBody? chars = some body) :
    ∃ rest, chars = body ++ ']' :: rest ∧ '[' ∉ body ∧ ']' ∉ body := by
  cases chars with
  | nil => cases found
  | cons char chars =>
      rw [tagBody?] at found
      split at found
      case isTrue starts =>
        obtain ⟨body, behind, rfl⟩ := Option.map_eq_some_iff.1 found
        obtain ⟨rest, rfl, noOpen, noClose⟩ := exists_upToBracket? behind
        have apart (mark : Char) (never : startsTag mark = false) : mark ≠ char := by
          rintro rfl
          exact absurd starts (by simp [never])
        exact ⟨rest, rfl, by simp [noOpen, apart '[' (by decide)],
          by simp [noClose, apart ']' (by decide)]⟩
      case isFalse => cases found

/-- A backslash in front of a tag is one more. -/
theorem tagHere?_slash (chars : List Char) :
    tagHere? ('\\' :: chars) = (tagHere? chars).map fun (slashes, body) => (slashes + 1, body) := by
  rw [tagHere?, tagHere?]
  simp only [List.takeWhile_cons, beq_self_eq_true, if_true, List.length_cons, List.drop_succ_cons]
  split <;> simp [Option.map_map, Function.comp_def]

/-- So are some of them, by induction on their number. -/
theorem tagHere?_slashes (count : Nat) (rest : List Char) :
    tagHere? (List.replicate count '\\' ++ '[' :: rest) =
      (tagBody? rest).map fun body => (count, body) := by
  induction count with
  | zero => rfl
  | succ count inductionHypothesis =>
      rw [List.replicate_succ, List.cons_append, tagHere?_slash, inductionHypothesis, Option.map_map]
      rfl

/-- Without a backslash a tag begins with a bracket. -/
theorem tagHere?_cons {char : Char} (notSlash : char ≠ '\\') (rest : List Char) :
    tagHere? (char :: rest) =
      if char = '[' then (tagBody? rest).map fun body => (0, body) else none := by
  rw [tagHere?, List.takeWhile_cons_of_neg (by simpa using notSlash)]
  simp only [List.length_nil, List.drop_zero]
  split
  case h_1 behind same =>
    obtain ⟨rfl, rfl⟩ := List.cons.inj same
    rfl
  case h_2 other => rw [if_neg fun opens => other rest (by rw [opens])]

/-- What stands where a tag begins. -/
theorem exists_tagHere? {chars body : List Char} {count : Nat}
    (found : tagHere? chars = some (count, body)) :
    ∃ rest, chars = List.replicate count '\\' ++ '[' :: (body ++ ']' :: rest) ∧
      tagBody? (body ++ ']' :: rest) = some body := by
  induction chars generalizing count with
  | nil => cases found
  | cons char chars inductionHypothesis =>
      by_cases slash : char = '\\'
      · rw [slash, tagHere?_slash] at found
        obtain ⟨⟨count, body⟩, behind, same⟩ := Option.map_eq_some_iff.1 found
        cases same
        obtain ⟨rest, rfl, isTag⟩ := inductionHypothesis behind
        exact ⟨rest, by rw [slash, List.replicate_succ]; rfl, isTag⟩
      · rw [tagHere?_cons slash] at found
        split at found
        case isTrue opens =>
          obtain ⟨body, isTag, same⟩ := Option.map_eq_some_iff.1 found
          cases same
          obtain ⟨rest, rfl, -, -⟩ := exists_tagBody? isTag
          exact ⟨rest, by rw [opens]; rfl, isTag⟩
        case isFalse => cases found

/-! A tag behind other text. -/

/-- A bracket behind some backslashes closes nothing that stands in front of them. -/
theorem upToBracket?_append_slashes (text : List Char) (count : Nat) (tail : List Char) :
    upToBracket? (text ++ (List.replicate count '\\' ++ '[' :: tail)) = upToBracket? text := by
  induction text with
  | nil =>
      induction count with
      | zero => rfl
      | succ count inductionHypothesis =>
          change (upToBracket? ([] ++ (List.replicate count '\\' ++ '[' :: tail))).map _ = none
          rw [inductionHypothesis]
          rfl
  | cons char text inductionHypothesis =>
      rw [List.cons_append, upToBracket?, upToBracket?, inductionHypothesis]

/-- A body ends before the next bracket, so what stands behind that does not matter. -/
theorem tagBody?_append_slashes (text : List Char) (count : Nat) (tail : List Char) :
    tagBody? (text ++ (List.replicate count '\\' ++ '[' :: tail)) = tagBody? text := by
  cases text with
  | nil =>
      cases count with
      | zero => rfl
      | succ count => rfl
  | cons char text =>
      rw [List.cons_append, tagBody?, tagBody?, upToBracket?_append_slashes]

/-- What stands behind a text without a backslash at its end decides about none of its tags. -/
theorem tagHere?_append_slashes {text : List Char} (inhabited : text ≠ [])
    (ends : text.getLast? ≠ some '\\') (count : Nat) (tail : List Char) :
    tagHere? (text ++ (List.replicate count '\\' ++ '[' :: tail)) = tagHere? text := by
  induction text with
  | nil => exact absurd rfl inhabited
  | cons char text inductionHypothesis =>
      by_cases slash : char = '\\'
      · have inhabitedToo : text ≠ [] := by
          rintro rfl
          exact ends (by rw [slash]; rfl)
        have endsToo : text.getLast? ≠ some '\\' := by
          rwa [List.getLast?_cons_of_ne_nil inhabitedToo] at ends
        rw [slash, List.cons_append, tagHere?_slash, tagHere?_slash,
          inductionHypothesis inhabitedToo endsToo]
      · rw [List.cons_append, tagHere?_cons slash, tagHere?_cons slash, tagBody?_append_slashes]

/-! Pieces. -/

/-- Characters that are passed do not matter for the pieces. -/
theorem exists_piecesFrom_passed (position passed : Nat) (before chars : List Char) :
    ∃ next, piecesFrom position passed before chars = piecesFrom next 0 before (chars.drop passed) := by
  induction chars generalizing position passed with
  | nil => exact ⟨0, by simp [piecesFrom]⟩
  | cons char rest inductionHypothesis =>
      cases passed with
      | zero => exact ⟨position, rfl⟩
      | succ passed =>
          obtain ⟨next, same⟩ := inductionHypothesis (position + Text.size [char]) passed
          exact ⟨next, same⟩

/-- A text without tags is one piece. -/
theorem piecesFrom_of_hasNoTag (position : Nat) (before : List Char) {text : List Char}
    (noTag : HasNoTag text) : piecesFrom position 0 before text = plainPiece (before.reverse ++ text) := by
  induction text generalizing position before with
  | nil => simp [piecesFrom]
  | cons char text inductionHypothesis =>
      obtain ⟨notHere, behind⟩ := hasNoTag_cons.1 noTag
      rw [piecesFrom]
      simp only [notHere]
      rw [inductionHypothesis _ _ behind]
      simp

section Cut

variable {body rest : List Char} (count : Nat) (isTag : tagBody? (body ++ ']' :: rest) = some body)

include isTag

/-- A tag behind some backslashes, which belong to it. -/
theorem exists_piecesFrom_tag (position : Nat) (before : List Char) :
    ∃ next, piecesFrom position 0 before
        (List.replicate count '\\' ++ '[' :: (body ++ ']' :: rest)) =
      plainPiece before.reverse ++ (tagPieces position count body ++ piecesFrom next 0 [] rest) := by
  have here := tagHere?_slashes count (body ++ ']' :: rest)
  rw [isTag] at here
  obtain ⟨first, others, begins⟩ : ∃ first others,
      List.replicate count '\\' ++ '[' :: (body ++ ']' :: rest) = first :: others := by
    cases count with
    | zero => exact ⟨_, _, rfl⟩
    | succ count => exact ⟨_, _, rfl⟩
  have behind : others.drop (count + body.length + 1) = rest := by
    have dropped := congrArg (List.drop (count + (body.length + 2))) begins
    have parts : List.replicate count '\\' ++ '[' :: (body ++ ']' :: rest) =
        (List.replicate count '\\' ++ '[' :: (body ++ [']'])) ++ rest := by simp
    rw [parts, List.drop_left' (by simp)] at dropped
    exact dropped.symm
  rw [begins] at here
  obtain ⟨next, same⟩ := exists_piecesFrom_passed (position + Text.size [first])
    (count + body.length + 1) [] others
  refine ⟨next, ?_⟩
  rw [begins, piecesFrom]
  simp only [here, Option.map_some]
  rw [same, behind, List.append_assoc]

/-- A text is cut in front of a tag, whichever tags stand in it already. -/
theorem exists_piecesFrom_append (position passed : Nat) (before : List Char) {text : List Char}
    (fits : passed ≤ text.length) (ends : text.getLast? ≠ some '\\') :
    ∃ place next, piecesFrom position passed before
        (text ++ (List.replicate count '\\' ++ '[' :: (body ++ ']' :: rest))) =
      piecesFrom position passed before text ++
        (tagPieces place count body ++ piecesFrom next 0 [] rest) := by
  induction text generalizing position passed before with
  | nil =>
      obtain rfl : passed = 0 := Nat.le_zero.1 fits
      exact ⟨position, exists_piecesFrom_tag count isTag position before⟩
  | cons char text inductionHypothesis =>
      have endsToo : text.getLast? ≠ some '\\' := by
        cases text with
        | nil => simp
        | cons next text => simpa [List.getLast?_cons_cons] using ends
      cases passed with
      | succ passed =>
          exact inductionHypothesis _ passed before (Nat.le_of_succ_le_succ fits) endsToo
      | zero =>
          have here := tagHere?_append_slashes (List.cons_ne_nil char text) ends count
            (body ++ ']' :: rest)
          rw [List.cons_append] at here ⊢
          rw [piecesFrom, piecesFrom]
          simp only [here]
          -- A tag that stands in the text already is passed, which is why the induction counts what
          -- is passed.
          cases found : tagHere? (char :: text) with
          | none => exact inductionHypothesis _ 0 (char :: before) (Nat.zero_le _) endsToo
          | some tag =>
              obtain ⟨slashes, inner⟩ := tag
              obtain ⟨others, whole, -⟩ := exists_tagHere? found
              have lengths := congrArg List.length whole
              simp only [List.length_cons, List.length_append, List.length_replicate] at lengths
              obtain ⟨place, next, same⟩ := inductionHypothesis (position + Text.size [char])
                (slashes + inner.length + 1) [] (by omega) endsToo
              refine ⟨place, next, ?_⟩
              dsimp only
              rw [same]
              simp only [List.append_assoc]

end Cut

/-- Texts with the tags in them, one after the other. -/
inductive IsTagged : List Char → Prop where
  | free {text : List Char} (noTag : HasNoTag text) : IsTagged text
  | tag {text body rest : List Char} (count : Nat) (noTag : HasNoTag text)
      (ends : text.getLast? ≠ some '\\') (isTag : tagBody? (body ++ ']' :: rest) = some body)
      (tagged : IsTagged rest) :
      IsTagged (text ++ (List.replicate count '\\' ++ '[' :: (body ++ ']' :: rest)))

/-- A character in front of a text begins a tag, or no other tag. -/
theorem IsTagged.cons {char : Char} {text : List Char} (tagged : IsTagged text)
    (notHere : tagHere? (char :: text) = none) : IsTagged (char :: text) := by
  cases tagged with
  | free noTag => exact .free (hasNoTag_cons.2 ⟨notHere, noTag⟩)
  | @tag text body rest count noTag ends isTag tagged =>
      have endsToo : (char :: text).getLast? ≠ some '\\' := by
        cases text with
        | nil =>
            rintro same
            obtain rfl : char = '\\' := by simpa using same
            rw [List.nil_append, tagHere?_slash, tagHere?_slashes, isTag] at notHere
            cases notHere
        | cons next text => simpa [List.getLast?_cons_cons] using ends
      rw [← List.cons_append, tagHere?_append_slashes (List.cons_ne_nil char text) endsToo] at notHere
      exact .tag count (hasNoTag_cons.2 ⟨notHere, noTag⟩) endsToo isTag tagged

/-- Every text is free of tags or has a first one, by induction on the characters. -/
theorem isTagged (chars : List Char) : IsTagged chars := by
  match chars with
  | [] => exact .free (by decide)
  | char :: rest =>
      cases found : tagHere? (char :: rest) with
      | none => exact (isTagged rest).cons found
      | some tag =>
          obtain ⟨count, body⟩ := tag
          obtain ⟨behind, whole, isTag⟩ := exists_tagHere? found
          have shorter : behind.length < rest.length + 1 := by
            have lengths := congrArg List.length whole
            simp only [List.length_cons, List.length_append, List.length_replicate] at lengths
            omega
          rw [whole]
          exact @IsTagged.tag [] body behind count (by decide) (by simp) isTag (isTagged behind)
  termination_by chars.length

end RosettaDaml.Screen
