/-
This file says what a screen shows of a text, whichever tags stand in it: no more than the text,
except for emoji, each of which costs the text two colons.
-/

import RosettaDaml.Proofs.Screen.Markup

namespace RosettaDaml.Screen

open RosettaDaml.Text (ArePlain)

/-! What is shown. -/

/-- What is shown of a text between tags. -/
def shownPlain (chars : List Char) : List Char := visible (withEmoji (dropBracketSlashes chars))

def MarkupPiece.shown : MarkupPiece → List Char
  | .plain chars => shownPlain chars
  | .tag _ _ => []

def shownAll (pieces : List MarkupPiece) : List Char := pieces.flatMap MarkupPiece.shown

/-- What is shown of a text whose tags can all be opened and closed. -/
def display (chars : List Char) : List Char := shownAll (piecesFrom 0 0 [] chars)

/-- What is shown of a tag and the backslashes in front of it. -/
def tagShown (count : Nat) (body : List Char) : List Char :=
  List.replicate (count / 2) '\\' ++ if count % 2 = 1 then shownPlain ('[' :: body ++ [']']) else []

/-- A tag without backslashes shows nothing. -/
theorem tagShown_zero (body : List Char) : tagShown 0 body = [] := by simp [tagShown]

/-- Another character than a backslash stays. -/
theorem dropBracketSlashes_cons {char : Char} (other : char ≠ '\\') (rest : List Char) :
    dropBracketSlashes (char :: rest) = char :: dropBracketSlashes rest := by
  simp [dropBracketSlashes, other]

/-- Another character than a colon stays. -/
theorem withEmoji_cons {char : Char} (other : char ≠ ':') (rest : List Char) :
    withEmoji (char :: rest) = char :: withEmoji rest := by
  have noCode : code? (char :: rest) = none := by
    rw [code?.eq_def]
    split
    case h_1 same => exact absurd (List.cons.inj same).1 other
    case h_2 => rfl
  rw [withEmoji, withEmojiFrom, noCode]
  rfl

/-- A text without colons names no emoji. -/
theorem withEmoji_of_free {chars : List Char} (free : ':' ∉ chars) : withEmoji chars = chars := by
  induction chars with
  | nil => rfl
  | cons char rest inductionHypothesis =>
      rw [List.mem_cons, not_or] at free
      rw [withEmoji_cons (Ne.symm free.1), inductionHypothesis free.2]

/-- Backslashes alone are shown. -/
theorem shownPlain_slashes (count : Nat) :
    shownPlain (List.replicate count '\\') = List.replicate count '\\' := by
  have kept : dropBracketSlashes (List.replicate count '\\') = List.replicate count '\\' := by
    induction count with
    | zero => rfl
    | succ count inductionHypothesis =>
        have next : (List.replicate count '\\').head? ≠ some '[' := by
          simp [List.head?_replicate]
        rw [List.replicate_succ, dropBracketSlashes, inductionHypothesis]
        simp [next]
  have noEmoji : withEmoji (List.replicate count '\\') = List.replicate count '\\' :=
    withEmoji_of_free (by simp [List.mem_replicate])
  have shown : isHidden '\\' = false := by decide
  rw [shownPlain, kept, noEmoji]
  simp [visible, shown]

/-- Pieces are shown one behind the other. -/
theorem shownAll_append (front rest : List MarkupPiece) :
    shownAll (front ++ rest) = shownAll front ++ shownAll rest :=
  List.flatMap_append

/-- A text between tags is shown on its own. -/
theorem shownAll_plainPiece (chars : List Char) : shownAll (plainPiece chars) = shownPlain chars := by
  cases chars with
  | nil => rfl
  | cons char rest => simp [plainPiece, shownAll, MarkupPiece.shown]

/-- A tag is shown with the backslashes in front of it. -/
theorem shownAll_tagPieces (position count : Nat) (body : List Char) :
    shownAll (tagPieces position count body) = tagShown count body := by
  have slashes : shownAll (if count < 2 then [] else [.plain (List.replicate (count / 2) '\\')]) =
      List.replicate (count / 2) '\\' := by
    split
    case isTrue few =>
      rw [Nat.div_eq_of_lt few]
      rfl
    case isFalse => simp [shownAll, MarkupPiece.shown, shownPlain_slashes]
  rw [tagPieces, shownAll_append, slashes, tagShown]
  split <;> simp [shownAll, MarkupPiece.shown]

/-- Where a text begins does not change what is shown of it. -/
theorem shownAll_piecesFrom (position other passed : Nat) (before chars : List Char) :
    shownAll (piecesFrom position passed before chars) =
      shownAll (piecesFrom other passed before chars) := by
  induction chars generalizing position other passed before with
  | nil => rfl
  | cons char rest inductionHypothesis =>
      cases passed with
      | succ passed => exact inductionHypothesis _ _ passed before
      | zero =>
          rw [piecesFrom, piecesFrom]
          cases tagHere? (char :: rest) with
          | none => exact inductionHypothesis _ _ 0 (char :: before)
          | some tag =>
              simp only [shownAll_append, shownAll_tagPieces]
              rw [inductionHypothesis]

/-- All that can be shown of pieces is shown of each of them. -/
theorem chars_eq_shownAll {pieces : List MarkupPiece} {count : Nat} {opened : List OpenTag}
    {chars : List Char} {spans : List Span}
    (known : shownPieces count opened pieces = .ok (chars, spans)) : chars = shownAll pieces := by
  induction pieces generalizing count opened chars spans with
  | nil =>
      cases known
      rfl
  | cons piece rest inductionHypothesis =>
      cases piece with
      | plain given =>
          rw [shownPieces] at known
          dsimp only [bind, Except.bind] at known
          split at known
          · cases known
          · rename_i behind
            cases known
            exact congrArg (shownPlain given ++ ·) (inductionHypothesis behind)
      | tag position body =>
          rw [shownPieces] at known
          dsimp only [bind, Except.bind] at known
          split at known
          · cases known
          · split at known
            · cases known
            · rename_i behind
              cases known
              exact inductionHypothesis behind

/-- A text that can be shown is shown as its display. -/
theorem display_of_plain {text shown : String} (known : plain text = .ok shown) :
    shown.toList = display text.toList := by
  rw [plain] at known
  dsimp only [bind, Except.bind] at known
  split at known
  · cases known
  · rename_i parts behind
    split at known
    · cases known
    · cases known
      rw [String.toList_ofList]
      exact chars_eq_shownAll behind

/-! Texts in parts. -/

/-- A text without tags is one piece. -/
theorem display_of_hasNoTag {text : List Char} (noTag : HasNoTag text) :
    display text = shownPlain text := by
  rw [display, piecesFrom_of_hasNoTag 0 [] noTag]
  exact shownAll_plainPiece text

/-- Nothing is shown of nothing. -/
theorem display_nil : display [] = [] := rfl

/-- The visible characters of two parts stand one behind the other. -/
theorem visible_append (front rest : List Char) : visible (front ++ rest) = visible front ++ visible rest :=
  List.filter_append _ _

/-- What is shown of a text in front of a tag does not depend on what stands behind it. -/
theorem display_append {text body rest : List Char} (ends : text.getLast? ≠ some '\\') (count : Nat)
    (isTag : tagBody? (body ++ ']' :: rest) = some body) :
    display (text ++ (List.replicate count '\\' ++ '[' :: (body ++ ']' :: rest))) =
      display text ++ (tagShown count body ++ display rest) := by
  obtain ⟨place, next, cut⟩ :=
    exists_piecesFrom_append count isTag 0 0 [] (Nat.zero_le _) ends
  rw [display, cut, shownAll_append, shownAll_append, shownAll_tagPieces,
    shownAll_piecesFrom next 0]
  rfl

/-! Characters that stay characters. -/

/-- A text between tags is shown as characters. -/
theorem arePlain_shownPlain {chars : List Char} (plain : ArePlain chars) :
    ArePlain (shownPlain chars) :=
  arePlain_visible (arePlain_withEmoji (arePlain_dropBracketSlashes plain))

/-- So is a text with tags, by induction on them. -/
theorem arePlain_display {chars : List Char} (plain : ArePlain chars) :
    ArePlain (display chars) := by
  induction isTagged chars with
  | free noTag =>
      rw [display_of_hasNoTag noTag]
      exact arePlain_shownPlain plain
  | @tag text body rest count noTag ends isTag tagged inductionHypothesis =>
      rw [← List.append_assoc] at plain
      obtain ⟨front, plain⟩ := plain.of_append_cons (by decide)
      obtain ⟨plainBody, plain⟩ := (plain.tail (by decide)).of_append_cons (by decide)
      have plainText := (front.of_append fun _ => by
        cases count with
        | zero => simp
        | succ count => exact fun same => absurd (Option.some.inj same) (by decide)).1
      have slashes : ArePlain (List.replicate (count / 2) '\\') := by
        refine .of_free fun member => ?_
        exact absurd (List.eq_of_mem_replicate member) (by decide)
      have whole : ArePlain ('[' :: body ++ [']']) :=
        .cons (by decide) (plainBody.append (.cons (by decide) .nil))
      rw [display_append ends count isTag, display_of_hasNoTag noTag, tagShown]
      refine (arePlain_shownPlain plainText).append (.append (slashes.append ?_)
        (inductionHypothesis (plain.tail (by decide))))
      split
      · exact arePlain_shownPlain whole
      · exact .nil

/-! Emoji. -/

/-- An emoji is written without the colons that separate the names in the list. -/
theorem not_mem_emoji? {name emoji : String} (found : emoji? name = some emoji) :
    ':' ∉ emoji.toList := by
  have behind {pieces : List String} (found : behindName? name pieces = some emoji) :
      emoji ∈ pieces := by
    fun_induction behindName? name pieces with
    | case1 => simp_all
    | case2 _ _ _ _ inductionHypothesis =>
        exact List.mem_cons_of_mem _ (List.mem_cons_of_mem _ (inductionHypothesis found))
    | case3 => cases found
  obtain ⟨line, -, found⟩ := List.exists_of_findSome?_eq_some found
  exact Text.not_mem_of_mem_splitAtChar (behind found)

/-- A code that is replaced loses its colons. -/
theorem EmojiCode.shown_cases {code : EmojiCode} {front rest : List Char}
    (form : code.form ⊆ formChars) (length : code.length = front.length) :
    code.shown (front ++ rest) = front ∨ ':' ∉ code.shown (front ++ rest) := by
  unfold EmojiCode.shown
  cases found : emoji? (Text.lower (String.ofList code.name)) with
  | some emoji =>
      refine .inr fun member => ?_
      obtain inside | inside := List.mem_append.1 member
      · obtain same | same := Text.mem_ofChars inside
        · exact not_mem_emoji? found same
        · exact absurd same (by decide)
      · exact absurd (form inside) (by decide)
  | none => exact .inl (by rw [length, List.take_left])

/-- A text stays as it is, or an emoji takes the place of a name between two colons. -/
theorem withEmoji_cases (chars : List Char) :
    withEmoji chars = chars ∨ (withEmoji chars).count ':' < chars.count ':' := by
  match chars with
  | [] => exact .inl rfl
  | char :: rest =>
      cases found : code? (char :: rest) with
      | some code =>
          obtain ⟨front, behind, pieces, length, ends, form, shown⟩ := exists_withEmoji_of_code? found
          have colon : 0 < front.count ':' := List.count_pos_iff.2 (List.mem_of_getLast? ends)
          have shorter : behind.length < rest.length + 1 := by
            have counted := congrArg List.length pieces
            have inhabited := List.length_pos_of_mem (List.mem_of_getLast? ends)
            simp only [List.length_cons, List.length_append] at counted
            omega
          rw [shown, pieces, List.count_append, List.count_append]
          -- The two colons are lost with the name, unless the code stands for itself.
          obtain same | free := @EmojiCode.shown_cases code front behind form length
          · rw [same, List.append_cancel_left_eq]
            exact (withEmoji_cases behind).imp_right fun fewer => by omega
          · rw [List.count_eq_zero.2 free]
            obtain same | fewer := withEmoji_cases behind
            · exact .inr (by rw [same]; omega)
            · exact .inr (by omega)
      | none =>
          have kept : withEmoji (char :: rest) = char :: withEmoji rest := by
            rw [withEmoji, withEmojiFrom, found]
            rfl
          rw [kept, List.cons_inj_right, List.count_cons, List.count_cons]
          exact (withEmoji_cases rest).imp_right fun fewer => by omega
  termination_by chars.length

/-- What is shown of a text: a part of it, or a text with fewer colons. -/
def IsPart (shown chars : List Char) : Prop :=
  shown.Sublist chars ∨ shown.count ':' < chars.count ':'

namespace IsPart

variable {shown chars : List Char}

/-- No colon is added. -/
theorem count_le (part : IsPart shown chars) : shown.count ':' ≤ chars.count ':' :=
  part.elim (fun sublist => sublist.count_le ':') Nat.le_of_lt

/-- With all its colons it is a part. -/
theorem sublist (part : IsPart shown chars) (colons : chars.count ':' ≤ shown.count ':') :
    shown.Sublist chars :=
  part.resolve_right (Nat.not_lt.2 colons)

/-- Parts of two texts are a part of both. -/
theorem append {shownToo others : List Char} (part : IsPart shown chars)
    (partToo : IsPart shownToo others) : IsPart (shown ++ shownToo) (chars ++ others) := by
  have colons := part.count_le
  have colonsToo := partToo.count_le
  rw [IsPart, List.count_append, List.count_append]
  obtain sublist | fewer := part
  · obtain sublistToo | fewer := partToo
    · exact .inl (sublist.append sublistToo)
    · exact .inr (by omega)
  · exact .inr (by omega)

/-- A part of a part is a part. -/
theorem trans_sublist {more : List Char} (part : IsPart shown chars) (sublist : chars.Sublist more) :
    IsPart shown more :=
  part.imp (fun known => known.trans sublist) fun fewer => fewer.trans_le (sublist.count_le ':')

end IsPart

/-- Only backslashes are dropped. -/
theorem dropBracketSlashes_sublist (chars : List Char) :
    (dropBracketSlashes chars).Sublist chars := by
  induction chars with
  | nil => exact .slnil
  | cons char rest inductionHypothesis =>
      rw [dropBracketSlashes]
      split
      · exact inductionHypothesis.cons char
      · exact inductionHypothesis.cons_cons char

/-- What is shown between tags is a part of the text there. -/
theorem isPart_shownPlain (chars : List Char) : IsPart (shownPlain chars) chars := by
  have named : IsPart (withEmoji (dropBracketSlashes chars)) (dropBracketSlashes chars) :=
    (withEmoji_cases _).imp_left fun same => by rw [same]
  obtain sublist | fewer := named.trans_sublist (dropBracketSlashes_sublist chars)
  · exact .inl (List.filter_sublist.trans sublist)
  · exact .inr ((List.filter_sublist.count_le ':').trans_lt fewer)

/-- A text without colons is shown without emoji. -/
theorem shownPlain_of_free {chars : List Char} (free : ':' ∉ chars) :
    shownPlain chars = visible (dropBracketSlashes chars) := by
  rw [shownPlain, withEmoji_of_free fun member => free ((dropBracketSlashes_sublist chars).subset member)]

/-- A tag keeps half of the backslashes in front of it, and its own text at most. -/
theorem isPart_tagShown (count : Nat) (body : List Char) :
    IsPart (tagShown count body) (List.replicate (count / 2) '\\' ++ ('[' :: body ++ [']'])) := by
  rw [tagShown]
  refine IsPart.append (.inl (List.Sublist.refl _)) ?_
  split
  · exact isPart_shownPlain _
  · exact .inl (List.nil_sublist _)

/-- A screen shows parts of the text only. -/
theorem isPart_display (chars : List Char) : IsPart (display chars) chars := by
  induction isTagged chars with
  | free noTag =>
      rw [display_of_hasNoTag noTag]
      exact isPart_shownPlain _
  | @tag text body rest count noTag ends isTag tagged inductionHypothesis =>
      have fewer : (List.replicate (count / 2) '\\').Sublist (List.replicate count '\\') :=
        (List.replicate_sublist_replicate '\\').2 (Nat.div_le_self count 2)
      have tag := (isPart_tagShown count body).trans_sublist (fewer.append_right _)
      have parts : List.replicate count '\\' ++ '[' :: (body ++ ']' :: rest) =
          (List.replicate count '\\' ++ ('[' :: body ++ [']'])) ++ rest := by simp
      rw [display_append ends count isTag, display_of_hasNoTag noTag, parts]
      exact (isPart_shownPlain text).append (tag.append inductionHypothesis)

end RosettaDaml.Screen
