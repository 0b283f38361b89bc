/-
This file shows which texts come through the markup of a screen without a loss.
-/

import RosettaDaml.Proofs.Screen.Display

namespace RosettaDaml

/-- The characters that are not blank. -/
def Text.solid (chars : List Char) : List Char := chars.filter fun char => !isBlank char

namespace Text

/-- The solid characters of two parts stand one behind the other. -/
theorem solid_append (front rest : List Char) :
    solid (front ++ rest) = solid front ++ solid rest := by
  simp [solid]

/-- A part has a part of the solid characters. -/
theorem solid_sublist {chars others : List Char} (sublist : chars.Sublist others) :
    (solid chars).Sublist (solid others) :=
  sublist.filter _

/-- Backslashes are solid. -/
theorem solid_slashes (count : Nat) :
    solid (List.replicate count '\\') = List.replicate count '\\' := by
  have notBlank : isBlank '\\' = false := by decide
  simp [solid, notBlank]

/-- As many of a character that is not blank. -/
theorem count_solid {char : Char} (notBlank : isBlank char = false) (chars : List Char) :
    (solid chars).count char = chars.count char :=
  List.count_filter (by simp [notBlank])

end Text

namespace Screen

open RosettaDaml.Text (solid solid_append solid_sublist)

/-- A text that a screen shows as it is: without tags, without names of emoji, without backslashes in
front of brackets, and without controls that are not blank. -/
structure IsUnmarked (chars : List Char) : Prop where
  noTag : HasNoTag chars
  noEmoji : withEmoji chars = chars
  noSlash : ¬ ['\\', '['] <:+: chars
  noControl : ∀ char ∈ chars, isHidden char = true → Text.isBlank char = true

/-! Texts without a loss. -/

/-- Without a backslash in front of a bracket nothing is dropped. -/
theorem dropBracketSlashes_eq_self {chars : List Char} (noSlash : ¬ ['\\', '['] <:+: chars) :
    dropBracketSlashes chars = chars := by
  induction chars with
  | nil => rfl
  | cons char rest inductionHypothesis =>
      rw [List.infix_cons_iff, not_or] at noSlash
      rw [dropBracketSlashes, inductionHypothesis noSlash.2, if_neg]
      rw [Bool.and_eq_true, beq_iff_eq, beq_iff_eq]
      rintro ⟨rfl, next⟩
      obtain ⟨behind, rfl⟩ := List.head?_eq_some_iff.1 next
      exact noSlash.1 (by simp)

/-- A backslash that is dropped is lost. -/
theorem not_infix_of_solid {chars : List Char} (kept : solid (dropBracketSlashes chars) = solid chars) :
    ¬ ['\\', '['] <:+: chars := by
  induction chars with
  | nil => simp
  | cons char rest inductionHypothesis =>
      rw [dropBracketSlashes] at kept
      split at kept
      case isTrue dropped =>
        rw [Bool.and_eq_true, beq_iff_eq] at dropped
        have fewer := (solid_sublist (dropBracketSlashes_sublist rest)).length_le
        rw [kept, dropped.1] at fewer
        have lost : solid ('\\' :: rest) = '\\' :: solid rest := rfl
        rw [lost, List.length_cons] at fewer
        exact absurd fewer (Nat.not_succ_le_self _)
      case isFalse other =>
        have keptRest : solid (dropBracketSlashes rest) = solid rest := by
          rw [solid, solid, List.filter_cons, List.filter_cons] at kept
          split at kept
          · exact (List.cons.inj kept).2
          · exact kept
        rw [List.infix_cons_iff, not_or]
        refine ⟨fun begins => other ?_, inductionHypothesis keptRest⟩
        obtain ⟨rfl, behind, rfl⟩ := List.cons_prefix_cons.1 begins
        simp

/-- Controls that are blank are not missed. -/
theorem solid_visible {chars : List Char}
    (noControl : ∀ char ∈ chars, isHidden char = true → Text.isBlank char = true) :
    solid (visible chars) = solid chars := by
  rw [solid, visible, List.filter_filter]
  refine List.filter_congr fun char member => ?_
  cases hidden : isHidden char with
  | false => simp
  | true => simp [noControl char member hidden]

/-- Other controls are. -/
theorem noControl_of_solid {chars : List Char} (kept : solid (visible chars) = solid chars) :
    ∀ char ∈ chars, isHidden char = true → Text.isBlank char = true := by
  intro char member hidden
  by_contra notBlank
  have inside : char ∈ solid chars := List.mem_filter.2 ⟨member, by simpa using notBlank⟩
  rw [← kept] at inside
  have shown := (List.mem_filter.1 (List.mem_filter.1 inside).1).2
  simp [hidden] at shown

/-- A text that keeps its colons names no emoji. -/
theorem withEmoji_of_count {chars : List Char}
    (colons : chars.count ':' ≤ (shownPlain chars).count ':') :
    withEmoji (dropBracketSlashes chars) = dropBracketSlashes chars := by
  have visibly : (shownPlain chars).count ':' ≤ (withEmoji (dropBracketSlashes chars)).count ':' :=
    List.filter_sublist.count_le ':'
  have dropped := (dropBracketSlashes_sublist chars).count_le ':'
  exact (withEmoji_cases _).resolve_right (by omega)

/-- A tag that keeps its colons shows less than there is. -/
theorem length_solid_tagShown {body : List Char} {count : Nat}
    (colons : ('[' :: body ++ [']']).count ':' ≤ (tagShown count body).count ':') :
    (solid (tagShown count body)).length < count + (solid ('[' :: body ++ [']'])).length := by
  have inhabited : 0 < (solid ('[' :: body ++ [']'])).length := by
    have opens : '[' ∈ solid ('[' :: body ++ [']']) := List.mem_filter.2 ⟨by simp, by decide⟩
    exact List.length_pos_of_mem opens
  cases count with
  | zero =>
      rw [tagShown_zero]
      simpa [solid] using inhabited
  | succ count =>
      have part := (isPart_tagShown (count + 1) body).sublist
        (by simpa [List.count_append, List.count_replicate] using colons)
      have most := (solid_sublist part).length_le
      rw [solid_append, Text.solid_slashes, List.length_append, List.length_replicate] at most
      omega

/-- A text that keeps its colons shows less than there is when it has a tag. -/
theorem length_solid_display {text body rest : List Char} {count : Nat} (noTag : HasNoTag text)
    (ends : text.getLast? ≠ some '\\') (isTag : tagBody? (body ++ ']' :: rest) = some body)
    (colons : (text ++ (List.replicate count '\\' ++ '[' :: (body ++ ']' :: rest))).count ':' ≤
      (display (text ++ (List.replicate count '\\' ++ '[' :: (body ++ ']' :: rest)))).count ':') :
    (solid (display (text ++ (List.replicate count '\\' ++ '[' :: (body ++ ']' :: rest))))).length <
      (solid (text ++ (List.replicate count '\\' ++ '[' :: (body ++ ']' :: rest)))).length := by
  have parts : text ++ (List.replicate count '\\' ++ '[' :: (body ++ ']' :: rest)) =
      text ++ (List.replicate count '\\' ++ (('[' :: body ++ [']']) ++ rest)) := by simp
  rw [display_append ends count isTag, display_of_hasNoTag noTag, parts] at colons ⊢
  have noColon : (List.replicate count '\\').count ':' = 0 := by simp [List.count_replicate]
  have noColonToo : (List.replicate (count / 2) '\\').count ':' = 0 := by
    simp [List.count_replicate]
  simp only [List.count_append, noColon] at colons
  -- No part has more colons than there are, so each has them all.
  have first := (isPart_shownPlain text).count_le
  have second := (isPart_tagShown count body).count_le
  have third := (isPart_display rest).count_le
  simp only [List.count_append, noColonToo] at second
  have most := (solid_sublist ((isPart_shownPlain text).sublist (by omega))).length_le
  have less := @length_solid_tagShown body count (by rw [List.count_append]; omega)
  have mostToo := (solid_sublist ((isPart_display rest).sublist (by omega))).length_le
  simp only [solid_append, Text.solid_slashes, List.length_append,
    List.length_replicate] at less ⊢
  omega

namespace IsUnmarked

variable {chars : List Char}

/-- An unmarked text is shown as its visible characters. -/
theorem display_eq (unmarked : IsUnmarked chars) : display chars = visible chars := by
  rw [display_of_hasNoTag unmarked.noTag, shownPlain, dropBracketSlashes_eq_self unmarked.noSlash,
    unmarked.noEmoji]

/-- Texts with a tag, an emoji, a backslash in front of a bracket or a control lose something of
theirs. -/
theorem of_solid (kept : (solid chars).Sublist (solid (display chars))) : IsUnmarked chars := by
  have colons := kept.count_le ':'
  rw [Text.count_solid (by decide), Text.count_solid (by decide)] at colons
  cases isTagged chars with
  | free noTag =>
      rw [display_of_hasNoTag noTag] at kept colons
      have noEmoji := withEmoji_of_count colons
      rw [shownPlain, noEmoji] at kept
      have shown : (visible (dropBracketSlashes chars)).Sublist (dropBracketSlashes chars) :=
        List.filter_sublist
      have dropped := dropBracketSlashes_sublist chars
      have noSlash := not_infix_of_solid
        ((solid_sublist dropped).antisymm (kept.trans (solid_sublist shown)))
      rw [dropBracketSlashes_eq_self noSlash] at kept shown noEmoji
      exact ⟨noTag, noEmoji, noSlash, noControl_of_solid ((solid_sublist shown).antisymm kept)⟩
  | @tag text body rest count noTag ends isTag =>
      exact absurd kept.length_le (Nat.not_le_of_lt (length_solid_display noTag ends isTag colons))

end IsUnmarked

/-! Texts in front of a closing tag. -/

/-- A text that a screen shows as it is in front of a tag: no backslash at its end reaches the tag. -/
structure StaysInside (chars : List Char) : Prop where
  unmarked : IsUnmarked chars
  ends : chars.getLast? ≠ some '\\'

/-- Only such a text keeps all it has in front of a closing tag. -/
theorem staysInside_iff {inner style : List Char} (noColon : ':' ∉ style) (free : '\\' ∉ style)
    (isTag : tagBody? ('/' :: style ++ [']']) = some ('/' :: style)) :
    StaysInside inner ↔
      (solid inner).Sublist (solid (display (inner ++ '[' :: ('/' :: style ++ [']'])))) := by
  obtain ⟨front, count, rfl, ends⟩ := exists_slashes inner
  have cut : display (front ++ List.replicate count '\\' ++ '[' :: ('/' :: style ++ [']'])) =
      display front ++ tagShown count ('/' :: style) := by
    have shown := display_append ends count isTag
    rwa [← List.append_assoc, display_nil, List.append_nil] at shown
  have noColons : ('[' :: ('/' :: style) ++ [']']).count ':' = 0 := by
    simp [List.count_eq_zero, noColon]
  have few := (isPart_tagShown count ('/' :: style)).sublist
    (by rw [List.count_append, noColons]; simp [List.count_replicate])
  rw [cut]
  constructor
  · rintro ⟨unmarked, endsToo⟩
    obtain rfl : count = 0 := by
      cases count with
      | zero => rfl
      | succ count =>
          rw [List.replicate_succ', ← List.append_assoc, List.getLast?_concat] at endsToo
          exact absurd rfl endsToo
    rw [List.replicate_zero, List.append_nil] at unmarked ⊢
    rw [unmarked.display_eq, solid_append, solid_visible unmarked.noControl]
    exact List.sublist_append_left _ _
  · intro kept
    have whole : (display front).Sublist front := by
      have colons := kept.count_le ':'
      have colonsTag := few.count_le ':'
      rw [Text.count_solid (by decide), Text.count_solid (by decide), List.count_append,
        List.count_append] at colons
      rw [List.count_append, noColons] at colonsTag
      simp only [List.count_replicate, Char.reduceBEq, Bool.false_eq_true, if_false] at colonsTag
      exact (isPart_display front).sublist (by omega)
    -- Half of the backslashes in front of the closing tag are lost.
    obtain rfl : count = 0 := by
      have slashes := kept.count_le '\\'
      have slashesFront := whole.count_le '\\'
      have slashesTag := few.count_le '\\'
      have none : ('[' :: ('/' :: style) ++ [']']).count '\\' = 0 := by
        simp [List.count_eq_zero, free]
      rw [Text.count_solid (by decide), Text.count_solid (by decide), List.count_append,
        List.count_append, List.count_replicate_self] at slashes
      rw [List.count_append, List.count_replicate_self, none] at slashesTag
      omega
    rw [tagShown_zero] at kept
    rw [List.replicate_zero, List.append_nil] at kept ⊢
    rw [List.append_nil] at kept
    exact ⟨.of_solid kept, ends⟩

/-! Texts around others. -/

/-- Whether a character can change what is shown of the text around it. -/
def isActive (char : Char) : Bool :=
  ['[', '\\', ':'].contains char || (isHidden char && !Text.isBlank char)

/-- An inert character is no bracket, no backslash, no colon and no control. -/
theorem isActive_eq_false_iff {char : Char} :
    isActive char = false ↔ (char ≠ '[' ∧ char ≠ '\\' ∧ char ≠ ':') ∧
      (isHidden char = true → Text.isBlank char = true) := by
  simp [isActive, and_assoc]

/-- Whether all characters are inert can be computed. -/
theorem inert_of_all {chars : List Char} (all : chars.all (!isActive ·) = true) :
    ∀ char ∈ chars, isActive char = false := by
  simpa using all

/-- Such a character in front of a text changes nothing. -/
theorem isUnmarked_cons {char : Char} {chars : List Char} (inert : isActive char = false) :
    IsUnmarked (char :: chars) ↔ IsUnmarked chars := by
  obtain ⟨⟨notBracket, notSlash, notColon⟩, noControl⟩ := isActive_eq_false_iff.1 inert
  have noTag : HasNoTag (char :: chars) ↔ HasNoTag chars := by
    rw [hasNoTag_cons, tagHere?_cons notSlash, if_neg notBracket]
    simp
  have noSlash : ['\\', '['] <:+: char :: chars ↔ ['\\', '['] <:+: chars := by
    simp [List.infix_cons_iff, List.cons_prefix_cons, notSlash.symm]
  have noEmoji : withEmoji (char :: chars) = char :: chars ↔ withEmoji chars = chars := by
    rw [withEmoji_cons notColon, List.cons_inj_right]
  constructor
  · rintro ⟨noTags, noNames, noSlashes, noControls⟩
    exact ⟨noTag.1 noTags, noEmoji.1 noNames, fun inside => noSlashes (noSlash.2 inside),
      (List.forall_mem_cons.1 noControls).2⟩
  · rintro ⟨noTags, noNames, noSlashes, noControls⟩
    exact ⟨noTag.2 noTags, noEmoji.2 noNames, fun inside => noSlashes (noSlash.1 inside),
      List.forall_mem_cons.2 ⟨noControl, noControls⟩⟩

section Inert

variable {front chars : List Char} (inert : ∀ char ∈ front, isActive char = false)

include inert

/-- Inert characters in front of a text change nothing, by induction on them. -/
theorem isUnmarked_append : IsUnmarked (front ++ chars) ↔ IsUnmarked chars := by
  induction front with
  | nil => rfl
  | cons char front inductionHypothesis =>
      obtain ⟨here, behind⟩ := List.forall_mem_cons.1 inert
      rw [List.cons_append, isUnmarked_cons here, inductionHypothesis behind]

/-- They do not end with a backslash. -/
theorem getLast?_ne_of_inert : front.getLast? ≠ some '\\' :=
  fun last => absurd (inert _ (List.mem_of_getLast? last)) (by decide)

/-- Nor do they decide whether a text stays inside its style. -/
theorem staysInside_append : StaysInside (front ++ chars) ↔ StaysInside chars := by
  have ends : (front ++ chars).getLast? = some '\\' ↔ chars.getLast? = some '\\' := by
    rw [List.getLast?_append]
    cases chars.getLast? with
    | none => simpa using getLast?_ne_of_inert inert
    | some last => simp
  constructor
  · rintro ⟨unmarked, notSlash⟩
    exact ⟨(isUnmarked_append inert).1 unmarked, fun last => notSlash (ends.2 last)⟩
  · rintro ⟨unmarked, notSlash⟩
    exact ⟨(isUnmarked_append inert).2 unmarked, fun last => notSlash (ends.1 last)⟩

/-- A text of inert characters is unmarked. -/
theorem isUnmarked_of_inert : IsUnmarked front := by
  rw [← List.append_nil front, isUnmarked_append inert]
  exact ⟨by decide, rfl, by simp, by simp⟩

/-- So it is shown as its visible characters. -/
theorem display_of_inert : display front = visible front :=
  (isUnmarked_of_inert inert).display_eq

end Inert

/-! Codes in brackets. -/

section Code

variable {code : List Char} (inert : ∀ char ∈ code, isActive char = false) (free : ']' ∉ code)

include inert free

/-- A code in brackets behind a backslash is shown in its brackets, which are a tag or not. -/
theorem exists_piecesFrom_coded (position : Nat) :
    ∃ kept, piecesFrom position 0 [] ('\\' :: '[' :: (code ++ [']'])) = plainPiece kept ∧
      shownPlain kept = visible ('[' :: (code ++ [']'])) := by
  have inertToo : ∀ char ∈ code ++ [']'], isActive char = false :=
    List.forall_mem_append.2 ⟨inert, List.forall_mem_singleton.2 (by decide)⟩
  have unmarked := isUnmarked_of_inert inertToo
  have bare : dropBracketSlashes ('[' :: (code ++ [']'])) = '[' :: (code ++ [']']) := by
    rw [dropBracketSlashes_cons (by decide), dropBracketSlashes_eq_self unmarked.noSlash]
  have noColon : ':' ∉ '\\' :: '[' :: (code ++ [']']) := by
    simp only [List.mem_cons, not_or]
    exact ⟨by decide, by decide, fun member => absurd (inertToo ':' member) (by decide)⟩
  -- The backslash is dropped either way: in front of a bracket, or in front of a tag that it keeps.
  cases found : tagBody? (code ++ [']']) with
  | none =>
      have noTag : HasNoTag ('\\' :: '[' :: (code ++ [']'])) := by
        refine hasNoTag_cons.2 ⟨?_, hasNoTag_cons.2 ⟨?_, unmarked.noTag⟩⟩
        · rw [tagHere?_slash, tagHere?_cons (by decide), if_pos rfl, found]
          rfl
        · rw [tagHere?_cons (by decide), if_pos rfl, found]
          rfl
      refine ⟨_, piecesFrom_of_hasNoTag position [] noTag, ?_⟩
      rw [List.reverse_nil, List.nil_append, shownPlain_of_free noColon]
      change visible (dropBracketSlashes ('[' :: (code ++ [']']))) = _
      rw [bare]
  | some body =>
      obtain ⟨rest, whole, -, noClose⟩ := exists_tagBody? found
      have passes {chars : List Char} (absent : ']' ∉ chars) :
          ∀ char ∈ chars, (char != ']') = true :=
        fun char member => bne_iff_ne.2 fun closes => absent (closes ▸ member)
      obtain ⟨rfl, same⟩ :=
        Text.append_inj_of_forall (passes free) (passes noClose) (by simp) (by simp) whole
      cases same
      obtain ⟨next, cut⟩ := exists_piecesFrom_tag 1 found position []
      refine ⟨'[' :: (code ++ [']']), cut, ?_⟩
      rw [shownPlain_of_free fun member => noColon (List.mem_cons_of_mem _ member), bare]

end Code

end Screen

end RosettaDaml
