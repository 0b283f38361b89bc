/-
This file shows that texts whose tags open and close styles in pairs are always shown.
-/

import Mathlib.Data.List.Induction
import Mathlib.Data.List.TakeDrop
import Mathlib.Data.List.TakeWhile
import RosettaDaml.Proofs.Screen.Pieces
import RosettaDaml.Proofs.Text.Plain

namespace RosettaDaml.Screen

open RosettaDaml.Text (ArePlain IsPlain)

/-! Emoji, hidden characters and backslashes. -/

/-- Characters stay characters when some are hidden. -/
theorem arePlain_visible {chars : List Char} (plain : ArePlain chars) : ArePlain (visible chars) :=
  plain.filter (by decide) (by decide)

/-- And when backslashes in front of brackets are dropped. -/
theorem arePlain_dropBracketSlashes {chars : List Char} (plain : ArePlain chars) :
    ArePlain (dropBracketSlashes chars) := by
  induction plain with
  | nil => exact .nil
  | @cons char rest other _ inductionHypothesis =>
      rw [dropBracketSlashes]
      split
      · exact inductionHypothesis
      · exact .cons other inductionHypothesis
  | @mark rest _ inductionHypothesis =>
      have notSlash : (Text.halfMark == '\\') = false := by decide
      have notSlashToo : (Text.markPartner == '\\') = false := by decide
      rw [dropBracketSlashes, dropBracketSlashes, notSlash, notSlashToo]
      exact .mark inductionHypothesis

/-- The characters that ask for a form of an emoji. -/
def formChars : List Char := emojiForms.map Prod.snd

/-- A code ends with its second colon. -/
theorem exists_colon_of_codeFrom? {name chars : List Char} {code : EmojiCode}
    (found : codeFrom? name chars = some code) :
    code.form ⊆ formChars ∧ ∃ front rest, chars = front ++ ':' :: rest ∧
      code.length = name.length + front.length + 2 := by
  induction chars generalizing name with
  | nil => cases found
  | cons char chars inductionHypothesis =>
      rw [codeFrom?] at found
      split at found
      case h_1 ending form known =>
        cases found
        have listed := List.mem_of_find?_eq_some known
        have begins := List.find?_some known
        obtain ⟨rest, same⟩ := List.isPrefixOf_iff_prefix.1 begins
        simp only [emojiForms, List.mem_cons, Prod.mk.injEq, List.not_mem_nil, or_false] at listed
        -- Only the endings that choose a form are longer than the colon.
        rcases listed with ⟨rfl, rfl⟩ | ⟨rfl, rfl⟩
        · have length : "-emoji:".length = 7 := rfl
          refine ⟨(by decide : ['\ufe0f'] ⊆ formChars), "-emoji".toList, rest, same.symm, ?_⟩
          simp only [length, String.length_toList]
          exact (by omega : 1 + name.length + 7 = name.length + 6 + 2)
        · have length : "-text:".length = 6 := rfl
          refine ⟨(by decide : ['\ufe0e'] ⊆ formChars), "-text".toList, rest, same.symm, ?_⟩
          simp only [length, String.length_toList]
          exact (by omega : 1 + name.length + 6 = name.length + 5 + 2)
      case h_2 =>
        split at found
        case isTrue colon =>
          cases found
          obtain rfl := beq_iff_eq.1 colon
          exact ⟨List.nil_subset _, [], chars, rfl, rfl⟩
        case isFalse =>
          split at found
          · cases found
          · obtain ⟨form, front, rest, rfl, length⟩ := inductionHypothesis found
            exact ⟨form, char :: front, rest, rfl, by simp at length ⊢; omega⟩

/-- A code has a colon at both ends. -/
theorem exists_colon_of_code? {chars : List Char} {code : EmojiCode}
    (found : code? chars = some code) :
    code.form ⊆ formChars ∧ ∃ front rest, chars = front ++ ':' :: rest ∧
      code.length = front.length + 1 ∧ front ≠ [] := by
  rw [code?.eq_def] at found
  split at found
  case h_1 rest =>
    obtain ⟨form, front, behind, rfl, length⟩ := exists_colon_of_codeFrom? found
    exact ⟨form, ':' :: front, behind, rfl, by simp at length ⊢; omega, List.cons_ne_nil _ _⟩
  case h_2 => cases found

/-- Characters that are passed do not matter. -/
theorem withEmojiFrom_eq_drop (passed : Nat) (chars : List Char) :
    withEmojiFrom passed chars = withEmojiFrom 0 (chars.drop passed) := by
  induction chars generalizing passed with
  | nil => simp [withEmojiFrom]
  | cons char rest inductionHypothesis =>
      cases passed with
      | zero => rfl
      | succ passed => exact inductionHypothesis passed

/-- A text that begins with a code: what is shown of it does not depend on what stands behind it. -/
theorem exists_withEmoji_of_code? {chars : List Char} {code : EmojiCode}
    (found : code? chars = some code) :
    ∃ front behind, chars = front ++ behind ∧ code.length = front.length ∧
      front.getLast? = some ':' ∧ code.form ⊆ formChars ∧
      withEmoji chars = code.shown (front ++ behind) ++ withEmoji behind := by
  obtain ⟨form, front, behind, rfl, length, inhabited⟩ := exists_colon_of_code? found
  obtain ⟨char, front, rfl⟩ := List.exists_cons_of_ne_nil inhabited
  refine ⟨char :: front ++ [':'], behind, by simp, by simp [length], List.getLast?_concat, form, ?_⟩
  have passed : (front ++ ':' :: behind).drop (code.length - 1) = behind := by
    simp [length, List.drop_append]
  rw [withEmoji, List.cons_append, withEmojiFrom, ← List.cons_append, found]
  dsimp only
  rw [withEmojiFrom_eq_drop, passed]
  simp [withEmoji]

/-- A code is shown as characters. -/
theorem arePlain_shown {code : EmojiCode} {front rest : List Char} (form : code.form ⊆ formChars)
    (plain : ArePlain front) (length : code.length = front.length) :
    ArePlain (code.shown (front ++ rest)) := by
  have noMark : Text.halfMark ∉ code.form := fun member => absurd (form member) (by decide)
  unfold EmojiCode.shown
  generalize emoji? (Text.lower (String.ofList code.name)) = emoji
  cases emoji with
  | some emoji => exact (ArePlain.ofChars _).append (.of_free noMark)
  | none =>
      rw [length, List.take_left]
      exact plain

/-- Characters stay characters when emoji take the places of their names. -/
theorem arePlain_withEmoji {chars : List Char} (plain : ArePlain chars) :
    ArePlain (withEmoji chars) := by
  match chars, plain with
  | _, .nil => exact .nil
  | _, @ArePlain.cons char rest other plain =>
      cases found : code? (char :: rest) with
      | some code =>
          obtain ⟨front, behind, pieces, length, ends, form, shown⟩ := exists_withEmoji_of_code? found
          obtain ⟨before, after⟩ := (pieces ▸ ArePlain.cons other plain).of_append
            fun last => absurd (ends.symm.trans last) (by decide)
          have shorter : behind.length < rest.length + 1 := by
            have counted := congrArg List.length pieces
            have inhabited := List.length_pos_of_mem (List.mem_of_getLast? ends)
            simp only [List.length_cons, List.length_append] at counted
            omega
          rw [shown]
          exact (arePlain_shown form before length).append (arePlain_withEmoji after)
      | none =>
          rw [withEmoji, withEmojiFrom, found]
          exact .cons other (arePlain_withEmoji plain)
  | _, @ArePlain.mark rest plain =>
      have noCode : code? (Text.halfMark :: Text.markPartner :: rest) = none := rfl
      have noCodeToo : code? (Text.markPartner :: rest) = none := rfl
      rw [withEmoji, withEmojiFrom, withEmojiFrom, noCode, noCodeToo]
      exact .mark (arePlain_withEmoji plain)
  termination_by chars.length

/-! Pieces. -/

/-- Whether no bracket in a text begins a tag; one at the end or in front of a backslash could, as
far as this goes. -/
def isTagless : List Char → Bool
  | [] => true
  | char :: rest =>
      (char != '[' || rest.head?.any fun next => !startsTag next && next != '\\') && isTagless rest

/-- Without a bracket there is no tag. -/
theorem isTagless_of_free {chars : List Char} (free : '[' ∉ chars) : isTagless chars = true := by
  induction chars with
  | nil => rfl
  | cons char rest inductionHypothesis =>
      rw [List.mem_cons, not_or] at free
      simp [isTagless, Ne.symm free.1, inductionHypothesis free.2]

/-- A part at the end has no more tags. -/
theorem isTagless_tail {char : Char} {rest : List Char} (tagless : isTagless (char :: rest) = true) :
    isTagless rest = true := by
  rw [isTagless, Bool.and_eq_true] at tagless
  exact tagless.2

/-- The test finds every tag. -/
theorem hasNoTag_of_isTagless {text : List Char} (tagless : isTagless text = true) :
    HasNoTag text := by
  induction text with
  | nil => decide
  | cons char text inductionHypothesis =>
      have behind := inductionHypothesis (isTagless_tail tagless)
      refine hasNoTag_cons.2 ⟨?_, behind⟩
      by_cases slash : char = '\\'
      · rw [slash, tagHere?_slash, behind text (by simp)]
        rfl
      · rw [tagHere?_cons slash]
        split
        case isTrue opens =>
          subst opens
          cases text with
          | nil => rfl
          | cons next text =>
              have starts : startsTag next = false := by
                simp only [isTagless, bne_self_eq_false, List.head?_cons, Option.any_some,
                  Bool.false_or, Bool.and_eq_true, Bool.not_eq_true'] at tagless
                exact tagless.1.1
              simp [tagBody?, starts]
        case isFalse => rfl

/-! Styles. -/

/-- Whether a style can be looked up. -/
def isKnownStyle (style : List Char) : Bool := (knownStyle style).toOption.isSome

/-- Whether a style has a name that can be looked up again and asks for no action. -/
def hasStyleName (style : List Char) : Bool :=
  (knownStyle style).toOption.any fun name =>
    isKnownStyle name.toList && name.toList.head? != some '@'

/-- Whether a style can stand between brackets. -/
def isStyle (style : List Char) : Bool :=
  hasStyleName style && style.head?.any (fun char => startsTag char && char != '/') &&
    style.all (fun char => char != '[' && char != ']' && char != '=') &&
    !(Text.trim (String.ofList style)).isEmpty

/-- What is known of a style that can stand between brackets. -/
structure StyleFacts (style : List Char) (name : String) : Prop where
  known : knownStyle style = .ok name
  knownAgain : isKnownStyle name.toList = true
  noAction : name.toList.head? ≠ some '@'
  starts : style.head?.any startsTag = true
  opens : style.head? ≠ some '/'
  inside : ∀ char ∈ style, char ≠ '[' ∧ char ≠ ']' ∧ char ≠ '='
  inhabited : (Text.trim (String.ofList style)).isEmpty = false

/-- A good style has a name, and none of the characters that end a tag. -/
theorem exists_styleFacts {style : List Char} (good : isStyle style = true) :
    ∃ name, StyleFacts style name := by
  simp only [isStyle, hasStyleName, Bool.and_eq_true, Option.any_eq_true, Bool.not_eq_true',
    bne_iff_ne, List.all_eq_true] at good
  obtain ⟨⟨⟨⟨name, found, again, noAction⟩, ⟨first, begins, starts, opens⟩⟩, inside⟩, inhabited⟩ := good
  have known : knownStyle style = .ok name := by
    cases looked : knownStyle style with
    | error fault => simp [looked, Except.toOption] at found
    | ok name => simpa [looked, Except.toOption] using found
  refine ⟨name, known, again, noAction, ?_, ?_, ?_, inhabited⟩
  · simp [begins, starts]
  · simpa [begins] using opens
  · intro char member
    exact ⟨(inside char member).1.1, (inside char member).1.2, (inside char member).2⟩

/-- A body without brackets is found up to the first one. -/
theorem upToBracket?_append {body : List Char}
    (inside : ∀ char ∈ body, char ≠ '[' ∧ char ≠ ']' ∧ char ≠ '=') (rest : List Char) :
    upToBracket? (body ++ ']' :: rest) = some body := by
  induction body with
  | nil => rfl
  | cons char body inductionHypothesis =>
      obtain ⟨⟨opens, closes, -⟩, behind⟩ := List.forall_mem_cons.1 inside
      simp [upToBracket?, opens, closes, inductionHypothesis behind]

/-- A body without an equals sign is a name without a parameter. -/
theorem splitTag_of_inside {body : List Char}
    (inside : ∀ char ∈ body, char ≠ '[' ∧ char ≠ ']' ∧ char ≠ '=') :
    splitTag body = (body, none) := by
  have all : body.takeWhile (· != '=') = body :=
    List.takeWhile_eq_self_iff.2 fun char member => by simpa using (inside char member).2.2
  have rest : body.dropWhile (· != '=') = [] :=
    List.dropWhile_eq_nil_iff.2 fun char member => by simpa using (inside char member).2.2
  simp [splitTag, List.span_eq_takeWhile_dropWhile, all, rest]

namespace StyleFacts

variable {style : List Char} {name : String} (facts : StyleFacts style name)

include facts

/-- The tag that opens a style has the style as its body. -/
theorem tagBody?_open (rest : List Char) : tagBody? (style ++ ']' :: rest) = some style := by
  obtain ⟨first, behind, rfl⟩ : ∃ first behind, style = first :: behind := by
    cases style with
    | nil => exact absurd facts.starts (by simp)
    | cons first behind => exact ⟨first, behind, rfl⟩
  have starts : startsTag first = true := by simpa using facts.starts
  have inside := (List.forall_mem_cons.1 facts.inside).2
  simp [tagBody?, starts, upToBracket?_append inside]

/-- The tag that closes it has a slash in front of that. -/
theorem tagBody?_close (rest : List Char) :
    tagBody? ('/' :: style ++ ']' :: rest) = some ('/' :: style) := by
  have starts : startsTag '/' = true := by decide
  simp [tagBody?, starts, upToBracket?_append facts.inside]

/-- A tag that opens a style is put on the others. -/
theorem openTags_open (position count : Nat) (opened : List OpenTag) :
    openTags position count style opened = .ok (⟨name, none, count⟩ :: opened, []) := by
  rw [openTags.eq_def, splitTag_of_inside facts.inside]
  split
  case h_1 rest _ same =>
    cases same
    exact absurd rfl facts.opens
  case h_2 same =>
    cases same
    rw [facts.known]
    rfl

/-- It is closed where its text ends. -/
theorem close (stop start : Nat) :
    OpenTag.close stop ⟨name, none, start⟩ = .ok [⟨start, stop, name.toList⟩] := by
  rw [OpenTag.close.eq_def]
  split
  case h_1 asks _ => exact absurd (congrArg List.head? asks) facts.noAction
  case h_2 asks _ => exact absurd (congrArg List.head? asks) facts.noAction
  case h_3 => simp [OpenTag.spanTo, OpenTag.style]

/-- The tag that closes a style takes the last one that was opened. -/
theorem openTags_close (position count start : Nat) (opened : List OpenTag) :
    openTags position count ('/' :: style) (⟨name, none, start⟩ :: opened) =
      .ok (opened, [⟨start, count, name.toList⟩]) := by
  have inside : ∀ char ∈ '/' :: style, char ≠ '[' ∧ char ≠ ']' ∧ char ≠ '=' :=
    List.forall_mem_cons.2 ⟨by decide, facts.inside⟩
  rw [openTags, splitTag_of_inside inside]
  have taken : takeNamed? name (⟨name, none, start⟩ :: opened) = some (⟨name, none, start⟩, opened) := by
    rw [takeNamed?, if_pos (by simp)]
  simp only [facts.inhabited, Bool.false_eq_true, if_false, facts.known, bind, Except.bind, taken,
    facts.close]
  rfl

end StyleFacts

/-! What is shown. -/

/-- Pieces behind some open tags are shown in known styles, and as characters if they are such. -/
def ShowsFrom (wholly : Prop) (opened : List OpenTag) (pieces : List MarkupPiece) : Prop :=
  ∀ count, ∃ chars spans, shownPieces count opened pieces = .ok (chars, spans) ∧
    (∀ span ∈ spans, isKnownStyle span.style = true) ∧ (wholly → ArePlain chars)

/-- Pieces that are shown whichever tags are open. -/
def Shows (wholly : Prop) (pieces : List MarkupPiece) : Prop :=
  ∀ opened : List OpenTag, (∀ tag ∈ opened, isKnownStyle tag.style = true) →
    ShowsFrom wholly opened pieces

namespace ShowsFrom

variable {wholly : Prop} {opened : List OpenTag} {pieces : List MarkupPiece} {text : List Char}

/-- A text between tags can always be shown. -/
theorem plain (shown : ShowsFrom wholly opened pieces) (plain : wholly → ArePlain text) :
    ShowsFrom wholly opened (.plain text :: pieces) := by
  intro count
  let chars := visible (withEmoji (dropBracketSlashes text))
  obtain ⟨more, spans, known, styles, wholeMore⟩ := shown (count + chars.length)
  refine ⟨chars ++ more, spans, ?_, styles, fun whole => ?_⟩
  · simp only [shownPieces, known, chars]
    rfl
  · have shownPlain := arePlain_visible (arePlain_withEmoji (arePlain_dropBracketSlashes (plain whole)))
    exact shownPlain.append (wholeMore whole)

/-- So can an empty one. -/
theorem plainPiece (shown : ShowsFrom wholly opened pieces) (plain : wholly → ArePlain text) :
    ShowsFrom wholly opened (plainPiece text ++ pieces) := by
  rw [Screen.plainPiece]
  split
  · exact shown
  · exact shown.plain plain

/-- A tag that can be opened or closed shows nothing itself. -/
theorem tag {count position : Nat} {body : List Char} {openedToo : List OpenTag}
    {closed : List Span} (shown : ShowsFrom wholly openedToo pieces)
    (opens : openTags position count body opened = .ok (openedToo, closed))
    (styles : ∀ span ∈ closed, isKnownStyle span.style = true) :
    ∃ chars spans, shownPieces count opened (.tag position body :: pieces) = .ok (chars, spans) ∧
      (∀ span ∈ spans, isKnownStyle span.style = true) ∧ (wholly → ArePlain chars) := by
  obtain ⟨chars, spans, known, stylesToo, wholeChars⟩ := shown count
  refine ⟨chars, closed ++ spans, ?_, List.forall_mem_append.2 ⟨styles, stylesToo⟩, wholeChars⟩
  simp only [shownPieces, opens, bind, Except.bind, known]
  rfl

end ShowsFrom

/-- There is nothing to show in nothing. -/
theorem Shows.nil (wholly : Prop) : Shows wholly [] := by
  intro opened settled count
  refine ⟨[], opened.map (OpenTag.spanTo count), rfl, ?_, fun _ => .nil⟩
  intro span member
  obtain ⟨tag, inside, rfl⟩ := List.mem_map.1 member
  exact settled tag inside

/-- A text in front of others can always be shown. -/
theorem Shows.plainPiece {wholly : Prop} {pieces : List MarkupPiece} {text : List Char}
    (shown : Shows wholly pieces) (plain : wholly → ArePlain text) :
    Shows wholly (Screen.plainPiece text ++ pieces) :=
  fun opened settled => (shown opened settled).plainPiece plain

/-- A style that is opened and closed again is shown, also when backslashes in front of the closing
tag keep it as text. -/
theorem Shows.styled {wholly : Prop} {pieces : List MarkupPiece} {style inner : List Char}
    (shown : Shows wholly pieces) (good : isStyle style = true) (plain : wholly → ArePlain inner)
    (plainStyle : wholly → ArePlain style) (position place count : Nat) :
    Shows wholly (.tag position style ::
      (Screen.plainPiece inner ++ (tagPieces place count ('/' :: style) ++ pieces))) := by
  obtain ⟨name, facts⟩ := exists_styleFacts good
  intro opened settled length
  have settledToo (start : Nat) :
      ∀ tag ∈ (⟨name, none, start⟩ : OpenTag) :: opened, isKnownStyle tag.style = true := by
    refine List.forall_mem_cons.2 ⟨?_, settled⟩
    simpa [OpenTag.style] using facts.knownAgain
  have closing : ShowsFrom wholly (⟨name, none, length⟩ :: opened)
      (tagPieces place count ('/' :: style) ++ pieces) := by
    -- An odd number of backslashes turns the closing tag into text; then the style stays open.
    have last : ShowsFrom wholly (⟨name, none, length⟩ :: opened)
        ((if count % 2 = 1 then MarkupPiece.plain ('[' :: '/' :: style ++ [']'])
          else .tag (place + count / 2 * 2) ('/' :: style)) :: pieces) := by
      split
      · refine (shown _ (settledToo length)).plain fun whole => ?_
        refine .cons (by decide) (.cons (by decide) ((plainStyle whole).append (.of_free ?_)))
        decide
      · intro stop
        refine (shown opened settled).tag (facts.openTags_close _ stop length opened) ?_
        intro span member
        obtain rfl := List.mem_singleton.1 member
        exact facts.knownAgain
    rw [tagPieces, List.append_assoc]
    split
    · exact last
    · refine last.plain fun _ => .of_free ?_
      rw [List.mem_replicate]
      exact fun same => absurd same.2 (by decide)
  exact (closing.plainPiece plain).tag (facts.openTags_open position length opened) (by simp)

/-- Texts with pairs of tags. Backslashes may stand anywhere but in front of a tag that opens. -/
inductive IsStyled : List Char → Prop where
  | bare {text : List Char} (tagless : isTagless text = true) : IsStyled text
  | styled {text style inner rest : List Char} (tagless : isTagless text = true)
      (ends : text.getLast? ≠ some '\\') (good : isStyle style = true)
      (taglessToo : isTagless inner = true) (styledToo : IsStyled rest) :
      IsStyled (text ++ ('[' :: (style ++ ']' ::
        (inner ++ '[' :: ('/' :: style ++ ']' :: rest)))))

/-- A text between the tags of a style, with text around it. -/
theorem IsStyled.behind {front style inner rest : String} (free : '[' ∉ front.toList)
    (ends : front.toList.getLast? ≠ some '\\') (good : isStyle style.toList = true)
    (tagless : isTagless inner.toList = true) (styled : IsStyled rest.toList) :
    IsStyled (front ++ ("[" ++ style ++ "]" ++ inner ++ "[/" ++ style ++ "]" ++ rest)).toList := by
  have whole : (front ++ ("[" ++ style ++ "]" ++ inner ++ "[/" ++ style ++ "]" ++ rest)).toList =
      front.toList ++ ('[' :: (style.toList ++ ']' ::
        (inner.toList ++ '[' :: ('/' :: style.toList ++ ']' :: rest.toList)))) := by
    simp [String.toList_append]
  rw [whole]
  exact .styled (isTagless_of_free free) ends good tagless styled

/-- A text between the tags of a style, in front of a styled text. -/
theorem IsStyled.pair {style inner rest : String} (good : isStyle style.toList = true)
    (tagless : isTagless inner.toList = true) (styled : IsStyled rest.toList) :
    IsStyled ("[" ++ style ++ "]" ++ inner ++ "[/" ++ style ++ "]" ++ rest).toList := by
  have whole := @IsStyled.behind "" style inner rest (by decide) (by decide) good tagless styled
  rwa [String.empty_append] at whole

/-- The tags of a style are characters if the style is. -/
theorem isPlain_pair {style inner rest : String} (plainStyle : IsPlain style)
    (plain : IsPlain inner) (plainRest : IsPlain rest) :
    IsPlain ("[" ++ style ++ "]" ++ inner ++ "[/" ++ style ++ "]" ++ rest) := by
  have bracket : IsPlain "[" ∧ IsPlain "[/" ∧ IsPlain "]" :=
    ⟨.of_free (by decide), .of_free (by decide), .of_free (by decide)⟩
  exact ((((((bracket.1.append plainStyle).append bracket.2.2).append plain).append
    bracket.2.1).append plainStyle).append bracket.2.2).append plainRest

/-- A text is what stands in front of the backslashes at its end, and these. -/
theorem exists_slashes (text : List Char) :
    ∃ front count, text = front ++ List.replicate count '\\' ∧ front.getLast? ≠ some '\\' := by
  induction text using List.reverseRecOn with
  | nil => exact ⟨[], 0, rfl, by simp⟩
  | append_singleton text char inductionHypothesis =>
      by_cases slash : char = '\\'
      · obtain ⟨front, count, rfl, ends⟩ := inductionHypothesis
        refine ⟨front, count + 1, ?_, ends⟩
        rw [slash, List.append_assoc, ← List.replicate_succ']
      · exact ⟨text ++ [char], 0, by simp, by simpa using slash⟩

/-- Without the backslashes at its end a text has no more tags. -/
theorem isTagless_front {front : List Char} {count : Nat}
    (tagless : isTagless (front ++ List.replicate count '\\') = true) : isTagless front = true := by
  induction front with
  | nil => rfl
  | cons char front inductionHypothesis =>
      rw [List.cons_append, isTagless, Bool.and_eq_true] at tagless
      rw [isTagless, inductionHypothesis tagless.2, Bool.and_true]
      cases front with
      | nil =>
          cases count with
          | zero => simpa using tagless.1
          | succ count => simpa [List.replicate_succ] using tagless.1
      | cons next front => exact tagless.1

/-- What is shown under a weaker condition is shown. -/
theorem Shows.mono {wholly more : Prop} {pieces : List MarkupPiece} (shown : Shows more pieces)
    (enough : wholly → more) : Shows wholly pieces := by
  intro opened settled count
  obtain ⟨chars, spans, known, styles, plain⟩ := shown opened settled count
  exact ⟨chars, spans, known, styles, fun whole => plain (enough whole)⟩

/-- The parts of a styled text, without its brackets, are characters when it is. -/
theorem arePlain_of_styled {text style front rest : List Char} {count : Nat}
    (plain : ArePlain (text ++ '[' :: (style ++ ']' :: ((front ++ List.replicate count '\\') ++
      '[' :: ('/' :: style ++ ']' :: rest))))) :
    ArePlain text ∧ ArePlain style ∧ ArePlain front ∧ ArePlain rest := by
  obtain ⟨plainText, plain⟩ := plain.of_append_cons (by decide)
  obtain ⟨plainStyle, plain⟩ := (plain.tail (by decide)).of_append_cons (by decide)
  obtain ⟨plainInner, plain⟩ := (plain.tail (by decide)).of_append_cons (by decide)
  obtain ⟨-, plain⟩ := (plain.tail (by decide)).of_append_cons (by decide)
  refine ⟨plainText, plainStyle, (plainInner.of_append fun _ => ?_).1, plain.tail (by decide)⟩
  cases count with
  | zero => simp
  | succ count => exact fun same => absurd (Option.some.inj same) (by decide)

/-- A text with one style in it is shown if what stands behind is. -/
theorem Shows.between {wholly : Prop} {text style inner rest : List Char} (count : Nat)
    (noTag : HasNoTag text) (ends : text.getLast? ≠ some '\\') (good : isStyle style = true)
    (endsToo : inner.getLast? ≠ some '\\')
    (single : ∀ next, ∃ kept, piecesFrom next 0 [] inner = Screen.plainPiece kept ∧
      (wholly → ArePlain kept))
    (plain : wholly → ArePlain text) (plainStyle : wholly → ArePlain style)
    (shown : ∀ next, Shows wholly (piecesFrom next 0 [] rest)) (position : Nat) :
    Shows wholly (piecesFrom position 0 [] (text ++ ('[' :: (style ++ ']' ::
      (inner ++ (List.replicate count '\\' ++ '[' :: ('/' :: style ++ ']' :: rest))))))) := by
  obtain ⟨name, facts⟩ := exists_styleFacts good
  let behind := inner ++ (List.replicate count '\\' ++ '[' :: ('/' :: style ++ ']' :: rest))
  -- The whole text is cut in front of each bracket, and the closing one has its backslashes.
  obtain ⟨place, next, opens⟩ := exists_piecesFrom_append 0 (facts.tagBody?_open behind) position
    0 [] (Nat.zero_le _) ends
  obtain ⟨placeToo, nextToo, closes⟩ := exists_piecesFrom_append count
    (facts.tagBody?_close rest) next 0 [] (Nat.zero_le _) endsToo
  obtain ⟨kept, same, plainKept⟩ := single next
  rw [same] at closes
  rw [piecesFrom_of_hasNoTag position [] noTag, closes] at opens
  change Shows _ (piecesFrom position 0 []
    (text ++ (List.replicate 0 '\\' ++ '[' :: (style ++ ']' :: behind))))
  rw [opens]
  exact ((shown nextToo).styled good plainKept plainStyle (place + 0 / 2 * 2) placeToo
    count).plainPiece plain

/-- A styled text is shown, by induction on its pairs of tags. -/
theorem IsStyled.shows {text : List Char} (styled : IsStyled text) (position : Nat) :
    Shows (ArePlain text) (piecesFrom position 0 [] text) := by
  induction styled generalizing position with
  | @bare text tagless =>
      rw [piecesFrom_of_hasNoTag position [] (hasNoTag_of_isTagless tagless)]
      have shown := (Shows.nil (ArePlain text)).plainPiece id
      rwa [List.append_nil] at shown
  | @styled text style inner rest tagless ends good taglessToo styledToo inductionHypothesis =>
      obtain ⟨front, count, rfl, endsToo⟩ := exists_slashes inner
      have cut := @arePlain_of_styled text style front rest count
      have noTag := hasNoTag_of_isTagless (isTagless_front taglessToo)
      rw [List.append_assoc] at cut ⊢
      exact .between count (hasNoTag_of_isTagless tagless) ends good endsToo
        (fun next => ⟨front, piecesFrom_of_hasNoTag next [] noTag, fun plain => (cut plain).2.2.1⟩)
        (fun plain => (cut plain).1) (fun plain => (cut plain).2.1)
        (fun next => (inductionHypothesis next).mono fun plain => (cut plain).2.2.2) position

/-- Acts that all succeed succeed together. -/
theorem forM_eq_ok {Fault Item : Type} {act : Item → Except Fault PUnit} {items : List Item}
    (each : ∀ item ∈ items, act item = .ok ⟨⟩) : items.forM act = .ok ⟨⟩ := by
  induction items with
  | nil => rfl
  | cons item rest inductionHypothesis =>
      obtain ⟨here, behind⟩ := List.forall_mem_cons.1 each
      change (act item >>= fun _ => rest.forM act) = _
      rw [here]
      exact inductionHypothesis behind

/-- Pieces that can be shown in known styles are shown. -/
theorem plain_eq_ok {text : String} {chars : List Char} {spans : List Span}
    (known : shownPieces 0 [] (pieces text) = .ok (chars, spans))
    (styles : ∀ span ∈ spans, isKnownStyle span.style = true) :
    plain text = .ok (String.ofList chars) := by
  have looked : ((spans.filter (Span.counts chars)).forM fun span => do
      let _ ← knownStyle span.style) = Except.ok PUnit.unit := by
    refine forM_eq_ok fun span member => ?_
    have found := styles span (List.mem_filter.1 member).1
    rw [isKnownStyle] at found
    cases looked : knownStyle span.style with
    | error fault => simp [looked, Except.toOption] at found
    | ok name => rfl
  rw [plain, known]
  change (List.forM _ _ >>= fun _ => Except.ok (String.ofList chars)) = _
  rw [looked]
  rfl

/-- A styled text is shown, and shown as characters when it is such a text. -/
theorem exists_plain {text : String} (styled : IsStyled text.toList) :
    ∃ shown, plain text = .ok shown ∧ (IsPlain text → IsPlain shown) := by
  obtain ⟨chars, spans, known, styles, plain⟩ := styled.shows 0 [] (by simp) 0
  refine ⟨String.ofList chars, plain_eq_ok known styles, fun isPlain => .ofList (plain ?_)⟩
  exact IsPlain.iff_arePlain.1 isPlain

end RosettaDaml.Screen
