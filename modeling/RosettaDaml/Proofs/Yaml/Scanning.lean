/-
This file shows that scanning meets bytes that are not UTF-8 only where its source says so.
-/

import RosettaDaml.Proofs.Yaml.Law

namespace RosettaDaml.Yaml

/-- A step leaves the reason why the characters end as it is. -/
theorem Cursor.ending_step (cursor : Cursor) : cursor.step.ending = cursor.ending := by
  unfold step
  split
  · rfl
  · split
    · rfl
    · split <;> rfl

/-- So do many steps. -/
theorem Cursor.ending_advance (count : Nat) (cursor : Cursor) :
    (cursor.advance count).ending = cursor.ending := by
  induction count generalizing cursor with
  | zero => rfl
  | succ count inductionHypothesis => rw [advance, inductionHypothesis, ending_step]

/-- A cursor ends for the reason that its source ends for. -/
theorem Cursor.ending_ofSource (source : Source) : (ofSource source).ending = source.ending := by
  rw [ofSource, apply_ite Cursor.ending, ending_step, ite_self]

namespace Scan

/-- Broken bytes are met only if they are the reason why the characters end, and this reason
stays. -/
def KeepsEnding {Result : Type} (ending : Option Failure) :
    Except Failure (Result × Cursor) → Prop
  | .ok (_, later) => later.ending = ending
  | .error failure => failure = .notUtf8 → ending = some .notUtf8

def endLaw : Law Scan where
  Holds scan := ∀ cursor : Cursor, KeepsEnding cursor.ending (scan.run cursor)
  holds_pure _ cursor := Eq.refl cursor.ending
  holds_bind := by
    intro First Second first next holds holdsNext cursor
    have here := holds cursor
    rw [StateT.run_bind]
    cases ran : first.run cursor with
    | error failure =>
        rw [ran] at here
        exact here
    | ok found =>
        rw [ran] at here
        change found.2.ending = cursor.ending at here
        rw [← here]
        exact holdsNext found.1 found.2

variable {Result : Type}

/-- Looking at the cursor meets no bytes. -/
theorem holds_get : endLaw.Holds get := fun _ => rfl

/-- A failure of another kind is allowed everywhere. -/
theorem holds_throw {failure : Failure} (decoded : failure ≠ .notUtf8) :
    endLaw.Holds (throw failure : Scan Result) := fun _ broken => absurd broken decoded

/-- An error of the syntax is a failure of another kind. -/
theorem holds_malformed : endLaw.Holds (malformed : Scan Result) := holds_throw (by simp)

/-- Characters that are not there are missed for the reason of the ending, if there is one. -/
theorem run_reach (count : Nat) (cursor : Cursor) :
    (reach count).run cursor =
      if cursor.left < count then cursor.ending.elim (.ok ((), cursor)) .error
      else .ok ((), cursor) := by
  rw [reach, StateT.run_bind, StateT.run_get, pure_bind]
  split
  · cases cursor.ending <;> rfl
  · rfl

/-- Asking for characters fails only as the ending says. -/
theorem holds_reach (count : Nat) : endLaw.Holds (reach count) := by
  intro cursor
  rw [run_reach]
  split
  · cases stops : cursor.ending with
    | none => exact stops
    | some failure => exact congrArg some
  · exact Eq.refl cursor.ending

/-- Going forward asks for one character more than it leaves behind. -/
theorem holds_forward (count : Nat) : endLaw.Holds (forward count) := by
  unfold forward
  apply endLaw.holds_bind (holds_reach (count + 1))
  intro _ cursor
  exact cursor.ending_advance count

/-- A character further on is asked for and then looked at. -/
theorem holds_peekAt (offset : Nat) : endLaw.Holds (peekAt offset) :=
  endLaw.holds_then (holds_reach (offset + 1)) (endLaw.holds_bind_pure holds_get _)

/-- The next character is the one at no distance. -/
theorem holds_peek : endLaw.Holds peek := holds_peekAt 0

/-- The number of steps that suffice is read off the cursor. -/
theorem holds_enough : endLaw.Holds enough := endLaw.holds_bind_pure holds_get _

/-- What is demanded and missing is an error of the syntax. -/
theorem holds_demand (holds : Bool) : endLaw.Holds (demand holds) := by
  unfold demand
  split
  · exact endLaw.holds_pure ()
  · exact holds_malformed

/-- A run asks for the character that ends it. -/
theorem holds_runOf (passes : Char → Bool) : endLaw.Holds (runOf passes) := by
  unfold runOf
  apply endLaw.holds_bind holds_get
  intro cursor
  exact endLaw.holds_then (holds_reach _) (endLaw.holds_pure _)

/-- A run that is left behind has been asked for. -/
theorem holds_takeRun (passes : Char → Bool) : endLaw.Holds (takeRun passes) := by
  unfold takeRun
  apply endLaw.holds_bind (holds_runOf passes)
  intro run
  exact endLaw.holds_then (holds_forward run.length) (endLaw.holds_pure run)

/-- Passing up to a count of characters is going forward as often, by induction on the count. -/
theorem holds_skipUpTo (passes : Char → Bool) (count : Nat) :
    endLaw.Holds (skipUpTo passes count) := by
  induction count with
  | zero => exact endLaw.holds_pure ()
  | succ count inductionHypothesis =>
      unfold skipUpTo
      apply endLaw.holds_bind holds_peek
      intro char
      split
      · exact endLaw.holds_then (holds_forward 1) inductionHypothesis
      · exact endLaw.holds_pure ()

/-- A line break is one character or two, all of which are asked for. -/
theorem holds_lineBreak : endLaw.Holds lineBreak := by
  unfold lineBreak
  apply endLaw.holds_bind holds_peek
  intro char
  apply endLaw.holds_bind (holds_peekAt 1)
  intro next
  split
  · exact endLaw.holds_then (holds_forward 2) (endLaw.holds_pure _)
  · split
    · exact endLaw.holds_then (holds_forward 1) (endLaw.holds_pure _)
    · split
      · exact endLaw.holds_then (holds_forward 1) (endLaw.holds_pure _)
      · exact endLaw.holds_pure []

/-- Three characters and the gap behind them decide about a marker. -/
theorem holds_isMarker (char : Char) : endLaw.Holds (isMarker char) := by
  unfold isMarker
  apply endLaw.holds_then (holds_reach 3)
  apply endLaw.holds_bind holds_get
  intro cursor
  split
  · exact endLaw.holds_bind_pure (holds_peekAt 3) isGap
  · exact endLaw.holds_pure false

/-- A separator is one marker or the other. -/
theorem holds_atSeparator : endLaw.Holds atSeparator := by
  unfold atSeparator
  apply endLaw.holds_bind (holds_isMarker '-')
  intro separated
  split
  · exact endLaw.holds_pure true
  · exact holds_isMarker '.'

/-- The rest of a line is spaces, a comment and a break, or an error of the syntax. -/
theorem holds_endOfLine : endLaw.Holds endOfLine := by
  unfold endOfLine
  apply endLaw.holds_then (holds_takeRun _)
  apply endLaw.holds_bind holds_peek
  intro char
  apply endLaw.holds_guarded (holds_takeRun _)
  apply endLaw.holds_bind holds_peek
  intro next
  apply endLaw.holds_then (holds_demand _)
  exact endLaw.holds_then holds_lineBreak (endLaw.holds_pure ())

/-! Texts of scalars. -/

/-- Breaks in front of the next line of a plain scalar are read one by one, by induction on the
fuel. -/
theorem holds_plainBreaks (fuel : Nat) (breaks : List Char) :
    endLaw.Holds (plainBreaks fuel breaks) := by
  induction fuel generalizing breaks with
  | zero => exact endLaw.holds_pure _
  | succ fuel inductionHypothesis =>
      unfold plainBreaks
      apply endLaw.holds_bind holds_peek
      intro char
      split
      · exact endLaw.holds_then (holds_forward 1) (inductionHypothesis breaks)
      · split
        · apply endLaw.holds_bind holds_lineBreak
          intro broken
          apply endLaw.holds_bind holds_atSeparator
          intro separated
          split
          · exact endLaw.holds_pure none
          · exact inductionHypothesis _
        · exact endLaw.holds_pure _

/-- Spaces behind a run may go on over some lines. -/
theorem holds_plainSpaces : endLaw.Holds plainSpaces := by
  unfold plainSpaces
  apply endLaw.holds_bind (holds_takeRun _)
  intro spaces
  apply endLaw.holds_bind holds_peek
  intro char
  split
  · apply endLaw.holds_bind holds_lineBreak
    intro first
    apply endLaw.holds_bind holds_atSeparator
    intro separated
    split
    · exact endLaw.holds_pure _
    · apply endLaw.holds_bind holds_enough
      intro fuel
      apply endLaw.holds_bind (holds_plainBreaks fuel [])
      intro breaks
      split
      · exact endLaw.holds_pure _
      · exact endLaw.holds_pure _
  · exact endLaw.holds_pure _

/-- A run of a plain scalar asks for what stands behind it. -/
theorem holds_plainRunHere (inFlow : Bool) : endLaw.Holds (plainRunHere inFlow) := by
  unfold plainRunHere
  apply endLaw.holds_bind holds_get
  intro cursor
  apply endLaw.holds_bind (holds_peekAt _)
  intro char
  exact endLaw.holds_guarded (holds_reach _) (endLaw.holds_pure _)

/-- Each run is followed by spaces and by the next run, by induction on the fuel. -/
theorem holds_plainFrom (inFlow : Bool) (indent : Int) (fuel : Nat) (text : Array Char)
    (spaces : List Char) (broke : Bool) :
    endLaw.Holds (plainFrom inFlow indent fuel text spaces broke) := by
  induction fuel generalizing text spaces broke with
  | zero => exact endLaw.holds_pure _
  | succ fuel inductionHypothesis =>
      unfold plainFrom
      apply endLaw.holds_bind holds_peek
      intro char
      split
      · exact endLaw.holds_pure _
      · apply endLaw.holds_bind (holds_plainRunHere inFlow)
        intro run
        split
        · exact endLaw.holds_pure _
        · apply endLaw.holds_then (holds_forward _)
          apply endLaw.holds_bind holds_plainSpaces
          rintro ⟨spaces, broke⟩
          apply endLaw.holds_bind holds_get
          intro cursor
          apply endLaw.holds_bind holds_peek
          intro next
          split
          · exact endLaw.holds_pure _
          · exact inductionHypothesis _ _ _

/-- The text of a plain scalar is read run after run. -/
theorem holds_plainText (inFlow : Bool) (indent : Int) :
    endLaw.Holds (plainText inFlow indent) := by
  unfold plainText
  apply endLaw.holds_bind holds_enough
  intro fuel
  exact endLaw.holds_bind_pure (holds_plainFrom inFlow indent fuel _ _ _) _

/-- Digits that make no code point are an error of the syntax. -/
theorem holds_codePoint (width : Nat) : endLaw.Holds (codePoint width) := by
  unfold codePoint
  apply endLaw.holds_bind holds_get
  intro cursor
  extract_lets digits code made inRange rest
  have keeps : endLaw.Holds (rest ()) := by
    apply endLaw.holds_guarded (holds_throw (by simp))
    apply endLaw.holds_guarded (holds_throw (by simp))
    exact endLaw.holds_then (holds_forward width) (endLaw.holds_pure _)
  split
  · apply endLaw.holds_then (holds_reach _)
    exact endLaw.holds_then holds_malformed keeps
  · exact keeps

/-- Blanks are a run. -/
theorem holds_skipBlanks : endLaw.Holds skipBlanks :=
  endLaw.holds_then (holds_takeRun _) (endLaw.holds_pure ())

/-- Empty lines inside quotes are read one by one, and a separator there is an error of the syntax.
-/
theorem holds_quotedBreaks (fuel : Nat) (breaks : List Char) :
    endLaw.Holds (quotedBreaks fuel breaks) := by
  induction fuel generalizing breaks with
  | zero => exact endLaw.holds_pure breaks
  | succ fuel inductionHypothesis =>
      unfold quotedBreaks
      apply endLaw.holds_bind holds_atSeparator
      intro separated
      apply endLaw.holds_guarded holds_malformed
      apply endLaw.holds_then holds_skipBlanks
      apply endLaw.holds_bind holds_peek
      intro char
      split
      · exact endLaw.holds_bind holds_lineBreak fun _ => inductionHypothesis _
      · exact endLaw.holds_pure breaks

/-- There are no more empty lines than characters. -/
theorem holds_allQuotedBreaks : endLaw.Holds allQuotedBreaks :=
  endLaw.holds_bind holds_enough fun fuel => holds_quotedBreaks fuel []

/-- An escape is a character, a code point, a line break, or an error of the syntax. -/
theorem holds_escaped : endLaw.Holds escaped := by
  unfold escaped
  apply endLaw.holds_bind holds_peek
  intro char
  split
  · exact endLaw.holds_then (holds_forward 1) (endLaw.holds_pure _)
  · apply endLaw.holds_then (holds_forward 1)
    exact endLaw.holds_bind_pure (holds_codePoint _) Text.Place.chars
  · apply endLaw.holds_then (holds_demand _)
    exact endLaw.holds_then holds_lineBreak holds_allQuotedBreaks

/-- A run inside quotes is made of characters, quotes and escapes, by induction on the fuel. -/
theorem holds_quotedRun (double : Bool) (fuel : Nat) (text : Array Char) :
    endLaw.Holds (quotedRun double fuel text) := by
  induction fuel generalizing text with
  | zero => exact endLaw.holds_pure text
  | succ fuel inductionHypothesis =>
      unfold quotedRun
      apply endLaw.holds_bind (holds_takeRun isQuotedChar)
      intro run
      apply endLaw.holds_bind holds_peek
      intro char
      split
      · apply endLaw.holds_bind (holds_peekAt 1)
        intro next
        split
        · exact endLaw.holds_then (holds_forward 2) (inductionHypothesis _)
        · exact endLaw.holds_pure _
      · split
        · exact endLaw.holds_then (holds_forward 1) (inductionHypothesis _)
        · split
          · apply endLaw.holds_then (holds_forward 1)
            exact endLaw.holds_bind holds_escaped fun _ => inductionHypothesis _
          · exact endLaw.holds_pure _

/-- Spaces inside quotes may go on over some lines, but not over the end of the text. -/
theorem holds_quotedSpaces : endLaw.Holds quotedSpaces := by
  unfold quotedSpaces
  apply endLaw.holds_bind (holds_takeRun _)
  intro spaces
  apply endLaw.holds_bind holds_peek
  intro char
  apply endLaw.holds_then (holds_demand _)
  split
  · apply endLaw.holds_bind holds_lineBreak
    intro first
    exact endLaw.holds_bind_pure holds_allQuotedBreaks _
  · exact endLaw.holds_pure spaces

/-- Runs and spaces take turns up to the closing quote, by induction on the fuel. -/
theorem holds_quotedFrom (double : Bool) (fuel : Nat) (text : Array Char) :
    endLaw.Holds (quotedFrom double fuel text) := by
  induction fuel generalizing text with
  | zero => exact holds_malformed
  | succ fuel inductionHypothesis =>
      unfold quotedFrom
      apply endLaw.holds_bind holds_enough
      intro steps
      apply endLaw.holds_bind (holds_quotedRun double steps text)
      intro text
      apply endLaw.holds_bind holds_peek
      intro char
      -- The quote is chosen inside the condition, and `split` would take that choice first.
      by_cases closes : (char == if double then '"' else '\'') = true
      · rw [if_pos closes]
        exact endLaw.holds_then (holds_forward 1) (endLaw.holds_pure text)
      · rw [if_neg closes]
        exact endLaw.holds_bind holds_quotedSpaces fun _ => inductionHypothesis _

/-- The text of a quoted scalar stands between two quotes. -/
theorem holds_quotedText : endLaw.Holds quotedText := by
  unfold quotedText
  apply endLaw.holds_bind holds_peek
  intro quote
  apply endLaw.holds_then (holds_forward 1)
  apply endLaw.holds_bind holds_enough
  intro fuel
  exact endLaw.holds_bind_pure (holds_quotedFrom _ fuel #[]) _

/-- A digit that is no indentation is an error of the syntax. -/
theorem holds_indentDigit? (char : Char) : endLaw.Holds (indentDigit? char) := by
  unfold indentDigit?
  split
  · apply endLaw.holds_then (holds_demand _)
    exact endLaw.holds_then (holds_forward 1) (endLaw.holds_pure _)
  · exact endLaw.holds_pure none

/-- The sign and the digit are read in the order in which they stand. -/
theorem holds_blockIndicators : endLaw.Holds blockIndicators := by
  unfold blockIndicators
  apply endLaw.holds_bind holds_peek
  intro first
  extract_lets rest
  have keeps (found : Chomping × Option Nat) : endLaw.Holds (rest found) := by
    apply endLaw.holds_bind holds_peek
    intro char
    exact endLaw.holds_then (holds_demand _) (endLaw.holds_pure found)
  split
  · apply endLaw.holds_then (holds_forward 1)
    apply endLaw.holds_bind holds_peek
    intro second
    apply endLaw.holds_bind (holds_indentDigit? second)
    intro digit
    exact endLaw.holds_bind (endLaw.holds_pure _) keeps
  · apply endLaw.holds_bind holds_peek
    intro second
    apply endLaw.holds_bind (holds_indentDigit? second)
    intro digit
    split
    · exact endLaw.holds_bind (endLaw.holds_pure _) keeps
    · apply endLaw.holds_bind holds_peek
      intro third
      split
      · apply endLaw.holds_then (holds_forward 1)
        exact endLaw.holds_bind (endLaw.holds_pure _) keeps
      · exact endLaw.holds_bind (endLaw.holds_pure _) keeps

/-- The breaks in front of the first line are read one by one, by induction on the fuel. -/
theorem holds_blockLead (fuel : Nat) (breaks : List Char) (widest : Nat) :
    endLaw.Holds (blockLead fuel breaks widest) := by
  induction fuel generalizing breaks widest with
  | zero => exact endLaw.holds_pure _
  | succ fuel inductionHypothesis =>
      unfold blockLead
      apply endLaw.holds_bind holds_peek
      intro char
      split
      · apply endLaw.holds_then (holds_forward 1)
        exact endLaw.holds_bind holds_get fun _ => inductionHypothesis _ _
      · split
        · exact endLaw.holds_bind holds_lineBreak fun _ => inductionHypothesis _ _
        · exact endLaw.holds_pure _

/-- The breaks of empty lines are read with their indentation, by induction on the fuel. -/
theorem holds_blockBreaks (indent fuel : Nat) (breaks : List Char) :
    endLaw.Holds (blockBreaks indent fuel breaks) := by
  induction fuel generalizing breaks with
  | zero => exact endLaw.holds_pure breaks
  | succ fuel inductionHypothesis =>
      unfold blockBreaks
      apply endLaw.holds_bind holds_get
      intro cursor
      apply endLaw.holds_then (holds_skipUpTo _ _)
      apply endLaw.holds_bind holds_peek
      intro char
      split
      · exact endLaw.holds_bind holds_lineBreak fun _ => inductionHypothesis _
      · exact endLaw.holds_pure breaks

/-- The column and the next character decide about a line of a block. -/
theorem holds_atBlockLine (indent : Nat) : endLaw.Holds (atBlockLine indent) := by
  unfold atBlockLine
  apply endLaw.holds_bind holds_get
  intro cursor
  split
  · exact endLaw.holds_bind_pure holds_peek _
  · exact endLaw.holds_pure false

/-- Lines of a block are read one by one with the breaks between them, by induction on the fuel. -/
theorem holds_blockFrom (folded : Bool) (indent fuel : Nat) (text : Array Char)
    (final breaks : List Char) : endLaw.Holds (blockFrom folded indent fuel text final breaks) := by
  induction fuel generalizing text final breaks with
  | zero => exact endLaw.holds_pure _
  | succ fuel inductionHypothesis =>
      unfold blockFrom
      apply endLaw.holds_bind (holds_atBlockLine indent)
      intro here
      split
      · exact endLaw.holds_pure _
      · apply endLaw.holds_bind holds_peek
        intro first
        apply endLaw.holds_bind (holds_takeRun _)
        intro line
        apply endLaw.holds_bind holds_lineBreak
        intro final
        apply endLaw.holds_bind holds_enough
        intro steps
        apply endLaw.holds_bind (holds_blockBreaks indent steps [])
        intro breaks
        apply endLaw.holds_bind (holds_atBlockLine indent)
        intro goesOn
        split
        · exact endLaw.holds_bind holds_peek fun _ => inductionHypothesis _ _ _
        · exact endLaw.holds_pure _

/-- The text of a block scalar stands behind its indicators and the rest of their line. -/
theorem holds_blockText (folded : Bool) (outer : Int) :
    endLaw.Holds (blockText folded outer) := by
  unfold blockText
  apply endLaw.holds_then (holds_forward 1)
  apply endLaw.holds_bind holds_blockIndicators
  intro indicators
  apply endLaw.holds_then holds_endOfLine
  apply endLaw.holds_bind holds_enough
  intro fuel
  extract_lets rest
  have keeps (lead : List Char × Nat) : endLaw.Holds (rest lead) := by
    apply endLaw.holds_bind holds_enough
    intro steps
    exact endLaw.holds_bind_pure (holds_blockFrom folded lead.2 steps #[] [] lead.1) _
  split
  · apply endLaw.holds_bind (holds_blockLead fuel [] 0)
    intro lead
    exact endLaw.holds_bind (endLaw.holds_pure _) keeps
  · apply endLaw.holds_bind (holds_blockBreaks _ fuel [])
    intro breaks
    exact endLaw.holds_bind (endLaw.holds_pure _) keeps

end Scan

end RosettaDaml.Yaml
