/-
This file shows that reading tokens meets bytes that are not UTF-8 only where the source says so.
-/

import RosettaDaml.Proofs.Yaml.Scanning

namespace RosettaDaml.Yaml.Lexing

open Scan

abbrev endLaw : Law Lexing := Scan.endLaw.withState Scanner

/-- What holds of a scan holds of it among the tokens. -/
theorem holds_scan {Result : Type} {scan : Scan Result} (holds : Scan.endLaw.Holds scan) :
    endLaw.Holds (liftM scan) :=
  Scan.endLaw.holds_liftM holds

/-- Looking at the scanner meets no bytes. -/
theorem holds_get : endLaw.Holds get := Scan.endLaw.holds_get

/-- The scanner can be replaced freely. -/
theorem holds_set (scanner : Scanner) : endLaw.Holds (set scanner) := Scan.endLaw.holds_set scanner

/-- The scanner can be changed freely. -/
theorem holds_modify (change : Scanner → Scanner) : endLaw.Holds (modify change) :=
  Scan.endLaw.holds_modify change

/-- A token that is emitted changes the scanner only. -/
theorem holds_emit (token : Token) : endLaw.Holds (emit token) := holds_modify _

/-- So does one that is put in front of others. -/
theorem holds_insertToken (before : Nat) (token : Token) :
    endLaw.Holds (insertToken before token) :=
  holds_modify _

/-- Whether a key may start is known to the scanner. -/
theorem holds_allowKey (allowed : Bool) : endLaw.Holds (allowKey allowed) := holds_modify _

/-- The cursor can be looked at in between. -/
theorem holds_cursor : endLaw.Holds cursor := fun scanner =>
  Scan.endLaw.holds_bind_pure Scan.holds_get fun here => (here, scanner)

/-- A required key that is missed is an error of the syntax. -/
theorem holds_dropStaleKeys : endLaw.Holds dropStaleKeys := by
  unfold dropStaleKeys
  apply endLaw.holds_bind holds_cursor
  intro here
  apply endLaw.holds_bind holds_get
  intro scanner
  exact endLaw.holds_then (holds_scan (holds_demand _)) (holds_set _)

/-- A required key that is given up is an error of the syntax, too. -/
theorem holds_dropKey : endLaw.Holds dropKey := by
  unfold dropKey
  apply endLaw.holds_bind holds_get
  intro scanner
  exact endLaw.holds_then (holds_scan (holds_demand _)) (holds_set _)

/-- A possible key is taken from the scanner. -/
theorem holds_takeKey : endLaw.Holds takeKey := Scan.endLaw.holds_modifyGet _

/-- A new possible key takes the place of the one before it on the same level. -/
theorem holds_noteKey : endLaw.Holds noteKey := by
  unfold noteKey
  apply endLaw.holds_bind holds_get
  intro scanner
  split
  · apply endLaw.holds_then holds_dropKey
    exact endLaw.holds_bind holds_cursor fun _ => holds_modify _
  · exact endLaw.holds_pure ()

/-- Blocks are closed one by one, by induction on the fuel. -/
theorem holds_closeBlocks (column : Int) (fuel : Nat) :
    endLaw.Holds (closeBlocks column fuel) := by
  induction fuel with
  | zero => exact endLaw.holds_pure ()
  | succ fuel inductionHypothesis =>
      unfold closeBlocks
      apply endLaw.holds_bind holds_get
      intro scanner
      split
      · exact endLaw.holds_then (holds_set _) inductionHypothesis
      · exact endLaw.holds_pure ()

/-- Inside brackets no block is closed. -/
theorem holds_unwind (column : Int) : endLaw.Holds (unwind column) :=
  endLaw.holds_bind holds_get fun _ => holds_closeBlocks column _

/-- A block that opens is known to the scanner. -/
theorem holds_openBlock (column : Nat) : endLaw.Holds (openBlock column) := by
  unfold openBlock
  apply endLaw.holds_bind holds_get
  intro scanner
  split
  · exact endLaw.holds_then (holds_set _) (endLaw.holds_pure true)
  · exact endLaw.holds_pure false

/-- Blanks, comments and breaks are passed line by line, by induction on the fuel. -/
theorem holds_toNextToken (fuel : Nat) : endLaw.Holds (toNextToken fuel) := by
  induction fuel with
  | zero => exact endLaw.holds_pure ()
  | succ fuel inductionHypothesis =>
      unfold toNextToken
      apply endLaw.holds_then (holds_scan (holds_takeRun _))
      apply endLaw.holds_bind (holds_scan holds_peek)
      intro char
      apply endLaw.holds_guarded (holds_scan (holds_takeRun _))
      apply endLaw.holds_bind (holds_scan holds_peek)
      intro next
      split
      · apply endLaw.holds_then (holds_scan holds_lineBreak)
        apply endLaw.holds_bind holds_get
        intro scanner
        exact endLaw.holds_guarded (holds_allowKey true) inductionHypothesis
      · exact endLaw.holds_pure ()

/-- At the end of the stream all blocks close and no key is left. -/
theorem holds_streamEnd : endLaw.Holds streamEnd := by
  unfold streamEnd
  apply endLaw.holds_then (holds_unwind (-1))
  apply endLaw.holds_then holds_dropKey
  exact endLaw.holds_then (holds_modify _) (holds_emit .streamEnd)

/-! Directives, names and tags. -/

/-- A run of the characters of words may not be empty. -/
theorem holds_wordRun : Scan.endLaw.Holds wordRun := by
  unfold wordRun
  apply Scan.endLaw.holds_bind (holds_takeRun isWordChar)
  intro word
  exact Scan.endLaw.holds_then (holds_demand _) (Scan.endLaw.holds_pure word)

/-- A number is a run of digits and may not be empty. -/
theorem holds_number : Scan.endLaw.Holds number := by
  unfold number
  apply Scan.endLaw.holds_bind (holds_runOf Char.isDigit)
  intro digits
  apply Scan.endLaw.holds_then (holds_demand _)
  apply Scan.endLaw.holds_guarded (holds_throw (by simp))
  exact Scan.endLaw.holds_then (holds_forward _) (Scan.endLaw.holds_pure _)

/-- Escaped bytes are read one by one, by induction on the fuel. -/
theorem holds_uriEscapes (fuel : Nat) (bytes : List UInt8) :
    Scan.endLaw.Holds (uriEscapes fuel bytes) := by
  induction fuel generalizing bytes with
  | zero => exact Scan.endLaw.holds_pure bytes
  | succ fuel inductionHypothesis =>
      unfold uriEscapes
      apply Scan.endLaw.holds_bind holds_peek
      intro char
      split
      · apply Scan.endLaw.holds_then (holds_forward 1)
        apply Scan.endLaw.holds_bind holds_peek
        intro high
        apply Scan.endLaw.holds_then (holds_demand _)
        apply Scan.endLaw.holds_bind (holds_peekAt 1)
        intro low
        apply Scan.endLaw.holds_then (holds_demand _)
        exact Scan.endLaw.holds_then (holds_forward 2) (inductionHypothesis _)
      · exact Scan.endLaw.holds_pure bytes

/-- Escaped bytes that are no text are an error of the syntax, not of the bytes of the source. -/
theorem holds_uriFrom (fuel : Nat) (text : List Char) :
    Scan.endLaw.Holds (uriFrom fuel text) := by
  induction fuel generalizing text with
  | zero => exact Scan.endLaw.holds_pure text
  | succ fuel inductionHypothesis =>
      unfold uriFrom
      apply Scan.endLaw.holds_bind (holds_takeRun isUriChar)
      intro run
      apply Scan.endLaw.holds_bind holds_peek
      intro char
      split
      · apply Scan.endLaw.holds_bind holds_enough
        intro steps
        apply Scan.endLaw.holds_bind (holds_uriEscapes steps [])
        intro bytes
        split
        · exact inductionHypothesis _
        · exact holds_malformed
      · exact Scan.endLaw.holds_pure _

/-- The text of a tag may not be empty. -/
theorem holds_uri : Scan.endLaw.Holds uri := by
  unfold uri
  apply Scan.endLaw.holds_bind holds_enough
  intro fuel
  apply Scan.endLaw.holds_bind (holds_uriFrom fuel [])
  intro text
  exact Scan.endLaw.holds_then (holds_demand _) (Scan.endLaw.holds_pure _)

/-- A handle that does not end is an error of the syntax. -/
theorem holds_tagHandle : Scan.endLaw.Holds tagHandle := by
  unfold tagHandle
  apply Scan.endLaw.holds_bind holds_peek
  intro mark
  apply Scan.endLaw.holds_then (holds_demand _)
  apply Scan.endLaw.holds_bind (holds_peekAt 1)
  intro next
  split
  · exact Scan.endLaw.holds_then (holds_forward 1) (Scan.endLaw.holds_pure "!")
  · apply Scan.endLaw.holds_then (holds_forward 1)
    apply Scan.endLaw.holds_bind (holds_takeRun isWordChar)
    intro word
    apply Scan.endLaw.holds_bind holds_peek
    intro closing
    split
    · exact Scan.endLaw.holds_then (holds_forward 1) (Scan.endLaw.holds_pure _)
    · exact holds_malformed

/-- A directive is known by its name and read to the end of its line. -/
theorem holds_directiveText : Scan.endLaw.Holds directiveText := by
  unfold directiveText
  apply Scan.endLaw.holds_then (holds_forward 1)
  apply Scan.endLaw.holds_bind holds_wordRun
  intro name
  apply Scan.endLaw.holds_bind holds_peek
  intro next
  apply Scan.endLaw.holds_then (holds_demand _)
  extract_lets rest
  -- Every kind of directive goes on in the same way, so its rest is dealt with before the kinds
  -- are.
  have keeps (directive : Directive) : Scan.endLaw.Holds (rest directive) :=
    Scan.endLaw.holds_then holds_endOfLine (Scan.endLaw.holds_pure directive)
  split
  · apply Scan.endLaw.holds_then (holds_takeRun _)
    apply Scan.endLaw.holds_bind holds_number
    intro major
    apply Scan.endLaw.holds_bind holds_peek
    intro point
    apply Scan.endLaw.holds_then (holds_demand _)
    apply Scan.endLaw.holds_then (holds_forward 1)
    apply Scan.endLaw.holds_then holds_number
    apply Scan.endLaw.holds_bind holds_peek
    intro gap
    apply Scan.endLaw.holds_then (holds_demand _)
    exact Scan.endLaw.holds_bind (Scan.endLaw.holds_pure _) keeps
  · apply Scan.endLaw.holds_then (holds_takeRun _)
    apply Scan.endLaw.holds_bind holds_tagHandle
    intro handle
    apply Scan.endLaw.holds_bind holds_peek
    intro blank
    apply Scan.endLaw.holds_then (holds_demand _)
    apply Scan.endLaw.holds_then (holds_takeRun _)
    apply Scan.endLaw.holds_bind holds_uri
    intro lead
    apply Scan.endLaw.holds_bind holds_peek
    intro gap
    apply Scan.endLaw.holds_then (holds_demand _)
    exact Scan.endLaw.holds_bind (Scan.endLaw.holds_pure _) keeps
  · apply Scan.endLaw.holds_then (holds_takeRun _)
    exact Scan.endLaw.holds_bind (Scan.endLaw.holds_pure _) keeps

/-- A name ends at a gap or at a mark. -/
theorem holds_anchorName : Scan.endLaw.Holds anchorName := by
  unfold anchorName
  apply Scan.endLaw.holds_then (holds_forward 1)
  apply Scan.endLaw.holds_bind holds_wordRun
  intro word
  apply Scan.endLaw.holds_bind holds_peek
  intro next
  exact Scan.endLaw.holds_then (holds_demand _) (Scan.endLaw.holds_pure _)

/-- The characters up to the next gap are looked at, and stay. -/
theorem holds_hasHandle : Scan.endLaw.Holds hasHandle := by
  unfold hasHandle
  apply Scan.endLaw.holds_bind Scan.holds_get
  intro cursor
  exact Scan.endLaw.holds_bind_pure (holds_peekAt _) _

/-- A tag is written in one of three ways, with a gap behind it. -/
theorem holds_tagText : Scan.endLaw.Holds tagText := by
  unfold tagText
  apply Scan.endLaw.holds_bind (holds_peekAt 1)
  intro next
  extract_lets rest
  -- The gap behind a tag is common to all its forms.
  have keeps (tag : TagText) : Scan.endLaw.Holds (rest tag) := by
    apply Scan.endLaw.holds_bind holds_peek
    intro gap
    exact Scan.endLaw.holds_then (holds_demand _) (Scan.endLaw.holds_pure tag)
  split
  · apply Scan.endLaw.holds_then (holds_forward 2)
    apply Scan.endLaw.holds_bind holds_uri
    intro suffix
    apply Scan.endLaw.holds_bind holds_peek
    intro closing
    apply Scan.endLaw.holds_then (holds_demand _)
    apply Scan.endLaw.holds_then (holds_forward 1)
    exact Scan.endLaw.holds_bind (Scan.endLaw.holds_pure _) keeps
  · split
    · apply Scan.endLaw.holds_then (holds_forward 1)
      exact Scan.endLaw.holds_bind (Scan.endLaw.holds_pure _) keeps
    · apply Scan.endLaw.holds_bind holds_hasHandle
      intro handled
      split
      · apply Scan.endLaw.holds_bind holds_tagHandle
        intro handle
        apply Scan.endLaw.holds_bind holds_uri
        intro suffix
        exact Scan.endLaw.holds_bind (Scan.endLaw.holds_pure _) keeps
      · apply Scan.endLaw.holds_then (holds_forward 1)
        apply Scan.endLaw.holds_bind holds_uri
        intro suffix
        exact Scan.endLaw.holds_bind (Scan.endLaw.holds_pure _) keeps

/-! Tokens. -/

/-- A document marker closes all blocks and gives up all keys. -/
theorem holds_documentMark (token : Token) : endLaw.Holds (documentMark token) := by
  unfold documentMark
  apply endLaw.holds_then (holds_unwind (-1))
  apply endLaw.holds_then holds_dropKey
  apply endLaw.holds_then (holds_allowKey false)
  exact endLaw.holds_then (holds_scan (holds_forward 3)) (holds_emit token)

/-- So does a directive. -/
theorem holds_directive : endLaw.Holds directive := by
  unfold directive
  apply endLaw.holds_then (holds_unwind (-1))
  apply endLaw.holds_then holds_dropKey
  apply endLaw.holds_then (holds_allowKey false)
  exact endLaw.holds_bind (holds_scan holds_directiveText) fun _ => holds_emit _

/-- An opening bracket may start a key. -/
theorem holds_flowStart (token : Token) : endLaw.Holds (flowStart token) := by
  unfold flowStart
  apply endLaw.holds_then holds_noteKey
  apply endLaw.holds_then (holds_modify _)
  exact endLaw.holds_then (holds_scan (holds_forward 1)) (holds_emit token)

/-- A closing bracket gives up the possible key in front of it. -/
theorem holds_flowEnd (token : Token) : endLaw.Holds (flowEnd token) := by
  unfold flowEnd
  apply endLaw.holds_then holds_dropKey
  apply endLaw.holds_then (holds_modify _)
  exact endLaw.holds_then (holds_scan (holds_forward 1)) (holds_emit token)

/-- A comma gives up the possible key in front of it. -/
theorem holds_flowEntry : endLaw.Holds flowEntry := by
  unfold flowEntry
  apply endLaw.holds_then (holds_allowKey true)
  apply endLaw.holds_then holds_dropKey
  exact endLaw.holds_then (holds_scan (holds_forward 1)) (holds_emit .flowEntry)

/-- An entry where none may start is an error of the syntax. -/
theorem holds_openEntry (token : Token) : endLaw.Holds (openEntry token) := by
  unfold openEntry
  apply endLaw.holds_bind holds_get
  intro scanner
  split
  · apply endLaw.holds_bind holds_get
    intro again
    apply endLaw.holds_then (holds_scan (holds_demand _))
    apply endLaw.holds_bind holds_cursor
    intro here
    apply endLaw.holds_bind (holds_openBlock here.column)
    intro opened
    split
    · exact holds_emit token
    · exact endLaw.holds_pure ()
  · exact endLaw.holds_pure ()

/-- A dash opens an entry of a list. -/
theorem holds_blockEntry : endLaw.Holds blockEntry := by
  unfold blockEntry
  apply endLaw.holds_then (holds_openEntry .blockSequenceStart)
  apply endLaw.holds_then (holds_allowKey true)
  apply endLaw.holds_then holds_dropKey
  exact endLaw.holds_then (holds_scan (holds_forward 1)) (holds_emit .blockEntry)

/-- A question mark opens an entry of a map. -/
theorem holds_key : endLaw.Holds key := by
  unfold key
  apply endLaw.holds_then (holds_openEntry .blockMappingStart)
  apply endLaw.holds_bind holds_get
  intro scanner
  apply endLaw.holds_then (holds_allowKey _)
  apply endLaw.holds_then holds_dropKey
  exact endLaw.holds_then (holds_scan (holds_forward 1)) (holds_emit .key)

/-- A colon makes a key of what was possibly one, or opens an entry. -/
theorem holds_value : endLaw.Holds value := by
  unfold value
  apply endLaw.holds_bind holds_takeKey
  intro found
  extract_lets rest keyed
  have keeps (start : PUnit) : endLaw.Holds (rest start) :=
    endLaw.holds_then (holds_scan (holds_forward 1)) (holds_emit .value)
  have keepsKeyed : endLaw.Holds (keyed ()) := endLaw.holds_bind (holds_allowKey false) keeps
  split
  · apply endLaw.holds_then (holds_insertToken _ _)
    apply endLaw.holds_bind holds_get
    intro scanner
    split
    · apply endLaw.holds_bind (holds_openBlock _)
      intro opened
      exact endLaw.holds_guarded (holds_insertToken _ _) keepsKeyed
    · exact keepsKeyed
  · apply endLaw.holds_then (holds_openEntry .blockMappingStart)
    apply endLaw.holds_bind holds_get
    intro scanner
    apply endLaw.holds_then (holds_allowKey _)
    exact endLaw.holds_bind holds_dropKey keeps

/-- What may start a key is read behind a note of it. -/
theorem holds_keyLike {scan : Scan Token} (holds : Scan.endLaw.Holds scan) :
    endLaw.Holds (keyLike scan) := by
  unfold keyLike
  apply endLaw.holds_then holds_noteKey
  apply endLaw.holds_then (holds_allowKey false)
  exact endLaw.holds_bind (holds_scan holds) holds_emit

/-- A plain scalar may start a key, and one may follow it on the next line. -/
theorem holds_plain : endLaw.Holds plain := by
  unfold plain
  apply endLaw.holds_then holds_noteKey
  apply endLaw.holds_bind holds_get
  intro scanner
  apply endLaw.holds_bind holds_get
  intro again
  apply endLaw.holds_bind (holds_scan (holds_plainText _ _))
  intro read
  exact endLaw.holds_then (holds_allowKey _) (holds_emit _)

/-- A block scalar starts no key, and one may follow it. -/
theorem holds_block (folded : Bool) : endLaw.Holds (block folded) := by
  unfold block
  apply endLaw.holds_then (holds_allowKey true)
  apply endLaw.holds_then holds_dropKey
  apply endLaw.holds_bind holds_get
  intro scanner
  exact endLaw.holds_bind (holds_scan (holds_blockText folded _)) fun _ => holds_emit _

/-- A gap is looked for behind the next character. -/
theorem holds_gapFollows : Scan.endLaw.Holds gapFollows :=
  Scan.endLaw.holds_bind_pure (holds_peekAt 1) isGap

/-- Markers are looked for in the first column only. -/
theorem holds_markerHere (char : Char) : Scan.endLaw.Holds (markerHere char) := by
  unfold markerHere
  apply Scan.endLaw.holds_bind Scan.holds_get
  intro cursor
  split
  · exact holds_isMarker char
  · exact Scan.endLaw.holds_pure false

/-- Every token is read by one of the steps above, which the next characters choose. -/
theorem holds_step : endLaw.Holds step := by
  unfold step
  apply endLaw.holds_bind (holds_scan holds_enough)
  intro fuel
  apply endLaw.holds_then (holds_toNextToken fuel)
  apply endLaw.holds_then holds_dropStaleKeys
  apply endLaw.holds_bind holds_cursor
  intro here
  apply endLaw.holds_then (holds_unwind here.column)
  apply endLaw.holds_bind holds_get
  intro scanner
  apply endLaw.holds_bind (holds_scan holds_peek)
  intro char
  -- One case for each character that can begin a token, in the order in which they are looked at.
  split
  · exact holds_streamEnd
  · exact holds_flowStart .flowSequenceStart
  · exact holds_flowStart .flowMappingStart
  · exact holds_flowEnd .flowSequenceEnd
  · exact holds_flowEnd .flowMappingEnd
  · exact holds_flowEntry
  · apply endLaw.holds_bind (holds_scan (holds_markerHere '-'))
    intro marked
    split
    · exact holds_documentMark .documentStart
    · apply endLaw.holds_bind (holds_scan holds_gapFollows)
      intro gap
      split
      · exact holds_blockEntry
      · exact holds_plain
  · apply endLaw.holds_bind (holds_scan (holds_markerHere '.'))
    intro marked
    split
    · exact holds_documentMark .documentEnd
    · exact holds_plain
  · split
    · exact holds_key
    · apply endLaw.holds_bind (holds_scan holds_gapFollows)
      intro gap
      split
      · exact holds_key
      · exact holds_plain
  · split
    · exact holds_value
    · apply endLaw.holds_bind (holds_scan holds_gapFollows)
      intro gap
      split
      · exact holds_value
      · exact holds_plain
  · exact holds_keyLike (Scan.endLaw.holds_bind_pure holds_anchorName _)
  · exact holds_keyLike (Scan.endLaw.holds_bind_pure holds_anchorName _)
  · exact holds_keyLike (Scan.endLaw.holds_bind_pure holds_tagText _)
  · exact holds_keyLike (Scan.endLaw.holds_bind_pure holds_quotedText _)
  · exact holds_keyLike (Scan.endLaw.holds_bind_pure holds_quotedText _)
  · apply endLaw.holds_bind holds_cursor
    intro here
    split
    · exact holds_directive
    · split
      · exact holds_block false
      · split
        · exact holds_block true
        · split
          · exact endLaw.holds_then (holds_scan (holds_reach 2)) (holds_scan holds_malformed)
          · exact holds_plain

/-- Tokens are read until the next one is known, by induction on the fuel. -/
theorem holds_fill (fuel : Nat) : endLaw.Holds (fill fuel) := by
  induction fuel with
  | zero => exact holds_scan holds_malformed
  | succ fuel inductionHypothesis =>
      unfold fill
      apply endLaw.holds_bind holds_get
      intro scanner
      split
      · split
        · exact endLaw.holds_then holds_step inductionHypothesis
        · apply endLaw.holds_then holds_dropStaleKeys
          apply endLaw.holds_bind holds_get
          intro later
          split
          · exact endLaw.holds_then holds_step inductionHypothesis
          · exact endLaw.holds_pure ()
      · exact endLaw.holds_pure ()

/-- The next token is known when enough tokens are read. -/
theorem holds_next : endLaw.Holds next := by
  unfold next
  apply endLaw.holds_bind (holds_scan holds_enough)
  intro fuel
  apply endLaw.holds_then (holds_fill (fuel + 1))
  apply endLaw.holds_bind holds_get
  intro scanner
  split
  · exact endLaw.holds_pure _
  · exact holds_scan holds_malformed

/-- The next token is read before it is taken. -/
theorem holds_drop : endLaw.Holds drop := endLaw.holds_then holds_next (holds_modify _)

end RosettaDaml.Yaml.Lexing
