/-
This file shows which reports are shown in full, line by line, when they are shown as text.
-/

import Mathlib.Data.List.Forall2
import RosettaDaml.Proofs.Screen.Folding
import RosettaDaml.Proofs.Screen.Report

namespace RosettaDaml

open RosettaDaml.Text (IsPlain ArePlain solid solid_append)

namespace Screen

/-- A block that shows what the text on its own would show on a screen of some width, with nothing
missing but blanks. -/
structure Block.ShowsInFull (width : Nat) (block : Block) (text : String) : Prop where
  lines_eq : block.lines width = (Block.text (.raw text)).lines width
  complete : ∃ lines, block.lines width = .ok lines ∧ solidLines lines = solid text.toList

variable {width : Nat}

/-- A text with tags is laid out as what is left of it. -/
theorem lines_marked {marked shown : String} (known : plain marked = .ok shown) :
    (Block.marked marked).lines width = .ok (wrap width .fold shown) := by
  change (plain marked >>= fun shown => pure (wrap width .fold shown)) = _
  rw [known]
  rfl

/-- What is shown of a text with enough room is in full if it is the text. -/
theorem showsInFull_of_plain {marked text : String} (plainText : IsPlain text) (wide : 2 ≤ width)
    (room : HasRoom width (visible text.toList))
    (noControl : ∀ char ∈ text.toList, isHidden char = true → Text.isBlank char = true)
    (known : plain marked = .ok (raw text)) : (Block.marked marked).ShowsInFull width text := by
  refine ⟨lines_marked known, _, lines_marked known, ?_⟩
  have plainShown : IsPlain (raw text) :=
    .ofList (arePlain_visible (IsPlain.iff_arePlain.1 plainText))
  rw [solidLines_wrap_of_hasRoom plainShown wide (by rwa [raw, String.toList_ofList]), raw,
    String.toList_ofList, solid_visible noControl]

/-- A block shows no more than what is left of its text without the markup. -/
theorem Block.ShowsInFull.solid_sublist {marked text : String} (plainMarked : IsPlain marked)
    (shows : (Block.marked marked).ShowsInFull width text) :
    (solid text.toList).Sublist (solid (display marked.toList)) := by
  obtain ⟨-, lines, known, whole⟩ := shows
  change (plain marked >>= fun shown => pure (wrap width .fold shown)) = _ at known
  cases displayed : plain marked with
  | error fault =>
      rw [displayed] at known
      cases known
  | ok shown =>
      rw [displayed] at known
      cases known
      have same := display_of_plain displayed
      have plainShown : IsPlain shown := by
        rw [IsPlain.iff_arePlain, same]
        exact arePlain_display (IsPlain.iff_arePlain.1 plainMarked)
      rw [← whole, ← same]
      exact solidLines_wrap_sublist plainShown width

/-- A text that can be shown is shown as what is left of it. -/
theorem plain_of_shows {text : String} (shows : Shows False (pieces text)) :
    plain text = .ok (String.ofList (display text.toList)) := by
  obtain ⟨chars, spans, known, styles, -⟩ := shows [] (by simp) 0
  rw [plain_eq_ok known styles, chars_eq_shownAll known]
  rfl

/-! A style around a text. -/

section Style

variable {text style inner rest : List Char} (good : isStyle style = true)

include good

/-- A tag that opens a style shows nothing. -/
theorem display_opened (ends : text.getLast? ≠ some '\\') :
    display (text ++ '[' :: (style ++ ']' :: rest)) = display text ++ display rest := by
  obtain ⟨name, facts⟩ := exists_styleFacts good
  have opens := display_append ends 0 (facts.tagBody?_open rest)
  rwa [tagShown_zero, List.nil_append] at opens

/-- Neither does the tag that closes it. -/
theorem display_closed (ends : text.getLast? ≠ some '\\') :
    display (text ++ '[' :: ('/' :: style ++ ']' :: rest)) = display text ++ display rest := by
  obtain ⟨name, facts⟩ := exists_styleFacts good
  have closes := display_append ends 0 (facts.tagBody?_close rest)
  rwa [tagShown_zero, List.nil_append] at closes

/-- What is shown between the tags of a style, and around them. -/
theorem shows_between (noTag : HasNoTag text) (ends : text.getLast? ≠ some '\\')
    (endsToo : inner.getLast? ≠ some '\\')
    (single : ∀ next, ∃ kept, piecesFrom next 0 [] inner = plainPiece kept)
    (shown : ∀ next, Shows False (piecesFrom next 0 [] rest)) (position : Nat) :
    Shows False (piecesFrom position 0 []
      (text ++ '[' :: (style ++ ']' :: (inner ++ '[' :: ('/' :: style ++ ']' :: rest))))) :=
  .between 0 noTag ends good endsToo
    (fun next => (single next).imp fun _ same => ⟨same, False.elim⟩) False.elim False.elim shown
    position

end Style

/-- A text without tags can always be shown. -/
theorem shows_of_hasNoTag {text : List Char} (noTag : HasNoTag text) (position : Nat) :
    Shows False (piecesFrom position 0 [] text) := by
  rw [piecesFrom_of_hasNoTag position [] noTag]
  have shown : Shows False (plainPiece text ++ []) := (Shows.nil False).plainPiece False.elim
  rwa [List.append_nil] at shown

/-- A text between the tags of a style is shown in full exactly if it stays inside them. -/
theorem showsInFull_styled_iff {front style inner : String} (good : isStyle style.toList = true)
    (inert : ∀ char ∈ front.toList ++ style.toList, isActive char = false)
    (plainFront : IsPlain front) (plainStyle : IsPlain style)
    (plainInner : IsPlain inner) (wide : 2 ≤ width)
    (room : HasRoom width (visible (front ++ inner).toList)) :
    (Block.marked (front ++ ("[" ++ style ++ "]" ++ inner ++ "[/" ++ style ++ "]"))).ShowsInFull
        width (front ++ inner) ↔ StaysInside inner.toList := by
  obtain ⟨inertFront, inertStyle⟩ := List.forall_mem_append.1 inert
  have ends := getLast?_ne_of_inert inertFront
  have whole : (front ++ ("[" ++ style ++ "]" ++ inner ++ "[/" ++ style ++ "]")).toList =
      front.toList ++ '[' :: (style.toList ++ ']' ::
        (inner.toList ++ '[' :: ('/' :: style.toList ++ ']' :: []))) := by simp
  obtain ⟨name, facts⟩ := exists_styleFacts good
  have noSlash : '\\' ∉ style.toList := fun member => absurd (inertStyle _ member) (by decide)
  have noColon : ':' ∉ style.toList := fun member => absurd (inertStyle _ member) (by decide)
  have kept := @staysInside_iff inner.toList _ noColon noSlash (facts.tagBody?_close [])
  have unmarkedFront := isUnmarked_of_inert inertFront
  constructor
  · intro shows
    have plainMarked : IsPlain (front ++ ("[" ++ style ++ "]" ++ inner ++ "[/" ++ style ++ "]")) := by
      have pair := isPlain_pair plainStyle plainInner (.of_free (by decide : _ ∉ "".toList))
      rw [String.append_empty] at pair
      exact plainFront.append pair
    -- All that is solid in the text is shown, in front of the tag at its end.
    have sublist := shows.solid_sublist plainMarked
    rw [whole, display_opened good ends, display_of_inert inertFront, String.toList_append,
      solid_append, solid_append, solid_visible unmarkedFront.noControl,
      List.append_sublist_append_left] at sublist
    exact kept.2 sublist
  · rintro ⟨unmarked, endsToo⟩
    have unmarkedAll : IsUnmarked (front ++ inner).toList := by
      rw [String.toList_append, isUnmarked_append inertFront]
      exact unmarked
    -- Nothing but the two tags is removed.
    have shows := shows_between good unmarkedFront.noTag ends endsToo
      (fun next => ⟨_, piecesFrom_of_hasNoTag next [] unmarked.noTag⟩)
      (shows_of_hasNoTag (by decide : HasNoTag [])) 0
    rw [← whole] at shows
    refine showsInFull_of_plain (plainFront.append plainInner) wide room unmarkedAll.noControl ?_
    rw [plain_of_shows shows, whole, display_opened good ends, display_closed good endsToo,
      display_of_inert inertFront, unmarked.display_eq, display_nil,
      List.append_nil, raw, String.toList_append, visible_append]

/-! The first line of an issue. -/

/-- The colors are characters. -/
theorem isPlain_of_mem_issueColors {color : String} (known : color ∈ issueColors) :
    IsPlain color ∧ IsPlain (color ++ " bold") := by
  have free : ∀ color ∈ issueColors,
      Text.halfMark ∉ color.toList ∧ Text.halfMark ∉ (color ++ " bold").toList := by
    unfold issueColors
    decide
  exact ⟨.of_free (free color known).1, .of_free (free color known).2⟩

section First

variable {color severity code message : String} (known : color ∈ issueColors)
  (inertSeverity : ∀ char ∈ severity.toList, isActive char = false)
  (inertCode : ∀ char ∈ code.toList, isActive char = false) (free : ']' ∉ code.toList)

/-- The first line of an issue as it is written with its tags. -/
def firstMarked (color severity code message : String) : String :=
  "[" ++ (color ++ " bold") ++ "]" ++ severity ++ "[/" ++ (color ++ " bold") ++ "]" ++
    (" " ++ ("[" ++ color ++ "]" ++ ("\\[" ++ code ++ "]") ++ "[/" ++ color ++ "]" ++ (" " ++ message)))

def firstFull (severity code message : String) : String :=
  severity ++ " [" ++ code ++ "] " ++ message

/-- What stands in front of the message. -/
def severityAndCode (severity code : String) : List Char :=
  severity.toList ++ ([' '] ++ '[' :: (code.toList ++ [']']))

/-- The first line is two styled parts and the message. -/
theorem toList_firstMarked : (firstMarked color severity code message).toList =
    [] ++ '[' :: ((color ++ " bold").toList ++ ']' ::
      (severity.toList ++ '[' :: ('/' :: (color ++ " bold").toList ++ ']' ::
        ([' '] ++ '[' :: (color.toList ++ ']' ::
          ('\\' :: '[' :: (code.toList ++ [']']) ++ '[' :: ('/' :: color.toList ++ ']' ::
            (' ' :: message.toList)))))))) := by
  simp [firstMarked]

/-- A code in brackets does not reach the closing tag. -/
theorem getLast?_coded : ('\\' :: '[' :: (code.toList ++ [']'])).getLast? ≠ some '\\' := by
  rw [← List.cons_append, ← List.cons_append, List.getLast?_concat]
  decide

/-- What it should show is the severity, the code and the message. -/
theorem toList_firstFull : (firstFull severity code message).toList =
    severityAndCode severity code ++ (' ' :: message.toList) := by
  simp [firstFull, severityAndCode]

include known inertSeverity inertCode free

/-- What it shows in front of the message is what it should show there. -/
theorem display_firstMarked : display (firstMarked color severity code message).toList =
    visible (severityAndCode severity code) ++ display (' ' :: message.toList) := by
  obtain ⟨good, bold⟩ := isStyle_of_mem_issueColors known
  have endsSeverity := getLast?_ne_of_inert inertSeverity
  obtain ⟨kept, same, shown⟩ := exists_piecesFrom_coded inertCode free 0
  have coded : display ('\\' :: '[' :: (code.toList ++ [']'])) =
      visible ('[' :: (code.toList ++ [']'])) := by
    rw [display, same, shownAll_plainPiece, shown]
  rw [toList_firstMarked, display_opened bold (by simp), display_closed bold endsSeverity,
    display_opened good (by simp), display_closed good getLast?_coded, coded,
    display_of_inert inertSeverity, display_of_inert (List.forall_mem_singleton.2 (by decide)),
    display_nil, severityAndCode, visible_append, visible_append]
  simp only [List.nil_append, List.append_assoc]

/-- A message without tags leaves nothing that cannot be shown. -/
theorem shows_firstMarked (noTag : HasNoTag message.toList) :
    Shows False (pieces (firstMarked color severity code message)) := by
  obtain ⟨good, bold⟩ := isStyle_of_mem_issueColors known
  have endsSeverity := getLast?_ne_of_inert inertSeverity
  have noTagSeverity := (isUnmarked_of_inert inertSeverity).noTag
  have behind : HasNoTag (' ' :: message.toList) :=
    hasNoTag_cons.2 ⟨by rw [tagHere?_cons (by decide)]; rfl, noTag⟩
  rw [pieces, toList_firstMarked]
  refine shows_between bold (by decide) (by simp) endsSeverity
    (fun next => ⟨_, piecesFrom_of_hasNoTag next [] noTagSeverity⟩)
    (shows_between good (by decide) (by simp) getLast?_coded (fun next => ?_)
      (shows_of_hasNoTag behind)) 0
  obtain ⟨kept, same, -⟩ := exists_piecesFrom_coded inertCode free next
  exact ⟨kept, same⟩

/-- The first line of an issue is shown in full exactly if its message is unmarked. -/
theorem showsInFull_firstMarked_iff (plainSeverity : IsPlain severity) (plainCode : IsPlain code)
    (plainMessage : IsPlain message) (wide : 2 ≤ width)
    (room : HasRoom width (visible (firstFull severity code message).toList)) :
    (Block.marked (firstMarked color severity code message)).ShowsInFull width
        (firstFull severity code message) ↔ IsUnmarked message.toList := by
  have noControl : ∀ char ∈ severityAndCode severity code,
      isHidden char = true → Text.isBlank char = true := by
    have inert {chars : List Char} (inert : ∀ char ∈ chars, isActive char = false) :
        ∀ char ∈ chars, isHidden char = true → Text.isBlank char = true :=
      (isUnmarked_of_inert inert).noControl
    have mark (char : Char) (known : isActive char = false) :=
      inert (List.forall_mem_singleton.2 known)
    refine List.forall_mem_append.2 ⟨inert inertSeverity, List.forall_mem_append.2
      ⟨mark ' ' (by decide), List.forall_mem_cons.2 ⟨by decide,
        List.forall_mem_append.2 ⟨inert inertCode, mark ']' (by decide)⟩⟩⟩⟩
  have shown := @display_firstMarked color severity code message known inertSeverity inertCode free
  constructor
  · intro shows
    have plainMarked : IsPlain (firstMarked color severity code message) := by
      obtain ⟨plainColor, plainBold⟩ := isPlain_of_mem_issueColors known
      have bracket : IsPlain "\\[" ∧ IsPlain "]" ∧ IsPlain " " :=
        ⟨.of_free (by decide), .of_free (by decide), .of_free (by decide)⟩
      exact isPlain_pair plainBold plainSeverity (bracket.2.2.append
        (isPlain_pair plainColor ((bracket.1.append plainCode).append bracket.2.1)
          (bracket.2.2.append plainMessage)))
    have sublist := shows.solid_sublist plainMarked
    rw [shown, toList_firstFull, solid_append, solid_append, solid_visible noControl,
      List.append_sublist_append_left] at sublist
    exact (isUnmarked_cons (by decide)).1 (.of_solid sublist)
  · intro unmarked
    have behind : IsUnmarked (' ' :: message.toList) := (isUnmarked_cons (by decide)).2 unmarked
    have plainFull : IsPlain (firstFull severity code message) := by
      have bracket : IsPlain " [" ∧ IsPlain "] " := ⟨.of_free (by decide), .of_free (by decide)⟩
      exact (((plainSeverity.append bracket.1).append plainCode).append bracket.2).append
        plainMessage
    refine showsInFull_of_plain plainFull wide room ?_ ?_
    · rw [toList_firstFull]
      exact List.forall_mem_append.2 ⟨noControl, behind.noControl⟩
    · rw [plain_of_shows (shows_firstMarked known inertSeverity inertCode free unmarked.noTag), shown,
        behind.display_eq, raw, toList_firstFull, visible_append]

end First

end Screen

/-! Issues. -/

namespace Issue

open RosettaDaml.Screen

/-- What the lines of an issue should show. -/
def fullTexts (issue : Issue) : List String :=
  [s!"{issue.severity.upperName} [{issue.code}] {issue.message}"] ++
    ((Text.nonEmpty? issue.path).toList.map fun path => s!"  at {path}") ++
    (Text.nonEmpty? issue.suggestion).toList.map fun suggestion => s!"  💡 {suggestion}"

/-- An issue of texts that hold characters only and have enough room on a screen. Its code is a word
without brackets. -/
structure IsOrdinary (width : Nat) (issue : Issue) : Prop where
  code : Text.IsPlain issue.code ∧ (∀ char ∈ issue.code.toList, isActive char = false) ∧
    ']' ∉ issue.code.toList
  message : Text.IsPlain issue.message
  path : ∀ path, issue.path = some path → Text.IsPlain path
  suggestion : ∀ suggestion, issue.suggestion = some suggestion → Text.IsPlain suggestion
  room : ∀ text ∈ issue.fullTexts, HasRoom width (visible text.toList)

/-- An issue of texts that a screen shows as they are where they stand. -/
structure IsUnmarked (issue : Issue) : Prop where
  message : Screen.IsUnmarked issue.message.toList
  path : ∀ path, issue.path = some path → StaysInside path.toList
  suggestion : ∀ suggestion, issue.suggestion = some suggestion → StaysInside suggestion.toList

end Issue

namespace Screen

variable {width : Nat} (wide : 2 ≤ width)

include wide

/-- A text in a style of its own, behind a few words. -/
theorem showsInFull_labelled_iff {style label text full marked : String}
    (good : isStyle style.toList = true)
    (inert : ∀ char ∈ label.toList ++ style.toList, isActive char = false)
    (plainLabel : IsPlain label) (plainStyle : IsPlain style) (plainText : IsPlain text)
    (sameFull : full = "  " ++ (label ++ text))
    (same : marked = "  " ++ ("[" ++ style ++ "]" ++ (label ++ text) ++ "[/" ++ style ++ "]"))
    (room : HasRoom width (visible full.toList)) :
    (Block.marked marked).ShowsInFull width full ↔ StaysInside text.toList := by
  subst sameFull same
  obtain ⟨inertLabel, inertStyle⟩ := List.forall_mem_append.1 inert
  have blanks : ∀ char ∈ "  ".toList ++ style.toList, isActive char = false :=
    List.forall_mem_append.2 ⟨inert_of_all (by decide), inertStyle⟩
  rw [showsInFull_styled_iff good blanks (.of_free (by decide)) plainStyle
      (plainLabel.append plainText) wide room,
    String.toList_append, staysInside_append inertLabel]

/-- The line of a path is shown in full exactly if the path stays inside its style. -/
theorem showsInFull_path_iff {path : String} (plainPath : IsPlain path)
    (room : HasRoom width (visible s!"  at {path}".toList)) :
    (Block.marked s!"  [dim]at {path}[/dim]").ShowsInFull width s!"  at {path}" ↔
      StaysInside path.toList := by
  refine @showsInFull_labelled_iff width wide "dim" "at " path _ _ (by decide +kernel)
    (inert_of_all (by decide)) (.of_free (by decide)) (.of_free (by decide)) plainPath ?_ ?_ room
  · simp [← String.toList_inj, toString]
  · simp [← String.toList_inj, toString]

/-- So is the line of a suggestion. -/
theorem showsInFull_suggestion_iff {suggestion : String} (plainSuggestion : IsPlain suggestion)
    (room : HasRoom width (visible s!"  💡 {suggestion}".toList)) :
    (Block.marked s!"  [green]💡 {suggestion}[/green]").ShowsInFull width s!"  💡 {suggestion}" ↔
      StaysInside suggestion.toList := by
  refine @showsInFull_labelled_iff width wide "green" "💡 " suggestion _ _ (by decide +kernel)
    (inert_of_all (by decide)) (.of_free (by decide)) (.of_free (by decide)) plainSuggestion ?_ ?_
    room
  · simp [← String.toList_inj, toString]
  · simp [← String.toList_inj, toString]

omit wide

/-- Lists in two parts of the same lengths are related part by part. -/
theorem forall₂_append_iff {Item Other : Type} {related : Item → Other → Prop}
    {front rest : List Item} {others more : List Other} (lengths : front.length = others.length) :
    List.Forall₂ related (front ++ rest) (others ++ more) ↔
      List.Forall₂ related front others ∧ List.Forall₂ related rest more := by
  induction front generalizing others with
  | nil =>
      obtain rfl := List.eq_nil_of_length_eq_zero lengths.symm
      simp
  | cons item front inductionHypothesis =>
      cases others with
      | nil => cases lengths
      | cons other others =>
          rw [List.cons_append, List.cons_append, List.forall₂_cons, List.forall₂_cons,
            inductionHypothesis (Nat.succ.inj lengths), and_assoc]

/-- The name of a severity holds letters only. -/
theorem inert_upperName (severity : Severity) :
    Text.halfMark ∉ severity.upperName.toList ∧
      ∀ char ∈ severity.upperName.toList, isActive char = false := by
  cases severity <;> exact ⟨by decide, inert_of_all (by decide)⟩

/-- A text that is missing is not lost. -/
theorem staysInside_nil : StaysInside [] :=
  ⟨isUnmarked_of_inert (by simp), by simp⟩

/-- An empty text counts as missing. -/
theorem forall_nonEmpty?_iff {given : Option String} :
    (∀ text ∈ (Text.nonEmpty? given).toList, StaysInside text.toList) ↔
      ∀ text, given = some text → StaysInside text.toList := by
  cases given with
  | none => simp [Text.nonEmpty?]
  | some text =>
      by_cases empty : text = ""
      · subst empty
        simpa [Text.nonEmpty?] using staysInside_nil
      · simp [Text.nonEmpty?, empty]

include wide in
/-- The lines of an issue show it in full exactly if its texts are unmarked. -/
theorem showsInFull_issueBlocks_iff {color : String} (known : color ∈ issueColors) {issue : Issue}
    (ordinary : issue.IsOrdinary width) :
    List.Forall₂ (Block.ShowsInFull width) (issueBlocks color issue) issue.fullTexts ↔
      issue.IsUnmarked := by
  obtain ⟨noMark, inertSeverity⟩ := inert_upperName issue.severity
  obtain ⟨plainCode, inertCode, free⟩ := ordinary.code
  have first : (Block.marked (s!"[{color} bold]{issue.severity.upperName}[/{color} bold] " ++
      s!"[{color}]\\[{issue.code}][/{color}] {issue.message}")).ShowsInFull width
        s!"{issue.severity.upperName} [{issue.code}] {issue.message}" ↔
      IsUnmarked issue.message.toList := by
    have marked : s!"[{color} bold]{issue.severity.upperName}[/{color} bold] " ++
        s!"[{color}]\\[{issue.code}][/{color}] {issue.message}" =
          firstMarked color issue.severity.upperName issue.code issue.message := by
      simp [firstMarked, ← String.toList_inj, toString]
    rw [marked]
    exact showsInFull_firstMarked_iff known inertSeverity inertCode free (.of_free noMark)
      plainCode ordinary.message wide
      (ordinary.room _ (List.mem_append_left _ (List.mem_append_left _ List.mem_cons_self)))
  have path (path : String) (member : path ∈ (Text.nonEmpty? issue.path).toList) :
      (Block.marked s!"  [dim]at {path}[/dim]").ShowsInFull width s!"  at {path}" ↔
        StaysInside path.toList :=
    showsInFull_path_iff wide
      (ordinary.path path (Text.nonEmpty?_eq_some (Option.mem_toList.1 member)))
      (ordinary.room _ (List.mem_append_left _ (List.mem_append_right _ (List.mem_map_of_mem member))))
  have suggestion (hint : String) (member : hint ∈ (Text.nonEmpty? issue.suggestion).toList) :
      (Block.marked s!"  [green]💡 {hint}[/green]").ShowsInFull width s!"  💡 {hint}" ↔
        StaysInside hint.toList :=
    showsInFull_suggestion_iff wide
      (ordinary.suggestion hint (Text.nonEmpty?_eq_some (Option.mem_toList.1 member)))
      (ordinary.room _ (List.mem_append_right _ (List.mem_map_of_mem member)))
  -- The lines come one for one, so the whole is shown in full when each of them is.
  rw [issueBlocks, Issue.fullTexts, forall₂_append_iff (by simp), forall₂_append_iff (by simp),
    List.forall₂_map_left_iff, List.forall₂_map_right_iff, List.forall₂_same,
    List.forall₂_map_left_iff, List.forall₂_map_right_iff, List.forall₂_same, List.forall₂_cons,
    first, forall₂_congr path, forall₂_congr suggestion, forall_nonEmpty?_iff,
    forall_nonEmpty?_iff]
  constructor
  · rintro ⟨⟨⟨message, -⟩, path⟩, suggestion⟩
    exact ⟨message, path, suggestion⟩
  · rintro ⟨message, path, suggestion⟩
    exact ⟨⟨⟨message, .nil⟩, path⟩, suggestion⟩

/-- Lists of lists of the same lengths are related list by list. -/
theorem forall₂_flatMap_iff {Item Other More : Type} {related : Other → More → Prop}
    {first : Item → List Other} {second : Item → List More} {holds : Item → Prop} {items : List Item}
    (lengths : ∀ item ∈ items, (first item).length = (second item).length)
    (each : ∀ item ∈ items, List.Forall₂ related (first item) (second item) ↔ holds item) :
    List.Forall₂ related (items.flatMap first) (items.flatMap second) ↔
      ∀ item ∈ items, holds item := by
  induction items with
  | nil => simp
  | cons item items inductionHypothesis =>
      obtain ⟨length, lengths⟩ := List.forall_mem_cons.1 lengths
      obtain ⟨here, behind⟩ := List.forall_mem_cons.1 each
      rw [List.flatMap_cons, List.flatMap_cons, forall₂_append_iff length, here,
        inductionHypothesis lengths behind, List.forall_mem_cons]

/-- The lines of an issue in its color. -/
def issueView (issue : Issue) : List Block := issueBlocks (colorOf issue.severity) issue

/-- The lines of the issues stand between the summary and the totals, those of the errors first. -/
theorem textView_of_issues {report : Report} (issues : report.isAccepted true = false)
    (moduleName : Option String) :
    textView moduleName report = summary moduleName report ::
      ((report.errors ++ report.warnings).flatMap issueView ++ [totals report]) := by
  have colored (severity : Severity) (color : String) (same : colorOf severity = color) :
      (report.issues.filter fun issue => issue.severity == severity).flatMap (issueBlocks color) =
        (report.issues.filter fun issue => issue.severity == severity).flatMap issueView := by
    refine List.flatMap_congr fun issue member => ?_
    rw [issueView, beq_iff_eq.1 (List.mem_filter.1 member).2, same]
  rw [textView, if_neg (by simp [issues]), List.flatMap_append, Report.errors, Report.warnings,
    colored .error "red" (by decide), colored .warning "yellow" (by decide)]
  simp

include wide in
/-- A report with errors or warnings is shown as text between a summary and their numbers: first the
lines of the errors and then those of the warnings, each in order. They show all issues in full
exactly if the texts of the issues are unmarked. -/
theorem showsInFull_textView_iff {report : Report} (issues : report.isAccepted true = false)
    (ordinary : ∀ issue ∈ report.errors ++ report.warnings, issue.IsOrdinary width)
    (moduleName : Option String) :
    ∃ middle, textView moduleName report =
        summary moduleName report :: (middle ++ [totals report]) ∧
      (List.Forall₂ (Block.ShowsInFull width) middle
          ((report.errors ++ report.warnings).flatMap Issue.fullTexts) ↔
        ∀ issue ∈ report.errors ++ report.warnings, issue.IsUnmarked) := by
  refine ⟨_, textView_of_issues issues moduleName, forall₂_flatMap_iff (fun issue _ => ?_)
    fun issue member => ?_⟩
  · simp [issueView, issueBlocks, Issue.fullTexts]
  · exact showsInFull_issueBlocks_iff wide (colorOf_mem_issueColors issue.severity)
      (ordinary issue member)

def reservedName : Issue :=
  ⟨"W005", "Name 'data' is reserved: use another", .warning, none, some "Rename [Trade].data", []⟩

def missingType : Issue :=
  ⟨"E001", "Type 'Leg' of card [0..*] is not declared", .error, some "Trade.fields.leg", none, []⟩

/-- A report with an error behind a warning. -/
def twoIssues : Report := ⟨[reservedName, missingType]⟩

/-- Both issues fit on a screen of eighty cells. -/
theorem isOrdinary_of_mem_twoIssues :
    ∀ issue ∈ twoIssues.errors ++ twoIssues.warnings, issue.IsOrdinary 80 := by
  have fits : ∀ issue ∈ twoIssues.errors ++ twoIssues.warnings, ∀ text ∈ issue.fullTexts,
      ∀ line ∈ Text.splitChars (· == '\n') (visible text.toList),
        cellCount (expandTabs 0 (Text.places line)) ≤ 80 := by
    decide +kernel
  have room (issue : Issue) (member : issue ∈ twoIssues.errors ++ twoIssues.warnings) :
      ∀ text ∈ issue.fullTexts, HasRoom 80 (visible text.toList) :=
    fun text inside line written => .inl (fits issue member text inside line written)
  refine List.forall_mem_cons.2 ⟨?_, List.forall_mem_singleton.2 ?_⟩
  · refine ⟨⟨.of_free (by decide), inert_of_all (by decide), by decide⟩, .of_free (by decide), ?_,
      fun hint given => (by cases given), room missingType (.head _)⟩
    rintro path given
    cases given
    exact .of_free (by decide)
  · refine ⟨⟨.of_free (by decide), inert_of_all (by decide), by decide⟩, .of_free (by decide),
      fun path given => (by cases given), ?_, room reservedName (.tail _ (.head _))⟩
    rintro hint given
    cases given
    exact .of_free (by decide)

/-- The lines of both issues show them in full exactly if their texts are unmarked. -/
theorem showsInFull_textView_iff_two :
    2 ≤ 80 ∧ twoIssues.isAccepted true = false ∧
      (∀ issue ∈ twoIssues.errors ++ twoIssues.warnings, issue.IsOrdinary 80) ∧
      ∃ middle, textView none twoIssues =
          summary none twoIssues :: (middle ++ [totals twoIssues]) ∧
        (List.Forall₂ (Block.ShowsInFull 80) middle
            ((twoIssues.errors ++ twoIssues.warnings).flatMap Issue.fullTexts) ↔
          ∀ issue ∈ twoIssues.errors ++ twoIssues.warnings, issue.IsUnmarked) :=
  ⟨by decide, by decide, isOrdinary_of_mem_twoIssues,
    showsInFull_textView_iff (by decide) (by decide) isOrdinary_of_mem_twoIssues none⟩

/-- A report of an error whose message holds a tag. -/
def taggedReport : Report :=
  ⟨[⟨"E001", "Type 'list[bold]' is referenced but not declared", .error, some "Trade.fields.legs",
    none, []⟩]⟩

/-- The tag is shown on no screen. -/
theorem not_forall_showsInFull :
    ¬ ∃ width, ∀ (moduleName : Option String) (report : Report), report.isAccepted true = false →
      ∃ middle, textView moduleName report =
          summary moduleName report :: (middle ++ [totals report]) ∧
        List.Forall₂ (Block.ShowsInFull width) middle
          ((report.errors ++ report.warnings).flatMap Issue.fullTexts) := by
  rintro ⟨width, always⟩
  obtain ⟨middle, viewed, shows⟩ := always none taggedReport (by decide)
  rw [textView_of_issues (by decide)] at viewed
  obtain rfl := List.append_cancel_right (List.cons.inj viewed).2
  obtain ⟨first, -⟩ :=
    List.forall₂_cons.1 (show List.Forall₂ (Block.ShowsInFull width) (_ :: _) (_ :: _) from shows)
  have fewer := (first.solid_sublist (.of_free (by decide +kernel))).length_le
  revert fewer
  decide +kernel

end Screen

end RosettaDaml
