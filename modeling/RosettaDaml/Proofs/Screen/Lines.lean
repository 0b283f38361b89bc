/-
This file shows that a screen does not stop at texts whose tags pair up, and that the lines on it
hold nothing that was not in the texts.
-/

import RosettaDaml.Proofs.Screen.Markup
import RosettaDaml.Screen.Block

namespace RosettaDaml.Screen

open RosettaDaml.Text (IsPlain Place)

/-! Lines. -/

section Kept

variable (keep : Place → Prop) (keepBlank : keep blank)

include keepBlank

/-- A tab becomes blanks. -/
theorem keep_expandTabs {places : List Place} (taken : Nat) (all : ∀ place ∈ places, keep place) :
    ∀ place ∈ expandTabs taken places, keep place := by
  induction places generalizing taken with
  | nil => simp [expandTabs]
  | cons place rest inductionHypothesis =>
      obtain ⟨here, behind⟩ := List.forall_mem_cons.1 all
      rw [expandTabs]
      split
      · refine List.forall_mem_append.2 ⟨fun other member => ?_, inductionHypothesis _ behind⟩
        rw [List.eq_of_mem_replicate member]
        exact keepBlank
      · exact List.forall_mem_cons.2 ⟨here, inductionHypothesis _ behind⟩

/-- A line is cut off, or filled up with blanks. -/
theorem keep_fitCells {places : List Place} (cells : Nat) (all : ∀ place ∈ places, keep place) :
    ∀ place ∈ fitCells cells places, keep place := by
  have front (length : Nat) : ∀ place ∈ places.take length, keep place :=
    fun place member => all place (List.mem_of_mem_take member)
  have single : ∀ place ∈ [blank], keep place := by simpa using keepBlank
  rw [fitCells]
  split
  · refine List.forall_mem_append.2 ⟨all, fun other member => ?_⟩
    rw [List.eq_of_mem_replicate member]
    exact keepBlank
  · split
    · exact List.forall_mem_append.2 ⟨front _, single⟩
    · exact front _

/-- Wrapping adds blanks and ellipses only. -/
theorem keep_wrapLine (keepEllipsis : keep (.plain '…')) {line : List Place} (width : Nat)
    (overflow : Overflow) (all : ∀ place ∈ line, keep place) :
    ∀ part ∈ wrapLine width overflow line, ∀ place ∈ part, keep place := by
  have divided (cuts : List Nat) (position : Nat) (places : List Place)
      (all : ∀ place ∈ places, keep place) :
      ∀ part ∈ divideFrom position places cuts, ∀ place ∈ part, keep place := by
    induction cuts generalizing position places with
    | nil => simpa [divideFrom] using all
    | cons cut cuts inductionHypothesis =>
        refine List.forall_mem_cons.2 ⟨fun place member => ?_, ?_⟩
        · exact all place (List.mem_of_mem_take member)
        · exact inductionHypothesis _ _ fun place member => all place (List.mem_of_mem_drop member)
  intro part member
  obtain ⟨piece, inside, rfl⟩ := List.mem_map.1 member
  have kept := divided _ _ _ (keep_expandTabs keep keepBlank 0 all) piece inside
  have trimmed : ∀ place ∈ dropEndBlanks width piece, keep place :=
    fun place member => kept place (List.mem_of_mem_take member)
  unfold clip
  split
  · exact trimmed
  · cases overflow with
    | fold => exact keep_fitCells keep keepBlank width trimmed
    | ellipsis =>
        refine List.forall_mem_append.2 ⟨keep_fitCells keep keepBlank (width - 1) trimmed, ?_⟩
        simpa using keepEllipsis

end Kept

/-- A text has a half exactly when one of its places is one. -/
theorem hasHalf_ofPlaces (places : List Place) :
    Text.hasHalf (String.ofList (Text.ofPlaces places)) = places.any Place.isHalf := by
  rw [Text.hasHalf, String.toList_ofList, Text.places_ofPlaces]

/-- A text of characters is written on lines of characters. -/
theorem hasHalf_of_mem_wrap {text : String} (plain : IsPlain text) (width : Nat)
    (overflow : Overflow) : ∀ line ∈ wrap width overflow text, Text.hasHalf line = false := by
  intro line member
  obtain ⟨piece, inside, member⟩ := List.mem_flatMap.1 member
  obtain ⟨part, wrapped, rfl⟩ := List.mem_map.1 member
  have plainPiece := (Text.IsPlain.iff_arePlain.1 plain).splitChars (by decide) (by decide) piece inside
  have whole := keep_wrapLine (fun place => place.isHalf = false) rfl rfl width overflow
    (fun place known => plainPiece.isHalf_of_mem_places known) part wrapped
  rw [hasHalf_ofPlaces, List.any_eq_false]
  exact fun place known => by simp [whole place known]

/-! Blocks. -/

/-- A label that is always shown. -/
def Label.CanShow (label : Label) : Prop := ∃ text, label.shown = .ok text

/-- A text without tags is always shown. -/
theorem Label.canShow_raw (text : String) : (Label.raw text).CanShow := ⟨_, rfl⟩

/-- So is one whose tags pair up. -/
theorem Label.canShow_marked {text : String} (styled : IsStyled text.toList) :
    (Label.marked text).CanShow := by
  obtain ⟨shown, known, -⟩ := exists_plain styled
  exact ⟨shown, known⟩

namespace Block

/-- The labels in a block. -/
def labels : Block → List Label
  | .text content => [content]
  | .panel _ content => [content]
  | .table _ _ rows => rows.flatten
  | .tree _ branches => branches.flatMap fun (branch, leaves) => branch :: leaves

/-- Acts that all succeed give all their results. -/
theorem exists_mapM_eq_ok {Fault Item Result : Type} {act : Item → Except Fault Result}
    {items : List Item} (each : ∀ item ∈ items, ∃ result, act item = .ok result) :
    ∃ results, items.mapM act = .ok results := by
  induction items with
  | nil => exact ⟨[], rfl⟩
  | cons item rest inductionHypothesis =>
      obtain ⟨⟨result, here⟩, behind⟩ := List.forall_mem_cons.1 each
      obtain ⟨results, known⟩ := inductionHypothesis behind
      exact ⟨result :: results, by rw [List.mapM_cons, here, known]; rfl⟩

section Tables

variable {columns : List Column} {rows : List (List Label)}
  (shown : ∀ row ∈ rows, ∀ label ∈ row, label.CanShow)

include shown

/-- The cells that are measured are cells of the table. -/
theorem canShow_of_mem_measuredCells : ∀ label ∈ measuredCells columns rows, label.CanShow := by
  intro label member
  obtain ⟨⟨column, index⟩, -, member⟩ := List.mem_flatMap.1 member
  dsimp only at member
  split at member
  · simp at member
  · obtain ⟨row, inside, known⟩ := List.mem_filterMap.1 member
    exact shown row inside label (List.mem_of_getElem? known)

/-- A table whose cells are shown is shown. -/
theorem exists_tableLines (title : String) (width : Nat) :
    ∃ lines, tableLines title columns rows width = .ok lines := by
  have looked : ((measuredCells columns rows).forM fun label => do
      let _ ← label.shown) = Except.ok PUnit.unit := by
    refine forM_eq_ok fun label member => ?_
    obtain ⟨text, known⟩ := canShow_of_mem_measuredCells shown label member
    rw [known]
    rfl
  obtain ⟨texts, known⟩ : ∃ texts, rows.mapM (fun row => row.mapM Label.shown) = .ok texts :=
    exists_mapM_eq_ok fun row member => exists_mapM_eq_ok (shown row member)
  rw [tableLines, looked, known]
  exact ⟨_, rfl⟩

end Tables

section Trees

variable {width : Nat} {label : Label} {leaves : List Label}
  {branches : List (Label × List Label)}

/-- A label that is shown is wrapped. -/
theorem exists_wrapped (shown : label.CanShow) :
    ∃ lines, (do return wrap width .fold (← label.shown) : Except MarkupFault (List String)) =
      .ok lines := by
  obtain ⟨text, known⟩ := shown
  rw [known]
  exact ⟨_, rfl⟩

/-- A branch and its leaves, each on lines of a width of its own. -/
theorem exists_branchLines {leafWidth : Nat} (shown : label.CanShow)
    (shownLeaves : ∀ leaf ∈ leaves, leaf.CanShow) :
    ∃ lines, (do
      let text := wrap width .fold (← label.shown)
      let leaves ← leaves.mapM fun leaf => return wrap leafWidth .fold (← leaf.shown)
      return text ++ leaves.flatten : Except MarkupFault (List String)) = .ok lines := by
  obtain ⟨text, known⟩ := shown
  obtain ⟨texts, knownToo⟩ : ∃ texts, leaves.mapM (fun leaf =>
      return wrap leafWidth .fold (← leaf.shown) : Label → Except MarkupFault (List String)) =
        .ok texts :=
    exists_mapM_eq_ok fun leaf inside => exists_wrapped (shownLeaves leaf inside)
  rw [known]
  change ∃ lines, (leaves.mapM _ >>= _) = Except.ok lines
  rw [knownToo]
  exact ⟨_, rfl⟩

/-- A tree whose labels are shown is shown. -/
theorem exists_treeLines (title : String) (width : Nat)
    (shown : ∀ branch ∈ branches, branch.1.CanShow ∧ ∀ leaf ∈ branch.2, leaf.CanShow) :
    ∃ lines, treeLines title branches width = .ok lines := by
  obtain ⟨parts, known⟩ := exists_mapM_eq_ok fun branch member =>
    exists_branchLines (shown branch member).1 (shown branch member).2
  rw [treeLines]
  rw [known]
  exact ⟨_, rfl⟩

end Trees

/-- A block has lines when all its labels are shown. -/
theorem exists_lines {block : Block} (shown : ∀ label ∈ block.labels, label.CanShow)
    (width : Nat) : ∃ lines, block.lines width = .ok lines := by
  cases block with
  | text content =>
      obtain ⟨text, known⟩ := shown content List.mem_cons_self
      exact ⟨_, by rw [lines, known]; rfl⟩
  | panel title content =>
      obtain ⟨text, known⟩ := shown content List.mem_cons_self
      exact ⟨_, by rw [lines, known]; rfl⟩
  | table title columns rows =>
      exact exists_tableLines (fun row member label inside =>
        shown label (List.mem_flatten.2 ⟨row, member, inside⟩)) title width
  | tree title branches =>
      refine exists_treeLines title width fun branch member => ?_
      have inside {part : Label} (known : part ∈ branch.1 :: branch.2) : part.CanShow :=
        shown part (List.mem_flatMap.2 ⟨branch, member, known⟩)
      exact ⟨inside List.mem_cons_self, fun leaf known => inside (List.mem_cons_of_mem _ known)⟩

end Block

/-- A block that is shown on a channel, on screens of all widths: it has lines, which hold only
characters on the output. -/
def Block.ShowsOn (channel : Channel) (block : Block) : Prop :=
  ∀ width, ∃ lines, block.lines width = .ok lines ∧
    (channel = .output → ∀ line ∈ lines, Text.hasHalf line = false)

namespace Block

/-- What can be shown is always shown on the channel for errors. -/
theorem showsOn_errors {block : Block} (shown : ∀ label ∈ block.labels, label.CanShow) :
    block.ShowsOn .errors := by
  intro width
  obtain ⟨lines, known⟩ := exists_lines shown width
  exact ⟨lines, known, fun same => absurd same (by decide)⟩

/-- A text without tags, in particular. -/
theorem showsOn_errors_raw (text : String) : (Block.text (.raw text)).ShowsOn .errors :=
  showsOn_errors (List.forall_mem_singleton.2 (Label.canShow_raw text))

/-- Characters are shown on both channels. -/
theorem showsOn_raw {text : String} (plain : IsPlain text) (channel : Channel) :
    (Block.text (.raw text)).ShowsOn channel := by
  have visible : IsPlain (Screen.raw text) :=
    .ofList (arePlain_visible (Text.IsPlain.iff_arePlain.1 plain))
  exact fun width => ⟨_, rfl, fun _ => hasHalf_of_mem_wrap visible width .fold⟩

/-- So are characters between tags that pair up. -/
theorem showsOn_marked {text : String} (styled : IsStyled text.toList) (plain : IsPlain text)
    (channel : Channel) : (marked text).ShowsOn channel := by
  obtain ⟨shown, known, plainShown⟩ := exists_plain styled
  intro width
  refine ⟨wrap width .fold shown, ?_, fun _ => hasHalf_of_mem_wrap (plainShown plain) _ _⟩
  rw [marked, lines, Label.shown, known]
  rfl

end Block

namespace Shown

/-- Lines without halves can be added on both channels. -/
theorem fault_add {shown : Shown} {channel : Channel} {lines : List String}
    (clear : shown.fault = none)
    (whole : channel = .output → ∀ line ∈ lines, Text.hasHalf line = false) :
    (shown.add channel lines).fault = none := by
  cases channel with
  | errors => exact clear
  | output =>
      have none : lines.any Text.hasHalf = false :=
        List.any_eq_false.2 fun line member => by simp [whole rfl line member]
      simp [add, none, clear]

/-- A screen shows everything when each block is shown on its channel. -/
theorem fault_ofBlocks {blocks : List (Channel × Block)}
    (each : ∀ entry ∈ blocks, entry.2.ShowsOn entry.1) (width : Nat) :
    (ofBlocks blocks width).fault = none := by
  refine List.foldlRecOn blocks _ (motive := fun shown : Shown => shown.fault = none) rfl ?_
  rintro shown clear ⟨channel, block⟩ member
  obtain ⟨lines, known, whole⟩ := each _ member width
  simp only [clear, Option.isSome_none, Bool.false_eq_true, if_false, known]
  exact fault_add clear whole

end Shown

end RosettaDaml.Screen
