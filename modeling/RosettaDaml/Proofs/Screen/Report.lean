/-
This file shows that a report is always shown when its texts hold no brackets.
-/

import RosettaDaml.Proofs.Screen.Lines
import RosettaDaml.Proofs.Text.Number
import RosettaDaml.Screen.ReportView

namespace RosettaDaml

/-- An issue without brackets, of a code that is no tag when brackets are put around it. -/
structure Issue.HasNoBrackets (issue : Issue) : Prop where
  code : '[' ∉ issue.code.toList
  bracketed : Screen.isTagless ("\\[" ++ issue.code ++ "]").toList = true
  message : '[' ∉ issue.message.toList
  path : ∀ path, issue.path = some path → '[' ∉ path.toList
  suggestion : ∀ suggestion, issue.suggestion = some suggestion → '[' ∉ suggestion.toList

/-- A text that counts is the one that is given. -/
theorem Text.nonEmpty?_eq_some {given : Option String} {text : String}
    (known : Text.nonEmpty? given = some text) : given = some text := by
  cases given with
  | none => exact absurd known (by simp [Text.nonEmpty?])
  | some given =>
      rw [Text.nonEmpty?] at known
      split at known
      · exact absurd known (by simp)
      · exact known

/-- The name of a severity holds no bracket. -/
theorem Severity.not_mem_upperName (severity : Severity) : '[' ∉ severity.upperName.toList := by
  cases severity <;> decide

namespace Screen

/-- The colors of issues. -/
def issueColors : List String := ["red", "yellow"]

/-- The colors are styles, also in bold. -/
theorem isStyle_of_mem_issueColors {color : String} (known : color ∈ issueColors) :
    isStyle color.toList = true ∧ isStyle (color ++ " bold").toList = true := by
  revert color
  unfold issueColors
  decide +kernel

/-- Every severity has one of the colors. -/
theorem colorOf_mem_issueColors (severity : Severity) : colorOf severity ∈ issueColors := by
  cases severity <;> decide

/-- A text without brackets is shown. -/
theorem Label.canShow_of_free {text : String} (free : '[' ∉ text.toList) :
    (Label.marked text).CanShow :=
  Label.canShow_marked (.bare (isTagless_of_free free))

/-- A text with one style in it. -/
theorem Label.canShow_behind (front style inner rest : String) {text : String} (free : '[' ∉ front.toList)
    (ends : front.toList.getLast? ≠ some '\\') (good : isStyle style.toList = true)
    (freeInner : '[' ∉ inner.toList) (freeRest : '[' ∉ rest.toList)
    (same : text = front ++ ("[" ++ style ++ "]" ++ inner ++ "[/" ++ style ++ "]" ++ rest)) :
    (Label.marked text).CanShow := by
  rw [same]
  exact Label.canShow_marked (.behind free ends good (isTagless_of_free freeInner)
    (.bare (isTagless_of_free freeRest)))

section Issue

variable {issue : Issue} (free : issue.HasNoBrackets)

include free

/-- The lines of an issue are shown. -/
theorem canShow_of_mem_issueBlocks {color : String} (known : color ∈ issueColors) :
    ∀ block ∈ issueBlocks color issue, ∀ label ∈ block.labels, label.CanShow := by
  obtain ⟨plain, bold⟩ := isStyle_of_mem_issueColors known
  refine List.forall_mem_append.2 ⟨List.forall_mem_append.2 ⟨?_, fun block member => ?_⟩,
    fun block member => ?_⟩
  · refine List.forall_mem_singleton.2 (List.forall_mem_singleton.2 (Label.canShow_marked ?_))
    have message : IsStyled (" " ++ issue.message).toList :=
      .bare (isTagless_of_free (by simpa using free.message))
    have coded := @IsStyled.behind " " color _ _ (by decide) (by decide) plain free.bracketed message
    have whole := IsStyled.pair bold (isTagless_of_free issue.severity.not_mem_upperName) coded
    have same : "[" ++ color ++ " bold]" ++ issue.severity.upperName ++ "[/" ++ color ++ " bold] " ++
        ("[" ++ color ++ "]\\[" ++ issue.code ++ "][/" ++ color ++ "] " ++ issue.message) =
          "[" ++ (color ++ " bold") ++ "]" ++ issue.severity.upperName ++
            "[/" ++ (color ++ " bold") ++ "]" ++ (" " ++ ("[" ++ color ++ "]" ++
              ("\\[" ++ issue.code ++ "]") ++ "[/" ++ color ++ "]" ++ (" " ++ issue.message))) := by
      simp [← String.toList_inj]
    rw [← same] at whole
    exact whole
  · obtain ⟨path, given, rfl⟩ := List.mem_map.1 member
    have freePath := free.path path (Text.nonEmpty?_eq_some (Option.mem_toList.1 given))
    refine List.forall_mem_singleton.2 (Label.canShow_behind "  " "dim" ("at " ++ path) ""
      (by decide) (by decide) (by decide +kernel) (by simpa using freePath) (by decide) ?_)
    simp [← String.toList_inj, toString]
  · obtain ⟨suggestion, given, rfl⟩ := List.mem_map.1 member
    have freeHint := free.suggestion suggestion (Text.nonEmpty?_eq_some (Option.mem_toList.1 given))
    refine List.forall_mem_singleton.2 (Label.canShow_behind "  " "green" ("💡 " ++ suggestion) ""
      (by decide) (by decide) (by decide +kernel) (by simpa using freeHint) (by decide) ?_)
    simp [← String.toList_inj, toString]

/-- So are the cells of its row. -/
theorem canShow_of_mem_issueRow : ∀ label ∈ issueRow issue, label.CanShow := by
  have plain := (isStyle_of_mem_issueColors (colorOf_mem_issueColors issue.severity)).1
  have path : '[' ∉ ((Text.nonEmpty? issue.path).getD "-").toList := by
    cases given : Text.nonEmpty? issue.path with
    | none => decide
    | some path => exact free.path path (Text.nonEmpty?_eq_some given)
  refine List.forall_mem_cons.2 ⟨Label.canShow_of_free free.code, List.forall_mem_cons.2 ⟨?_, ?_⟩⟩
  · refine Label.canShow_behind "" (colorOf issue.severity) issue.severity.upperName "" (by decide)
      (by decide) plain issue.severity.not_mem_upperName (by decide) ?_
    simp [toString]
  · exact List.forall_mem_cons.2 ⟨Label.canShow_of_free path,
      List.forall_mem_singleton.2 (Label.canShow_of_free free.message)⟩

/-- And so is its leaf in a tree. -/
theorem canShow_issueLeaf : (issueLeaf issue).CanShow := by
  have plain := (isStyle_of_mem_issueColors (colorOf_mem_issueColors issue.severity)).1
  refine Label.canShow_behind "" (colorOf issue.severity) issue.code (" " ++ issue.message)
    (by decide) (by decide) plain free.code (by simpa using free.message) ?_
  simp [← String.toList_inj, toString]

/-- The owner of an issue is a part of its path. -/
theorem not_mem_ownerOf : '[' ∉ (ownerOf issue).toList := by
  rw [ownerOf]
  split
  · decide
  case h_2 path given =>
    have freePath := free.path path (Text.nonEmpty?_eq_some given)
    cases pieces : Text.splitAtChar '.' path with
    | nil => simp
    | cons first rest =>
        have known : first ∈ Text.splitAtChar '.' path := by simp [pieces]
        exact fun member => freePath (Text.mem_of_mem_splitAtChar known member)

end Issue

/-- The branch of an owner is shown. -/
theorem canShow_branch {owner : String} (free : '[' ∉ owner.toList) (count : Nat) :
    (Label.marked s!"[cyan]{owner}[/cyan] ({count} issues)").CanShow := by
  have freeCount : '[' ∉ (toString count).toList := Text.not_mem_toString (by decide) count
  change (Label.marked ("[cyan]" ++ owner ++ "[/cyan] (" ++ toString count ++ " issues)")).CanShow
  generalize toString count = shown at freeCount ⊢
  refine Label.canShow_behind "" "cyan" owner (" (" ++ shown ++ " issues)") (by decide) (by decide)
    (by decide +kernel) free (by simpa using freeCount) ?_
  simp [← String.toList_inj]

/-- A report without brackets is shown in every style. -/
theorem canShow_of_mem_reportView {report : Report}
    (free : ∀ issue ∈ report.issues, issue.HasNoBrackets) (style : ReportStyle)
    (moduleName : Option String) :
    ∀ block ∈ reportView style moduleName report, ∀ label ∈ block.labels, label.CanShow := by
  cases style with
  | text =>
      rw [reportView, textView]
      split
      · exact List.forall_mem_singleton.2 (List.forall_mem_singleton.2 (Label.canShow_raw _))
      · have listed (severity : Severity) {color : String} (known : color ∈ issueColors) :
            ∀ block ∈ (report.issues.filter (·.severity == severity)).flatMap (issueBlocks color),
              ∀ label ∈ block.labels, label.CanShow := by
          intro block member
          obtain ⟨issue, inside, member⟩ := List.mem_flatMap.1 member
          exact canShow_of_mem_issueBlocks (free issue (List.mem_filter.1 inside).1) known block member
        refine List.forall_mem_append.2 ⟨List.forall_mem_append.2 ⟨List.forall_mem_append.2
          ⟨?_, listed .error (by decide)⟩, listed .warning (by decide)⟩, ?_⟩
        · exact List.forall_mem_singleton.2 (List.forall_mem_singleton.2 (Label.canShow_raw _))
        · exact List.forall_mem_singleton.2 (List.forall_mem_singleton.2 (Label.canShow_raw _))
  | table =>
      refine List.forall_mem_singleton.2 fun label member => ?_
      obtain ⟨row, inside, member⟩ := List.mem_flatten.1 member
      obtain ⟨issue, known, rfl⟩ := List.mem_map.1 inside
      exact canShow_of_mem_issueRow (free issue known) label member
  | tree =>
      refine List.forall_mem_singleton.2 fun label member => ?_
      obtain ⟨branch, inside, member⟩ := List.mem_flatMap.1 member
      obtain ⟨entry, grouped, rfl⟩ := List.mem_map.1 inside
      obtain ⟨owner, owned, rfl⟩ := List.mem_map.1 grouped
      obtain rfl | leaf := List.mem_cons.1 member
      · rw [List.mem_mergeSort, List.mem_eraseDups] at owned
        obtain ⟨issue, known, rfl⟩ := List.mem_map.1 owned
        exact canShow_branch (not_mem_ownerOf (free issue known)) _
      · obtain ⟨issue, known, rfl⟩ := List.mem_map.1 leaf
        exact canShow_issueLeaf (free issue (List.mem_filter.1 known).1)

end Screen

end RosettaDaml
