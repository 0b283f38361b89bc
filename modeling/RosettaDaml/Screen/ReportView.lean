/-
This file shows reports as text, as a table and as a tree.
-/

import RosettaDaml.Consistency.Report
import RosettaDaml.OrderedMap
import RosettaDaml.Screen.Block

namespace RosettaDaml.Screen

inductive ReportStyle where
  | text
  | table
  | tree
  deriving DecidableEq, Repr

/-- Any other name stands for text. -/
def ReportStyle.ofName : String → ReportStyle
  | "table" => .table
  | "tree" => .tree
  | _ => .text

/-- Errors are red; all else is yellow. -/
def colorOf (severity : Severity) : String :=
  if severity = .error then "red" else "yellow"

/-! As text. -/

def issueBlocks (color : String) (issue : Issue) : List Block :=
  [.marked (s!"[{color} bold]{issue.severity.upperName}[/{color} bold] " ++
    s!"[{color}]\\[{issue.code}][/{color}] {issue.message}")] ++
  ((Text.nonEmpty? issue.path).toList.map fun path => .marked s!"  [dim]at {path}[/dim]") ++
  (Text.nonEmpty? issue.suggestion).toList.map fun suggestion =>
    .marked s!"  [green]💡 {suggestion}[/green]"

/-- The number of issues, where there are any. -/
def countText (label : String) (issues : List Issue) : List String :=
  if issues.isEmpty then [] else [s!"{label}{issues.length}"]

def summary (moduleName : Option String) (report : Report) : Block :=
  let title := if report.isValid then "Validation Warnings" else "Validation Failed"
  let owner := (Text.nonEmpty? moduleName).toList.map fun name => s!"Module: {name}\n"
  let counts := countText "Errors: " report.errors ++ countText "Warnings: " report.warnings
  .panel title (.raw (String.join owner ++ "  ".intercalate counts))

def totals (report : Report) : Block :=
  let errors := if report.isValid then [] else [s!"✗ {report.errors.length} error(s)"]
  let warnings :=
    if report.warnings.isEmpty then [] else [s!"{report.warnings.length} warning(s)"]
  .text (.raw (", ".intercalate (errors ++ warnings)))

def textView (moduleName : Option String) (report : Report) : List Block :=
  if report.isAccepted true then [.text (.raw "✓ Validation passed")]
  else
    [summary moduleName report] ++ report.errors.flatMap (issueBlocks "red") ++
      report.warnings.flatMap (issueBlocks "yellow") ++ [totals report]

/-! As a table. -/

def issueRow (issue : Issue) : List Label :=
  let color := colorOf issue.severity
  [.marked issue.code, .marked s!"[{color}]{issue.severity.upperName}[/{color}]",
    .marked ((Text.nonEmpty? issue.path).getD "-"), .marked issue.message]

def issueColumns : List Column :=
  [⟨"Code", some 6⟩, ⟨"Severity", some 8⟩, ⟨"Location", none⟩, ⟨"Message", none⟩]

def tableView (report : Report) : List Block :=
  [.table "Validation Issues" issueColumns (report.issues.map issueRow)]

/-! As a tree. -/

/-- The declaration that an issue belongs to: the path up to its first dot. -/
def ownerOf (issue : Issue) : String :=
  match Text.nonEmpty? issue.path with
  | none => "general"
  | some path => (Text.splitAtChar '.' path).headD ""

/-- The owners of the issues in the order of their names, each with its issues. -/
def byOwner (issues : List Issue) : List (String × List Issue) :=
  let owners := (issues.map ownerOf).eraseDups.mergeSort Text.comesFirst
  owners.map fun owner => (owner, issues.filter fun issue => ownerOf issue == owner)

def issueLeaf (issue : Issue) : Label :=
  let color := colorOf issue.severity
  .marked s!"[{color}]{issue.code}[/{color}] {issue.message}"

def treeView (report : Report) : List Block :=
  [.tree "Validation Issues" ((byOwner report.issues).map fun (owner, issues) =>
    (.marked s!"[cyan]{owner}[/cyan] ({issues.length} issues)", issues.map issueLeaf))]

def reportView (style : ReportStyle) (moduleName : Option String) (report : Report) : List Block :=
  match style with
  | .text => textView moduleName report
  | .table => tableView report
  | .tree => treeView report

end RosettaDaml.Screen
