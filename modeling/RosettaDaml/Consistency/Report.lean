/-
This file holds issues with a module and the reports that gather them.
-/

import RosettaDaml.Data.Value
import RosettaDaml.Text.Blank

namespace RosettaDaml

open RosettaDaml.Data

inductive Severity where
  | error
  | warning
  | info
  deriving DecidableEq, Repr

def Severity.name : Severity → String
  | .error => "error"
  | .warning => "warning"
  | .info => "info"

def Severity.upperName : Severity → String
  | .error => "ERROR"
  | .warning => "WARNING"
  | .info => "INFO"

/-- An empty path or suggestion is kept, and shown like none. -/
structure Issue where
  code : String
  message : String
  severity : Severity
  path : Option String
  suggestion : Option String
  context : List (String × Value)

def Issue.text (issue : Issue) : String :=
  let place := (Text.nonEmpty? issue.path).toList.map fun path => s!"at {path}"
  let hint := (Text.nonEmpty? issue.suggestion).toList.map fun suggestion => s!"(hint: {suggestion})"
  " ".intercalate ([s!"[{issue.code}]", issue.severity.upperName, issue.message] ++ place ++ hint)

structure Report where
  issues : List Issue

namespace Report

def empty : Report := ⟨[]⟩

def append (report further : Report) : Report := ⟨report.issues ++ further.issues⟩

def add (report : Report) (issue : Issue) : Report := report.append ⟨[issue]⟩

def errors (report : Report) : List Issue :=
  report.issues.filter fun issue => issue.severity == .error

def warnings (report : Report) : List Issue :=
  report.issues.filter fun issue => issue.severity == .warning

/-- Warnings and notes leave a report valid. -/
def isValid (report : Report) : Bool := report.errors.isEmpty

/-- Strict acceptance also asks for no warnings. -/
def isAccepted (strict : Bool) (report : Report) : Bool :=
  report.isValid && !(strict && !report.warnings.isEmpty)

/-- How many errors and warnings there are, and the first error or else the first warning. -/
def failureMessage (report : Report) : String :=
  let count (issues : List Issue) (word : String) : List String :=
    if issues.isEmpty then [] else [s!"{issues.length} {word}(s)"]
  let parts := count report.errors "error" ++ count report.warnings "warning"
  let first := ((report.errors ++ report.warnings).head?.map fun issue =>
    s!"; first: {issue.text}").getD ""
  "Validation failed: " ++ ", ".intercalate parts ++ first

/-- One line for each error and then for each warning. -/
def listing (report : Report) : String :=
  "\n".intercalate (report.errors.map (fun issue => s!"ERROR: {issue.text}") ++
    report.warnings.map (fun issue => s!"WARNING: {issue.text}"))

def errorTexts (report : Report) : List String := report.errors.map Issue.text

end Report

end RosettaDaml
