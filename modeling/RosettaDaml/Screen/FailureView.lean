/-
This file shows why a command failed.
-/

import RosettaDaml.Conversion
import RosettaDaml.Screen.ReportView
import RosettaDaml.Store.Load

namespace RosettaDaml.Screen

/-- The kinds of failures that are shown in different ways. -/
inductive CommandFailure where
  | inconsistent (report : Report)
  | invalid (model : String) (first : Fault) (more : List Fault)
  | conversion (message : String)
  | permission (file : String)
  | unexpected (message : String)

def faultBlocks (fault : Fault) : List Block :=
  let notice := fault.notice
  [.marked s!"[red]✗[/red] {fault.location.path}", .marked s!"  {notice.plain}",
    .marked s!"  [dim]({notice.code})[/dim]"] ++
  notice.suggestion?.toList.map fun suggestion => .marked s!"  [green]💡 {suggestion}[/green]"

def failurePanel (title content : String) : Block := .panel title (.marked content)

namespace CommandFailure

/-- A verbose view ends where the details of the program would begin. -/
def view (verbose : Bool) : CommandFailure → List Block
  | .inconsistent report => textView none report
  | .invalid model first more =>
      [.text (.raw "Schema Validation Failed")] ++ (first :: more).flatMap faultBlocks ++
        (if verbose then [.text (.raw "Full error:"), .marked (faultsText model (first :: more))]
         else [])
  | .conversion message => [failurePanel "Conversion Failed" s!"[red]{message}[/red]"]
  | .permission file =>
      let file := if file.isEmpty then "unknown" else file
      [failurePanel "Error"
        s!"[red]Permission denied: {file}[/red]\n\nCheck file permissions and try again."]
  | .unexpected message =>
      [failurePanel "Error" s!"[red]An unexpected error occurred:[/red]\n{message}",
        .text (.raw (if verbose then "Traceback:" else "Use --verbose for full traceback"))]

def ofRender : RenderFailure → CommandFailure
  | .type fault => .conversion fault.message
  | .unknownImport given => .conversion (RenderFailure.unknownImport given).message
  | .emptyVariant name => .conversion (RenderFailure.emptyVariant name).message
  | .invalidWidth failure => .unexpected failure.message
  | .widthOverflow => .unexpected RenderFailure.widthOverflow.message

def ofConversion : ConversionFailure → CommandFailure
  | .cyclic failure => .conversion failure.message
  | .inconsistent report => .inconsistent report
  | .rendering failure => ofRender failure

def ofRead : ReadFailure → CommandFailure
  | .refused path fault => .conversion (ReadFailure.refused path fault).message
  | .notUtf8 => .unexpected ReadFailure.notUtf8.message
  | .value fault => .unexpected fault.message

def ofLoad : LoadFailure → CommandFailure
  | .unread failure => ofRead failure
  | .invalid model first more => .invalid model first more

end CommandFailure

end RosettaDaml.Screen
