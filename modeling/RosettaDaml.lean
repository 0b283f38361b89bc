import RosettaDaml.Command.Arguments
import RosettaDaml.Command.Convert
import RosettaDaml.Command.Info
import RosettaDaml.Command.Outcome
import RosettaDaml.Command.Request
import RosettaDaml.Command.Run
import RosettaDaml.Command.Validate
import RosettaDaml.Config
import RosettaDaml.Consistency.Check
import RosettaDaml.Consistency.Draft
import RosettaDaml.Consistency.Report
import RosettaDaml.Conversion
import RosettaDaml.Daml.Draft
import RosettaDaml.Daml.Render
import RosettaDaml.Daml.TypeText
import RosettaDaml.Data.Calendar
import RosettaDaml.Data.Json
import RosettaDaml.Data.Value
import RosettaDaml.Inheritance.Cycle
import RosettaDaml.Inheritance.Index
import RosettaDaml.Inheritance.Lineage
import RosettaDaml.Inheritance.Synthetic
import RosettaDaml.Layout.Fill
import RosettaDaml.Layout.Lines
import RosettaDaml.Log.Logger
import RosettaDaml.Log.Trace
import RosettaDaml.Main
import RosettaDaml.Naming
import RosettaDaml.Numeric.Binary64
import RosettaDaml.Numeric.DecimalText
import RosettaDaml.Numeric.Places
import RosettaDaml.Numeric.Shortest
import RosettaDaml.OrderedMap
import RosettaDaml.Proofs.Consistency.Acceptance
import RosettaDaml.Proofs.Conversion.Constructors
import RosettaDaml.Proofs.Conversion.Documented
import RosettaDaml.Proofs.Conversion.Outcome
import RosettaDaml.Proofs.Conversion.References
import RosettaDaml.Proofs.Conversion.Rejection
import RosettaDaml.Proofs.Conversion.TypeNames
import RosettaDaml.Proofs.Daml.Agreement
import RosettaDaml.Proofs.Daml.ClearNames
import RosettaDaml.Proofs.Daml.Comments
import RosettaDaml.Proofs.Daml.Constructors
import RosettaDaml.Proofs.Daml.Determined
import RosettaDaml.Proofs.Daml.Entry
import RosettaDaml.Proofs.Daml.Outcome
import RosettaDaml.Proofs.Daml.TypeText
import RosettaDaml.Proofs.Flattening
import RosettaDaml.Proofs.Inheritance.Chain
import RosettaDaml.Proofs.Inheritance.Correspondence
import RosettaDaml.Proofs.Inheritance.CycleSearch
import RosettaDaml.Proofs.Inheritance.Lookup
import RosettaDaml.Proofs.Inheritance.Termination
import RosettaDaml.Proofs.Layout.Comment
import RosettaDaml.Proofs.Layout.Lines
import RosettaDaml.Proofs.Log.Result
import RosettaDaml.Proofs.Naming
import RosettaDaml.Proofs.Numeric.Quotient
import RosettaDaml.Proofs.Numeric.Rounding
import RosettaDaml.Proofs.Schema.Kept
import RosettaDaml.Proofs.Text.Split
import RosettaDaml.Proofs.TextWidth
import RosettaDaml.Schema.Cardinality
import RosettaDaml.Schema.Checked
import RosettaDaml.Schema.Decl
import RosettaDaml.Schema.Dump
import RosettaDaml.Schema.Fault
import RosettaDaml.Schema.Read
import RosettaDaml.Screen.Action
import RosettaDaml.Screen.Argument.Literal
import RosettaDaml.Screen.Argument.Token
import RosettaDaml.Screen.Block
import RosettaDaml.Screen.CellTable
import RosettaDaml.Screen.Cells
import RosettaDaml.Screen.ColorTable
import RosettaDaml.Screen.Columns
import RosettaDaml.Screen.Emoji
import RosettaDaml.Screen.EmojiTable
import RosettaDaml.Screen.FailureView
import RosettaDaml.Screen.Markup
import RosettaDaml.Screen.ReportView
import RosettaDaml.Screen.StyleName
import RosettaDaml.Store.Basic
import RosettaDaml.Store.Load
import RosettaDaml.Store.Path
import RosettaDaml.Template.Fault
import RosettaDaml.Template.Fill
import RosettaDaml.Template.Slot
import RosettaDaml.Template.SlotText
import RosettaDaml.Text.Base64
import RosettaDaml.Text.Blank
import RosettaDaml.Text.Case
import RosettaDaml.Text.CaseTable
import RosettaDaml.Text.Encoding
import RosettaDaml.Text.Integer
import RosettaDaml.Text.Name
import RosettaDaml.Text.NameTable
import RosettaDaml.Text.Place
import RosettaDaml.Text.Printable
import RosettaDaml.Text.Quoted
import RosettaDaml.Text.Utf8
import RosettaDaml.Transform
import RosettaDaml.TypeModel.Draft
import RosettaDaml.TypeModel.Equality
import RosettaDaml.TypeModel.Module
import RosettaDaml.TypeModel.Multiplicity
import RosettaDaml.TypeModel.TypeExpr
import RosettaDaml.Yaml.Cursor
import RosettaDaml.Yaml.Document
import RosettaDaml.Yaml.Failure
import RosettaDaml.Yaml.Merge
import RosettaDaml.Yaml.Node
import RosettaDaml.Yaml.ScalarText
import RosettaDaml.Yaml.ScalarValue
import RosettaDaml.Yaml.Source
import RosettaDaml.Yaml.Tag
import RosettaDaml.Yaml.Token
import RosettaDaml.Proofs.Conversion.Reordering
import RosettaDaml.Proofs.Conversion.Essential
import RosettaDaml.Proofs.Listing
import RosettaDaml.Proofs.Consistency.Exactness
import RosettaDaml.Proofs.Schema.Reading
import RosettaDaml.Proofs.Schema.RoundTrip
import RosettaDaml.Proofs.Text.Plain
import RosettaDaml.Proofs.Text.Number
import RosettaDaml.Proofs.Screen.Markup
import RosettaDaml.Proofs.Screen.Lines
import RosettaDaml.Proofs.Screen.Report
import RosettaDaml.Proofs.Command.Places
import RosettaDaml.Proofs.Command.Convert
import RosettaDaml.Proofs.Daml.PlainText
import RosettaDaml.Proofs.Conversion.PlainText
import RosettaDaml.Proofs.Command.Agreement
import RosettaDaml.Proofs.Layout.Wrapping
import RosettaDaml.Proofs.Layout.Chunks
import RosettaDaml.Proofs.Layout.FewestLines
import RosettaDaml.Proofs.Daml.TypeMeaning
import RosettaDaml.Proofs.Daml.Refusal
import RosettaDaml.Proofs.Text.Numeral
import RosettaDaml.Proofs.Schema.RangeText
import RosettaDaml.Proofs.Schema.RangeReadBack
import RosettaDaml.Proofs.Schema.Bounds
import RosettaDaml.Proofs.Conversion.Occurrences
import RosettaDaml.Proofs.Daml.Blocks
import RosettaDaml.Proofs.Consistency.Origins
import RosettaDaml.Proofs.Daml.Origins
import RosettaDaml.Proofs.Conversion.Strictness
import RosettaDaml.Proofs.Inheritance.Reflattening
import RosettaDaml.Proofs.Schema.LocationText
import RosettaDaml.Proofs.Command.ProblemTable
import RosettaDaml.Proofs.Screen.InFull
