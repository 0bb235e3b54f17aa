import RequestScript.AccessPath
import RequestScript.Assertion
import RequestScript.Assertion.Check
import RequestScript.Calendar
import RequestScript.CommandLine
import RequestScript.CommandLine.Arguments
import RequestScript.Cookie
import RequestScript.Datum
import RequestScript.Depth
import RequestScript.Dice
import RequestScript.Double
import RequestScript.Double.Decimal
import RequestScript.Exchange
import RequestScript.Fault
import RequestScript.FileTree
import RequestScript.Generator
import RequestScript.Generator.Generate
import RequestScript.Header
import RequestScript.History
import RequestScript.Main
import RequestScript.Mime
import RequestScript.Path
import RequestScript.Percent
import RequestScript.Proofs.AccessPath
import RequestScript.Proofs.AccessPath.Joined
import RequestScript.Proofs.Assertion.Body
import RequestScript.Proofs.Assertion.Duration
import RequestScript.Proofs.Assertion.Faults
import RequestScript.Proofs.Assertion.Label
import RequestScript.Proofs.Assertion.WellFormed
import RequestScript.Proofs.Calendar
import RequestScript.Proofs.Calendar.NextDay
import RequestScript.Proofs.Chance
import RequestScript.Proofs.CommandLine.Credentials
import RequestScript.Proofs.CommandLine.EveryRequest
import RequestScript.Proofs.CommandLine.SetUp
import RequestScript.Proofs.CommandLine.Shown
import RequestScript.Proofs.CommandLine.Targets
import RequestScript.Proofs.Cookie
import RequestScript.Proofs.Double.Decimal
import RequestScript.Proofs.Double.Grammar
import RequestScript.Proofs.Double.Nearest
import RequestScript.Proofs.FileTree
import RequestScript.Proofs.Generator
import RequestScript.Proofs.Generator.Choice
import RequestScript.Proofs.Generator.DayOffset
import RequestScript.Proofs.Generator.IntegerRange
import RequestScript.Proofs.Header
import RequestScript.Proofs.History
import RequestScript.Proofs.History.Newest
import RequestScript.Proofs.Percent
import RequestScript.Proofs.Plan.PostOrder
import RequestScript.Proofs.Plan.References
import RequestScript.Proofs.Run.Alone
import RequestScript.Proofs.Run.Attempts
import RequestScript.Proofs.Run.BodySource
import RequestScript.Proofs.Run.Calls
import RequestScript.Proofs.Run.Captures
import RequestScript.Proofs.Run.Credentials
import RequestScript.Proofs.Run.Dispatches
import RequestScript.Proofs.Run.HeaderNames
import RequestScript.Proofs.Run.InTurn
import RequestScript.Proofs.Run.Methods
import RequestScript.Proofs.Run.Preview
import RequestScript.Proofs.Run.RawText
import RequestScript.Proofs.Run.Steady
import RequestScript.Proofs.Script.Blocks
import RequestScript.Proofs.Script.Comments
import RequestScript.Proofs.Script.ConfigBlock
import RequestScript.Proofs.Script.Credentials
import RequestScript.Proofs.Script.Directive
import RequestScript.Proofs.Script.DocComments
import RequestScript.Proofs.Script.Document
import RequestScript.Proofs.Script.Faults
import RequestScript.Proofs.Script.HeaderCase
import RequestScript.Proofs.Script.Layout
import RequestScript.Proofs.Script.Line
import RequestScript.Proofs.Script.LineNumbers
import RequestScript.Proofs.Script.Lookup
import RequestScript.Proofs.Script.Merging
import RequestScript.Proofs.Script.Method
import RequestScript.Proofs.Script.MethodLine
import RequestScript.Proofs.Script.OwnSettings
import RequestScript.Proofs.Script.Placement
import RequestScript.Proofs.Script.Query
import RequestScript.Proofs.Script.Sayings
import RequestScript.Proofs.Script.Spans
import RequestScript.Proofs.Script.Step
import RequestScript.Proofs.Script.WellFormed
import RequestScript.Proofs.Script.Written
import RequestScript.Proofs.Settings.Reference
import RequestScript.Proofs.Settings.Reopened
import RequestScript.Proofs.Text.Blank
import RequestScript.Proofs.Text.IntegerNumeral
import RequestScript.Proofs.Text.Lines
import RequestScript.Proofs.Text.Numeral
import RequestScript.Proofs.Text.Radix
import RequestScript.Proofs.Text.Utf8
import RequestScript.Proofs.Text.Word
import RequestScript.Proofs.Value.Faults
import RequestScript.Proofs.Value.NumberText
import RequestScript.Proofs.Value.Numeral
import RequestScript.Proofs.Value.Parts
import RequestScript.Proofs.Value.Plain
import RequestScript.Proofs.Value.Readable
import RequestScript.Proofs.Value.Reader
import RequestScript.Proofs.Value.RoundTrip
import RequestScript.Proofs.Value.Strings
import RequestScript.Proofs.Value.Text
import RequestScript.Proofs.Value.Writable
import RequestScript.Proofs.Variables.EnvironmentFile
import RequestScript.Proofs.Variables.Fixed
import RequestScript.Proofs.Variables.Flattened
import RequestScript.Proofs.Variables.InStep
import RequestScript.Proofs.Variables.Interpolation
import RequestScript.Proofs.Variables.Kept
import RequestScript.Proofs.Variables.LastWritten
import RequestScript.Proofs.Variables.Layers
import RequestScript.Proofs.Variables.Nested
import RequestScript.Proofs.Variables.Placeholder
import RequestScript.Proofs.Variables.Refusals
import RequestScript.Proofs.World.Action
import RequestScript.Proofs.World.Files
import RequestScript.Proofs.World.Follows
import RequestScript.Proofs.World.Keeping
import RequestScript.Proofs.World.Mirrors
import RequestScript.Proofs.World.Moves
import RequestScript.Proofs.World.Overwriting
import RequestScript.Proofs.World.Places
import RequestScript.Proofs.World.Steady
import RequestScript.Proofs.World.SteadyActions
import RequestScript.Proofs.World.Tables
import RequestScript.Run
import RequestScript.Run.Capture
import RequestScript.Run.Plan
import RequestScript.Run.Report
import RequestScript.Scope
import RequestScript.Script.ConfigBlock
import RequestScript.Script.Directive
import RequestScript.Script.Document
import RequestScript.Script.Line
import RequestScript.Script.Lookup
import RequestScript.Script.Request
import RequestScript.Script.Resolved
import RequestScript.Script.Source
import RequestScript.Settings
import RequestScript.Settings.EnvironmentText
import RequestScript.Settings.Reference
import RequestScript.Table
import RequestScript.Text.Blank
import RequestScript.Text.Case
import RequestScript.Text.CaseTable
import RequestScript.Text.ControlSequence
import RequestScript.Text.Digit
import RequestScript.Text.Halves
import RequestScript.Text.Integer
import RequestScript.Text.Lines
import RequestScript.Text.Numeral
import RequestScript.Text.Printable
import RequestScript.Text.Quoted
import RequestScript.Text.Radix
import RequestScript.Text.Ranges
import RequestScript.Text.Split
import RequestScript.Text.Substitute
import RequestScript.Text.Utf8
import RequestScript.Text.Word
import RequestScript.Value
import RequestScript.Value.ReadError
import RequestScript.Value.Reader
import RequestScript.Value.Shown
import RequestScript.Value.Writer
import RequestScript.Variables.Keeping
import RequestScript.Variables.Layer
import RequestScript.Variables.Placeholder
import RequestScript.World
import RequestScript.Yaml.Content
import RequestScript.Yaml.Content.Reader
import RequestScript.Yaml.Cursor
import RequestScript.Yaml.Document
import RequestScript.Yaml.Kind
import RequestScript.Yaml.Node
import RequestScript.Yaml.Node.Merge
import RequestScript.Yaml.Property
import RequestScript.Yaml.Scalar.Binary
import RequestScript.Yaml.Scalar.Block
import RequestScript.Yaml.Scalar.Number
import RequestScript.Yaml.Scalar.Plain
import RequestScript.Yaml.Scalar.Quoted
import RequestScript.Yaml.Scalar.Time
import RequestScript.Yaml.Source
import RequestScript.Yaml.Token
import RequestScript.Yaml.Token.Lexer
