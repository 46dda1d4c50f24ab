import LintTools.Artifact
import LintTools.Catalog.Entry
import LintTools.Catalog.Integrity
import LintTools.Command.Basic
import LintTools.Command.DownloadedBinary
import LintTools.Command.OptionMap
import LintTools.Command.ProjectScanner
import LintTools.CommandLine.Request
import LintTools.CommandLine.Run
import LintTools.CommandOption.Arguments
import LintTools.CommandOption.Basic
import LintTools.Config.Basic
import LintTools.Config.Reader
import LintTools.Diagnostic.Basic
import LintTools.Diagnostic.Extractor
import LintTools.Diagnostic.Field
import LintTools.Diagnostic.Payload
import LintTools.Double.Basic
import LintTools.Double.Rounding
import LintTools.Double.Shortest
import LintTools.Invocation.Context
import LintTools.Invocation.DefaultReference
import LintTools.Invocation.PythonVersion
import LintTools.Invocation.Transform
import LintTools.Json.Basic
import LintTools.Json.Coerce
import LintTools.Json.Numeral
import LintTools.Json.Printer
import LintTools.Json.Reader
import LintTools.JsonPath.Basic
import LintTools.JsonPath.Written
import LintTools.Main
import LintTools.Path.Basic
import LintTools.Path.Normal
import LintTools.Path.Relative
import LintTools.Path.Requirement
import LintTools.Path.Resolve
import LintTools.Path.Resolver
import LintTools.Path.Tree
import LintTools.Report.JsonReport
import LintTools.Report.Line
import LintTools.Report.Lookup
import LintTools.Report.Severity
import LintTools.Report.TextReport
import LintTools.Report.Tombi
import LintTools.Strategy
import LintTools.Target.Plan
import LintTools.Target.Selector
import LintTools.Text.Blank
import LintTools.Text.Case
import LintTools.Text.CaseTable
import LintTools.Text.DecimalDigit
import LintTools.Text.Numeral
import LintTools.Text.PrintTable
import LintTools.Text.Quoted
import LintTools.Text.Run
import LintTools.Toml.Basic
import LintTools.Toml.Document
import LintTools.Toml.Quoted
import LintTools.Toml.Scalar
import LintTools.Tool
import LintTools.Proofs.JsonPath.Location
import LintTools.Proofs.Catalog.Reading
import LintTools.Proofs.JsonPath.Scanning
import LintTools.Proofs.JsonPath.Composition
import LintTools.Proofs.Path.Components
import LintTools.Proofs.Path.Enumeration
import LintTools.Proofs.Path.Sharing
import LintTools.Proofs.Target.Source
import LintTools.Proofs.Command.Sharing
import LintTools.Proofs.Json.Continuation
import LintTools.Proofs.Diagnostic.Payload
import LintTools.Proofs.Output.LineByLine
import LintTools.Proofs.Text.Caseless
import LintTools.Proofs.Json.Entries
import LintTools.Proofs.Diagnostic.Dictionary
import LintTools.Proofs.Path.NormalForm
import LintTools.Proofs.Path.Below
import LintTools.Proofs.Path.Anchoring
import LintTools.Proofs.Command.Exclusion
import LintTools.Proofs.Command.RelativeRoot
import LintTools.Proofs.Text.Numeral
import LintTools.Proofs.Text.Trimmed
import LintTools.Proofs.JsonPath.RoundTrip
import LintTools.Proofs.JsonPath.Quoting
import LintTools.Proofs.Invocation.Rearrangement
import LintTools.Proofs.Command.Rearrangement
import LintTools.Proofs.Report.Records
import LintTools.Proofs.Output.Presentable
import LintTools.Proofs.Catalog.Nulls
import LintTools.Proofs.Output.LoneRecord
import LintTools.Proofs.Output.Seam
import LintTools.Proofs.Report.Blocks
import LintTools.Proofs.Report.Parts
import LintTools.Proofs.Report.Printed
import LintTools.Proofs.Report.Delimited
import LintTools.Proofs.Report.Bracketed
import LintTools.Proofs.Path.Segments
import LintTools.Proofs.Target.Sharing
import LintTools.Proofs.Command.Layout
import LintTools.Proofs.CommandOption.Precedence
import LintTools.Proofs.CommandOption.Separator
import LintTools.Proofs.Diagnostic.Attributes
import LintTools.Proofs.Report.Independence
import LintTools.Proofs.Diagnostic.SingleMatch
import LintTools.Proofs.JsonPath.Wildcards
import LintTools.Proofs.Command.Placeholder
import LintTools.Proofs.Target.Filled
import LintTools.Proofs.JsonPath.Unclosed
import LintTools.Proofs.Path.Canonical
import LintTools.Proofs.Path.Containment
import LintTools.Proofs.Invocation.Resolved
import LintTools.Proofs.Text.Run
import LintTools.Proofs.Diagnostic.Exits
import LintTools.Proofs.Path.Joined
import LintTools.Proofs.Target.Selection
import LintTools.Proofs.Path.Remainder
import LintTools.Proofs.Report.Files
import LintTools.Proofs.Invocation.WrittenVersion
import LintTools.Proofs.Report.ReportedPath
import LintTools.Proofs.Report.Places
import LintTools.Proofs.Report.Summaries
import LintTools.Proofs.Double.Value
import LintTools.Proofs.Double.Rounding
import LintTools.Proofs.Json.SignedNumber
import LintTools.Proofs.Json.Count
import LintTools.Proofs.Invocation.WrittenFlag
import LintTools.Proofs.Text.PrefixFree
import LintTools.Proofs.Text.Quoted
import LintTools.Proofs.Command.Display
import LintTools.Proofs.Output.Bounded
