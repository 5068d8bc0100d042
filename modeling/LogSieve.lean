import LogSieve.Buffer
import LogSieve.Builder
import LogSieve.CommandLine.Command
import LogSieve.CommandLine.Grammar
import LogSieve.CommandLine.Invocation
import LogSieve.CommandLine.Manual
import LogSieve.CommandLine.Reader
import LogSieve.CommandLine.Run
import LogSieve.CommandLine.Token
import LogSieve.Console
import LogSieve.Diagnostics
import LogSieve.Directive
import LogSieve.Drain
import LogSieve.Entry
import LogSieve.Files.Path
import LogSieve.Files.Tree
import LogSieve.Filter
import LogSieve.Format.Conversion
import LogSieve.Format.Field
import LogSieve.Format.FieldSpec
import LogSieve.Format.Message
import LogSieve.Format.Template
import LogSieve.Gate
import LogSieve.Json.Fault
import LogSieve.Json.Reader
import LogSieve.Level
import LogSieve.Main
import LogSieve.Notice
import LogSieve.Number.Ascii
import LogSieve.Number.Digits
import LogSieve.Number.Double
import LogSieve.Number.Integer
import LogSieve.Number.Layout
import LogSieve.Pattern.CharTest
import LogSieve.Pattern.Escape
import LogSieve.Pattern.Fault
import LogSieve.Pattern.Matcher
import LogSieve.Pattern.Names
import LogSieve.Pattern.Parser
import LogSieve.Pattern.Reader
import LogSieve.Pattern.Syntax
import LogSieve.Record
import LogSieve.Release
import LogSieve.Report
import LogSieve.Session
import LogSieve.Settings
import LogSieve.Sieve
import LogSieve.Spec
import LogSieve.Text.Basic
import LogSieve.Text.Blank
import LogSieve.Text.Case
import LogSieve.Text.CaseTable
import LogSieve.Text.CodeRange
import LogSieve.Text.Digit
import LogSieve.Text.Identifier
import LogSieve.Text.Printable
import LogSieve.Text.Quoted
import LogSieve.Text.Utf8
import LogSieve.Text.Word
import LogSieve.Value
import LogSieve.World
import LogSieve.Logger
import LogSieve.Proofs.Reading
import LogSieve.Proofs.Speaking
import LogSieve.Proofs.Unbuffered
import LogSieve.Proofs.Forwarding
import LogSieve.Proofs.Writing
import LogSieve.Proofs.Rebuilding
import LogSieve.Proofs.Composing
import LogSieve.Proofs.Accounting
import LogSieve.Proofs.Rearranging
import LogSieve.Proofs.Extending
import LogSieve.Proofs.Reaching
import LogSieve.Proofs.Threshold
import LogSieve.Proofs.Agreeing
import LogSieve.Proofs.Predicting
import LogSieve.Proofs.HandingOver
import LogSieve.Proofs.Overflowing
import LogSieve.Proofs.Counting
import LogSieve.Proofs.Layering
import LogSieve.Proofs.Listening
import LogSieve.Proofs.Returning
import LogSieve.Proofs.Telling
import LogSieve.Proofs.Stacking
import LogSieve.Proofs.Searching
import LogSieve.Proofs.SettingUp
import LogSieve.Proofs.Editing
import LogSieve.Proofs.Matching
import LogSieve.Proofs.Listing
import LogSieve.Proofs.Releasing
import LogSieve.Proofs.Naming
import LogSieve.Proofs.Building
