import ProfiledBuild.Arguments.Basic
import ProfiledBuild.Arguments.Help
import ProfiledBuild.Arguments.Reader
import ProfiledBuild.Config
import ProfiledBuild.Decimal.Places
import ProfiledBuild.Decimal.Shortest
import ProfiledBuild.Event
import ProfiledBuild.Failure
import ProfiledBuild.Host.Attempt
import ProfiledBuild.Host.Basic
import ProfiledBuild.Host.Characters
import ProfiledBuild.Host.Columns
import ProfiledBuild.Host.Copies
import ProfiledBuild.Host.Echo
import ProfiledBuild.Host.Editor
import ProfiledBuild.Host.Editor.Files
import ProfiledBuild.Host.Editor.Script
import ProfiledBuild.Host.Ends
import ProfiledBuild.Host.Expression
import ProfiledBuild.Host.FileTools
import ProfiledBuild.Host.Files
import ProfiledBuild.Host.Links
import ProfiledBuild.Host.Load
import ProfiledBuild.Host.Options
import ProfiledBuild.Host.Pattern
import ProfiledBuild.Host.Printf
import ProfiledBuild.Host.Quantities
import ProfiledBuild.Host.Repeats
import ProfiledBuild.Host.Search
import ProfiledBuild.Host.Sequences
import ProfiledBuild.Host.Signal
import ProfiledBuild.Host.Sizes
import ProfiledBuild.Host.Sort
import ProfiledBuild.Host.Stream
import ProfiledBuild.Host.Test
import ProfiledBuild.Host.Texts
import ProfiledBuild.Host.Tools
import ProfiledBuild.Invocation
import ProfiledBuild.Json.Basic
import ProfiledBuild.Json.Decode
import ProfiledBuild.Json.Document
import ProfiledBuild.Json.Printer
import ProfiledBuild.Json.Reader
import ProfiledBuild.Json.Token
import ProfiledBuild.Log.Directive
import ProfiledBuild.Log.Filter
import ProfiledBuild.Log.Line
import ProfiledBuild.Log.Record
import ProfiledBuild.Main
import ProfiledBuild.Notice
import ProfiledBuild.Pipeline
import ProfiledBuild.Program
import ProfiledBuild.Proofs.AcceptedLines
import ProfiledBuild.Proofs.CommandLine
import ProfiledBuild.Proofs.CommandText
import ProfiledBuild.Proofs.ConfigCodec
import ProfiledBuild.Proofs.Course
import ProfiledBuild.Proofs.Decimals
import ProfiledBuild.Proofs.DryRun
import ProfiledBuild.Proofs.Ending
import ProfiledBuild.Proofs.EventCodec
import ProfiledBuild.Proofs.EventLevels
import ProfiledBuild.Proofs.EventLog
import ProfiledBuild.Proofs.ExitCodes
import ProfiledBuild.Proofs.Fields
import ProfiledBuild.Proofs.Files
import ProfiledBuild.Proofs.Gating
import ProfiledBuild.Proofs.HostRuns
import ProfiledBuild.Proofs.Invocations
import ProfiledBuild.Proofs.Json.Records
import ProfiledBuild.Proofs.Json.RoundTrip
import ProfiledBuild.Proofs.Json.Tokens
import ProfiledBuild.Proofs.Lifecycle
import ProfiledBuild.Proofs.LineTools
import ProfiledBuild.Proofs.NamePatterns
import ProfiledBuild.Proofs.Notices
import ProfiledBuild.Proofs.Operations
import ProfiledBuild.Proofs.Payload
import ProfiledBuild.Proofs.Plan
import ProfiledBuild.Proofs.ProcessStatus
import ProfiledBuild.Proofs.ProgramSearch
import ProfiledBuild.Proofs.QuotedWords
import ProfiledBuild.Proofs.Readings
import ProfiledBuild.Proofs.Reaping
import ProfiledBuild.Proofs.Reentry
import ProfiledBuild.Proofs.Rehearsal
import ProfiledBuild.Proofs.Replay
import ProfiledBuild.Proofs.ResultCodec
import ProfiledBuild.Proofs.RunRecord
import ProfiledBuild.Proofs.Script
import ProfiledBuild.Proofs.Shutdown
import ProfiledBuild.Proofs.Signals
import ProfiledBuild.Proofs.Sorting
import ProfiledBuild.Proofs.Streams
import ProfiledBuild.Proofs.Text.Cuts
import ProfiledBuild.Proofs.Text.LinePattern
import ProfiledBuild.Proofs.Text.Paths
import ProfiledBuild.Proofs.Text.Raw
import ProfiledBuild.Proofs.Text.Regex
import ProfiledBuild.Proofs.Text.Regex.Ways
import ProfiledBuild.Proofs.Text.Utf8
import ProfiledBuild.Proofs.Timestamps
import ProfiledBuild.Proofs.Trace
import ProfiledBuild.Proofs.Verdict
import ProfiledBuild.Proofs.Visits
import ProfiledBuild.Run
import ProfiledBuild.RunId
import ProfiledBuild.Runner.DryRun
import ProfiledBuild.Runner.Process
import ProfiledBuild.Runner.Recording
import ProfiledBuild.Shell.Arithmetic
import ProfiledBuild.Shell.Builtin
import ProfiledBuild.Shell.Names
import ProfiledBuild.Shell.Opening
import ProfiledBuild.Shell.Parser
import ProfiledBuild.Shell.Process
import ProfiledBuild.Shell.Run
import ProfiledBuild.Shell.Settings
import ProfiledBuild.Shell.State
import ProfiledBuild.Shell.Syntax
import ProfiledBuild.Shell.Token
import ProfiledBuild.Stage.Basic
import ProfiledBuild.Stage.Command
import ProfiledBuild.Stage.Exit
import ProfiledBuild.Stage.Result
import ProfiledBuild.Supervision
import ProfiledBuild.SystemError
import ProfiledBuild.Text.Alphanumeric
import ProfiledBuild.Text.Blank
import ProfiledBuild.Text.Bracket
import ProfiledBuild.Text.CharSet
import ProfiledBuild.Text.LinePattern
import ProfiledBuild.Text.LinePattern.Reader
import ProfiledBuild.Text.Path
import ProfiledBuild.Text.Quoted
import ProfiledBuild.Text.Raw
import ProfiledBuild.Text.Regex
import ProfiledBuild.Text.Regex.Reader
import ProfiledBuild.Text.Similarity
import ProfiledBuild.Text.Terminal
import ProfiledBuild.Text.Unshown
import ProfiledBuild.Text.Utf8
import ProfiledBuild.Time.Reader
import ProfiledBuild.Time.Timestamp
import ProfiledBuild.Workload
