import SqlLint.Action.Hover
import SqlLint.Action.Noqa
import SqlLint.Action.QuickFix
import SqlLint.CommandLine.Arguments
import SqlLint.CommandLine.Program
import SqlLint.Diagnostic.Basic
import SqlLint.Document.Basic
import SqlLint.Document.Position
import SqlLint.Document.Store
import SqlLint.Domain.Basic
import SqlLint.Domain.Direction
import SqlLint.Domain.Joiner
import SqlLint.Domain.Mapping
import SqlLint.Domain.Punycode
import SqlLint.Domain.Substitute
import SqlLint.DotEnv.Basic
import SqlLint.DotEnv.Overlay
import SqlLint.Fix.Output
import SqlLint.Fix.Selection
import SqlLint.Json.Basic
import SqlLint.Json.Double
import SqlLint.Json.Draft
import SqlLint.Json.Parse
import SqlLint.Json.Print
import SqlLint.Json.Record
import SqlLint.Json.Shape
import SqlLint.Lint.Barrier
import SqlLint.Lint.Delayer
import SqlLint.Lint.Generations
import SqlLint.Lint.Linter
import SqlLint.Lint.Run
import SqlLint.Lint.Settle
import SqlLint.Lint.SqlFiles
import SqlLint.Machine.Basic
import SqlLint.Machine.Files
import SqlLint.Main
import SqlLint.Path
import SqlLint.Proofs.Action.RuleLists
import SqlLint.Proofs.Action.Silencing
import SqlLint.Proofs.Document.Boundaries
import SqlLint.Proofs.Document.Columns
import SqlLint.Proofs.Document.LineEnds
import SqlLint.Proofs.Document.Offsets
import SqlLint.Proofs.Document.Places
import SqlLint.Proofs.Document.Pointing
import SqlLint.Proofs.Document.Selecting
import SqlLint.Proofs.Document.Store
import SqlLint.Proofs.Document.Sync
import SqlLint.Proofs.Document.Walking
import SqlLint.Proofs.Document.Words
import SqlLint.Proofs.Json.Amending
import SqlLint.Proofs.Json.Printing
import SqlLint.Proofs.Json.Settling
import SqlLint.Proofs.Lint.Answers
import SqlLint.Proofs.Lint.Ceiling
import SqlLint.Proofs.Lint.Closing
import SqlLint.Proofs.Lint.Course
import SqlLint.Proofs.Lint.Freshness
import SqlLint.Proofs.Lint.Gate
import SqlLint.Proofs.Lint.History
import SqlLint.Proofs.Lint.Lanes
import SqlLint.Proofs.Lint.Latest
import SqlLint.Proofs.Lint.Numbers
import SqlLint.Proofs.Lint.Outcome
import SqlLint.Proofs.Lint.Overtaking
import SqlLint.Proofs.Lint.Passage
import SqlLint.Proofs.Lint.Publishing
import SqlLint.Proofs.Lint.Runs
import SqlLint.Proofs.Lint.Throttle
import SqlLint.Proofs.Lint.Timeline
import SqlLint.Proofs.Lint.Turns
import SqlLint.Proofs.Path.Components
import SqlLint.Proofs.Remote.Discipline
import SqlLint.Proofs.Report.Backends
import SqlLint.Proofs.Report.Grouping
import SqlLint.Proofs.Report.Locating
import SqlLint.Proofs.Report.Ranges
import SqlLint.Proofs.Server.Conversation
import SqlLint.Proofs.Server.Coverage
import SqlLint.Proofs.Server.Errand
import SqlLint.Proofs.Server.Excluding
import SqlLint.Proofs.Server.Framing
import SqlLint.Proofs.Server.Headers
import SqlLint.Proofs.Server.Session
import SqlLint.Proofs.Server.Silence
import SqlLint.Proofs.Server.Writing
import SqlLint.Proofs.Settings.Rereading
import SqlLint.Proofs.Settings.RuleOrder
import SqlLint.Proofs.Shell.Quoting
import SqlLint.Proofs.Text.AnyLines
import SqlLint.Proofs.Text.LineStream
import SqlLint.Proofs.Text.Pieces
import SqlLint.Proofs.Text.Streaming
import SqlLint.Proofs.Text.Utf8
import SqlLint.Proofs.Tool.Fates
import SqlLint.Proofs.Tool.Versions
import SqlLint.Proofs.Url.FilePath
import SqlLint.Proofs.Workspace.Asking
import SqlLint.Proofs.Workspace.Configured
import SqlLint.Proofs.Workspace.Covering
import SqlLint.Proofs.Workspace.Diary
import SqlLint.Proofs.Workspace.Echoing
import SqlLint.Proofs.Workspace.Ending
import SqlLint.Proofs.Workspace.Environment
import SqlLint.Proofs.Workspace.Fixing
import SqlLint.Proofs.Workspace.Formatting
import SqlLint.Proofs.Workspace.Given
import SqlLint.Proofs.Workspace.Ignoring
import SqlLint.Proofs.Workspace.Piping
import SqlLint.Proofs.Workspace.Selection
import SqlLint.Rehearsal.Program
import SqlLint.Rehearsal.Roster
import SqlLint.Rehearsal.Shell
import SqlLint.Rehearsal.Tool
import SqlLint.Rehearsal.Worker
import SqlLint.Remote.Basic
import SqlLint.Report.Basic
import SqlLint.Report.Mapping
import SqlLint.Server.Capabilities
import SqlLint.Server.Frame
import SqlLint.Server.Message
import SqlLint.Server.Request
import SqlLint.Server.Service
import SqlLint.Settings.Arguments
import SqlLint.Settings.Basic
import SqlLint.Settings.Json
import SqlLint.Settings.Variables
import SqlLint.Shell.Quote
import SqlLint.Shell.Word
import SqlLint.Text.Blank
import SqlLint.Text.CharRange
import SqlLint.Text.Composite
import SqlLint.Text.Digit
import SqlLint.Text.Letter
import SqlLint.Text.LineStream
import SqlLint.Text.Lines
import SqlLint.Text.Mark
import SqlLint.Text.Normal
import SqlLint.Text.Units
import SqlLint.Text.Utf8
import SqlLint.Tool.Locate
import SqlLint.Tool.Registry
import SqlLint.Tool.Version
import SqlLint.Url.Basic
import SqlLint.Url.Host
import SqlLint.Url.Parse
import SqlLint.Url.Percent
import SqlLint.Workspace.Basic
import SqlLint.Workspace.Format
import SqlLint.Workspace.Invocation
import SqlLint.Workspace.Log
import SqlLint.Workspace.Probe
