import GuidedExploration.Batch.Basic
import GuidedExploration.Batch.EngineStages
import GuidedExploration.Batch.Outcome
import GuidedExploration.Batch.Stages
import GuidedExploration.Cause
import GuidedExploration.CommandLine.Basic
import GuidedExploration.CommandLine.BatchCommand
import GuidedExploration.CommandLine.DualCommand
import GuidedExploration.CommandLine.Grammar
import GuidedExploration.CommandLine.MapCommand
import GuidedExploration.CommandLine.Program
import GuidedExploration.Comparison.DualRun
import GuidedExploration.Comparison.Metric
import GuidedExploration.Comparison.Record
import GuidedExploration.Comparison.Request
import GuidedExploration.Configuration.Basic
import GuidedExploration.Configuration.Category
import GuidedExploration.Configuration.Settings
import GuidedExploration.Decimal.Layout
import GuidedExploration.Decimal.Magnitude
import GuidedExploration.Decimal.Reading
import GuidedExploration.Decimal.Shortest
import GuidedExploration.Dict
import GuidedExploration.Engine.Invocation
import GuidedExploration.Engine.Record
import GuidedExploration.Engine.Run
import GuidedExploration.Engine.Sandbox
import GuidedExploration.Engine.Statistics
import GuidedExploration.ErrorNumber
import GuidedExploration.Fault
import GuidedExploration.FileSystem.Actions
import GuidedExploration.FileSystem.Basic
import GuidedExploration.FileSystem.Changes
import GuidedExploration.FileSystem.Operation
import GuidedExploration.FileSystem.Source
import GuidedExploration.Json.Basic
import GuidedExploration.Json.Float
import GuidedExploration.Json.Printer
import GuidedExploration.Json.Reader
import GuidedExploration.Json.Schema
import GuidedExploration.Main
import GuidedExploration.ObservationTable
import GuidedExploration.Path
import GuidedExploration.Process.Command
import GuidedExploration.Report.Grid
import GuidedExploration.Report.Records
import GuidedExploration.Report.Tables
import GuidedExploration.Shell.Arithmetic
import GuidedExploration.Shell.Builtin
import GuidedExploration.Shell.Condition
import GuidedExploration.Shell.Course
import GuidedExploration.Shell.Descriptor
import GuidedExploration.Shell.Evaluation
import GuidedExploration.Shell.Execution
import GuidedExploration.Shell.Expansion
import GuidedExploration.Shell.Format
import GuidedExploration.Shell.Launch
import GuidedExploration.Shell.Link
import GuidedExploration.Shell.Process
import GuidedExploration.Shell.Program
import GuidedExploration.Shell.Reader.Basic
import GuidedExploration.Shell.Reader.Compound
import GuidedExploration.Shell.Reader.Script
import GuidedExploration.Shell.Reader.Simple
import GuidedExploration.Shell.Reader.Token
import GuidedExploration.Shell.Reader.Word
import GuidedExploration.Shell.Runner
import GuidedExploration.Shell.Schedule
import GuidedExploration.Shell.Signal
import GuidedExploration.Shell.Syntax
import GuidedExploration.Shell.Utility.Basic
import GuidedExploration.Shell.Utility.Files
import GuidedExploration.Shell.Utility.Lines
import GuidedExploration.Shell.Utility.Streams
import GuidedExploration.Shell.Utility.Table
import GuidedExploration.SymbolicInput.Builtin
import GuidedExploration.SymbolicInput.Defaults
import GuidedExploration.SymbolicInput.Resolution
import GuidedExploration.Text.Blank
import GuidedExploration.Text.Cut
import GuidedExploration.Text.Glob
import GuidedExploration.Text.Mark
import GuidedExploration.Text.Numeral
import GuidedExploration.Text.Quoted
import GuidedExploration.Text.Utf8
import GuidedExploration.Text.Visible
import GuidedExploration.Text.Width
import GuidedExploration.Text.Width.Character
import GuidedExploration.Text.Width.Emoji
import GuidedExploration.Text.Width.Ligature
import GuidedExploration.Thresholds
import GuidedExploration.Trace.Basic
import GuidedExploration.Trace.File
import GuidedExploration.Trace.Line
import GuidedExploration.ValueMap.Basic
import GuidedExploration.ValueMap.Entry
import GuidedExploration.ValueMap.File
import GuidedExploration.ValueMap.Json
import GuidedExploration.ValueMap.Key
import GuidedExploration.Proofs.Dict
import GuidedExploration.Proofs.ValueOrder
import GuidedExploration.Proofs.Aggregation.Table
import GuidedExploration.Proofs.Aggregation.Listing
import GuidedExploration.Proofs.Batch.Recording
import GuidedExploration.Proofs.Batch.Runs
import GuidedExploration.Proofs.FileSystem.Location
import GuidedExploration.Proofs.Batch.TraceLocation
import GuidedExploration.Proofs.FileSystem.Actions
import GuidedExploration.Proofs.Batch.Work
import GuidedExploration.Proofs.Json.Literal
import GuidedExploration.Proofs.Json.RoundTrip
import GuidedExploration.Proofs.Json.Schema
import GuidedExploration.Proofs.Comparison.Reread
import GuidedExploration.Proofs.FileSystem.Reading
import GuidedExploration.Proofs.FileSystem.Writing
import GuidedExploration.Proofs.Json.Omission
import GuidedExploration.Proofs.Configuration.Reading
import GuidedExploration.Proofs.Report.Records
import GuidedExploration.Proofs.Report.Outcomes
import GuidedExploration.Proofs.Float.Packing
import GuidedExploration.Proofs.Float.Rounding
import GuidedExploration.Proofs.Float.Arithmetic
import GuidedExploration.Proofs.Float.Integers
import GuidedExploration.Proofs.Json.Scaling
import GuidedExploration.Proofs.Decimal.Shortest
import GuidedExploration.Proofs.Json.Collecting
import GuidedExploration.Proofs.Comparison.Numbers
import GuidedExploration.Proofs.Report.Comparisons
import GuidedExploration.Proofs.Text.Cut
import GuidedExploration.Proofs.ValueMap.Key
import GuidedExploration.Proofs.ValueMap.Stored
import GuidedExploration.Proofs.FileSystem.Frame
import GuidedExploration.Proofs.Comparison.OutputDirectories
import GuidedExploration.Proofs.Aggregation.VisitingOrder
import GuidedExploration.Proofs.Text.Blank
import GuidedExploration.Proofs.Text.Utf8
import GuidedExploration.Proofs.Text.Encoding
import GuidedExploration.Proofs.Text.ByteOrder
import GuidedExploration.Proofs.Text.SignedNumeral
import GuidedExploration.Proofs.Text.Lines
import GuidedExploration.Proofs.ValueMap.Sorted
import GuidedExploration.Proofs.Engine.Statistics
import GuidedExploration.Proofs.Comparison.Outcomes
import GuidedExploration.Proofs.Trace.Lines
import GuidedExploration.Proofs.Trace.Reading
import GuidedExploration.Proofs.Trace.Grammar
import GuidedExploration.Proofs.Trace.Decoding
import GuidedExploration.Proofs.Trace.Written
import GuidedExploration.Proofs.Aggregation.Counts
import GuidedExploration.Proofs.Aggregation.SiteUnion
import GuidedExploration.Proofs.ValueMap.Generated
import GuidedExploration.Proofs.ValueMap.Reported
import GuidedExploration.Proofs.ValueMap.Narrowing
import GuidedExploration.Proofs.ValueMap.Variables
import GuidedExploration.Proofs.FileSystem.Way
import GuidedExploration.Proofs.Batch.ProgramDirectories
import GuidedExploration.Proofs.FileSystem.Ancestors
import GuidedExploration.Proofs.Engine.Effects
import GuidedExploration.Proofs.FileSystem.Locality
import GuidedExploration.Proofs.Engine.Piecework
import GuidedExploration.Proofs.Comparison.Grounds
import GuidedExploration.Proofs.Comparison.Confinement
import GuidedExploration.Proofs.Comparison.Interleaving
import GuidedExploration.Proofs.Comparison.Beginning
import GuidedExploration.Proofs.FileSystem.Directories
import GuidedExploration.Proofs.Engine.Upshot
import GuidedExploration.Proofs.Engine.Seeding
import GuidedExploration.Proofs.Engine.Cleanup
import GuidedExploration.Proofs.Engine.Forgetting
import GuidedExploration.Proofs.Comparison.Arguments
import GuidedExploration.Proofs.Text.Words
import GuidedExploration.Proofs.SymbolicInput.Defaults
import GuidedExploration.Proofs.SymbolicInput.Resolution
import GuidedExploration.Proofs.Json.Reordering
import GuidedExploration.Proofs.Comparison.Reordered
import GuidedExploration.Proofs.Batch.Profiling
import GuidedExploration.Proofs.Configuration.Checking
import GuidedExploration.Proofs.SymbolicInput.Duplicates
import GuidedExploration.Proofs.Engine.Message
import GuidedExploration.Proofs.Text.Affix
import GuidedExploration.Proofs.Text.Glob
import GuidedExploration.Proofs.FileSystem.Listing
import GuidedExploration.Proofs.Engine.GeneratedTests
