import SourceCheck.Backend
import SourceCheck.Builtin.Arguments
import SourceCheck.Builtin.Backend
import SourceCheck.Builtin.Language
import SourceCheck.Check.Engine
import SourceCheck.Check.Result
import SourceCheck.Check.Scratch
import SourceCheck.Check.Trace
import SourceCheck.Command
import SourceCheck.CommandLine.Invocation
import SourceCheck.CommandLine.Reach
import SourceCheck.CommandLine.Run
import SourceCheck.Console
import SourceCheck.Diagnostic
import SourceCheck.Execution.Run
import SourceCheck.Execution.Standard
import SourceCheck.Execution.Start
import SourceCheck.Execution.System
import SourceCheck.Fault
import SourceCheck.Hook
import SourceCheck.Json.Reader
import SourceCheck.Json.Value
import SourceCheck.Json.Writer
import SourceCheck.Language
import SourceCheck.Library
import SourceCheck.LogRecord
import SourceCheck.Machine.Basic
import SourceCheck.Machine.FileTree
import SourceCheck.Machine.Resolve
import SourceCheck.Machine.Search
import SourceCheck.Main
import SourceCheck.Number.Binary64
import SourceCheck.Number.Decimal
import SourceCheck.Number.Integer
import SourceCheck.Number.Leading
import SourceCheck.Number.NumeralForm
import SourceCheck.Number.Shortest
import SourceCheck.Output.Caret
import SourceCheck.Output.Compiler
import SourceCheck.Output.Elixir
import SourceCheck.Output.GoVet
import SourceCheck.Output.Javac
import SourceCheck.Output.Luac
import SourceCheck.Output.Php
import SourceCheck.Output.Position
import SourceCheck.Output.Pyright
import SourceCheck.Output.Scala
import SourceCheck.Output.Terraform
import SourceCheck.Output.TypeScript
import SourceCheck.Path
import SourceCheck.Probe
import SourceCheck.Project.Markers
import SourceCheck.Project.Root
import SourceCheck.Project.Tool
import SourceCheck.Proofs.Builtin.Placing
import SourceCheck.Proofs.Builtin.Reading
import SourceCheck.Proofs.Check.CallTrace
import SourceCheck.Proofs.Check.Calling
import SourceCheck.Proofs.Check.Course
import SourceCheck.Proofs.Check.Designating
import SourceCheck.Proofs.Check.Ending
import SourceCheck.Proofs.Check.Gating
import SourceCheck.Proofs.Check.GivenRoot
import SourceCheck.Proofs.Check.Interference
import SourceCheck.Proofs.Check.Passing
import SourceCheck.Proofs.Check.Rooting
import SourceCheck.Proofs.Check.Running
import SourceCheck.Proofs.CommandLine.Failing
import SourceCheck.Proofs.CommandLine.Naming
import SourceCheck.Proofs.CommandLine.Switches
import SourceCheck.Proofs.CommandLine.Tested
import SourceCheck.Proofs.CommandLine.Turning
import SourceCheck.Proofs.Execution.Returning
import SourceCheck.Proofs.Hook.Answering
import SourceCheck.Proofs.Json.Equality
import SourceCheck.Proofs.Json.Extent
import SourceCheck.Proofs.Json.Limits
import SourceCheck.Proofs.Json.Numerals
import SourceCheck.Proofs.Json.Printable
import SourceCheck.Proofs.Json.Respacing
import SourceCheck.Proofs.Json.RoundTrip
import SourceCheck.Proofs.Json.Shapes
import SourceCheck.Proofs.Json.Strings
import SourceCheck.Proofs.Machine.Directories
import SourceCheck.Proofs.Machine.Following
import SourceCheck.Proofs.Machine.Growing
import SourceCheck.Proofs.Machine.Legible
import SourceCheck.Proofs.Machine.Refusing
import SourceCheck.Proofs.Machine.Writing
import SourceCheck.Proofs.Number.ReadInteger
import SourceCheck.Proofs.Output.CaretBlocks
import SourceCheck.Proofs.Output.Carets
import SourceCheck.Proofs.Output.CompilerLines
import SourceCheck.Proofs.Output.FollowingLines
import SourceCheck.Proofs.Output.FormatDiffs
import SourceCheck.Proofs.Output.FramedBlocks
import SourceCheck.Proofs.Output.GoVetLines
import SourceCheck.Proofs.Output.GutterBlocks
import SourceCheck.Proofs.Output.LineEndings
import SourceCheck.Proofs.Output.LineFormat
import SourceCheck.Proofs.Output.LineReaders
import SourceCheck.Proofs.Output.LintFindings
import SourceCheck.Proofs.Output.LintLines
import SourceCheck.Proofs.Output.LocatedLines
import SourceCheck.Proofs.Output.LookingAhead
import SourceCheck.Proofs.Output.LuacLines
import SourceCheck.Proofs.Output.NoisyDocuments
import SourceCheck.Proofs.Output.Numerals
import SourceCheck.Proofs.Output.OwnFindings
import SourceCheck.Proofs.Output.PyrightFindings
import SourceCheck.Proofs.Output.ReportBlocks
import SourceCheck.Proofs.Output.Returning
import SourceCheck.Proofs.Output.TypeScriptBlocks
import SourceCheck.Proofs.Output.TypeScriptLine
import SourceCheck.Proofs.Output.TypeScriptPaths
import SourceCheck.Proofs.Output.Written
import SourceCheck.Proofs.Path
import SourceCheck.Proofs.Project.Search
import SourceCheck.Proofs.Project.Tool
import SourceCheck.Proofs.Registry.Finding
import SourceCheck.Proofs.Registry.Handovers
import SourceCheck.Proofs.Registry.LoweredSuffix
import SourceCheck.Proofs.Registry.Registering
import SourceCheck.Proofs.Registry.Resolving
import SourceCheck.Proofs.Registry.Suffixes
import SourceCheck.Proofs.Report.Agreement
import SourceCheck.Proofs.Report.Message
import SourceCheck.Proofs.Settings.Document
import SourceCheck.Proofs.Settings.Folding
import SourceCheck.Proofs.Settings.Keeping
import SourceCheck.Proofs.Settings.Loading
import SourceCheck.Proofs.Settings.Saving
import SourceCheck.Proofs.Settings.Switching
import SourceCheck.Proofs.Table
import SourceCheck.Proofs.Text.Lines
import SourceCheck.Proofs.Text.Lowering
import SourceCheck.Proofs.Text.Trimming
import SourceCheck.Proofs.Text.Utf8
import SourceCheck.Registry
import SourceCheck.Report
import SourceCheck.Settings.Basic
import SourceCheck.Settings.FlagSet
import SourceCheck.Settings.Problem
import SourceCheck.Settings.Store
import SourceCheck.Settings.Validation
import SourceCheck.Severity
import SourceCheck.Shell.Arithmetic
import SourceCheck.Shell.Binding
import SourceCheck.Shell.Builtin
import SourceCheck.Shell.Directory
import SourceCheck.Shell.Escape
import SourceCheck.Shell.Fields
import SourceCheck.Shell.Flags
import SourceCheck.Shell.Format
import SourceCheck.Shell.Lookup
import SourceCheck.Shell.Mask
import SourceCheck.Shell.Nesting
import SourceCheck.Shell.Opening
import SourceCheck.Shell.OptionWalk
import SourceCheck.Shell.Options
import SourceCheck.Shell.Pattern
import SourceCheck.Shell.ProgramFlags
import SourceCheck.Shell.Programs
import SourceCheck.Shell.Reader
import SourceCheck.Shell.Run
import SourceCheck.Shell.Script
import SourceCheck.Shell.Signals
import SourceCheck.Shell.State
import SourceCheck.Shell.Stream
import SourceCheck.Shell.Test
import SourceCheck.Shell.Token
import SourceCheck.Table
import SourceCheck.Text.Blank
import SourceCheck.Text.Columns
import SourceCheck.Text.Digit
import SourceCheck.Text.Fields
import SourceCheck.Text.Lines
import SourceCheck.Text.Lower
import SourceCheck.Text.LowerTable
import SourceCheck.Text.PrintableTable
import SourceCheck.Text.Quoted
import SourceCheck.Text.Runs
import SourceCheck.Text.Scan
import SourceCheck.Text.Similar
import SourceCheck.Text.Utf8
import SourceCheck.Text.WidthTable
import SourceCheck.Text.Word
import SourceCheck.Text.WordTable
import SourceCheck.World
