import SbtWorkspace.Action
import SbtWorkspace.CommandLine.Application
import SbtWorkspace.CommandLine.Arguments
import SbtWorkspace.CommandLine.Commands
import SbtWorkspace.CommandLine.Console
import SbtWorkspace.Config.Basic
import SbtWorkspace.Config.Error
import SbtWorkspace.Config.Store
import SbtWorkspace.Config.Validation
import SbtWorkspace.Environment
import SbtWorkspace.Event
import SbtWorkspace.Failure
import SbtWorkspace.FileSystem.Basic
import SbtWorkspace.FileSystem.Calls
import SbtWorkspace.FileSystem.Canonical
import SbtWorkspace.FileSystem.Difference
import SbtWorkspace.FileSystem.Error
import SbtWorkspace.FileSystem.Resolve
import SbtWorkspace.FileSystem.Scratch
import SbtWorkspace.Invocation.Options
import SbtWorkspace.Invocation.Tool
import SbtWorkspace.Layout
import SbtWorkspace.Main
import SbtWorkspace.Path.Basic
import SbtWorkspace.PinnedVersion
import SbtWorkspace.Program
import SbtWorkspace.Proofs.Action
import SbtWorkspace.Proofs.CommandLine.Console
import SbtWorkspace.Proofs.CommandLine.Containment
import SbtWorkspace.Proofs.CommandLine.Emission
import SbtWorkspace.Proofs.CommandLine.Launch
import SbtWorkspace.Proofs.CommandLine.Launcher
import SbtWorkspace.Proofs.CommandLine.Report
import SbtWorkspace.Proofs.Config.Failing
import SbtWorkspace.Proofs.Config.Loading
import SbtWorkspace.Proofs.Config.RoundTrip
import SbtWorkspace.Proofs.Config.Saving
import SbtWorkspace.Proofs.Config.Store
import SbtWorkspace.Proofs.FileSystem.Beside
import SbtWorkspace.Proofs.FileSystem.Extension
import SbtWorkspace.Proofs.FileSystem.Growth
import SbtWorkspace.Proofs.FileSystem.Look
import SbtWorkspace.Proofs.FileSystem.Move
import SbtWorkspace.Proofs.FileSystem.Sight
import SbtWorkspace.Proofs.FileSystem.Way
import SbtWorkspace.Proofs.FileSystem.Written
import SbtWorkspace.Proofs.Invocation.Options
import SbtWorkspace.Proofs.Invocation.PinnedVersion
import SbtWorkspace.Proofs.MetaBuild.Chain
import SbtWorkspace.Proofs.MetaBuild.Cycle
import SbtWorkspace.Proofs.MetaBuild.Stability
import SbtWorkspace.Proofs.Outcome
import SbtWorkspace.Proofs.Paired
import SbtWorkspace.Proofs.Properties.Continuation
import SbtWorkspace.Proofs.Properties.Escape
import SbtWorkspace.Proofs.Properties.Joining
import SbtWorkspace.Proofs.Properties.RoundTrip
import SbtWorkspace.Proofs.Properties.Seam
import SbtWorkspace.Proofs.Properties.Written
import SbtWorkspace.Proofs.Provision.Abreast
import SbtWorkspace.Proofs.Provision.Alias
import SbtWorkspace.Proofs.Provision.Commute
import SbtWorkspace.Proofs.Provision.Descriptor
import SbtWorkspace.Proofs.Provision.Dismissed
import SbtWorkspace.Proofs.Provision.Effect
import SbtWorkspace.Proofs.Provision.Failing
import SbtWorkspace.Proofs.Provision.Handover
import SbtWorkspace.Proofs.Provision.Idempotence
import SbtWorkspace.Proofs.Provision.Names
import SbtWorkspace.Proofs.Provision.Prepared
import SbtWorkspace.Proofs.Provision.Reading
import SbtWorkspace.Proofs.Provision.Removal
import SbtWorkspace.Proofs.Provision.Served
import SbtWorkspace.Proofs.Provision.Spared
import SbtWorkspace.Proofs.Provision.Step
import SbtWorkspace.Proofs.Provision.Unobserved
import SbtWorkspace.Proofs.Provision.Unsourced
import SbtWorkspace.Proofs.Provision.Write
import SbtWorkspace.Proofs.Terminal.Sequence
import SbtWorkspace.Proofs.Text.Blank
import SbtWorkspace.Proofs.Text.Json
import SbtWorkspace.Proofs.Text.JsonArray
import SbtWorkspace.Proofs.Text.Line
import SbtWorkspace.Proofs.Text.ShellWord
import SbtWorkspace.Proofs.Text.Utf8
import SbtWorkspace.Proofs.Text.Utf8Stream
import SbtWorkspace.Proofs.Toml.Refusal
import SbtWorkspace.Proofs.Toml.RoundTrip
import SbtWorkspace.Proofs.Version.Grammar
import SbtWorkspace.Proofs.Version.Order
import SbtWorkspace.Proofs.Version.ReleaseLine
import SbtWorkspace.Properties.Parser
import SbtWorkspace.Provision.Bridge
import SbtWorkspace.Provision.Descriptor
import SbtWorkspace.Provision.Legacy
import SbtWorkspace.Provision.MetaBuild
import SbtWorkspace.Rounding
import SbtWorkspace.Simulation.Arithmetic
import SbtWorkspace.Simulation.Binary
import SbtWorkspace.Simulation.Calendar
import SbtWorkspace.Simulation.Condition
import SbtWorkspace.Simulation.Digest
import SbtWorkspace.Simulation.Editing.Command
import SbtWorkspace.Simulation.Editing.Reader
import SbtWorkspace.Simulation.Editing.Run
import SbtWorkspace.Simulation.Edits
import SbtWorkspace.Simulation.FileChange
import SbtWorkspace.Simulation.Launch
import SbtWorkspace.Simulation.Options
import SbtWorkspace.Simulation.Pattern
import SbtWorkspace.Simulation.Permission
import SbtWorkspace.Simulation.Printing
import SbtWorkspace.Simulation.Records.Evaluation
import SbtWorkspace.Simulation.Records.Format
import SbtWorkspace.Simulation.Records.Machine
import SbtWorkspace.Simulation.Records.Reader
import SbtWorkspace.Simulation.Records.Rule
import SbtWorkspace.Simulation.Records.Run
import SbtWorkspace.Simulation.Records.Table
import SbtWorkspace.Simulation.Records.Token
import SbtWorkspace.Simulation.Records.Value
import SbtWorkspace.Simulation.Regex.Basic
import SbtWorkspace.Simulation.Regex.Reader
import SbtWorkspace.Simulation.Run
import SbtWorkspace.Simulation.Script.Braces
import SbtWorkspace.Simulation.Script.Command
import SbtWorkspace.Simulation.Script.Question
import SbtWorkspace.Simulation.Script.Token
import SbtWorkspace.Simulation.Script.Word
import SbtWorkspace.Simulation.Shell.Assignment
import SbtWorkspace.Simulation.Shell.Basic
import SbtWorkspace.Simulation.Shell.Builtin
import SbtWorkspace.Simulation.Shell.Declaration
import SbtWorkspace.Simulation.Shell.Engine
import SbtWorkspace.Simulation.Shell.Evaluation
import SbtWorkspace.Simulation.Shell.Expansion
import SbtWorkspace.Simulation.Shell.Inquiry
import SbtWorkspace.Simulation.Shell.Intake
import SbtWorkspace.Simulation.Shell.Signal
import SbtWorkspace.Simulation.Shell.Switch
import SbtWorkspace.Simulation.Utility.Batches
import SbtWorkspace.Simulation.Utility.Changes
import SbtWorkspace.Simulation.Utility.Characters
import SbtWorkspace.Simulation.Utility.Clock
import SbtWorkspace.Simulation.Utility.Columns
import SbtWorkspace.Simulation.Utility.Comparison
import SbtWorkspace.Simulation.Utility.Encoding
import SbtWorkspace.Simulation.Utility.Expression
import SbtWorkspace.Simulation.Utility.Lines
import SbtWorkspace.Simulation.Utility.Listing
import SbtWorkspace.Simulation.Utility.Numbers
import SbtWorkspace.Simulation.Utility.Outcome
import SbtWorkspace.Simulation.Utility.Pathname
import SbtWorkspace.Simulation.Utility.Pieces
import SbtWorkspace.Simulation.Utility.Reason
import SbtWorkspace.Simulation.Utility.Run
import SbtWorkspace.Simulation.Utility.Search
import SbtWorkspace.Simulation.Utility.Sorting
import SbtWorkspace.Simulation.Utility.Surroundings
import SbtWorkspace.Simulation.Utility.Tree
import SbtWorkspace.Simulation.World
import SbtWorkspace.Terminal.ColorName
import SbtWorkspace.Terminal.Escape
import SbtWorkspace.Terminal.Handler
import SbtWorkspace.Terminal.Literal.Escape
import SbtWorkspace.Terminal.Literal.Expression
import SbtWorkspace.Terminal.Literal.Grammar
import SbtWorkspace.Terminal.Literal.Reader
import SbtWorkspace.Terminal.Literal.Template
import SbtWorkspace.Terminal.Literal.Token
import SbtWorkspace.Terminal.Markup
import SbtWorkspace.Terminal.Paragraph
import SbtWorkspace.Terminal.Style
import SbtWorkspace.Terminal.Styled
import SbtWorkspace.Terminal.Table
import SbtWorkspace.Text.Blank
import SbtWorkspace.Text.Case
import SbtWorkspace.Text.CharacterName
import SbtWorkspace.Text.CodePoint
import SbtWorkspace.Text.Digit
import SbtWorkspace.Text.Glyph
import SbtWorkspace.Text.Json
import SbtWorkspace.Text.Letter
import SbtWorkspace.Text.Line
import SbtWorkspace.Text.Numeral
import SbtWorkspace.Text.Octet
import SbtWorkspace.Text.Printable
import SbtWorkspace.Text.Quoted
import SbtWorkspace.Text.Ranges
import SbtWorkspace.Text.ShellWord
import SbtWorkspace.Text.Utf8
import SbtWorkspace.Text.Width
import SbtWorkspace.Toml.Document
import SbtWorkspace.Toml.Lexeme
import SbtWorkspace.Toml.Value
import SbtWorkspace.Toml.Writer
import SbtWorkspace.Total
import SbtWorkspace.Version.Basic
import SbtWorkspace.Version.Parser
