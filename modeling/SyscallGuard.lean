import SyscallGuard.Cli.Arguments
import SyscallGuard.Cli.Command
import SyscallGuard.Cli.Parameter
import SyscallGuard.Cli.Similarity
import SyscallGuard.Cli.UsageError
import SyscallGuard.Detect
import SyscallGuard.Files.Changes
import SyscallGuard.Files.OsError
import SyscallGuard.Files.Path
import SyscallGuard.Files.Resolve
import SyscallGuard.Files.System
import SyscallGuard.Files.Tree
import SyscallGuard.Files.Walk
import SyscallGuard.Format
import SyscallGuard.Grammar.Automaton
import SyscallGuard.Grammar.Automaton.Rows
import SyscallGuard.Grammar.Phrase
import SyscallGuard.Grammar.Reduction
import SyscallGuard.Grammar.Rival
import SyscallGuard.Grammar.Token
import SyscallGuard.Guard
import SyscallGuard.Guarded
import SyscallGuard.Inject
import SyscallGuard.Log.Event
import SyscallGuard.Log.Filter
import SyscallGuard.Log.Instant
import SyscallGuard.Log.Line
import SyscallGuard.Log.Pattern
import SyscallGuard.Main
import SyscallGuard.Parse.Fault
import SyscallGuard.Parse.Node
import SyscallGuard.Parse.Recovery
import SyscallGuard.Parse.Reduce
import SyscallGuard.Parse.Run
import SyscallGuard.Parse.Shelf
import SyscallGuard.Parse.Stack
import SyscallGuard.Parse.Tree
import SyscallGuard.Process.Editor.Command
import SyscallGuard.Process.Editor.Run
import SyscallGuard.Process.Host
import SyscallGuard.Process.Options
import SyscallGuard.Process.Programs
import SyscallGuard.Process.Regex
import SyscallGuard.Process.Session
import SyscallGuard.Process.Shell.Arithmetic
import SyscallGuard.Process.Shell.Builtin
import SyscallGuard.Process.Shell.Command
import SyscallGuard.Process.Shell.Expand
import SyscallGuard.Process.Shell.Reader
import SyscallGuard.Process.Shell.Run
import SyscallGuard.Process.Shell.State
import SyscallGuard.Process.Shell.Wildcard
import SyscallGuard.Process.Utility.Condition
import SyscallGuard.Process.Utility.Edit
import SyscallGuard.Process.Utility.Environment
import SyscallGuard.Process.Utility.Exchange
import SyscallGuard.Process.Utility.Files
import SyscallGuard.Process.Utility.Lines
import SyscallGuard.Process.Utility.Print
import SyscallGuard.Process.Utility.Search
import SyscallGuard.Proofs.Coordinates
import SyscallGuard.Proofs.Detection
import SyscallGuard.Proofs.Edits
import SyscallGuard.Proofs.Formed
import SyscallGuard.Proofs.Grammar
import SyscallGuard.Proofs.Injection
import SyscallGuard.Proofs.Lexing
import SyscallGuard.Proofs.Machine
import SyscallGuard.Proofs.Outline
import SyscallGuard.Proofs.Recovery
import SyscallGuard.Proofs.Reduce
import SyscallGuard.Proofs.Reinjection
import SyscallGuard.Proofs.Relocation
import SyscallGuard.Proofs.Rerun
import SyscallGuard.Proofs.Run
import SyscallGuard.Proofs.Scopes
import SyscallGuard.Proofs.Search
import SyscallGuard.Proofs.Sites
import SyscallGuard.Proofs.Spelling
import SyscallGuard.Proofs.Stack
import SyscallGuard.Proofs.Syntax
import SyscallGuard.Proofs.Text
import SyscallGuard.Proofs.Validity
import SyscallGuard.Scan.Input
import SyscallGuard.Scan.Letters
import SyscallGuard.Scan.Lexeme
import SyscallGuard.Scan.Mode
import SyscallGuard.Scan.Pattern
import SyscallGuard.Scan.Shape
import SyscallGuard.Sweep
import SyscallGuard.Text.Alphanumeric
import SyscallGuard.Text.Blank
import SyscallGuard.Text.Bytes
import SyscallGuard.Text.Lines
import SyscallGuard.Text.Order
import SyscallGuard.Text.Terminal
import SyscallGuard.Text.Utf8
import SyscallGuard.Proofs.Entries
import SyscallGuard.Proofs.Formatting
import SyscallGuard.Proofs.Itinerary
import SyscallGuard.Proofs.Roots
import SyscallGuard.Proofs.Forecast
import SyscallGuard.Proofs.Sweeps
import SyscallGuard.Proofs.Literal
import SyscallGuard.Proofs.Layout
import SyscallGuard.Proofs.Trail
import SyscallGuard.Proofs.Resumption
import SyscallGuard.Proofs.Command
import SyscallGuard.Proofs.Splicing
import SyscallGuard.Proofs.Extension
import SyscallGuard.Proofs.Faults
import SyscallGuard.Proofs.Events
