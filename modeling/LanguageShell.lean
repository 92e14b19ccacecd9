import LanguageShell.Echo
import LanguageShell.Main
import LanguageShell.Proofs.Calculator.FileAndShell
import LanguageShell.Proofs.Calculator.Inlining
import LanguageShell.Proofs.Calculator.RoundTrip
import LanguageShell.Session
import LanguageShell.Proofs.Calculator.Verdict
import LanguageShell.Proofs.Progress
import LanguageShell.Proofs.Calculator.NestedLoad
import LanguageShell.Proofs.Calculator.Recursion
import LanguageShell.Proofs.CommandLine.Forms
import LanguageShell.Proofs.CommandLine.Parts
import LanguageShell.Proofs.CommandLine.Scanning
import LanguageShell.Proofs.CommandLine.Settings
import LanguageShell.Proofs.CommandLine.Queue
import LanguageShell.Proofs.CommandLine.Insertion
import LanguageShell.Proofs.CommandLine.Restart
import LanguageShell.Proofs.Calculator.Verbosity
import LanguageShell.Proofs.Calculator.Noninterference
import LanguageShell.Proofs.Rounding
import LanguageShell.Proofs.Calculator.Arithmetic
import LanguageShell.Proofs.Calculator.Evaluation
import LanguageShell.Proofs.Survival
import LanguageShell.Proofs.Calculator.Faults
import LanguageShell.Proofs.Calculator.Recovery
import LanguageShell.Proofs.Calculator.Extents
import LanguageShell.Proofs.Calculator.Spans
import LanguageShell.Proofs.Conversation
import LanguageShell.Proofs.Calculator.Stack
import LanguageShell.Proofs.Calculator.Canonical
import LanguageShell.Proofs.Calculator.FirstFailure
import LanguageShell.Proofs.Calculator.Listing
import LanguageShell.Proofs.Calculator.Bindings
import LanguageShell.Proofs.Calculator.Parentheses
import LanguageShell.Proofs.Calculator.Layout
import LanguageShell.Proofs.Calculator.CommandEnd
import LanguageShell.Proofs.Calculator.UnboundName
import LanguageShell.Proofs.Calculator.Numeral
import LanguageShell.Proofs.Calculator.PrintedOperand
import LanguageShell.Proofs.Rendering
import LanguageShell.Proofs.CommandLine.Version
import LanguageShell.Proofs.Location
import LanguageShell.Proofs.ParserFailure
import LanguageShell.Proofs.Indentation
import LanguageShell.Proofs.Calculator.ClosingLine
import LanguageShell.Proofs.FileTree
