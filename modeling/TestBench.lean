import TestBench.Protocol.Case
import TestBench.Report.Sink
import TestBench.Run.Runner
import TestBench.Sanitizer.Session
import TestBench.Settings.Source
import TestBench.Cli.Startup
import TestBench.Machine
import TestBench.Main
import TestBench.Proofs.Text.Lines
import TestBench.Proofs.Text.Utf8
import TestBench.Proofs.Protocol.Grammar
import TestBench.Proofs.Protocol.Grouping
import TestBench.Proofs.Report.Sink
import TestBench.Proofs.Report.Stats
import TestBench.Proofs.Run.Pool
import TestBench.Proofs.Run.Judge
import TestBench.Proofs.Discovery
import TestBench.Proofs.Cli.Setup
import TestBench.Proofs.Cli.RunExit
import TestBench.Proofs.Sanitizer.Session
import TestBench.Proofs.Cli.SanitizersExit
import TestBench.Proofs.Cli.SanitizersGate
import TestBench.Proofs.Run.Verdict
import TestBench.Proofs.Report.Truncation
import TestBench.Proofs.Report.CaseTable
import TestBench.Proofs.Sanitizer.Interruption
import TestBench.Proofs.Sanitizer.Isolation
import TestBench.Proofs.FileTree.Resolve
import TestBench.Proofs.FileTree.WellFormed
import TestBench.Proofs.FileTree.Walk
import TestBench.Proofs.FileTree.Passable
import TestBench.Proofs.Discovery.Exact
import TestBench.Proofs.Report.Rearranged
import TestBench.Proofs.Run.Schedule
import TestBench.Proofs.Report.Color
import TestBench.Proofs.Report.Positions
import TestBench.Proofs.Settings.Layering
import TestBench.Proofs.Settings.Merged
import TestBench.Proofs.Settings.Own
import TestBench.Proofs.Settings.Unread
import TestBench.Proofs.Settings.Loading
import TestBench.Proofs.Protocol.RoundTrip
import TestBench.Proofs.Protocol.Cutoff
import TestBench.Proofs.Protocol.Noise
import TestBench.Proofs.Discovery.Skipped
import TestBench.Proofs.Program.Environment
import TestBench.Proofs.Program.Definitions
import TestBench.Proofs.Settings.Variables
import TestBench.Proofs.Settings.Threads
import TestBench.Proofs.Sanitizer.Declared
import TestBench.Proofs.Text.Replace
import TestBench.Proofs.Shell.Words
import TestBench.Proofs.Sanitizer.BuildCommand
import TestBench.Proofs.Run.Capture
import TestBench.Proofs.Report.Sections
import TestBench.Proofs.Report.Counts
import TestBench.Proofs.Path.Lexical
import TestBench.Proofs.Duration.Elapsed
import TestBench.Proofs.Glob.Plain
import TestBench.Proofs.Duration.Written
import TestBench.Proofs.Cli.Limit
import TestBench.Proofs.Toml.Strings
import TestBench.Proofs.Settings.Limit
import TestBench.Proofs.Run.Expiry
import TestBench.Proofs.Text.Width
import TestBench.Proofs.Report.Alignment
