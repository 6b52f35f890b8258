import CrashTest.Campaign.Analytics
import CrashTest.Campaign.Capsule
import CrashTest.Campaign.Config
import CrashTest.Campaign.Error
import CrashTest.Campaign.Outcome
import CrashTest.Campaign.Race
import CrashTest.Campaign.Report
import CrashTest.Campaign.Result
import CrashTest.Campaign.Run
import CrashTest.Condition.Basic
import CrashTest.Condition.Program
import CrashTest.Condition.Shell
import CrashTest.Control.Controller
import CrashTest.Control.Launch
import CrashTest.Control.Session
import CrashTest.Control.Status
import CrashTest.Control.Wait
import CrashTest.Float.Binary64
import CrashTest.Float.Decimal
import CrashTest.Float.Format
import CrashTest.Float.Parse
import CrashTest.Json.Decode
import CrashTest.Json.Node
import CrashTest.Json.Reader
import CrashTest.Json.Value
import CrashTest.Os.Errno
import CrashTest.Os.Files
import CrashTest.Os.Scheduler
import CrashTest.Os.Signal
import CrashTest.Os.Spawn
import CrashTest.Os.State
import CrashTest.Os.World
import CrashTest.Output.Bus
import CrashTest.Output.Probe
import CrashTest.Random.ChaCha
import CrashTest.Random.Range
import CrashTest.Random.Stream
import CrashTest.Shell.Arith
import CrashTest.Shell.Builtin.Basic
import CrashTest.Shell.Builtin.Lookup
import CrashTest.Shell.Builtin.Signals
import CrashTest.Shell.Builtin.Vars
import CrashTest.Shell.Expand
import CrashTest.Shell.Lexer
import CrashTest.Shell.Machine
import CrashTest.Shell.Parser
import CrashTest.Shell.Pattern
import CrashTest.Shell.Process
import CrashTest.Shell.Redirect
import CrashTest.Shell.Syntax
import CrashTest.Target.Command
import CrashTest.Target.Snapshot
import CrashTest.Text.Blank
import CrashTest.Text.ByteText
import CrashTest.Text.Directive
import CrashTest.Text.Echo
import CrashTest.Text.Numeral
import CrashTest.Text.Printable
import CrashTest.Text.Printf
import CrashTest.Text.Quoted
import CrashTest.Text.Search
import CrashTest.Text.Utf8
import CrashTest.Time.Duration
import CrashTest.Trigger.Basic
import CrashTest.Trigger.Calibration
import CrashTest.Trigger.Counter
import CrashTest.Trigger.Sampler
import CrashTest.Utility.Basic
import CrashTest.Utility.Expr
import CrashTest.Utility.Files
import CrashTest.Utility.Lines
import CrashTest.Utility.Run
import CrashTest.Utility.Seq
import CrashTest.Utility.Simple
import CrashTest.Verify.Expectation
import CrashTest.Verify.Recovery
import CrashTest.Proofs.Analytics
import CrashTest.Proofs.Campaign.Steps
import CrashTest.Proofs.Campaign.Results
import CrashTest.Proofs.Campaign.Run
import CrashTest.Proofs.Campaign.Replay
import CrashTest.Proofs.Campaign.Suite
import CrashTest.Proofs.Control.Handle
import CrashTest.Proofs.Os.Processes
import CrashTest.Proofs.Trigger.Window
import CrashTest.Proofs.Trigger.Counter
import CrashTest.Proofs.Output.Bus
import CrashTest.Proofs.Output.Armed
import CrashTest.Proofs.Output.Probe
import CrashTest.Proofs.Json.Read
import CrashTest.Proofs.Json.Decode
import CrashTest.Proofs.Campaign.Capsule
import CrashTest.Proofs.Control.Reaping
import CrashTest.Proofs.Campaign.Reaping
import CrashTest.Proofs.Verify.Restart
import CrashTest.Proofs.Control.Interrupt
import CrashTest.Proofs.Campaign.Race
import CrashTest.Proofs.Campaign.Retry
import CrashTest.Proofs.Campaign.Failures
import CrashTest.Proofs.Campaign.Baseline
import CrashTest.Proofs.Verify.Expectation
import CrashTest.Proofs.Random.Seeding
