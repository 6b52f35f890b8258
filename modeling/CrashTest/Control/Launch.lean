import CrashTest.Time.Duration
import CrashTest.Json.Decode
/-!
How to start the target: the program, its arguments, extra environment, working directory and
the time limits for its start, its readiness polls and its stop.

Every field has a default, so a partial description is filled in: no program, no arguments, no
extra environment, the controller's own working directory, one minute to become ready, a poll
every 100 ms and 30 s to stop. The time limits are kept in milliseconds; a poll interval of 0 is
taken as one millisecond.
-/
namespace CrashTest

open CrashTest.Json

/-- How to start the target process. -/
structure LaunchSpec where
  program : String := ""
  args : List String := []
  /-- Extra environment variables, sorted by name. -/
  env : List (String × String) := []
  /-- The working directory; `none` keeps the controller's. -/
  workingDir : Option String := none
  readyTimeoutMs : Nat := 60000
  pollIntervalMs : Nat := 100
  stopTimeoutMs : Nat := 30000
  deriving DecidableEq, Repr, Inhabited

namespace LaunchSpec

/-- A spec for `program` with every other field at its default. -/
def new (program : String) : LaunchSpec := { program := program }

/-- The spec with more arguments at the end. -/
def withArgs (spec : LaunchSpec) (args : List String) : LaunchSpec :=
  { spec with args := spec.args ++ args }

/-- The spec with one more environment variable, replacing an earlier value of the name. -/
def withEnv (spec : LaunchSpec) (key value : String) : LaunchSpec :=
  { spec with env := Decoder.insertSorted key value spec.env }

/-- How long a fresh start may take to become ready. -/
def readyTimeout (spec : LaunchSpec) : Duration := .ofMillis spec.readyTimeoutMs

/-- The pause between readiness polls, at least one millisecond. -/
def pollInterval (spec : LaunchSpec) : Duration := .ofMillis (max 1 spec.pollIntervalMs)

/-- How long a graceful stop may take before the target is killed. -/
def stopTimeout (spec : LaunchSpec) : Duration := .ofMillis spec.stopTimeoutMs

/-- The program as shown in messages. -/
def displayProgram (spec : LaunchSpec) : String := spec.program

/-- The spec as JSON. -/
def toJson (spec : LaunchSpec) : Json :=
  .obj [("program", .str spec.program), ("args", .arr (spec.args.map .str)),
    ("env", .obj (spec.env.map fun (k, v) => (k, .str v))),
    ("working_dir", Json.ofOption .str spec.workingDir),
    ("ready_timeout_ms", .nat spec.readyTimeoutMs), ("poll_interval_ms", .nat spec.pollIntervalMs),
    ("stop_timeout_ms", .nat spec.stopTimeoutMs)]

/-- Reads a spec from JSON; absent fields take their defaults. -/
def decoder : Decoder LaunchSpec :=
  let d : LaunchSpec := {}
  let program := Field.withDefault "program" Decoder.path d.program
  let args := Field.withDefault "args" (Decoder.list Decoder.string) d.args
  let env := Field.withDefault "env" (Decoder.stringMap Decoder.string) d.env
  let workingDir := Field.withDefault "working_dir" (Decoder.option Decoder.path) d.workingDir
  let readyTimeoutMs := Field.withDefault "ready_timeout_ms" Decoder.u64 d.readyTimeoutMs
  let pollIntervalMs := Field.withDefault "poll_interval_ms" Decoder.u64 d.pollIntervalMs
  let stopTimeoutMs := Field.withDefault "stop_timeout_ms" Decoder.u64 d.stopTimeoutMs
  Decoder.record "LaunchSpec"
    [program.toCheck, args.toCheck, env.toCheck, workingDir.toCheck, readyTimeoutMs.toCheck,
      pollIntervalMs.toCheck, stopTimeoutMs.toCheck] fun m => do
    return { program := ← m.read program, args := ← m.read args, env := ← m.read env,
             workingDir := ← m.read workingDir, readyTimeoutMs := ← m.read readyTimeoutMs,
             pollIntervalMs := ← m.read pollIntervalMs, stopTimeoutMs := ← m.read stopTimeoutMs }

end LaunchSpec

end CrashTest
