import CrashTest.Time.Duration
import CrashTest.Json.Decode
import CrashTest.Text.Blank
import CrashTest.Text.Quoted
import CrashTest.Os.Errno
/-!
The target as seen from outside: its observable state, the commands that query it, and what can
go wrong running them.

A state snapshot is a text, such as a block height. Read as a progress counter it is trimmed of
White_Space and must then be a decimal number of at most 64 bits, with an optional leading `+`.

Probe commands are argument lists for four queries: readiness, consistency, observable state and
the workload. A query without a command falls back: ready means alive, consistency means
consistent, the workload does nothing, and the state is reported as not configured.
-/
-- Powers of numbers are the core ones, also where Mathlib's monoid powers are in scope.
attribute [local instance (high)] instPowNat

namespace CrashTest

open CrashTest.Json CrashTest.Text CrashTest.Os

/-- The externally observable state of the target. -/
structure StateSnapshot where
  text : String
  deriving DecidableEq, Repr, Inhabited

namespace StateSnapshot

/-- A decimal number of at most 64 bits: ASCII digits with an optional leading `+`. -/
def parseCounter (s : String) : Option Nat :=
  let digits := match s.toList with
    | '+' :: rest => rest
    | cs => cs
  if digits.isEmpty || !digits.all Char.isDigit then none
  else
    let n := (String.ofList digits).toNat!
    if n < 2 ^ (64 : Nat) then some n else none

/-- The snapshot read as a progress counter. -/
def asCounter (s : StateSnapshot) : Option Nat := parseCounter (trimBlank s.text)

/-- The snapshot as it appears in messages: `StateSnapshot("...")`. -/
def debugText (s : StateSnapshot) : String := "StateSnapshot(" ++ Text.quote s.text ++ ")"

/-- The snapshot as JSON: its text. -/
def toJson (s : StateSnapshot) : Json := .str s.text

end StateSnapshot

/-- Why a query against the target could not be made. -/
inductive TargetError where
  /-- The command could not be started; `errno` says why. -/
  | spawn (command : String) (errno : Int)
  /-- The command failed; `detail` is what it said. -/
  | failed (command : String) (detail : String)
  /-- The command did not finish in time. -/
  | timeout (command : String) (limit : Duration)
  /-- No command is configured for the query named. -/
  | notConfigured (what : String)
  deriving DecidableEq, Repr, Inhabited

namespace TargetError

/-- The name of the kind of error. -/
def kind : TargetError → String
  | .spawn .. => "Spawn"
  | .failed .. => "Failed"
  | .timeout .. => "Timeout"
  | .notConfigured _ => "NotConfigured"

/-- A command between backquotes. -/
def quoted (command : String) : String :=
  String.singleton (Char.ofNat 96) ++ command ++ String.singleton (Char.ofNat 96)

/-- The error in words. -/
def message : TargetError → String
  | .spawn command errno => "failed to run " ++ quoted command ++ ": " ++ osErrorText errno
  | .failed command detail => quoted command ++ " failed: " ++ detail
  | .timeout command limit => quoted command ++ " timed out after " ++ limit.toText
  | .notConfigured what => "no " ++ what ++ " command configured"

end TargetError

/-- The result of the target's own consistency check. -/
inductive Consistency where
  | consistent
  | inconsistent (reason : String)
  deriving DecidableEq, Repr, Inhabited

/-- The commands that query the target, each an argument list, with a time limit for each run
except the workload's. -/
structure ProbeCommands where
  ready : Option (List String) := none
  state : Option (List String) := none
  consistency : Option (List String) := none
  workload : Option (List String) := none
  timeoutMs : Nat := 10000
  deriving DecidableEq, Repr, Inhabited

namespace ProbeCommands

/-- The time limit of one query. -/
def timeout (c : ProbeCommands) : Duration := .ofMillis c.timeoutMs

/-- The commands as JSON. -/
def toJson (c : ProbeCommands) : Json :=
  let argv := Json.ofOption fun (xs : List String) => Json.arr (xs.map .str)
  .obj [("ready", argv c.ready), ("state", argv c.state), ("consistency", argv c.consistency),
    ("workload", argv c.workload), ("timeout_ms", .nat c.timeoutMs)]

/-- Reads the commands from JSON; absent fields take their defaults. -/
def decoder : Decoder ProbeCommands :=
  let argv := Decoder.option (Decoder.list Decoder.string)
  let ready := Field.withDefault "ready" argv none
  let state := Field.withDefault "state" argv none
  let consistency := Field.withDefault "consistency" argv none
  let workload := Field.withDefault "workload" argv none
  let timeoutMs := Field.withDefault "timeout_ms" Decoder.u64 10000
  Decoder.record "ProbeCommands"
    [ready.toCheck, state.toCheck, consistency.toCheck, workload.toCheck, timeoutMs.toCheck]
    fun m => do
    return { ready := ← m.read ready, state := ← m.read state,
             consistency := ← m.read consistency, workload := ← m.read workload,
             timeoutMs := ← m.read timeoutMs }

end ProbeCommands

end CrashTest
