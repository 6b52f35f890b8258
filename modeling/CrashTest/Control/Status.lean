import CrashTest.Time.Duration
import CrashTest.Json.Decode
import CrashTest.Os.Errno
import CrashTest.Os.Signal
/-!
How target processes end, which signal kills them, and what can go wrong while controlling them.

An exit status is an exit code, the number of the signal that ended the process, or lost (the
status could not be read). Only exit code 0 is success. A raw status as the system's `wait`
reports it is decoded the usual way: low seven bits zero means a normal exit whose code is in
the second byte; otherwise the low seven bits are a signal, unless they are all ones (a stopped
process), which counts as lost.

The kill signal is `terminate` (the target may run its shutdown path) or `kill` (it cannot);
`kill` is the more severe and the default.
-/
-- Powers of numbers are the core ones, also where Mathlib's monoid powers are in scope.
attribute [local instance (high)] instPowNat

namespace CrashTest

open CrashTest.Json CrashTest.Os

/-- How a target process ended. -/
inductive ExitStatus where
  | code (n : Int)
  | signal (n : Int)
  | lost
  deriving DecidableEq, Repr, Inhabited

namespace ExitStatus

/-- Whether the process ended with exit code 0. -/
def success : ExitStatus → Bool
  | .code 0 => true
  | _ => false

/-- The signal that ended the process, if one did. -/
def signal? : ExitStatus → Option Int
  | .signal n => some n
  | _ => none

/-- The status in words. -/
def describe : ExitStatus → String
  | .code n => "exit code " ++ toString n
  | .signal n => "signal " ++ toString n
  | .lost => "unknown status"

/-- The status as JSON. -/
def toJson : ExitStatus → Json
  | .code n => .obj [("Code", .int n)]
  | .signal n => .obj [("Signal", .int n)]
  | .lost => .str "Lost"

/-- A raw wait status, taken as a 32-bit word. -/
def ofRaw (raw : Int) : ExitStatus :=
  let word := (raw % 2 ^ (32 : Nat)).toNat
  let low := word % 128
  if low == 0 then .code (Int.ofNat ((word / 256) % 256))
  else if low == 127 then .lost
  else .signal (Int.ofNat low)

/-- Reads a status from JSON: `{"Code": n}`, `{"Signal": n}` or `"Lost"`. -/
def decoder : Decoder ExitStatus :=
  Decoder.named [("Code", .content fun src n => (Decoder.i32 src n).map ExitStatus.code),
    ("Signal", .content fun src n => (Decoder.i32 src n).map ExitStatus.signal),
    ("Lost", .unit .lost)]

end ExitStatus

/-- The signal that kills the target; `terminate` is the milder. -/
inductive KillSignal where
  | terminate
  | kill
  deriving DecidableEq, Repr, Inhabited

namespace KillSignal

/-- The signal's place in the order of severity. -/
def rank : KillSignal → Nat
  | .terminate => 0
  | .kill => 1

instance : LE KillSignal := ⟨fun a b => a.rank ≤ b.rank⟩

instance (a b : KillSignal) : Decidable (a ≤ b) := inferInstanceAs (Decidable (a.rank ≤ b.rank))

/-- The signal a campaign uses unless told otherwise. -/
def default : KillSignal := .kill

/-- The signal's number. -/
def number : KillSignal → Nat
  | .terminate => sigTerm
  | .kill => sigKill

/-- The signal's name. -/
def describe : KillSignal → String
  | .terminate => "SIGTERM"
  | .kill => "SIGKILL"

/-- The name used in JSON. -/
def label : KillSignal → String
  | .terminate => "terminate"
  | .kill => "kill"

/-- The signal as JSON. -/
def toJson (s : KillSignal) : Json := .str s.label

/-- Reads a signal from JSON. -/
def decoder : Decoder KillSignal :=
  Decoder.named [("terminate", .unit .terminate), ("kill", .unit .kill)]

end KillSignal

/-- Where a handle's process is in its life, as far as the controller has seen. -/
inductive ProcessStatus where
  | starting
  | ready
  | stopping
  | exited (status : ExitStatus)
  deriving DecidableEq, Repr, Inhabited

/-- The status as JSON. -/
def ProcessStatus.toJson : ProcessStatus → Json
  | .starting => .str "Starting"
  | .ready => .str "Ready"
  | .stopping => .str "Stopping"
  | .exited s => .obj [("Exited", s.toJson)]

/-- What happened to a signal that was sent. -/
inductive Delivery where
  /-- A live process received it. -/
  | delivered
  /-- The process had already ended. -/
  | alreadyExited
  deriving DecidableEq, Repr, Inhabited

/-- The delivery as JSON. -/
def Delivery.toJson : Delivery → Json
  | .delivered => .str "Delivered"
  | .alreadyExited => .str "AlreadyExited"

/-- Why controlling a target process failed. -/
inductive ProcessError where
  /-- The program could not be started; `errno` says why. -/
  | spawn (program : String) (errno : Int)
  /-- The readiness check did not pass in time. -/
  | startupTimeout (limit : Duration)
  /-- The process ended before it was ready. -/
  | exitedDuringStartup (status : ExitStatus)
  /-- The process did not end in time. -/
  | timeout (limit : Duration)
  /-- The readiness check itself could not run. -/
  | readiness (message : String)
  /-- Reading the process's state failed. -/
  | io (errno : Int)
  /-- A signal could not be sent. -/
  | signal (errno : Int)
  deriving DecidableEq, Repr, Inhabited

namespace ProcessError

/-- The name of the kind of error. -/
def kind : ProcessError → String
  | .spawn .. => "Spawn"
  | .startupTimeout _ => "StartupTimeout"
  | .exitedDuringStartup _ => "ExitedDuringStartup"
  | .timeout _ => "Timeout"
  | .readiness _ => "Readiness"
  | .io _ => "Io"
  | .signal _ => "Signal"

/-- The error in words. -/
def message : ProcessError → String
  | .spawn program errno => "failed to spawn " ++ program ++ ": " ++ osErrorText errno
  | .startupTimeout d => "target not ready after " ++ d.toText
  | .exitedDuringStartup s => "target exited during startup: " ++ s.describe
  | .timeout d => "target did not exit within " ++ d.toText
  | .readiness m => "readiness probe failed: " ++ m
  | .io errno => "process I/O error: " ++ osErrorText errno
  | .signal errno => "signal delivery failed: " ++ errnoText errno

/-- Whether a fresh start might clear the error: the target was too slow or ended early. -/
def isStartupFailure : ProcessError → Bool
  | .startupTimeout _ | .exitedDuringStartup _ => true
  | _ => false

end ProcessError

end CrashTest
