import CrashTest.Target.Snapshot
import CrashTest.Control.Status
/-!
What the recovered state must look like, and the verdict on a recovered target.

An expectation either fixes the state exactly, or reads it as a progress counter that may not
fall below a floor, or asks nothing. Taken from a baseline run, a snapshot that reads as a
counter becomes a floor when the operation only moves the counter forward, and anything else
must then match verbatim.
-/
namespace CrashTest

open CrashTest.Json

/-- What the recovered state must look like. -/
inductive Expectation where
  /-- The state must be exactly this. -/
  | equals (s : StateSnapshot)
  /-- The state is a counter that may not be below this. -/
  | atLeast (floor : Nat)
  /-- No check of the state. -/
  | any
  deriving DecidableEq, Repr, Inhabited

namespace Expectation

/-- The expectation a baseline snapshot gives: a counter of a monotonic operation becomes a
floor, anything else must match verbatim. -/
def fromBaseline (s : StateSnapshot) (monotonic : Bool) : Expectation :=
  match s.asCounter with
  | some n => if monotonic then .atLeast n else .equals s
  | none => .equals s

/-- Whether checking needs the observed state. -/
def needsState : Expectation → Bool
  | .any => false
  | _ => true

/-- Checks an observed state; the reason it fails. -/
def check (e : Expectation) (observed : StateSnapshot) : Except String Unit :=
  match e with
  | .equals expected =>
    if expected == observed then .ok ()
    else .error ("state diverged: expected " ++ expected.debugText ++ ", observed " ++ observed.debugText)
  | .atLeast floor =>
    match observed.asCounter with
    | some v =>
      if floor ≤ v then .ok ()
      else .error ("state regressed: " ++ toString v ++ " < " ++ toString floor)
    | none => .error ("state " ++ observed.debugText ++ " is not a counter")
  | .any => .ok ()

/-- The expectation as it appears in reports: `Equals(...)`, `AtLeast(n)` or `Any`. -/
def debugText : Expectation → String
  | .equals s => "Equals(" ++ s.debugText ++ ")"
  | .atLeast n => "AtLeast(" ++ toString n ++ ")"
  | .any => "Any"

/-- The expectation as JSON. -/
def toJson : Expectation → Json
  | .equals s => .obj [("kind", .str "equals"), ("value", s.toJson)]
  | .atLeast n => .obj [("kind", .str "at_least"), ("value", .nat n)]
  | .any => .obj [("kind", .str "any")]

/-- Reads an expectation from JSON: its kind, and its value unless it is `any`. -/
def decoder : Decoder Expectation :=
  Decoder.adjacent "adjacently tagged enum Expectation" "kind" "value"
    [("equals", .content fun src n => (Decoder.string src n).map fun s => .equals ⟨s⟩),
      ("at_least", .content fun src n => (Decoder.u64 src n).map .atLeast),
      ("any", .unit .any)]

end Expectation

/-- The verdict on a recovered target. -/
inductive Verdict where
  | clean
  | corrupted (reason : String)
  deriving DecidableEq, Repr, Inhabited

namespace Verdict

/-- Whether the target recovered cleanly. -/
def isClean : Verdict → Bool
  | .clean => true
  | .corrupted _ => false

/-- The verdict as JSON. -/
def toJson : Verdict → Json
  | .clean => .str "Clean"
  | .corrupted r => .obj [("Corrupted", .str r)]

/-- Reads a verdict from JSON. -/
def decoder : Decoder Verdict :=
  Decoder.named [("Clean", .unit .clean),
    ("Corrupted", .content fun src n => (Decoder.string src n).map .corrupted)]

end Verdict

/-- How a restart is verified: output texts that mark a corrupted store, and how long the
restarted target may take to become ready. -/
structure VerifyConfig where
  corruptionMarkers : List String := ["Corrupted block database detected", "Corrupt data"]
  restartTimeoutMs : Nat := 60000
  deriving DecidableEq, Repr, Inhabited

namespace VerifyConfig

/-- How long the restarted target may take to become ready. -/
def restartTimeout (c : VerifyConfig) : Duration := .ofMillis c.restartTimeoutMs

/-- The configuration as JSON. -/
def toJson (c : VerifyConfig) : Json :=
  .obj [("corruption_markers", .arr (c.corruptionMarkers.map .str)),
    ("restart_timeout_ms", .nat c.restartTimeoutMs)]

/-- Reads a configuration from JSON; absent fields take their defaults. -/
def decoder : Decoder VerifyConfig :=
  let d : VerifyConfig := {}
  let markers := Field.withDefault "corruption_markers" (Decoder.list Decoder.string) d.corruptionMarkers
  let timeout := Field.withDefault "restart_timeout_ms" Decoder.u64 d.restartTimeoutMs
  Decoder.record "VerifyConfig" [markers.toCheck, timeout.toCheck] fun m => do
    return { corruptionMarkers := ← m.read markers, restartTimeoutMs := ← m.read timeout }

end VerifyConfig

/-- Why verification could not run; never evidence of corruption. -/
inductive VerifyError where
  | process (e : ProcessError)
  | target (e : TargetError)
  deriving DecidableEq, Repr, Inhabited

namespace VerifyError

/-- The name of the kind of error. -/
def kind : VerifyError → String
  | .process _ => "Process"
  | .target _ => "Target"

/-- The error in words. -/
def message : VerifyError → String
  | .process e => "restart failed: " ++ e.message
  | .target e => "target query failed: " ++ e.message

end VerifyError

end CrashTest
