import CrashTest.Campaign.Config
import CrashTest.Trigger.Basic
/-!
Reproduction capsules: everything needed to replay a corruption finding.

A capsule names the campaign and its seed, the corrupting iteration and its exact trigger, the
operation and signal of the kill, the expectation the recovered state was checked against, and
the verifier's reason. It is kept as pretty JSON with its members in that order.
-/
namespace CrashTest

open CrashTest.Json

/-- Everything needed to replay one corruption finding. -/
structure ReproductionCapsule where
  campaign : String
  seed : Nat
  /-- The index of the corrupting iteration. -/
  iteration : Nat
  trigger : Trigger
  operation : MonitoredOperation
  signal : KillSignal
  expected : Expectation
  reason : String
  deriving DecidableEq, Repr, Inhabited

/-- Why a capsule could not be stored or read. -/
inductive CapsuleError where
  | io (path : String) (errno : Int)
  | json (e : DecodeError)
  deriving Repr, Inhabited

namespace CapsuleError

/-- The name of the kind of error. -/
def kind : CapsuleError → String
  | .io .. => "Io"
  | .json _ => "Json"

/-- The error in words. -/
def message : CapsuleError → String
  | .io path errno => "capsule I/O failed for " ++ path ++ ": " ++ Os.osErrorText errno
  | .json e => "malformed capsule: " ++ e.render

end CapsuleError

namespace ReproductionCapsule

/-- The capsule as JSON, members in declaration order. -/
def toJson (c : ReproductionCapsule) : Json :=
  .obj [("campaign", .str c.campaign), ("seed", .nat c.seed), ("iteration", .nat c.iteration),
    ("trigger", c.trigger.toJson), ("operation", c.operation.toJson), ("signal", c.signal.toJson),
    ("expected", c.expected.toJson), ("reason", .str c.reason)]

/-- Reads a capsule from JSON; every member is required. -/
def decoder : Decoder ReproductionCapsule :=
  let campaign := Field.required "campaign" Decoder.string
  let seed := Field.required "seed" Decoder.u64
  let iteration := Field.required "iteration" Decoder.u64
  let trigger := Field.required "trigger" Trigger.decoder
  let operation := Field.required "operation" MonitoredOperation.decoder
  let signal := Field.required "signal" KillSignal.decoder
  let expected := Field.required "expected" Expectation.decoder
  let reason := Field.required "reason" Decoder.string
  Decoder.record "ReproductionCapsule"
    [campaign.toCheck, seed.toCheck, iteration.toCheck, trigger.toCheck, operation.toCheck,
      signal.toCheck, expected.toCheck, reason.toCheck] fun m => do
    return { campaign := ← m.read campaign, seed := ← m.read seed,
             iteration := ← m.read iteration, trigger := ← m.read trigger,
             operation := ← m.read operation, signal := ← m.read signal,
             expected := ← m.read expected, reason := ← m.read reason }

/-- The capsule as pretty JSON text, two spaces per level. -/
def toText (c : ReproductionCapsule) : String := c.toJson.pretty 0

/-- Reads a capsule from its text. -/
def ofText (text : String) : Except CapsuleError ReproductionCapsule :=
  (decodeText decoder text).mapError .json

end ReproductionCapsule

end CrashTest
