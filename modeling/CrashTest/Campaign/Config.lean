import CrashTest.Verify.Expectation
import CrashTest.Control.Launch
/-!
Campaign and suite configuration.

A campaign says what to start, how to query it, which phase of its life to aim at, how the kill
point is chosen and with which signal, how far to go, how to verify a restart, what state to
expect afterwards, and the seed of its random offsets. A suite runs campaigns in order.

`validate` checks a campaign in a fixed order and reports the first problem: an empty name, an
empty program, no iterations allowed, a zero readiness timeout, an empty event name, an empty
probe command (ready, state, consistency, workload in that order), a startup campaign without a
ready command (every poll would pass at once, leaving nothing to kill), and a workload campaign
without a workload command.
-/
namespace CrashTest

open CrashTest.Json

/-- The phase of the target's life the trigger is aimed at. -/
inductive MonitoredOperation where
  /-- From the spawn until the readiness check passes. -/
  | startup
  /-- From the request to stop until the process ends. -/
  | shutdown
  /-- While the workload command runs against a ready target. -/
  | workload
  deriving DecidableEq, Repr, Inhabited

namespace MonitoredOperation

/-- The operation's name. -/
def name : MonitoredOperation → String
  | .startup => "startup"
  | .shutdown => "shutdown"
  | .workload => "workload"

/-- The operation as JSON. -/
def toJson (o : MonitoredOperation) : Json := .str o.name

/-- Reads an operation from JSON. -/
def decoder : Decoder MonitoredOperation :=
  Decoder.named [("startup", .unit .startup), ("shutdown", .unit .shutdown),
    ("workload", .unit .workload)]

end MonitoredOperation

/-- How the kill point of each iteration is chosen. -/
inductive TriggerMode where
  /-- Iteration `k` kills on the `k`-th line that mentions the event. -/
  | eventCount (eventName : String)
  /-- Calibrate once, then kill at a seeded offset into the measured window. -/
  | timeOffset
  deriving DecidableEq, Repr, Inhabited

namespace TriggerMode

/-- The mode as JSON. -/
def toJson : TriggerMode → Json
  | .eventCount e => .obj [("mode", .str "event_count"), ("event_name", .str e)]
  | .timeOffset => .obj [("mode", .str "time_offset")]

/-- Reads a mode from JSON: an object whose member `mode` names it. -/
def decoder : Decoder TriggerMode :=
  let eventName := Field.required "event_name" Decoder.string
  Decoder.tagged "internally tagged enum TriggerMode" "mode"
    [("event_count", Decoder.record "variant TriggerMode::EventCount" [eventName.toCheck]
        fun m => do return .eventCount (← m.read eventName)),
      ("time_offset", Decoder.unitVariant .timeOffset)]

end TriggerMode

/-- How far a campaign may go. -/
structure ResourceLimits where
  maxIterations : Nat := 100
  maxWallSecs : Nat := 21600
  deriving DecidableEq, Repr, Inhabited

namespace ResourceLimits

/-- The limits as JSON. -/
def toJson (l : ResourceLimits) : Json :=
  .obj [("max_iterations", .nat l.maxIterations), ("max_wall_secs", .nat l.maxWallSecs)]

/-- Reads limits from JSON; absent fields take their defaults. -/
def decoder : Decoder ResourceLimits :=
  let iterations := Field.withDefault "max_iterations" Decoder.u64 100
  let wall := Field.withDefault "max_wall_secs" Decoder.u64 21600
  Decoder.record "ResourceLimits" [iterations.toCheck, wall.toCheck] fun m => do
    return { maxIterations := ← m.read iterations, maxWallSecs := ← m.read wall }

end ResourceLimits

/-- Why a configuration could not be used. -/
inductive ConfigError where
  /-- The file could not be read. -/
  | io (path : String) (errno : Int)
  /-- The text is not a configuration. -/
  | parse (e : DecodeError)
  /-- The configuration breaks a rule. -/
  | invalid (message : String)
  deriving Repr, Inhabited

namespace ConfigError

/-- The name of the kind of error. -/
def kind : ConfigError → String
  | .io .. => "Io"
  | .parse _ => "Parse"
  | .invalid _ => "Invalid"

/-- The error in words. -/
def message : ConfigError → String
  | .io path errno => "cannot read " ++ path ++ ": " ++ Os.osErrorText errno
  | .parse e => "malformed configuration: " ++ e.render
  | .invalid m => "invalid configuration: " ++ m

end ConfigError

/-- One bounded exploration run. -/
structure CampaignSpec where
  name : String
  launch : LaunchSpec
  probes : ProbeCommands := {}
  trigger : TriggerMode
  operation : MonitoredOperation := .startup
  signal : KillSignal := .kill
  limits : ResourceLimits := {}
  verify : VerifyConfig := {}
  /-- The recovered-state expectation; taken from a baseline run when unset. -/
  expected : Option Expectation := none
  seed : Nat := 42
  deriving DecidableEq, Repr, Inhabited

namespace CampaignSpec

/-- A campaign with every optional field at its default. -/
def new (name : String) (launch : LaunchSpec) (trigger : TriggerMode) : CampaignSpec :=
  { name := name, launch := launch, trigger := trigger }

/-- The first probe command that is an empty list, by its label. -/
def emptyProbe? (p : ProbeCommands) : Option String :=
  let labelled := [("ready", p.ready), ("state", p.state), ("consistency", p.consistency),
    ("workload", p.workload)]
  (labelled.find? fun (_, c) => c == some []).map (·.1)

/-- Checks the campaign's rules, reporting the first broken one. -/
def validate (s : CampaignSpec) : Except ConfigError Unit :=
  let invalid := fun (msg : String) => Except.error (ConfigError.invalid (s.name ++ ": " ++ msg))
  if (Text.trimBlank s.name).isEmpty then .error (.invalid "campaign name is empty")
  else if s.launch.program.isEmpty then invalid "launch.program is empty"
  else if s.limits.maxIterations == 0 then invalid "limits.max_iterations must be at least 1"
  else if s.launch.readyTimeoutMs == 0 || s.verify.restartTimeoutMs == 0 then
    invalid "readiness timeouts must be positive"
  else if s.trigger == .eventCount "" then invalid "trigger.event_name is empty"
  else
    match emptyProbe? s.probes with
    | some label => invalid ("probes." ++ label ++ " is an empty command")
    | none =>
      if s.operation == .startup && s.probes.ready.isNone then
        invalid "startup operation needs probes.ready"
      else if s.operation == .workload && s.probes.workload.isNone then
        invalid "workload operation needs probes.workload"
      else .ok ()

/-- The campaign as JSON. -/
def toJson (s : CampaignSpec) : Json :=
  .obj [("name", .str s.name), ("launch", s.launch.toJson), ("probes", s.probes.toJson),
    ("trigger", s.trigger.toJson), ("operation", s.operation.toJson), ("signal", s.signal.toJson),
    ("limits", s.limits.toJson), ("verify", s.verify.toJson),
    ("expected", .ofOption Expectation.toJson s.expected), ("seed", .nat s.seed)]

/-- Reads a campaign from JSON; `name`, `launch` and `trigger` are required. -/
def decoder : Decoder CampaignSpec :=
  let name := Field.required "name" Decoder.string
  let launch := Field.required "launch" LaunchSpec.decoder
  let probes := Field.withDefault "probes" ProbeCommands.decoder {}
  let trigger := Field.required "trigger" TriggerMode.decoder
  let operation := Field.withDefault "operation" MonitoredOperation.decoder .startup
  let signal := Field.withDefault "signal" KillSignal.decoder .kill
  let limits := Field.withDefault "limits" ResourceLimits.decoder {}
  let verify := Field.withDefault "verify" VerifyConfig.decoder {}
  let expected := Field.withDefault "expected" (Decoder.option Expectation.decoder) none
  let seed := Field.withDefault "seed" Decoder.u64 42
  Decoder.record "CampaignSpec"
    [name.toCheck, launch.toCheck, probes.toCheck, trigger.toCheck, operation.toCheck,
      signal.toCheck, limits.toCheck, verify.toCheck, expected.toCheck, seed.toCheck] fun m => do
    return { name := ← m.read name, launch := ← m.read launch, probes := ← m.read probes,
             trigger := ← m.read trigger, operation := ← m.read operation,
             signal := ← m.read signal, limits := ← m.read limits, verify := ← m.read verify,
             expected := ← m.read expected, seed := ← m.read seed }

end CampaignSpec

/-- Campaigns run in order. -/
structure SuiteSpec where
  name : String
  campaigns : List CampaignSpec
  deriving DecidableEq, Repr, Inhabited

namespace SuiteSpec

/-- Startup with `SIGKILL`, startup with `SIGTERM`, then shutdown with `SIGKILL`, all counting
`eventName`. -/
def standard (name : String) (launch : LaunchSpec) (probes : ProbeCommands) (eventName : String) :
    SuiteSpec :=
  let plan : List (String × MonitoredOperation × KillSignal) :=
    [("init-sigkill", .startup, .kill), ("init-sigterm", .startup, .terminate),
      ("shutdown-sigkill", .shutdown, .kill)]
  { name := name,
    campaigns := plan.map fun (suffix, operation, signal) =>
      { CampaignSpec.new (name ++ "/" ++ suffix) launch (.eventCount eventName) with
        probes := probes, operation := operation, signal := signal } }

/-- Checks the suite: it has campaigns, and each is valid, in order. -/
def validate (s : SuiteSpec) : Except ConfigError Unit :=
  if s.campaigns.isEmpty then .error (.invalid ("suite " ++ s.name ++ " has no campaigns"))
  else s.campaigns.forM CampaignSpec.validate

/-- The suite as JSON. -/
def toJson (s : SuiteSpec) : Json :=
  .obj [("name", .str s.name), ("campaigns", .arr (s.campaigns.map CampaignSpec.toJson))]

/-- Reads a suite from JSON. -/
def decoder : Decoder SuiteSpec :=
  let name := Field.required "name" Decoder.string
  let campaigns := Field.required "campaigns" (Decoder.list CampaignSpec.decoder)
  Decoder.record "SuiteSpec" [name.toCheck, campaigns.toCheck] fun m => do
    return { name := ← m.read name, campaigns := ← m.read campaigns }

end SuiteSpec

/-- Reads and checks a campaign. -/
def parseCampaign (text : String) : Except ConfigError CampaignSpec := do
  let spec ← (decodeText CampaignSpec.decoder text).mapError .parse
  spec.validate
  return spec

/-- Reads and checks a suite. -/
def parseSuite (text : String) : Except ConfigError SuiteSpec := do
  let suite ← (decodeText SuiteSpec.decoder text).mapError .parse
  suite.validate
  return suite

end CrashTest
