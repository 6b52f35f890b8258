import CrashTest.Campaign.Config
import CrashTest.Trigger.Counter
/-!
Failures of the harness itself.

A corrupted target is a campaign result, never one of these: an error here means the campaign
could not go on, because a process could not be controlled, a probe or trigger could not be
made, a query or a verification could not run, the target would not start or was unhealthy
before anything was killed, or the configuration or a capsule was unusable. Each message names
the stage and then gives the cause's own message; a configuration error is shown as it is.
-/
namespace CrashTest

/-- Why a campaign could not go on. -/
inductive HarnessError where
  | process (e : ProcessError)
  | arm (e : ProbeError)
  | trigger (e : TriggerError)
  | target (e : TargetError)
  | verify (e : VerifyError)
  /-- Every fresh start failed; `last` is the last failure. -/
  | startupFailure (attempts : Nat) (last : ProcessError)
  | unhealthyBaseline (message : String)
  | exitedDuringWorkload (status : ExitStatus)
  | config (e : ConfigError)
  | capsuleMismatch (message : String)
  deriving Repr, Inhabited

namespace HarnessError

/-- The name of the kind of error. -/
def kind : HarnessError → String
  | .process _ => "Process"
  | .arm _ => "Arm"
  | .trigger _ => "Trigger"
  | .target _ => "Target"
  | .verify _ => "Verify"
  | .startupFailure .. => "StartupFailure"
  | .unhealthyBaseline _ => "UnhealthyBaseline"
  | .exitedDuringWorkload _ => "ExitedDuringWorkload"
  | .config _ => "Config"
  | .capsuleMismatch _ => "CapsuleMismatch"

/-- The error in words. -/
def message : HarnessError → String
  | .process e => "process control failed: " ++ e.message
  | .arm e => "failed to arm probe: " ++ e.message
  | .trigger e => "trigger error: " ++ e.message
  | .target e => "target query failed: " ++ e.message
  | .verify e => "verification could not run: " ++ e.message
  | .startupFailure attempts last =>
    "target failed to start after " ++ toString attempts ++ " attempts: " ++ last.message
  | .unhealthyBaseline m => "target unhealthy before any kill: " ++ m
  | .exitedDuringWorkload s => "target exited on its own during the workload: " ++ s.describe
  | .config e => e.message
  | .capsuleMismatch m => "capsule does not match campaign: " ++ m

end HarnessError

end CrashTest
