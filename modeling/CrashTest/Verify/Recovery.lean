import CrashTest.Verify.Expectation
import CrashTest.Control.Controller
/-!
Restarting the target after a kill and judging the recovered instance.

The restart is watched from before the spawn: every output line is kept. A restart that never
becomes ready is corrupted ("startup timeout after restart"). One that ends while starting is
corrupted with the first line that holds a corruption marker, or else with its exit status. A
restart that becomes ready is corrupted by a marker line seen so far, then by its failed
consistency check, then by a state that does not meet the expectation; otherwise it is clean.
A spawn that fails, or a query that cannot run, is an error of the harness, not a verdict.
-/
namespace CrashTest.Verify

open CrashTest CrashTest.Os CrashTest.Control CrashTest.Target

/-- The reason recorded when the restarted target never became ready. -/
def restartTimeoutReason : String := "startup timeout after restart"

/-- The first line that holds one of the non-empty markers. -/
def scanMarkers (markers : List String) (events : List OutputEvent) : Option String :=
  (events.find? fun e => markers.any fun m => !m.isEmpty && Text.contains e.line m).map (·.line)

/-- Checks a ready instance: its consistency first, then its observable state. -/
def verify (w : World) (h : Handle) (probes : ProbeCommands) (expected : Expectation) :
    World × Except VerifyError Verdict :=
  match checkConsistency probes w .never none h.pid with
  | .done w (.error e) => (w, .error (.target e))
  | .done w (.ok (.inconsistent reason)) => (w, .ok (.corrupted reason))
  | .done w (.ok .consistent) =>
    if expected.needsState then
      match observableState probes w .never none h.pid with
      | .done w (.error e) => (w, .error (.target e))
      | .done w (.ok observed) =>
        match expected.check observed with
        | .ok () => (w, .ok .clean)
        | .error reason => (w, .ok (.corrupted reason))
      | r => (r.state, .ok .clean)
    else (w, .ok .clean)
  | r => (r.state, .ok .clean)

/-- What a restart leaves to judge: the controller and the machine after it, how its start ended,
and the output lines caught from before the spawn until the start ended, in publish order. -/
structure RestartWatch where
  controller : Controller
  world : World
  started : Except ProcessError Handle
  lines : List OutputEvent

/-- Restarts the target under a subscription made before the spawn, and takes the lines it
caught. -/
def watchRestart (c : Controller) (w : World) (probes : ProbeCommands) (config : VerifyConfig) :
    RestartWatch :=
  let (bus, sub) := w.catchUp.bus.subscribe
  let w := { w.catchUp with bus := bus }
  let (c, w, started) := c.startWithin w probes config.restartTimeout
  let (bus, lines) := w.bus.drain sub
  ⟨c, { w with bus := bus.drop sub }, started, lines⟩

/-- Judges a watched restart: the machine afterwards, and the verdict with the live handle of a
restart that became ready, or the error of the harness. -/
def judgeRestart (probes : ProbeCommands) (config : VerifyConfig) (expected : Expectation)
    (r : RestartWatch) : World × Except VerifyError (Verdict × Option Handle) :=
  match r.started with
  | .error (.startupTimeout _) => (r.world, .ok (.corrupted restartTimeoutReason, none))
  | .error (.exitedDuringStartup status) =>
    let reason := (scanMarkers config.corruptionMarkers r.lines).getD
      ("exited during startup validation: " ++ status.describe)
    (r.world, .ok (.corrupted reason, none))
  | .error e => (r.world, .error (.process e))
  | .ok h =>
    match scanMarkers config.corruptionMarkers r.lines with
    | some line => (r.world, .ok (.corrupted line, some h))
    | none =>
      let (w, v) := verify r.world h probes expected
      (w, v.map fun v => (v, some h))

/-- Restarts the target and judges the recovered instance; the live handle is returned when the
restart became ready. -/
def restartAndVerify (c : Controller) (w : World) (probes : ProbeCommands) (config : VerifyConfig)
    (expected : Expectation) : Controller × World × Except VerifyError (Verdict × Option Handle) :=
  let r := watchRestart c w probes config
  (r.controller, judgeRestart probes config expected r)

end CrashTest.Verify
