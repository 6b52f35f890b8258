import CrashTest.Campaign.Race
import CrashTest.Campaign.Result
import CrashTest.Trigger.Sampler
import CrashTest.Verify.Recovery
/-!
Running a campaign, replaying one finding, and running a suite.

A campaign goes `idle → calibrating (time offset only) → iterating`, and ends `exhausted`,
`corrupted` or `aborted by operator`. It first checks its configuration, then starts the target
once: the target must be consistent, and unless an expectation is configured its observed state
becomes one (a counter of a workload campaign becomes a floor). A time-offset campaign then
measures one uninterrupted run of the operation. Iteration `k` kills on the `k`-th matching line,
or at an offset drawn for `k` from the campaign's seed.

Before the baseline and before each iteration the operator's cancel flag is read; before each
iteration the limits are then checked, the iteration count first. An iteration races the kill
against the operation, restarts the target and verifies it. A corrupted restart ends the campaign
with a capsule for replaying it; an event-count iteration whose operation finished before the
trigger ends it too, since higher thresholds cannot fire earlier.

Corruption is a result, never an error: an error means the harness could not carry on.
-/
namespace CrashTest.Campaign

open CrashTest CrashTest.Os CrashTest.Control CrashTest.Target

/-- What a campaign has gathered so far. -/
structure Progress where
  iterations : List Iteration := []
  analytics : CampaignAnalytics := {}
  expected : Expectation
  calibration : Option Calibration := none
  capsule : Option ReproductionCapsule := none
  deriving DecidableEq, Repr, Inhabited

/-- Counts an iteration and keeps it. -/
def Progress.push (p : Progress) (i : Iteration) : Progress :=
  { p with analytics := p.analytics.record i, iterations := p.iterations ++ [i] }

/-- How each iteration's trigger is chosen. -/
inductive Plan where
  /-- Iteration `k` fires on the `k`-th line that mentions the event. -/
  | count (eventName : String)
  /-- Iteration `k` fires at an offset into the calibrated window. -/
  | offset (calibration : Calibration) (sampler : OffsetSampler)
  deriving DecidableEq, Repr, Inhabited

/-- The trigger of iteration `index`. A measured window is never empty, so a draw from it cannot
fail for want of room. -/
def Plan.trigger (p : Plan) (index : Nat) : Except TriggerError Trigger :=
  match p with
  | .count eventName => Trigger.ofEventCount eventName index
  | .offset c s =>
    match s.trigger c index with
    | .ok t => .ok t
    | .error (.trigger e) => .error e
    | .error .emptyRange => .error (.invalidCalibration "measured window is zero")

/-- Whether iteration `k` fires on the `k`-th line that mentions the event. -/
def Plan.countsEvents : Plan → Bool
  | .count _ => true
  | .offset .. => false

/-- Lifts a result of the library into a campaign step. -/
def liftWith (f : ε → HarnessError) (r : Except ε α) : CampaignM α :=
  match r with
  | .ok a => pure a
  | .error e => throw (f e)

/-- Whole seconds since `start`. -/
def elapsedSecs (start : Nat) : CampaignM Nat := do
  return ((← getWorld).now - start) / Duration.nanosPerSec

/-- Ends the campaign in `state` for `reason`, with the elapsed time in its analytics. -/
def finish (state : CampaignState) (reason : StopReason) (p : Progress) (start : Nat) :
    CampaignM CampaignResult := do
  setState state
  let elapsed := Duration.ofNanos ((← getWorld).now - start)
  let analytics := { p.analytics with elapsedSecs := elapsed.secondsF64 }
  return { name := (← getDriver).spec.name, state := state, stopReason := reason,
           iterations := p.iterations, analytics := analytics.summary, expected := p.expected,
           calibration := p.calibration, capsule := p.capsule }

/-- Checks the healthy target with `pid`: it must be consistent; the configured expectation, or
else one taken from its observed state, is the answer. -/
def inspectBaseline (pid : Nat) : CampaignM Expectation := do
  let d ← getDriver
  match checkConsistency d.spec.probes (← getWorld) .never none pid with
  | .done w (.error e) =>
    setWorld w
    throw (.target e)
  | .done w (.ok (.inconsistent reason)) =>
    setWorld w
    throw (.unhealthyBaseline reason)
  | .done w (.ok .consistent) =>
    setWorld w
    match d.spec.expected with
    | some e => return e
    | none =>
      match observableState d.spec.probes (← getWorld) .never none pid with
      | .done w (.ok s) =>
        setWorld w
        return .fromBaseline s (d.spec.operation == .workload)
      | .done w (.error (.notConfigured _)) =>
        setWorld w
        return .any
      | .done w (.error e) =>
        setWorld w
        throw (.target e)
      | r =>
        setWorld r.state
        return .any
  | r =>
    setWorld r.state
    return d.spec.expected.getD .any

/-- Starts the target once before any kill and stops it again: the expectation every restart is
checked against. -/
def baseline : CampaignM Expectation := do
  let h ← startFresh
  let inspected ← tryCatch (Except.ok <$> inspectBaseline h.pid) fun e => pure (Except.error e)
  discard (stopHandle h)
  liftWith id inspected

/-- Times one uninterrupted run of the monitored operation. -/
def calibrate : CampaignM Calibration := do
  let d ← getDriver
  match d.spec.operation with
  | .startup =>
    let h ← startFresh
    let measured := Calibration.measure h.startedAt (← getWorld).now
    discard (stopHandle h)
    liftWith .trigger measured
  | .shutdown =>
    let h ← startFresh
    let origin := (← getWorld).catchUp.now
    let (w, h, _) := Control.signal (← getWorld) h .terminate
    match waitExited w h .never none d.spec.launch.stopTimeout with
    | .done (w, h) (.ok _) =>
      setWorld (dropHandle w h)
      liftWith .trigger (Calibration.measure origin (← getWorld).now)
    | .done (w, h) (.error e) =>
      setWorld w
      discard (killHandle h)
      throw (.process e)
    | r =>
      let (w, h) := r.state
      setWorld w
      discard (killHandle h)
      throw (.process (.timeout d.spec.launch.stopTimeout))
  | .workload =>
    let h ← startFresh
    let origin := (← getWorld).catchUp.now
    let r := runWorkload d.spec.probes (← getWorld) .never none h.pid
    setWorld r.state
    let stop := (← getWorld).now
    discard (stopHandle h)
    match r with
    | .done _ (.error e) => throw (.target e)
    | _ => liftWith .trigger (Calibration.measure origin stop)

/-- One iteration: the race, then a restart verified against `expected`. -/
def runIteration (index : Nat) (trigger : Trigger) (expected : Expectation) :
    CampaignM Iteration := do
  let armedAt := (← getWorld).now
  let race ← match (← getDriver).spec.operation with
    | .startup => raceStartup trigger
    | .shutdown => raceShutdown trigger
    | .workload => raceWorkload trigger
  let restartedAt := (← getWorld).now
  let d ← getDriver
  let (c, w, r) := Verify.restartAndVerify d.controller (← getWorld) d.spec.probes d.spec.verify
    expected
  setController c
  setWorld w
  let (verdict, handle) ← liftWith .verify r
  match handle with
  | some h => discard (stopHandle h)
  | none => pure ()
  let outcome := match verdict with
    | .clean => race.outcome
    | .corrupted reason => .corrupted reason
  return { index := index, trigger := trigger, outcome := outcome, armedAtNs := armedAt,
           firedAtNs := race.firedAtNs, restartedAtNs := some restartedAt, exit := race.exit,
           eventsObserved := race.eventsObserved }

/-- The capsule of a corruption found in `iteration`. -/
def capsuleOf (spec : CampaignSpec) (expected : Expectation) (iteration : Iteration)
    (reason : String) : ReproductionCapsule :=
  { campaign := spec.name, seed := spec.seed, iteration := iteration.index,
    trigger := iteration.trigger, operation := spec.operation, signal := spec.signal,
    expected := expected, reason := reason }

/-- The operator's cancel flag as the campaign reads it. The campaign looks at the flag before
the baseline and before each iteration; `seen k` is what the `k`-th look finds, the look before
the baseline being the zeroth and the look before iteration `k` the `k`-th. -/
structure CancelFlag where
  seen : Nat → Bool

/-- Runs iterations after `index` of them until the campaign ends. Before each, the cancel flag is
read, then the limits are checked. -/
def iterate (spec : CampaignSpec) (cancel : CancelFlag) (plan : Plan) (start index : Nat)
    (p : Progress) : CampaignM CampaignResult := do
  if cancel.seen (index + 1) then finish .abortedByOperator .userAborted p start
  else
    match _hStop : spec.limits.stopReason? index (← elapsedSecs start) with
    | some reason => finish .exhausted reason p start
    | none =>
      let trigger ← liftWith .trigger (plan.trigger (index + 1))
      let iteration ← runIteration (index + 1) trigger p.expected
      let p := p.push iteration
      match iteration.outcome with
      | .corrupted reason =>
        let p := { p with capsule := some (capsuleOf spec p.expected iteration reason) }
        finish .corrupted .corruptionFound p start
      | .finishedNaturally =>
        if plan.countsEvents then finish .exhausted .targetFinishedNaturally p start
        else iterate spec cancel plan start (index + 1) p
      | .aborted => iterate spec cancel plan start (index + 1) p
termination_by spec.limits.maxIterations - index
decreasing_by all_goals have := ResourceLimits.lt_of_stopReason?_eq_none _hStop; omega

/-- Runs the campaign to a terminal state, reading the operator's cancel flag before the baseline
and before each iteration. -/
def run (cancel : CancelFlag) : CampaignM CampaignResult := do
  let spec := (← getDriver).spec
  liftWith .config spec.validate
  setState .idle
  let start := (← getWorld).now
  let p : Progress := { expected := spec.expected.getD .any }
  if cancel.seen 0 then finish .abortedByOperator .userAborted p start
  else
    let p := { p with expected := ← baseline }
    let (plan, p) ← match spec.trigger with
      | .eventCount eventName => pure (Plan.count eventName, p)
      | .timeOffset => do
        setState .calibrating
        let c ← calibrate
        pure (Plan.offset c (.seeded spec.seed),
          { p with analytics := { p.analytics with windowNs := some c.windowNs },
                   calibration := some c })
    setState .iterating
    iterate spec cancel plan start 0 p

/-- Why a capsule cannot be replayed by this campaign: its trigger does not fit the trigger mode,
or it monitors another operation, or kills with another signal. -/
def capsuleMismatch? (spec : CampaignSpec) (c : ReproductionCapsule) : Option String :=
  let counts := match spec.trigger with
    | .eventCount _ => true
    | .timeOffset => false
  if c.trigger.isEventCount != counts then
    some ("trigger " ++ c.trigger.describe ++ " does not fit the campaign's trigger mode")
  else if c.operation != spec.operation then
    some ("capsule monitors " ++ c.operation.name ++ ", campaign monitors " ++ spec.operation.name)
  else if c.signal != spec.signal then
    some ("capsule kills with " ++ c.signal.describe ++ ", campaign with " ++ spec.signal.describe)
  else none

/-- Runs exactly the iteration a capsule records, with its trigger and expectation. -/
def replay (c : ReproductionCapsule) : CampaignM CampaignResult := do
  let spec := (← getDriver).spec
  liftWith .config spec.validate
  match capsuleMismatch? spec c with
  | some m => throw (.capsuleMismatch m)
  | none =>
    let start := (← getWorld).now
    setState .iterating
    let iteration ← runIteration c.iteration c.trigger c.expected
    let p := ({ expected := c.expected } : Progress).push iteration
    match iteration.outcome with
    | .corrupted reason =>
      finish .corrupted .corruptionFound { p with capsule := some { c with reason := reason } } start
    | _ => finish .exhausted .replayComplete p start

/-- Runs one campaign from its spec on the machine. -/
def runSpec (spec : CampaignSpec) (cancel : CancelFlag) (w : World) :
    CampaignDriver × World × Except HarnessError CampaignResult :=
  let (r, d, w) := (run cancel).run.run (CampaignDriver.ofSpec spec, w)
  (d, w, r)

/-- Runs the suite's campaigns in order, stopping after the first that does not end exhausted.
Every campaign reads the operator's one flag; `cancel j` is what the `j`-th campaign finds there. -/
def runSuite (suite : SuiteSpec) (cancel : Nat → CancelFlag) (w : World) :
    World × Except HarnessError SuiteResult :=
  match suite.validate with
  | .error e => (w, .error (.config e))
  | .ok () =>
    let rec go : Nat → List CampaignSpec → World → List CampaignResult →
        World × Except HarnessError (List CampaignResult)
      | _, [], w, done => (w, .ok done.reverse)
      | j, spec :: rest, w, done =>
        match runSpec spec (cancel j) w with
        | (_, w, .error e) => (w, .error e)
        | (_, w, .ok r) =>
          if r.state == .exhausted then go (j + 1) rest w (r :: done)
          else (w, .ok (r :: done).reverse)
    match go 0 suite.campaigns w [] with
    | (w, .ok results) =>
      (w, .ok { name := suite.name, planned := suite.campaigns.length, results := results })
    | (w, .error e) => (w, .error e)

end CrashTest.Campaign
