import CrashTest.Campaign.Error
import CrashTest.Campaign.Outcome
import CrashTest.Control.Controller
import CrashTest.Output.Probe
/-!
The kill race of one iteration.

A campaign step changes the campaign driver (its controller and state) and the machine, and may
fail with a harness error; `CampaignM` is that monad. A failed step ends the campaign, so what it
leaves on the machine no longer matters.

Within an iteration the armed trigger races the monitored operation, and the trigger wins a tie:
at every instant the race looks, it asks first whether the trigger has fired. A counting probe
fires on the line that reaches its threshold; an alarm fires at its instant. When the trigger
wins, the campaign's signal is sent and the process reaped; a process found already gone had
finished before the kill could land. When the operation wins, the iteration finished naturally:

* startup ends when the target is ready; a failed startup is retried once;
* shutdown starts with a request to stop and ends when the process exits; a shutdown that hangs
  past the stop timeout is killed, and the iteration counts as aborted;
* the workload runs against a ready target and ends when its command returns; a target that
  exits on its own meanwhile ends the campaign, and so does a machine on which nothing is left to
  happen, since then the race would wait forever.

Each race settles the wait it ran in a function of its own, as a report or a failure.
-/
namespace CrashTest.Campaign

open CrashTest CrashTest.Os CrashTest.Control CrashTest.Target

/-- Attempts a fresh start gets before the campaign gives up. -/
def freshStartAttempts : Nat := 2

/-- One campaign against one target: its configuration, its process controller, and its state. -/
structure CampaignDriver where
  spec : CampaignSpec
  controller : Controller
  state : CampaignState := .idle
  deriving Repr, Inhabited

/-- The driver of a campaign that has not started. -/
def CampaignDriver.ofSpec (spec : CampaignSpec) : CampaignDriver :=
  { spec := spec, controller := { spec := spec.launch } }

/-- A campaign step: it changes the driver and the machine, and may fail. -/
abbrev CampaignM := ExceptT HarnessError (StateM (CampaignDriver × World))

/-- The machine. -/
def getWorld : CampaignM World := do return (← get).2

/-- Replaces the machine. -/
def setWorld (w : World) : CampaignM Unit := modify fun (d, _) => (d, w)

/-- The driver. -/
def getDriver : CampaignM CampaignDriver := do return (← get).1

/-- Replaces the controller. -/
def setController (c : Controller) : CampaignM Unit :=
  modify fun (d, w) => ({ d with controller := c }, w)

/-- Moves the campaign to another state. -/
def setState (s : CampaignState) : CampaignM Unit :=
  modify fun (d, w) => ({ d with state := s }, w)

/-- Starts the target once and waits for readiness. -/
def startOnce : CampaignM (Except ProcessError Handle) := do
  let d ← getDriver
  let (c, w, r) := d.controller.start (← getWorld) d.spec.probes
  setController c
  setWorld w
  return r

/-- Starts the target, trying `more` more times after a failed startup; `attempt` counts from 1. -/
def startAttempts (attempt : Nat) : Nat → CampaignM Handle
  | 0 => do
    match ← startOnce with
    | .ok h => return h
    | .error e => throw (if e.isStartupFailure then .startupFailure attempt e else .process e)
  | more + 1 => do
    match ← startOnce with
    | .ok h => return h
    | .error e => if e.isStartupFailure then startAttempts (attempt + 1) more else throw (.process e)

/-- Starts the target and waits for readiness, retrying a failed startup once. -/
def startFresh : CampaignM Handle := startAttempts 1 (freshStartAttempts - 1)

/-- Asks the target to stop, kills it after the stop timeout, and lets go of its handle. -/
def stopHandle (h : Handle) : CampaignM ExitStatus := do
  let d ← getDriver
  let (w, h, s) := stopGraceful (← getWorld) h d.spec.launch.stopTimeout
  setWorld (dropHandle w h)
  return s

/-- Kills the target, reaps it, and lets go of its handle. -/
def killHandle (h : Handle) : CampaignM ExitStatus := do
  let (w, h, s) := stopForceful (← getWorld) h
  setWorld (dropHandle w h)
  return s

/-- A trigger armed for one iteration. -/
inductive ArmedTrigger where
  /-- A probe counting lines on the output bus. -/
  | probe (p : ArmedProbe)
  /-- An alarm at an instant. -/
  | alarm (instant : Nat)
  deriving DecidableEq, Repr, Inhabited

namespace ArmedTrigger

/-- Whether the trigger has fired. -/
def fired (a : ArmedTrigger) (w : World) : Bool :=
  match a with
  | .probe p => (p.fired? w.bus).isSome
  | .alarm instant => decide (instant ≤ w.now)

/-- The trigger as what cuts a wait short. -/
def interrupt (a : ArmedTrigger) : Interrupt :=
  match a with
  | .probe _ => ⟨a.fired, none⟩
  | .alarm instant => ⟨a.fired, some instant⟩

/-- Disarms the trigger: a probe is detached and answers what it counted; an alarm answers
nothing. -/
def disarm (a : ArmedTrigger) (w : World) : World × Option Nat :=
  match a with
  | .probe p =>
    let (bus, _, n) := p.disarm w.bus
    ({ w with bus := bus }, some n)
  | .alarm _ => (w, none)

end ArmedTrigger

/-- Disarms a trigger, answering what a probe counted. -/
def disarmTrigger (a : ArmedTrigger) : CampaignM (Option Nat) := do
  let (w, n) := a.disarm (← getWorld)
  setWorld w
  return n

/-- Arms a trigger: a counting probe on the output bus now, or an alarm at `origin` plus the
offset. -/
def arm (trigger : Trigger) (origin : Nat) : CampaignM ArmedTrigger := do
  match trigger with
  | .eventCount eventName threshold =>
    let w ← getWorld
    match ArmedProbe.arm w.bus eventName threshold with
    | .ok (bus, p) =>
      setWorld { w with bus := bus }
      return .probe p
    | .error e => throw (.arm e)
  | .timeOffset _ offsetNs => return .alarm (origin + offsetNs)

/-- Arms a counting probe now, before the operation's origin is known; alarms wait for it. -/
def armEarly (trigger : Trigger) : CampaignM (Option ArmedTrigger) := do
  if trigger.isEventCount then return some (← arm trigger (← getWorld).now) else return none

/-- How the race of one iteration ended; the process is reaped. -/
structure RaceReport where
  outcome : Outcome
  firedAtNs : Option Nat := none
  exit : Option ExitStatus := none
  eventsObserved : Option Nat := none
  deriving DecidableEq, Repr, Inhabited

/-- The trigger fired: sends the campaign's signal and reaps the process, escalating to a kill
after the stop timeout. A process found already gone finished naturally. -/
def deliverKill (h : Handle) (armed : ArmedTrigger) : CampaignM RaceReport := do
  let d ← getDriver
  let w ← getWorld
  let firedAt := w.now
  let (w, h, delivery) := Control.signal w h d.spec.signal
  let (w, events) := armed.disarm w
  let (w, h, exit) := match waitExited w h .never none d.spec.launch.stopTimeout with
    | .done (w, h) (.ok s) => (w, h, s)
    | r => let (w, h) := r.state; stopForceful w h
  setWorld (dropHandle w h)
  let outcome := match delivery with
    | .delivered => Outcome.aborted
    | .alreadyExited => Outcome.finishedNaturally
  return { outcome := outcome, firedAtNs := some firedAt, exit := some exit,
           eventsObserved := events }

/-- The operation completed first: disarms the trigger and stops the target gracefully. -/
def finishNaturally (h : Handle) (armed : ArmedTrigger) : CampaignM RaceReport := do
  let events ← disarmTrigger armed
  let exit ← stopHandle h
  return { outcome := .finishedNaturally, exit := some exit, eventsObserved := events }

/-- A startup that failed: the trigger is disarmed and the target killed. A failed startup is
answered, for the caller to retry; any other error ends the campaign. -/
def startupFailed (armed : ArmedTrigger) (w : World) (h : Handle) (err : ProcessError) :
    CampaignM (Except ProcessError RaceReport) := do
  setWorld w
  discard (disarmTrigger armed)
  discard (killHandle h)
  if err.isStartupFailure then return Except.error err else throw (HarnessError.process err)

/-- Settles one attempt at racing startup once the wait for readiness has ended: cut short by
the trigger, the target ready, or the startup failed. -/
def settleStartup (armed : ArmedTrigger) (readyTimeout : Duration) :
    Waited (World × Handle) (Except ProcessError Unit) → CampaignM (Except ProcessError RaceReport)
  | .interrupted (w, h) => do
    setWorld w
    return .ok (← deliverKill h armed)
  | .done (w, h) (.ok ()) => do
    setWorld w
    return .ok (← finishNaturally h armed)
  | .done (w, h) (.error err) => startupFailed armed w h err
  | .expired (w, h) => startupFailed armed w h (.startupTimeout readyTimeout)

/-- One attempt at racing startup. Counting probes attach before the spawn; alarms count from
the spawn. A failed startup answers its error, for the caller to retry. -/
def raceStartupOnce (trigger : Trigger) : CampaignM (Except ProcessError RaceReport) := do
  let early ← armEarly trigger
  let d ← getDriver
  match d.controller.spawn (← getWorld) with
  | .error e =>
    match early with
    | some a => discard (disarmTrigger a)
    | none => pure ()
    throw (.process e)
  | .ok (c, w, h) =>
    setController c
    setWorld w
    let armed ← match early with
      | some a => pure a
      | none => arm trigger h.startedAt
    let launch := d.spec.launch
    settleStartup armed launch.readyTimeout
      (awaitReady (← getWorld) h d.spec.probes launch.pollInterval launch.readyTimeout
        armed.interrupt none)

/-- Races startup from attempt `attempt`, with `more` attempts left after it. -/
def raceStartupFrom (trigger : Trigger) (attempt : Nat) : Nat → CampaignM RaceReport
  | 0 => do
    match ← raceStartupOnce trigger with
    | .ok r => return r
    | .error e => throw (.startupFailure attempt e)
  | more + 1 => do
    match ← raceStartupOnce trigger with
    | .ok r => return r
    | .error _ => raceStartupFrom trigger (attempt + 1) more

/-- Races startup: the trigger against the target becoming ready. -/
def raceStartup (trigger : Trigger) : CampaignM RaceReport :=
  raceStartupFrom trigger 1 (freshStartAttempts - 1)

/-- Settles a shutdown race once the wait for the exit has ended: cut short by the trigger, the
process exited, or it outlived the stop timeout and is killed. -/
def settleShutdown (armed : ArmedTrigger) :
    Waited (World × Handle) (Except ProcessError ExitStatus) → CampaignM RaceReport
  | .interrupted (w, h) => do
    setWorld w
    deliverKill h armed
  | .done (w, h) (.ok exit) => do
    setWorld (dropHandle w h)
    let events ← disarmTrigger armed
    return { outcome := .finishedNaturally, exit := some exit, eventsObserved := events }
  | .done (w, h) (.error _) | .expired (w, h) => do
    setWorld w
    let events ← disarmTrigger armed
    let exit ← killHandle h
    return { outcome := .aborted, exit := some exit, eventsObserved := events }

/-- Races shutdown: the trigger against the exit that follows a request to stop. The request is
the origin of an alarm. -/
def raceShutdown (trigger : Trigger) : CampaignM RaceReport := do
  let h ← startFresh
  let early ← armEarly trigger
  let d ← getDriver
  let origin := (← getWorld).catchUp.now
  let (w, h, _) := Control.signal (← getWorld) h .terminate
  setWorld w
  let armed ← match early with
    | some a => pure a
    | none => arm trigger origin
  settleShutdown armed (waitExited (← getWorld) h armed.interrupt none d.spec.launch.stopTimeout)

/-- Whether the process with this pid has ended on the machine, whether or not its controller
has looked. -/
def processEnded (pid : Nat) (w : World) : Bool := ((w.proc? pid).bind (·.exit)).isSome

/-- Settles a workload race once the workload's wait has ended: the workload returned, the
trigger fired, or the target ended on its own. A wait that ends with none of these found nothing
left to happen on the machine: the race would never be decided, and the campaign cannot go on,
the workload having run since `origin` without finishing. -/
def settleWorkload (probes : ProbeCommands) (h : Handle) (armed : ArmedTrigger) (origin : Nat) :
    Waited World (Except TargetError Unit) → CampaignM RaceReport
  | .done w (.ok ()) => do
    setWorld w
    finishNaturally h armed
  | .done w (.error e) => do
    setWorld w
    discard (disarmTrigger armed)
    discard (killHandle h)
    throw (.target e)
  | .interrupted w => do
    setWorld w
    if !armed.fired w && processEnded h.pid w then
      let (h, status) := h.tryExited w
      discard (disarmTrigger armed)
      setWorld (dropHandle (← getWorld) h)
      throw (.exitedDuringWorkload (status.getD .lost))
    else
      let report ← deliverKill h armed
      -- only a live target can be killed mid-workload
      if report.outcome == .finishedNaturally then
        throw (.exitedDuringWorkload (report.exit.getD .lost))
      return report
  | .expired w => do
    setWorld w
    discard (disarmTrigger armed)
    discard (killHandle h)
    throw (.target (.timeout (" ".intercalate (probes.workload.getD [])) ⟨w.now - origin⟩))

/-- Races the workload: the trigger against the workload command, while the target must stay
alive. The workload's start is the origin of an alarm. -/
def raceWorkload (trigger : Trigger) : CampaignM RaceReport := do
  let h ← startFresh
  let origin := (← getWorld).catchUp.now
  let armed ← arm trigger origin
  let d ← getDriver
  let intr : Interrupt := ⟨fun w => armed.fired w || processEnded h.pid w, armed.interrupt.alarm⟩
  settleWorkload d.spec.probes h armed origin
    (runWorkload d.spec.probes (← getWorld) intr none h.pid)

end CrashTest.Campaign
