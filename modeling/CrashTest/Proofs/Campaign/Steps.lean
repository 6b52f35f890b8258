import Mathlib
import CrashTest.Campaign.Run
import CrashTest.Proofs.Campaign.Reaping
import CrashTest.Proofs.Trigger.Window
/-!
Specifications of the steps of a campaign, one triple for each.

A step reads and replaces the machine, the driver's controller and the driver's state, and may
fail. Only `setState` moves the campaign to another state, and no step changes the campaign's
configuration: every step below keeps both, whether it returns or fails, and none fails as the
checks made before a campaign starts do (`HarnessError.isCheck`). Beyond that,
`runIteration` records the index and the trigger it was given, `calibrate` answers a window that
could have been measured, and `finish` moves the campaign to its final state and reports the
progress as it stands.
-/
namespace CrashTest

/-- `r` reports the progress `p` of the campaign named `name`, ended in `state` for `reason`:
everything but the elapsed time comes from the progress. -/
structure CampaignResult.Reports (r : CampaignResult) (name : String) (state : CampaignState)
    (reason : StopReason) (p : Campaign.Progress) : Prop where
  name_eq : r.name = name
  state_eq : r.state = state
  stopReason_eq : r.stopReason = reason
  iterations_eq : r.iterations = p.iterations
  analytics_eq : ∃ secs, r.analytics = { p.analytics with elapsedSecs := secs }.summary
  expected_eq : r.expected = p.expected
  calibration_eq : r.calibration = p.calibration
  capsule_eq : r.capsule = p.capsule

/-- Whether an error is one of the checks a campaign makes before it starts anything: its
configuration does not validate, or a capsule does not fit it. No step of a campaign fails so. -/
def HarnessError.isCheck : HarnessError → Bool
  | .config _ | .capsuleMismatch _ => true
  | _ => false

/-- A failed fresh start is no check, whether it is retried or not. -/
theorem HarnessError.isCheck_of_failed_start (attempt : Nat) (e : ProcessError) :
    (if e.isStartupFailure then HarnessError.startupFailure attempt e else .process e).isCheck =
      false := by
  split <;> rfl

end CrashTest

namespace CrashTest.Campaign

open Std.Do CrashTest.Os CrashTest.Control

set_option mvcgen.warning false

/-- The driver is in `state` and runs the campaign `spec`. -/
structure DriverAt (state : CampaignState) (spec : CampaignSpec) (s : CampaignDriver × World) :
    Prop where
  state_eq : s.1.state = state
  spec_eq : s.1.spec = spec

/-- A step that leaves the driver's state and spec as they were keeps the driver where it is. -/
theorem driverAt_iff {state : CampaignState} {spec : CampaignSpec} {s : CampaignDriver × World} :
    DriverAt state spec s ↔ s.1.state = state ∧ s.1.spec = spec :=
  ⟨fun h => ⟨h.state_eq, h.spec_eq⟩, fun h => ⟨h.1, h.2⟩⟩

theorem DriverAt.of_driver {state : CampaignState} {spec : CampaignSpec}
    {s s' : CampaignDriver × World} (h : DriverAt state spec s) (hState : s'.1.state = s.1.state)
    (hSpec : s'.1.spec = s.1.spec) : DriverAt state spec s' :=
  ⟨hState.trans h.state_eq, hSpec.trans h.spec_eq⟩

variable (state : CampaignState) (spec : CampaignSpec)

@[spec] theorem startOnce_spec :
    ⦃fun s => ⌜DriverAt state spec s⌝⦄ startOnce
    ⦃post⟨fun _ s => ⌜DriverAt state spec s⌝,
      fun e s => ⌜DriverAt state spec s ∧ e.isCheck = false⌝⟩⦄ := by
  mvcgen [startOnce, getDriver, getWorld, setController, setWorld]
  all_goals apply DriverAt.of_driver ‹DriverAt state spec _› <;> rfl

@[spec] theorem startAttempts_spec (attempt more : Nat) :
    ⦃fun s => ⌜DriverAt state spec s⌝⦄ startAttempts attempt more
    ⦃post⟨fun _ s => ⌜DriverAt state spec s⌝,
      fun e s => ⌜DriverAt state spec s ∧ e.isCheck = false⌝⟩⦄ := by
  induction more generalizing attempt with
  | zero =>
    mvcgen [startAttempts]
    all_goals simp_all [HarnessError.isCheck_of_failed_start]
  | succ more ih => mvcgen [startAttempts, ih]

@[spec] theorem startFresh_spec :
    ⦃fun s => ⌜DriverAt state spec s⌝⦄ startFresh
    ⦃post⟨fun _ s => ⌜DriverAt state spec s⌝,
      fun e s => ⌜DriverAt state spec s ∧ e.isCheck = false⌝⟩⦄ := by
  mvcgen [startFresh]

@[spec] theorem stopHandle_spec (h : Handle) :
    ⦃fun s => ⌜DriverAt state spec s⌝⦄ stopHandle h
    ⦃post⟨fun _ s => ⌜DriverAt state spec s⌝,
      fun e s => ⌜DriverAt state spec s ∧ e.isCheck = false⌝⟩⦄ := by
  mvcgen [stopHandle, getWorld, setWorld, getDriver]
  all_goals apply DriverAt.of_driver ‹DriverAt state spec _› <;> rfl

@[spec] theorem killHandle_spec (h : Handle) :
    ⦃fun s => ⌜DriverAt state spec s⌝⦄ killHandle h
    ⦃post⟨fun _ s => ⌜DriverAt state spec s⌝,
      fun e s => ⌜DriverAt state spec s ∧ e.isCheck = false⌝⟩⦄ := by
  mvcgen [killHandle, getWorld, setWorld]
  all_goals apply DriverAt.of_driver ‹DriverAt state spec _› <;> rfl

@[spec] theorem disarmTrigger_spec (a : ArmedTrigger) :
    ⦃fun s => ⌜DriverAt state spec s⌝⦄ disarmTrigger a
    ⦃post⟨fun _ s => ⌜DriverAt state spec s⌝,
      fun e s => ⌜DriverAt state spec s ∧ e.isCheck = false⌝⟩⦄ := by
  mvcgen [disarmTrigger, getWorld, setWorld]
  all_goals apply DriverAt.of_driver ‹DriverAt state spec _› <;> rfl

@[spec] theorem arm_spec (trigger : Trigger) (origin : Nat) :
    ⦃fun s => ⌜DriverAt state spec s⌝⦄ arm trigger origin
    ⦃post⟨fun _ s => ⌜DriverAt state spec s⌝,
      fun e s => ⌜DriverAt state spec s ∧ e.isCheck = false⌝⟩⦄ := by
  mvcgen [arm, getWorld, setWorld]
  all_goals simp_all +zetaDelta [driverAt_iff]

@[spec] theorem armEarly_spec (trigger : Trigger) :
    ⦃fun s => ⌜DriverAt state spec s⌝⦄ armEarly trigger
    ⦃post⟨fun _ s => ⌜DriverAt state spec s⌝,
      fun e s => ⌜DriverAt state spec s ∧ e.isCheck = false⌝⟩⦄ := by
  mvcgen [armEarly, getWorld]

@[spec] theorem deliverKill_spec (h : Handle) (armed : ArmedTrigger) :
    ⦃fun s => ⌜DriverAt state spec s⌝⦄ deliverKill h armed
    ⦃post⟨fun _ s => ⌜DriverAt state spec s⌝,
      fun e s => ⌜DriverAt state spec s ∧ e.isCheck = false⌝⟩⦄ := by
  mvcgen [deliverKill, getWorld, setWorld, getDriver]
  all_goals apply DriverAt.of_driver ‹DriverAt state spec _› <;> rfl

@[spec] theorem finishNaturally_spec (h : Handle) (armed : ArmedTrigger) :
    ⦃fun s => ⌜DriverAt state spec s⌝⦄ finishNaturally h armed
    ⦃post⟨fun _ s => ⌜DriverAt state spec s⌝,
      fun e s => ⌜DriverAt state spec s ∧ e.isCheck = false⌝⟩⦄ := by
  mvcgen [finishNaturally]

@[spec] theorem raceStartupOnce_spec (trigger : Trigger) :
    ⦃fun s => ⌜DriverAt state spec s⌝⦄ raceStartupOnce trigger
    ⦃post⟨fun _ s => ⌜DriverAt state spec s⌝,
      fun e s => ⌜DriverAt state spec s ∧ e.isCheck = false⌝⟩⦄ := by
  mvcgen [raceStartupOnce, settleStartup, startupFailed, getWorld, setWorld, getDriver, setController]
  all_goals simp_all +zetaDelta [driverAt_iff]

@[spec] theorem raceStartupFrom_spec (trigger : Trigger) (attempt more : Nat) :
    ⦃fun s => ⌜DriverAt state spec s⌝⦄ raceStartupFrom trigger attempt more
    ⦃post⟨fun _ s => ⌜DriverAt state spec s⌝,
      fun e s => ⌜DriverAt state spec s ∧ e.isCheck = false⌝⟩⦄ := by
  induction more generalizing attempt with
  | zero => mvcgen [raceStartupFrom]
  | succ more ih => mvcgen [raceStartupFrom, ih]

@[spec] theorem raceStartup_spec (trigger : Trigger) :
    ⦃fun s => ⌜DriverAt state spec s⌝⦄ raceStartup trigger
    ⦃post⟨fun _ s => ⌜DriverAt state spec s⌝,
      fun e s => ⌜DriverAt state spec s ∧ e.isCheck = false⌝⟩⦄ := by
  mvcgen [raceStartup]

@[spec] theorem raceShutdown_spec (trigger : Trigger) :
    ⦃fun s => ⌜DriverAt state spec s⌝⦄ raceShutdown trigger
    ⦃post⟨fun _ s => ⌜DriverAt state spec s⌝,
      fun e s => ⌜DriverAt state spec s ∧ e.isCheck = false⌝⟩⦄ := by
  mvcgen [raceShutdown, settleShutdown, getWorld, setWorld, getDriver]
  all_goals simp_all +zetaDelta [driverAt_iff]

@[spec] theorem raceWorkload_spec (trigger : Trigger) :
    ⦃fun s => ⌜DriverAt state spec s⌝⦄ raceWorkload trigger
    ⦃post⟨fun _ s => ⌜DriverAt state spec s⌝,
      fun e s => ⌜DriverAt state spec s ∧ e.isCheck = false⌝⟩⦄ := by
  mvcgen [raceWorkload, settleWorkload, getWorld, setWorld, getDriver]
  all_goals simp_all +zetaDelta [driverAt_iff, HarnessError.isCheck]

@[spec] theorem inspectBaseline_spec (pid : Nat) :
    ⦃fun s => ⌜DriverAt state spec s⌝⦄ inspectBaseline pid
    ⦃post⟨fun _ s => ⌜DriverAt state spec s⌝,
      fun e s => ⌜DriverAt state spec s ∧ e.isCheck = false⌝⟩⦄ := by
  mvcgen [inspectBaseline, getWorld, setWorld, getDriver]
  all_goals simp_all +zetaDelta [driverAt_iff, HarnessError.isCheck]

theorem baseline_spec :
    ⦃fun s => ⌜DriverAt state spec s⌝⦄ baseline
    ⦃post⟨fun _ s => ⌜DriverAt state spec s⌝,
      fun e s => ⌜DriverAt state spec s ∧ e.isCheck = false⌝⟩⦄ := by
  mvcgen [baseline, CrashTest.Campaign.liftWith]
  all_goals simp_all +zetaDelta [driverAt_iff, HarnessError.isCheck]

/-- Calibrating keeps the driver where it is and answers a window that could have been measured. -/
theorem calibrate_spec :
    ⦃fun s => ⌜DriverAt state spec s⌝⦄ calibrate
    ⦃post⟨fun c s => ⌜c.Measured ∧ DriverAt state spec s⌝,
      fun e s => ⌜DriverAt state spec s ∧ e.isCheck = false⌝⟩⦄ := by
  mvcgen [calibrate, getWorld, setWorld, getDriver, CrashTest.Campaign.liftWith]
  all_goals simp_all +zetaDelta [driverAt_iff, HarnessError.isCheck]
  -- what is left is that the measurement which succeeded gave a measured window
  all_goals exact Calibration.measured_of_measure ‹_›

/-- An iteration is recorded with the index and the trigger it was run with. -/
theorem runIteration_spec (index : Nat) (trigger : Trigger) (expected : Expectation) :
    ⦃fun s => ⌜DriverAt state spec s⌝⦄ runIteration index trigger expected
    ⦃post⟨fun i s => ⌜i.index = index ∧ i.trigger = trigger ∧ DriverAt state spec s⌝,
      fun e s => ⌜DriverAt state spec s ∧ e.isCheck = false⌝⟩⦄ := by
  mvcgen [runIteration, getWorld, setWorld, getDriver, setController,
    CrashTest.Campaign.liftWith]
  all_goals simp_all +zetaDelta [driverAt_iff, HarnessError.isCheck]

/-- Ending a campaign moves the driver from `before` to the final state and reports the progress
as it stands. -/
theorem finish_spec (before : CampaignState) (reason : StopReason) (p : Progress) (start : Nat) :
    ⦃fun s => ⌜DriverAt before spec s⌝⦄ finish state reason p start
    ⦃⇓ r s => ⌜r.Reports spec.name state reason p ∧ DriverAt state spec s⌝⦄ := by
  mvcgen [finish, setState, getWorld, getDriver]
  have hSpec := (‹DriverAt before spec _›).spec_eq
  exact ⟨⟨congrArg CampaignSpec.name hSpec, rfl, rfl, rfl, ⟨_, rfl⟩, rfl, rfl, rfl⟩, rfl, hSpec⟩

end CrashTest.Campaign
