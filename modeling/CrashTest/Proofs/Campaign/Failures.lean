import Mathlib
import CrashTest.Proofs.Campaign.Race
import CrashTest.Proofs.Campaign.Run
import CrashTest.Proofs.Output.Armed
/-!
# What a campaign can fail with

A run fails with a configuration that does not validate, before anything else; with an unhealthy
baseline, while idle; with a refused calibration, while calibrating a campaign that samples
offsets; and otherwise only with an operational error (`HarnessError.isOperational`): a process
that could not be controlled or started, a probe command or a verification that could not run, or
a target that ended on its own during the workload (`RunError`).

In particular a campaign fails on a trigger only when its calibration does. A trigger is checked
in three places, each far from where the configuration is validated: the plan turns each
iteration's index into a trigger, arming a counting probe builds its counter, and the calibration
measures the window that offsets are drawn from. Validation rules out an empty event name; the
loop asks the plan only for iterations `1, 2, …`, and only below the iteration limit, since it
checks the limits first; and a measured window is at least a nanosecond long. So every trigger the
plan gives arms (`Trigger.Armable`), and arming it never fails.

Each step is specified by what it may fail with: starting once, stopping, killing, disarming,
delivering the kill and finishing naturally never fail, nor does arming a trigger that arms; the
races and the iterations fail only with operational errors.
-/
namespace CrashTest

/-- Whether an error comes from making or arming a trigger. -/
def HarnessError.isTrigger : HarnessError → Bool
  | .trigger _ | .arm _ => true
  | _ => false

/-- Whether an error comes from operating the target: its process could not be controlled or
started, a probe command or a verification could not run, or it ended on its own during the
workload. -/
def HarnessError.isOperational : HarnessError → Bool
  | .process _ | .startupFailure .. | .target _ | .verify _ | .exitedDuringWorkload _ => true
  | _ => false

theorem HarnessError.isTrigger_of_isOperational {e : HarnessError} (h : e.isOperational = true) :
    e.isTrigger = false := by
  cases e <;> simp_all [isOperational, isTrigger]

/-- A trigger that arms: a counting probe needs an event name and a positive threshold, and an
alarm always arms. -/
def Trigger.Armable : Trigger → Prop
  | .eventCount eventName threshold => eventName ≠ "" ∧ 0 < threshold
  | .timeOffset .. => True

/-- A measurement fails only as an invalid calibration. -/
theorem Calibration.measure_eq_error {start stop : Nat} {e : TriggerError}
    (h : Calibration.measure start stop = .error e) : ∃ reason, e = .invalidCalibration reason := by
  unfold Calibration.measure Calibration.new at h
  split at h
  · cases h
    exact ⟨_, rfl⟩
  · dsimp only at h
    split at h
    · cases h
      exact ⟨_, rfl⟩
    · cases h

/-- A campaign that validates names the event it counts. -/
theorem CampaignSpec.eventName_ne_empty {spec : CampaignSpec} {eventName : String}
    (hValid : spec.validate = .ok ()) (hMode : spec.trigger = .eventCount eventName) :
    eventName ≠ "" := by
  rintro rfl
  unfold CampaignSpec.validate at hValid
  split_ifs at hValid <;> simp_all

end CrashTest

namespace CrashTest.Campaign

open Std.Do CrashTest.Os CrashTest.Control

set_option mvcgen.warning false

/-! ### The plan gives triggers that arm -/

/-- A plan that fits a validated campaign gives every iteration from the first a trigger that
arms: the `k`-th line of a named event, or an offset inside a measured window. -/
theorem Plan.Fits.trigger_armable {plan : Plan} {spec : CampaignSpec}
    {calibration : Option Calibration} (hFits : plan.Fits spec calibration)
    (hValid : spec.validate = .ok ()) {k : Nat} (hk : 0 < k) :
    ∃ t, plan.trigger k = .ok t ∧ t.Armable := by
  unfold Plan.Fits at hFits
  split at hFits
  · next eventName hMode =>
    subst hFits
    refine ⟨.eventCount eventName k, ?_, CampaignSpec.eventName_ne_empty hValid hMode, hk⟩
    simp [Plan.trigger, Trigger.ofEventCount, Nat.pos_iff_ne_zero.1 hk]
  · next hMode =>
    obtain ⟨c, hc, -, rfl⟩ := hFits
    obtain ⟨offsetNs, -, hSeeded⟩ := OffsetSampler.seeded_trigger spec.seed k hc
    exact ⟨.timeOffset c.windowNs offsetNs, by simp [Plan.trigger, hSeeded], trivial⟩

/-! ### Steps that never fail -/

theorem startOnce_returns : ⦃⌜True⌝⦄ startOnce ⦃⇓ _ => ⌜True⌝⦄ := by
  unfold startOnce
  mvcgen [getDriver, getWorld, setController, setWorld]

theorem stopHandle_returns (h : Handle) : ⦃⌜True⌝⦄ stopHandle h ⦃⇓ _ => ⌜True⌝⦄ := by
  unfold stopHandle
  mvcgen [getDriver, getWorld, setWorld]

theorem killHandle_returns (h : Handle) : ⦃⌜True⌝⦄ killHandle h ⦃⇓ _ => ⌜True⌝⦄ := by
  unfold killHandle
  mvcgen [getWorld, setWorld]

theorem disarmTrigger_returns (a : ArmedTrigger) : ⦃⌜True⌝⦄ disarmTrigger a ⦃⇓ _ => ⌜True⌝⦄ := by
  unfold disarmTrigger
  mvcgen [getWorld, setWorld]

theorem deliverKill_returns (h : Handle) (armed : ArmedTrigger) :
    ⦃⌜True⌝⦄ deliverKill h armed ⦃⇓ _ => ⌜True⌝⦄ := by
  unfold deliverKill
  mvcgen [getDriver, getWorld, setWorld]

theorem finishNaturally_returns (h : Handle) (armed : ArmedTrigger) :
    ⦃⌜True⌝⦄ finishNaturally h armed ⦃⇓ _ => ⌜True⌝⦄ := by
  unfold finishNaturally
  mvcgen [disarmTrigger_returns, stopHandle_returns, -disarmTrigger_spec, -disarmTrigger_counts,
    -stopHandle_spec]

/-- A trigger that arms is armed without fail. -/
theorem arm_returns {trigger : Trigger} (hArmable : trigger.Armable) (origin : Nat) :
    ⦃⌜True⌝⦄ arm trigger origin ⦃⇓ _ => ⌜True⌝⦄ := by
  unfold arm
  cases trigger with
  | eventCount eventName threshold =>
    obtain ⟨hName, hPos⟩ := hArmable
    mvcgen [getWorld, setWorld]
    rename_i hArm
    simp [ArmedProbe.arm_of_valid _ hName hPos] at hArm
  | timeOffset => mvcgen

theorem armEarly_returns {trigger : Trigger} (hArmable : trigger.Armable) :
    ⦃⌜True⌝⦄ armEarly trigger ⦃⇓ _ => ⌜True⌝⦄ := by
  have hArm := arm_returns hArmable
  unfold armEarly
  mvcgen [getWorld, hArm, -arm_spec, -arm_counts]

/-- Settling a shutdown race never fails: a kill, an exit or an overdue target that is killed. -/
theorem settleShutdown_returns (armed : ArmedTrigger)
    (r : Waited (World × Handle) (Except ProcessError ExitStatus)) :
    ⦃⌜True⌝⦄ settleShutdown armed r ⦃⇓ _ => ⌜True⌝⦄ := by
  unfold settleShutdown
  rcases r with ⟨w, h⟩ | ⟨⟨w, h⟩, _ | _⟩ | ⟨w, h⟩ <;>
    mvcgen [setWorld, deliverKill_returns, disarmTrigger_returns, killHandle_returns,
      -deliverKill_spec, -deliverKill_reports, -disarmTrigger_spec, -disarmTrigger_counts,
      -killHandle_spec]

theorem finish_returns (state : CampaignState) (reason : StopReason) (p : Progress)
    (start : Nat) : ⦃⌜True⌝⦄ finish state reason p start ⦃⇓ _ => ⌜True⌝⦄ := by
  unfold finish
  mvcgen [setState, getWorld, getDriver]

/-! ### Steps that fail only operationally -/

theorem startAttempts_fails_operationally (attempt more : Nat) :
    ⦃⌜True⌝⦄ startAttempts attempt more
    ⦃post⟨fun _ => ⌜True⌝, fun e => ⌜e.isOperational = true⌝⟩⦄ := by
  induction more generalizing attempt with
  | zero =>
    unfold startAttempts
    mvcgen [startOnce_returns, -startOnce_spec]
    split <;> rfl
  | succ more ih =>
    unfold startAttempts
    mvcgen [startOnce_returns, ih, -startOnce_spec, -startAttempts_spec]

theorem startFresh_fails_operationally :
    ⦃⌜True⌝⦄ startFresh ⦃post⟨fun _ => ⌜True⌝, fun e => ⌜e.isOperational = true⌝⟩⦄ := by
  unfold startFresh
  mvcgen [startAttempts_fails_operationally, -startAttempts_spec]

theorem startupFailed_fails_operationally (armed : ArmedTrigger) (w : World) (h : Handle)
    (err : ProcessError) :
    ⦃⌜True⌝⦄ startupFailed armed w h err
    ⦃post⟨fun _ => ⌜True⌝, fun e => ⌜e.isOperational = true⌝⟩⦄ := by
  unfold startupFailed
  mvcgen [setWorld, disarmTrigger_returns, killHandle_returns, -disarmTrigger_spec,
    -disarmTrigger_counts, -killHandle_spec]

theorem settleStartup_fails_operationally (armed : ArmedTrigger) (readyTimeout : Duration)
    (r : Waited (World × Handle) (Except ProcessError Unit)) :
    ⦃⌜True⌝⦄ settleStartup armed readyTimeout r
    ⦃post⟨fun _ => ⌜True⌝, fun e => ⌜e.isOperational = true⌝⟩⦄ := by
  unfold settleStartup
  rcases r with ⟨w, h⟩ | ⟨⟨w, h⟩, _ | _⟩ | ⟨w, h⟩ <;>
    mvcgen [setWorld, deliverKill_returns, finishNaturally_returns, startupFailed_fails_operationally,
      -deliverKill_spec, -deliverKill_reports, -finishNaturally_spec, -finishNaturally_reports]

theorem settleWorkload_fails_operationally (probes : ProbeCommands) (h : Handle) (armed : ArmedTrigger)
    (origin : Nat) (r : Waited World (Except TargetError Unit)) :
    ⦃⌜True⌝⦄ settleWorkload probes h armed origin r
    ⦃post⟨fun _ => ⌜True⌝, fun e => ⌜e.isOperational = true⌝⟩⦄ := by
  unfold settleWorkload
  rcases r with ⟨w, _ | _⟩ | w | w <;>
    mvcgen [setWorld, getWorld, deliverKill_returns, finishNaturally_returns,
      disarmTrigger_returns, killHandle_returns, -deliverKill_spec, -deliverKill_reports,
      -finishNaturally_spec, -finishNaturally_reports, -disarmTrigger_spec, -disarmTrigger_counts,
      -killHandle_spec]

theorem raceStartupOnce_fails_operationally {trigger : Trigger} (hArmable : trigger.Armable) :
    ⦃⌜True⌝⦄ raceStartupOnce trigger
    ⦃post⟨fun _ => ⌜True⌝, fun e => ⌜e.isOperational = true⌝⟩⦄ := by
  have hArm := arm_returns hArmable
  have hArmEarly := armEarly_returns hArmable
  unfold raceStartupOnce
  mvcgen [getDriver, getWorld, setWorld, setController, hArm, hArmEarly, disarmTrigger_returns,
    settleStartup_fails_operationally, -arm_spec, -arm_counts, -armEarly_spec, -armEarly_counts,
    -disarmTrigger_spec, -disarmTrigger_counts]

theorem raceStartupFrom_fails_operationally {trigger : Trigger} (hArmable : trigger.Armable)
    (attempt more : Nat) :
    ⦃⌜True⌝⦄ raceStartupFrom trigger attempt more
    ⦃post⟨fun _ => ⌜True⌝, fun e => ⌜e.isOperational = true⌝⟩⦄ := by
  have hOnce := raceStartupOnce_fails_operationally hArmable
  induction more generalizing attempt with
  | zero =>
    unfold raceStartupFrom
    mvcgen [hOnce, -raceStartupOnce_spec, -raceStartupOnce_ends]
  | succ more ih =>
    unfold raceStartupFrom
    mvcgen [hOnce, ih, -raceStartupOnce_spec, -raceStartupOnce_ends, -raceStartupFrom_spec,
      -raceStartupFrom_ends]

theorem raceStartup_fails_operationally {trigger : Trigger} (hArmable : trigger.Armable) :
    ⦃⌜True⌝⦄ raceStartup trigger ⦃post⟨fun _ => ⌜True⌝, fun e => ⌜e.isOperational = true⌝⟩⦄ := by
  have hFrom := raceStartupFrom_fails_operationally hArmable
  unfold raceStartup
  mvcgen [hFrom, -raceStartupFrom_spec, -raceStartupFrom_ends]

theorem raceShutdown_fails_operationally {trigger : Trigger} (hArmable : trigger.Armable) :
    ⦃⌜True⌝⦄ raceShutdown trigger ⦃post⟨fun _ => ⌜True⌝, fun e => ⌜e.isOperational = true⌝⟩⦄ := by
  have hArm := arm_returns hArmable
  have hArmEarly := armEarly_returns hArmable
  unfold raceShutdown
  mvcgen [getDriver, getWorld, setWorld, startFresh_fails_operationally, hArm, hArmEarly,
    settleShutdown_returns, -startFresh_spec, -arm_spec, -arm_counts, -armEarly_spec,
    -armEarly_counts]

theorem raceWorkload_fails_operationally {trigger : Trigger} (hArmable : trigger.Armable) :
    ⦃⌜True⌝⦄ raceWorkload trigger ⦃post⟨fun _ => ⌜True⌝, fun e => ⌜e.isOperational = true⌝⟩⦄ := by
  have hArm := arm_returns hArmable
  unfold raceWorkload
  mvcgen [getDriver, getWorld, startFresh_fails_operationally, hArm, settleWorkload_fails_operationally,
    -startFresh_spec, -arm_spec, -arm_counts]

/-- Inspecting the baseline fails operationally, or finds the target unhealthy. -/
theorem inspectBaseline_fails (pid : Nat) :
    ⦃⌜True⌝⦄ inspectBaseline pid
    ⦃post⟨fun _ => ⌜True⌝,
      fun e => ⌜e.isOperational = true ∨ ∃ reason, e = .unhealthyBaseline reason⌝⟩⦄ := by
  unfold inspectBaseline
  mvcgen [getDriver, getWorld, setWorld]
  all_goals simp [HarnessError.isOperational]

theorem baseline_fails :
    ⦃⌜True⌝⦄ baseline
    ⦃post⟨fun _ => ⌜True⌝,
      fun e => ⌜e.isOperational = true ∨ ∃ reason, e = .unhealthyBaseline reason⌝⟩⦄ := by
  unfold baseline
  mvcgen [startFresh_fails_operationally, inspectBaseline_fails, stopHandle_returns,
    CrashTest.Campaign.liftWith, -startFresh_spec, -inspectBaseline_spec, -stopHandle_spec]
  all_goals simp_all

/-- Calibrating fails operationally, or because the measured window is refused. -/
theorem calibrate_fails :
    ⦃⌜True⌝⦄ calibrate
    ⦃post⟨fun _ => ⌜True⌝, fun e => ⌜e.isOperational = true ∨
      ∃ reason, e = .trigger (.invalidCalibration reason)⌝⟩⦄ := by
  unfold calibrate
  mvcgen [getDriver, getWorld, setWorld, startFresh_fails_operationally, stopHandle_returns,
    killHandle_returns, CrashTest.Campaign.liftWith, -startFresh_spec, -stopHandle_spec,
    -killHandle_spec]
  all_goals simp_all [HarnessError.isOperational]
  -- what is left is a measurement that was refused
  all_goals exact Calibration.measure_eq_error ‹_›

theorem runIteration_fails_operationally {trigger : Trigger} (hArmable : trigger.Armable) (index : Nat)
    (expected : Expectation) :
    ⦃⌜True⌝⦄ runIteration index trigger expected
    ⦃post⟨fun _ => ⌜True⌝, fun e => ⌜e.isOperational = true⌝⟩⦄ := by
  have hStartup := raceStartup_fails_operationally hArmable
  have hShutdown := raceShutdown_fails_operationally hArmable
  have hWorkload := raceWorkload_fails_operationally hArmable
  unfold runIteration
  mvcgen [getDriver, getWorld, setWorld, setController, hStartup, hShutdown, hWorkload,
    stopHandle_returns, CrashTest.Campaign.liftWith, -raceStartup_spec, -raceStartup_ends,
    -raceShutdown_spec, -raceShutdown_ends, -raceWorkload_spec, -raceWorkload_ends,
    -stopHandle_spec]

/-! ### The loop and the run -/

/-- A loop on a plan that gives every iteration up to the limit a trigger that arms fails with no
error of a trigger: it asks the plan for iteration `index + 1` only once the limits let it run. -/
theorem iterate_fails_operationally (spec : CampaignSpec) (cancel : CancelFlag) (plan : Plan)
    (start : Nat)
    (hArms : ∀ k, 0 < k → k ≤ spec.limits.maxIterations → ∃ t, plan.trigger k = .ok t ∧ t.Armable) :
    ∀ (index : Nat) (p : Progress),
    ⦃⌜True⌝⦄ iterate spec cancel plan start index p
    ⦃post⟨fun _ => ⌜True⌝, fun e => ⌜e.isOperational = true⌝⟩⦄ := by
  intro index
  -- strong induction on the iterations the limit still allows, the measure `iterate` recurses on
  induction hn : spec.limits.maxIterations - index using Nat.strong_induction_on
    generalizing index with
  | _ n ih =>
    intro p
    have ihNext : ∀ p' : Progress, index < spec.limits.maxIterations →
        ⦃⌜True⌝⦄ iterate spec cancel plan start (index + 1) p'
        ⦃post⟨fun _ => ⌜True⌝, fun e => ⌜e.isOperational = true⌝⟩⦄ :=
      fun p' hlt => ih _ (by omega) _ rfl p'
    -- once the limits let iteration `index + 1` run, it is within the limit
    have hNext : ∀ secs, spec.limits.stopReason? index secs = none →
        ∃ t, plan.trigger (index + 1) = .ok t ∧ t.Armable :=
      fun _ hStop => hArms _ index.succ_pos (ResourceLimits.lt_of_stopReason?_eq_none hStop)
    rw [iterate]
    mvcgen [elapsedSecs, getWorld, CrashTest.Campaign.liftWith, ihNext, runIteration_fails_operationally,
      finish_returns]
    case vc3.hArmable hStop t hTrigger =>
      obtain ⟨t', hTrigger', hArmable⟩ := hNext _ hStop
      rw [hTrigger] at hTrigger'
      cases hTrigger'
      exact hArmable
    case vc6 | vc7 => exact fun _ => ResourceLimits.lt_of_stopReason?_eq_none ‹_›
    case vc8.h.isFalse.h_2.h_2 hStop e hRefused =>
      obtain ⟨t, hTrigger, -⟩ := hNext _ hStop
      rw [hTrigger] at hRefused
      cases hRefused

/-- What a run of a campaign of `spec` can fail with, by where the driver stands when it does. -/
inductive RunError (spec : CampaignSpec) : HarnessError → CampaignDriver × World → Prop
  /-- A process could not be controlled or started, a command could not run, or the target ended
  on its own during the workload. -/
  | operational {e : HarnessError} {s : CampaignDriver × World} :
      e.isOperational = true → RunError spec e s
  /-- The configuration does not validate. -/
  | invalid (c : ConfigError) {s : CampaignDriver × World} : RunError spec (.config c) s
  /-- The baseline is unhealthy: nothing was calibrated or iterated yet. -/
  | unhealthy (reason : String) {s : CampaignDriver × World} :
      s.1.state = .idle → RunError spec (.unhealthyBaseline reason) s
  /-- The calibration of a campaign that samples offsets measured no usable window. -/
  | uncalibrated (reason : String) {s : CampaignDriver × World} :
      s.1.state = .calibrating → spec.trigger = .timeOffset →
        RunError spec (.trigger (.invalidCalibration reason)) s

namespace RunError

variable {spec : CampaignSpec} {e : HarnessError} {s : CampaignDriver × World}

/-- A run fails on a trigger only as a refused calibration, while calibrating a campaign that
samples offsets. -/
theorem of_isTrigger (h : RunError spec e s) (hTrigger : e.isTrigger = true) :
    (∃ reason, e = .trigger (.invalidCalibration reason)) ∧ s.1.state = .calibrating ∧
      spec.trigger = .timeOffset := by
  cases h with
  | operational hOperational =>
    rw [HarnessError.isTrigger_of_isOperational hOperational] at hTrigger
    cases hTrigger
  | invalid => cases hTrigger
  | unhealthy => cases hTrigger
  | uncalibrated reason hState hMode => exact ⟨⟨reason, rfl⟩, hState, hMode⟩

/-- A run finds its baseline unhealthy only while idle. -/
theorem idle_of_unhealthy {reason : String} (h : RunError spec (.unhealthyBaseline reason) s) :
    s.1.state = .idle := by
  cases h with
  | operational hOperational => cases hOperational
  | unhealthy _ hState => exact hState

end RunError

/-- Every failure of a run of a driver of `spec` is one `RunError` names. -/
theorem run_failures (cancel : CancelFlag) (spec : CampaignSpec) :
    ⦃fun s => ⌜s.1.spec = spec⌝⦄ run cancel
    ⦃post⟨fun _ => ⌜True⌝, fun e s => ⌜RunError spec e s⌝⟩⦄ := by
  have hBaseline := Triple.and _ (@baseline_spec .idle spec) baseline_fails
  have hCalibrate := Triple.and _ (@calibrate_spec .calibrating spec) calibrate_fails
  mvcgen -trivial [run, getDriver, getWorld, setState, CrashTest.Campaign.liftWith,
    hBaseline, hCalibrate, iterate_fails_operationally, finish_returns]
  -- the driver runs the campaign it was given throughout; substituting it spares the searches
  -- below from unfolding `validate`
  all_goals subst spec
  case vc1 | vc4 | vc8 => exact fun _ => trivial
  case vc2 => exact ⟨rfl, rfl⟩
  case vc6 =>
    have hIdle := ‹DriverAt .idle _ _›
    exact ⟨rfl, hIdle.spec_eq⟩
  -- the plan counts an event that validation named, or draws offsets from a measured window
  -- (validity is looked up by its shape alone: unfolding `validate` against the other equations
  -- in scope would evaluate it)
  case vc3 =>
    exact fun _ hk _ =>
      (Plan.fits_count ‹_›).trigger_armable (by with_reducible assumption) hk
  case vc7 =>
    exact fun _ hk _ =>
      (Plan.fits_offset ‹_› ‹_ ∧ _›.1).trigger_armable (by with_reducible assumption) hk
  case vc5 | vc9 => exact .operational
  case vc10 =>
    -- the calibration failed while the driver was calibrating a campaign that samples offsets
    intro hFailed
    simp only [ExceptConds.and] at hFailed
    obtain ⟨⟨hd, -⟩, hOperational | ⟨reason, rfl⟩⟩ := hFailed
    · exact .operational hOperational
    · exact .uncalibrated reason hd.state_eq ‹_ = TriggerMode.timeOffset›
  case vc11 =>
    -- the baseline failed while the driver was idle
    intro hFailed
    simp only [ExceptConds.and] at hFailed
    obtain ⟨⟨hd, -⟩, hOperational | ⟨reason, rfl⟩⟩ := hFailed
    · exact .operational hOperational
    · exact .unhealthy reason hd.state_eq
  case vc12 => exact .invalid _

/-- A campaign fails on a trigger only when its calibration does. A run of a driver of `spec`
fails with an error of a trigger only as an invalid calibration, raised while calibrating a
campaign that samples offsets: never as a zero threshold, an offset out of its window, or a probe
that would not arm. At the head of the loop of a validated campaign, once the limits let another
iteration run, its index is within the iteration limit, and the plan the campaign iterates on
gives it a trigger that is armed without fail. -/
theorem run_fails_on_a_trigger_only_when_calibrating (cancel : CancelFlag) (spec : CampaignSpec) :
    ⦃fun s => ⌜s.1.spec = spec⌝⦄ run cancel
    ⦃post⟨fun _ => ⌜True⌝, fun e s => ⌜e.isTrigger = true →
      (∃ reason, e = .trigger (.invalidCalibration reason)) ∧ s.1.state = .calibrating ∧
        spec.trigger = .timeOffset⌝⟩⦄ ∧
    ∀ (plan : Plan) (calibration : Option Calibration) (index secs : Nat),
      spec.validate = .ok () → plan.Fits spec calibration →
      spec.limits.stopReason? index secs = none →
      index + 1 ≤ spec.limits.maxIterations ∧ ∃ t, plan.trigger (index + 1) = .ok t ∧
        ∀ origin, ⦃⌜True⌝⦄ arm t origin ⦃⇓ _ => ⌜True⌝⦄ := by
  refine ⟨?_, fun plan calibration index secs hValid hFits hStop => ?_⟩
  · have hRun := @run_failures cancel spec
    mvcgen [hRun]
    exact fun hFailed => hFailed.of_isTrigger
  obtain ⟨t, hTrigger, hArmable⟩ := hFits.trigger_armable hValid index.succ_pos
  exact ⟨ResourceLimits.lt_of_stopReason?_eq_none hStop, t, hTrigger, arm_returns hArmable⟩

/-- A campaign that kills its target on the `k`-th line that mentions `ready` validates, and its
third iteration, which the limits let run after two, gets a trigger that arms. -/
theorem ready_count_campaign_arms_third_iteration :
    let spec : CampaignSpec :=
      { name := "store", launch := { program := "server" }, probes := { ready := some ["check"] },
        trigger := .eventCount "ready" }
    spec.validate = .ok () ∧ (Plan.count "ready").Fits spec none ∧
      spec.limits.stopReason? 2 0 = none ∧
      (2 + 1 ≤ spec.limits.maxIterations ∧ ∃ t, (Plan.count "ready").trigger (2 + 1) = .ok t ∧
        ∀ origin, ⦃⌜True⌝⦄ arm t origin ⦃⇓ _ => ⌜True⌝⦄) := by
  intro spec
  -- validation reads the name and the commands as text, which `decide` evaluates
  have hValid : spec.validate = .ok () := by
    have hOk : spec.validate.isOk = true := by decide
    generalize spec.validate = r at hOk
    cases r <;> simp_all [Except.isOk, Except.toBool]
  have hFits : (Plan.count "ready").Fits spec none := Plan.fits_count rfl
  have hStop : spec.limits.stopReason? 2 0 = none := by decide
  exact ⟨hValid, hFits, hStop, (run_fails_on_a_trigger_only_when_calibrating ⟨fun _ => false⟩
    spec).2 _ _ 2 0 hValid hFits hStop⟩

end CrashTest.Campaign
