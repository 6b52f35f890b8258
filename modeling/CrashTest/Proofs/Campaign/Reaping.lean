import Mathlib
import CrashTest.Campaign.Run
import CrashTest.Proofs.Control.Reaping
/-!
# A campaign reaps each target before it spawns the next

Each step of a campaign is specified by what the controller holds before and after it
(`Holds`): nothing, when it is calm and every target it spawned has ended, or one running target
whose handle is true to the machine. Starting holds the new target, or leaves the controller calm
when the start failed and its target was reaped; stopping, killing and delivering the kill make
it calm again; disarming a trigger and running probe commands keep what it holds. The races, the
baseline, the calibration and an iteration (a race, then a restart that is verified and stopped)
each go from calm to calm, and so do `iterate`, by strong induction on the iterations the limit
still allows, and `run` and `replay`. A step that fails ends the campaign, and what it leaves is
not specified.
-/
namespace CrashTest.Verify

open CrashTest.Os CrashTest.Control

/-- Verifying a ready instance runs its probe commands, which keep the processes. -/
theorem verify_keeps {w : World} {h : Handle} {probes : ProbeCommands} {expected : Expectation} :
    World.KeepsProcs w (verify w h probes expected).1 := by
  unfold verify
  split
  case h_3 w' hConsistent =>
    -- a consistent instance may have its state queried as well
    have hk := World.keeps_checkConsistency hConsistent
    split
    · split
      · exact hk.trans (World.keeps_observableState ‹_›)
      · split <;> exact hk.trans (World.keeps_observableState ‹_›)
      · exact hk.trans (World.keeps_observableState rfl)
    · exact hk
  case h_4 => exact World.keeps_checkConsistency rfl
  all_goals exact World.keeps_checkConsistency ‹_›

end CrashTest.Verify

namespace CrashTest.Control

open CrashTest.Os

/-- A restart from a calm machine holds the target its verdict returns, if any: a restart that
became ready is held, whatever the verdict, and one that did not was reaped. -/
theorem Controller.Calm.restartAndVerify {c : Controller} {w : World} {probes : ProbeCommands}
    {config : VerifyConfig} {expected : Expectation} {a : Verdict × Option Handle}
    {held : Option Handle} (hc : c.Calm w)
    (hr : (Verify.restartAndVerify c w probes config expected).2.2 = .ok a) (hHeld : a.2 = held) :
    (Verify.restartAndVerify c w probes config expected).1.HoldingSome
      (Verify.restartAndVerify c w probes config expected).2.1 held := by
  subst hHeld
  obtain ⟨v, held⟩ := a
  unfold Verify.restartAndVerify Verify.watchRestart Verify.judgeRestart at hr ⊢
  dsimp only at hr ⊢
  -- the restart is watched from a subscription, which touches no process
  have hWatched : c.Calm { w.catchUp with bus := w.catchUp.bus.subscribe.1 } :=
    hc.keeps ((World.KeepsProcs.refl w).catchUp.of_procs_eq rfl)
  have hStart := @Controller.Calm.startWithin _ _ probes config.restartTimeout hWatched
  generalize c.startWithin _ probes config.restartTimeout = res at hStart hr ⊢
  obtain ⟨c', w', started⟩ := res
  have hDrained : ∀ {w' : World} {b : EventBus}, World.KeepsProcs w' { w' with bus := b } :=
    fun {w'} _ => (World.KeepsProcs.refl w').of_procs_eq rfl
  cases started with
  | error e =>
    -- a failed restart was reaped, and its verdict holds no target; an error of the harness is
    -- no verdict at all
    cases e <;> dsimp only [Except.toOption] at hStart hr ⊢ <;> cases hr
    all_goals exact hStart.keeps hDrained
  | ok h =>
    dsimp only [Except.toOption] at hStart hr ⊢
    split
    · next line hScan =>
      simp only [hScan] at hr
      cases hr
      exact hStart.keeps hDrained
    · -- the ready instance is checked, which keeps the processes
      next hScan =>
      simp only [hScan] at hr
      cases hVerdict : (Verify.verify { w' with bus := _ } h probes expected).2 with
      | error err => simp [hVerdict, Except.map] at hr
      | ok verdict =>
        simp only [hVerdict, Except.map, Except.ok.injEq, Prod.mk.injEq] at hr
        obtain ⟨-, rfl⟩ := hr
        exact hStart.keeps (hDrained.trans Verify.verify_keeps)

end CrashTest.Control

namespace CrashTest.Campaign

open Std.Do CrashTest.Os CrashTest.Control

set_option mvcgen.warning false

/-- `discard` runs a step and forgets its value. -/
@[spec] theorem Spec.discard_campaign {α : Type} {x : CampaignM α}
    {Q : PostCond PUnit (.except HarnessError (.arg (CampaignDriver × World) .pure))} :
    ⦃spred(wp⟦x⟧ (fun _ => Q.1 PUnit.unit, Q.2))⦄ discard x ⦃Q⦄ :=
  Spec.map

/-- The controller holds the target of `held`, or is calm when there is none. -/
def Holds (held : Option Handle) (s : CampaignDriver × World) : Prop :=
  s.1.controller.HoldingSome s.2 held

variable {held : Option Handle}

theorem ArmedTrigger.disarm_procs (a : ArmedTrigger) (w : World) :
    (a.disarm w).1.procs = w.procs := by
  cases a <;> rfl

theorem keeps_disarm (a : ArmedTrigger) (w : World) : World.KeepsProcs w (a.disarm w).1 :=
  (World.KeepsProcs.refl w).of_procs_eq (ArmedTrigger.disarm_procs a w)

theorem startOnce_holds :
    ⦃fun s => ⌜Holds none s⌝⦄ startOnce ⦃⇓ r s => ⌜Holds r.toOption s⌝⦄ := by
  mvcgen [startOnce, getDriver, getWorld, setController, setWorld]
  exact Controller.Calm.startWithin ‹Holds none _›

theorem startAttempts_holds (attempt more : Nat) :
    ⦃fun s => ⌜Holds none s⌝⦄ startAttempts attempt more
    ⦃⇓? h s => ⌜Holds (some h) s⌝⦄ := by
  induction more generalizing attempt with
  | zero => mvcgen [startAttempts, startOnce_holds]
  | succ more ih => mvcgen [startAttempts, startOnce_holds, ih]

theorem startFresh_holds :
    ⦃fun s => ⌜Holds none s⌝⦄ startFresh ⦃⇓? h s => ⌜Holds (some h) s⌝⦄ := by
  mvcgen [startFresh, startAttempts_holds]

theorem stopHandle_calm (h : Handle) :
    ⦃fun s => ⌜Holds (some h) s⌝⦄ stopHandle h ⦃⇓? _ s => ⌜Holds none s⌝⦄ := by
  mvcgen [stopHandle, getWorld, setWorld, getDriver]
  exact Controller.Holding.stopGraceful (by assumption)

theorem killHandle_calm (h : Handle) :
    ⦃fun s => ⌜Holds (some h) s⌝⦄ killHandle h ⦃⇓? _ s => ⌜Holds none s⌝⦄ := by
  mvcgen [killHandle, getWorld, setWorld]
  exact Controller.Holding.stopForceful (by assumption)

theorem disarmTrigger_holds (a : ArmedTrigger) :
    ⦃fun s => ⌜Holds held s⌝⦄ disarmTrigger a ⦃⇓? _ s => ⌜Holds held s⌝⦄ := by
  mvcgen [disarmTrigger, getWorld, setWorld]
  exact Controller.HoldingSome.keeps (by assumption) (keeps_disarm a _)

theorem deliverKill_calm (h : Handle) (armed : ArmedTrigger) :
    ⦃fun s => ⌜Holds (some h) s⌝⦄ deliverKill h armed
    ⦃⇓? _ s => ⌜Holds none s⌝⦄ := by
  mvcgen [deliverKill, getWorld, setWorld, getDriver]
  next s hs _ t _ =>
  simp only [t]
  have hHold : s.1.controller.Holding (armed.disarm (signal s.2 h s.1.spec.signal).1).1
      (signal s.2 h s.1.spec.signal).2.1 :=
    (Controller.Holding.step hs signal_step).step (.of_keeps (keeps_disarm _ _))
  split
  · next v h' st hr => exact hHold.waitExited hr
  · exact (hHold.step waitExited_step.1).stopForceful

theorem finishNaturally_calm (h : Handle) (armed : ArmedTrigger) :
    ⦃fun s => ⌜Holds (some h) s⌝⦄ finishNaturally h armed
    ⦃⇓? _ s => ⌜Holds none s⌝⦄ := by
  mvcgen [finishNaturally, disarmTrigger_holds, stopHandle_calm]

/-- A failed startup kills and reaps the target it held. -/
theorem startupFailed_calm (armed : ArmedTrigger) (w : World) (h : Handle)
    (err : ProcessError) :
    ⦃fun s => ⌜s.1.controller.Holding w h⌝⦄ startupFailed armed w h err
    ⦃⇓? _ s => ⌜Holds none s⌝⦄ := by
  mvcgen [startupFailed, setWorld, disarmTrigger, getWorld, killHandle_calm]
  dsimp +zetaDelta only [Holds, Controller.HoldingSome] at *
  exact Controller.Holding.step ‹_› (.of_keeps (keeps_disarm _ _))

theorem raceStartupOnce_calm (trigger : Trigger) :
    ⦃fun s => ⌜Holds none s⌝⦄ raceStartupOnce trigger ⦃⇓? _ s => ⌜Holds none s⌝⦄ := by
  mvcgen [raceStartupOnce, settleStartup, getWorld, setWorld, getDriver, setController, armEarly,
    arm, disarmTrigger, startupFailed_calm, deliverKill_calm, finishNaturally_calm]
  -- whichever way the trigger was armed and the wait ended, the target was spawned from a calm
  -- machine and then awaited
  all_goals
    dsimp +zetaDelta only [Holds, Controller.HoldingSome] at *
    apply Controller.Calm.spawn_awaitReady
    case hs => assumption
    case hr => assumption
    case hst => rfl
    case hw' => rfl
    case hc => assumption
    case hw => rfl

theorem raceStartupFrom_calm (trigger : Trigger) (attempt more : Nat) :
    ⦃fun s => ⌜Holds none s⌝⦄ raceStartupFrom trigger attempt more
    ⦃⇓? _ s => ⌜Holds none s⌝⦄ := by
  induction more generalizing attempt with
  | zero => mvcgen [raceStartupFrom, raceStartupOnce_calm]
  | succ more ih => mvcgen [raceStartupFrom, raceStartupOnce_calm, ih]

theorem raceStartup_calm (trigger : Trigger) :
    ⦃fun s => ⌜Holds none s⌝⦄ raceStartup trigger ⦃⇓? _ s => ⌜Holds none s⌝⦄ := by
  mvcgen [raceStartup, raceStartupFrom_calm]

theorem raceShutdown_calm (trigger : Trigger) :
    ⦃fun s => ⌜Holds none s⌝⦄ raceShutdown trigger ⦃⇓? _ s => ⌜Holds none s⌝⦄ := by
  mvcgen [raceShutdown, settleShutdown, startFresh_holds, armEarly, arm, getWorld, setWorld,
    getDriver, disarmTrigger, deliverKill_calm, killHandle_calm]
  all_goals dsimp +zetaDelta only [Holds, Controller.HoldingSome] at *
  -- the wait found the end: the target is reaped
  case vc3 | vc8 | vc12 | vc17 =>
    refine Controller.Calm.keeps ?_ (keeps_disarm _ _)
    apply Controller.Holding.signal_waitExited_done
    case hr => assumption
    case hc => assumption
    all_goals rfl
  -- a trigger disarmed before the kill changes no process
  case' vc4 | vc5 | vc9 | vc10 | vc13 | vc14 | vc18 | vc19 =>
    refine Controller.Holding.step ?_ (.of_keeps (keeps_disarm _ _))
  -- otherwise the target is still held, by the handle the wait left
  all_goals
    apply Controller.Holding.signal_waitExited
    case hr => assumption
    case hst => rfl
    case hc => assumption
    all_goals rfl

theorem raceWorkload_calm (trigger : Trigger) :
    ⦃fun s => ⌜Holds none s⌝⦄ raceWorkload trigger
    ⦃⇓? _ s => ⌜Holds none s⌝⦄ := by
  mvcgen [raceWorkload, settleWorkload, startFresh_holds, arm, getWorld, setWorld, getDriver,
    disarmTrigger, deliverKill_calm, finishNaturally_calm, killHandle_calm]
  all_goals dsimp +zetaDelta only [Holds] at *
  -- a trigger disarmed since changes no process
  case' vc3 | vc9 | vc13 | vc19 => refine Controller.HoldingSome.keeps ?_ (keeps_disarm _ _)
  -- the workload ran against the held target
  all_goals
    apply Controller.HoldingSome.of_keeps_from
    case hk => exact World.keeps_runWorkload ‹_›
    case hc => assumption
    case hw => rfl

theorem inspectBaseline_holds (pid : Nat) :
    ⦃fun s => ⌜Holds held s⌝⦄ inspectBaseline pid
    ⦃post⟨fun _ s => ⌜Holds held s⌝, fun _ s => ⌜Holds held s⌝⟩⦄ := by
  mvcgen [inspectBaseline, getWorld, setWorld, getDriver]
  all_goals dsimp +zetaDelta only [Holds] at *
  -- the state is queried on the machine the consistency check left
  case' vc4 | vc5 | vc6 | vc7 =>
    apply Controller.HoldingSome.of_keeps_from
    case hk => exact World.keeps_observableState ‹_›
    case hw => rfl
  -- and the consistency check keeps the processes
  all_goals
    apply Controller.HoldingSome.of_keeps_from
    case hk => exact World.keeps_checkConsistency ‹_›
    case hc => assumption
    case hw => rfl

theorem baseline_calm :
    ⦃fun s => ⌜Holds none s⌝⦄ baseline ⦃⇓? _ s => ⌜Holds none s⌝⦄ := by
  mvcgen [baseline, startFresh_holds, inspectBaseline_holds, stopHandle_calm,
    CrashTest.Campaign.liftWith]

theorem calibrate_calm :
    ⦃fun s => ⌜Holds none s⌝⦄ calibrate ⦃⇓? _ s => ⌜Holds none s⌝⦄ := by
  mvcgen [calibrate, startFresh_holds, stopHandle_calm, killHandle_calm, getWorld, setWorld,
    getDriver, CrashTest.Campaign.liftWith]
  all_goals dsimp +zetaDelta only [Holds] at *
  -- shutdown: the target ended while it was waited for, and is reaped
  case vc6 =>
    apply Controller.Holding.signal_waitExited_done
    case hr => assumption
    case hc => assumption
    all_goals rfl
  -- shutdown that did not end: still held, to be killed
  case vc8 | vc10 =>
    apply Controller.Holding.signal_waitExited
    case hr => assumption
    case hst => rfl
    case hc => assumption
    all_goals rfl
  -- workload: the command kept the processes
  case vc13 =>
    apply Controller.HoldingSome.of_keeps_from (World.keeps_runWorkload rfl)
    case hc => assumption
    case hw => rfl

theorem runIteration_calm (index : Nat) (trigger : Trigger) (expected : Expectation) :
    ⦃fun s => ⌜Holds none s⌝⦄ runIteration index trigger expected
    ⦃⇓? _ s => ⌜Holds none s⌝⦄ := by
  mvcgen -trivial [runIteration, getWorld, setWorld, getDriver, setController, raceStartup_calm,
    raceShutdown_calm, raceWorkload_calm, stopHandle_calm, CrashTest.Campaign.liftWith]
  -- each race starts from a calm controller
  case vc1 | vc5 | vc9 => assumption
  -- the restart holds the target its verdict returns, if any
  case vc2 | vc3 | vc6 | vc7 | vc10 | vc11 =>
    dsimp +zetaDelta only [Holds] at *
    apply Controller.Calm.restartAndVerify <;> assumption
  -- a restart that could not be judged fails the iteration
  case vc4 | vc8 | vc12 => trivial

theorem finish_calm (state : CampaignState) (reason : StopReason) (p : Progress)
    (start : Nat) :
    ⦃fun s => ⌜Holds none s⌝⦄ finish state reason p start ⦃⇓ _ s => ⌜Holds none s⌝⦄ := by
  mvcgen [finish, setState, getWorld, getDriver]

theorem iterate_calm (spec : CampaignSpec) (cancel : CancelFlag) (plan : Plan) (start : Nat) :
    ∀ (index : Nat) (p : Progress),
    ⦃fun s => ⌜Holds none s⌝⦄ iterate spec cancel plan start index p
    ⦃⇓? _ s => ⌜Holds none s⌝⦄ := by
  intro index
  -- strong induction on the iterations the limit still allows, the measure `iterate` recurses on
  induction hn : spec.limits.maxIterations - index using Nat.strong_induction_on
    generalizing index with
  | _ n ih =>
    intro p
    have ihNext : ∀ p' : Progress, index < spec.limits.maxIterations →
        ⦃fun s => ⌜Holds none s⌝⦄ iterate spec cancel plan start (index + 1) p'
        ⦃⇓? _ s => ⌜Holds none s⌝⦄ :=
      fun p' hlt => ih _ (by omega) _ rfl p'
    rw [iterate]
    mvcgen -trivial [elapsedSecs, getWorld, CrashTest.Campaign.liftWith, ihNext,
      runIteration_calm, finish_calm]
    -- each step starts from the calm controller the last one left
    case vc1 | vc3 | vc5 | vc6 | vc8 | vc10 | vc12 => assumption
    case vc2 | vc4 | vc7 | vc9 => exact id
    -- another iteration runs only below the limit
    case vc11 | vc13 => exact fun _ _ => ResourceLimits.lt_of_stopReason?_eq_none ‹_›
    -- a trigger that cannot be planned fails the campaign
    case vc14 => trivial

theorem run_calm (cancel : CancelFlag) :
    ⦃fun s => ⌜Holds none s⌝⦄ run cancel ⦃⇓? _ s => ⌜Holds none s⌝⦄ := by
  mvcgen -trivial [run, getDriver, getWorld, setState, CrashTest.Campaign.liftWith,
    baseline_calm, calibrate_calm, iterate_calm, finish_calm]
  -- moving the campaign's state leaves the controller as it is
  case vc1 | vc3 | vc4 | vc5 | vc6 => assumption
  case vc2 => exact id
  -- a spec that does not validate fails before anything is spawned
  case vc7 => trivial

theorem replay_calm (c : ReproductionCapsule) :
    ⦃fun s => ⌜Holds none s⌝⦄ replay c ⦃⇓? _ s => ⌜Holds none s⌝⦄ := by
  mvcgen -trivial [replay, getDriver, getWorld, setState, CrashTest.Campaign.liftWith,
    runIteration_calm, finish_calm]
  case vc2 | vc3 | vc5 => assumption
  case vc4 | vc6 => exact id
  -- a spec that does not validate, or a capsule that does not fit, fails before anything is spawned
  case vc1 | vc7 => trivial

/-- Every run and every replay of a campaign that returns keeps the controller's discipline: if
each spawn so far found every target spawned before it ended, and every target spawned so far
has ended, as for a controller that has spawned nothing, then the same holds when it returns.
Each spawn of the campaign found every earlier target ended, so no two targets ever ran at once,
and a start that failed, a race that failed and a fresh start that was retried reaped their target
before the next spawn. -/
theorem campaign_reaps_each_target_before_the_next (cancel : CancelFlag)
    (c : ReproductionCapsule) :
    ⦃fun s => ⌜(∀ r ∈ s.1.controller.history, r.liveBefore = []) ∧
        s.1.controller.liveTargets s.2 = []⌝⦄
      run cancel
    ⦃⇓? _ s => ⌜(∀ r ∈ s.1.controller.history, r.liveBefore = []) ∧
        s.1.controller.liveTargets s.2 = []⌝⦄ ∧
    ⦃fun s => ⌜(∀ r ∈ s.1.controller.history, r.liveBefore = []) ∧
        s.1.controller.liveTargets s.2 = []⌝⦄
      replay c
    ⦃⇓? _ s => ⌜(∀ r ∈ s.1.controller.history, r.liveBefore = []) ∧
        s.1.controller.liveTargets s.2 = []⌝⦄ := by
  -- the discipline is `Controller.Calm` spelled out, which every step of a campaign keeps
  constructor
  · mvcgen [run_calm]
    exacts [Controller.calm_iff.2 ‹_›, Controller.calm_iff.1]
  · mvcgen [replay_calm]
    exacts [Controller.calm_iff.2 ‹_›, Controller.calm_iff.1]

end CrashTest.Campaign
