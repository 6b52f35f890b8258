import Mathlib
import CrashTest.Proofs.Campaign.Run
/-!
What a replay checks before it runs, and what it reports after.

A replay first validates the campaign's configuration, then checks that the capsule fits the
campaign (`ReproductionCapsule.Fits`: same trigger mode, operation and signal); either failure
comes back before any step runs, leaving the driver and the machine as they were. A capsule that
fits is run as the one iteration it records, and the result reports it (`CampaignResult.Replays`).
Every capsule a run returns passes both checks, so a replay of it is never refused.

The step triples are turned into facts about a single run from a given state by `run_of_triple`;
`Answered` names what such a run ended with. Triples are handed to it with `@`: given all its
explicit arguments, Lean would otherwise unfold a triple in search of more, and so run the step.
-/
namespace CrashTest

/-- A capsule fits a campaign when its trigger is of the campaign's trigger mode, and it monitors
the campaign's operation and kills with the campaign's signal. -/
def ReproductionCapsule.Fits (c : ReproductionCapsule) (spec : CampaignSpec) : Prop :=
  c.trigger.isEventCount = spec.trigger.countsEvents ∧ c.operation = spec.operation ∧
    c.signal = spec.signal

/-- How a replay of capsule `c` ends, by its final state, its stop reason, the outcome of its one
iteration and the capsule it reports. -/
inductive ReplayEnding (c : ReproductionCapsule) :
    CampaignState → StopReason → Outcome → Option ReproductionCapsule → Prop
  /-- The restart failed verification again: the capsule is kept with the new reason. -/
  | corrupted (reason : String) :
      ReplayEnding c .corrupted .corruptionFound (.corrupted reason) (some { c with reason := reason })
  /-- The restart passed: the replay is complete, with no capsule. -/
  | clean {o : Outcome} : o.isCorrupted = false → ReplayEnding c .exhausted .replayComplete o none

/-- `r` reports a replay of capsule `c`: one iteration, run with the capsule's index and trigger
and checked against its expectation, ending as `ReplayEnding` says. -/
structure CampaignResult.Replays (r : CampaignResult) (c : ReproductionCapsule) : Prop where
  one_iteration : ∃ i, r.iterations = [i] ∧ i.index = c.iteration ∧ i.trigger = c.trigger ∧
    ReplayEnding c r.state r.stopReason i.outcome r.capsule
  expected_eq : r.expected = c.expected

/-- A result reporting progress with one iteration, run with the capsule's index and trigger and
checked against its expectation, that ended as a replay of the capsule ends, reports the replay. -/
theorem CampaignResult.Reports.replays {r : CampaignResult} {name : String} {state : CampaignState}
    {reason : StopReason} {p : Campaign.Progress} {c : ReproductionCapsule} {i : Iteration}
    (hr : r.Reports name state reason p) (hIterations : p.iterations = [i])
    (hExpected : p.expected = c.expected) (hIndex : i.index = c.iteration)
    (hTrigger : i.trigger = c.trigger) (hEnding : ReplayEnding c state reason i.outcome p.capsule) :
    r.Replays c where
  one_iteration := by
    refine ⟨i, hr.iterations_eq.trans hIterations, hIndex, hTrigger, ?_⟩
    rw [hr.state_eq, hr.stopReason_eq, hr.capsule_eq]
    exact hEnding
  expected_eq := hr.expected_eq.trans hExpected

/-- The trigger of an iteration of a campaign counts events exactly when the campaign does. -/
theorem CampaignSpec.TriggerAt.isEventCount_eq {spec : CampaignSpec}
    {calibration : Option Calibration} {k : Nat} {t : Trigger}
    (h : spec.TriggerAt calibration k t) : t.isEventCount = spec.trigger.countsEvents := by
  unfold CampaignSpec.TriggerAt at h
  split at h
  · next hMode =>
    subst h
    simp [hMode, Trigger.isEventCount, TriggerMode.countsEvents]
  · next hMode =>
    obtain ⟨_, -, -, _, -, rfl⟩ := h
    simp [hMode, Trigger.isEventCount, TriggerMode.countsEvents]

/-- The capsule of a campaign whose iterations ran on schedule fits the campaign: it was taken
from the last iteration, whose trigger is of the campaign's mode, with the campaign's operation
and signal. -/
theorem Campaign.Ending.capsule_fits {spec : CampaignSpec} {expected : Expectation}
    {state : CampaignState} {reason : StopReason} {its : List Iteration}
    {capsule : Option ReproductionCapsule} {calibration : Option Calibration}
    (h : Campaign.Ending spec expected state reason its capsule)
    (hSchedule : spec.OnSchedule calibration its) {cap : ReproductionCapsule}
    (hCap : capsule = some cap) : cap.Fits spec := by
  cases h with
  | cancelled | iterationLimit | wallTime | finishedNaturally => cases hCap
  | @corrupted init last _ _ _ =>
    cases hCap
    have hAt := hSchedule.triggerAt init.length (by simp)
    simp only [List.getElem_concat_length] at hAt
    exact ⟨hAt.isEventCount_eq, rfl, rfl⟩

namespace Campaign

open Std.Do CrashTest.Os

set_option mvcgen.warning false

/-- The capsule check finds no mismatch exactly for a capsule that fits the campaign. -/
theorem capsuleMismatch?_eq_none_iff {spec : CampaignSpec} {c : ReproductionCapsule} :
    capsuleMismatch? spec c = none ↔ c.Fits spec := by
  unfold capsuleMismatch? ReproductionCapsule.Fits
  -- the check compares the capsule's trigger kind, then the operation, then the signal
  cases spec.trigger <;> cases c.trigger.isEventCount <;>
    by_cases hOperation : c.operation = spec.operation <;>
    by_cases hSignal : c.signal = spec.signal <;> simp [TriggerMode.countsEvents, hOperation, hSignal]

/-! ### Single runs of a step -/

/-- What a campaign step answered, with the state it left: `ok` of its value when it returned,
`failed` of its error when it failed. An inductive rather than a match, so that Lean never tries
to run the step to decide which case it is in. -/
inductive Answered {α : Type} (ok : α → CampaignDriver × World → Prop)
    (failed : HarnessError → CampaignDriver × World → Prop) :
    Except HarnessError α × (CampaignDriver × World) → Prop
  | ok {a : α} {s : CampaignDriver × World} : ok a s → Answered ok failed (.ok a, s)
  | failed {e : HarnessError} {s : CampaignDriver × World} :
      failed e s → Answered ok failed (.error e, s)

section Answered

variable {α : Type} {ok : α → CampaignDriver × World → Prop}
  {failed : HarnessError → CampaignDriver × World → Prop}
  {p : Except HarnessError α × (CampaignDriver × World)}

theorem Answered.of_ok {a : α} (h : Answered ok failed p) (hp : p.1 = .ok a) : ok a p.2 := by
  cases h with
  | ok h => cases hp; exact h
  | failed => cases hp

theorem Answered.of_error {e : HarnessError} (h : Answered ok failed p) (hp : p.1 = .error e) :
    failed e p.2 := by
  cases h with
  | ok => cases hp
  | failed h => cases hp; exact h

end Answered

/-- What a campaign step run from `s` answers, and the state it leaves, satisfy the postcondition
of every triple the step meets from `s`. -/
theorem run_of_triple {α : Type} {x : CampaignM α} {P : CampaignDriver × World → Prop}
    {Q : α → CampaignDriver × World → Prop} {E : HarnessError → CampaignDriver × World → Prop}
    (h : ⦃fun s => ⌜P s⌝⦄ x ⦃post⟨fun a s => ⌜Q a s⌝, fun e s => ⌜E e s⌝⟩⦄)
    {s : CampaignDriver × World} (hs : P s) : Answered Q E (x.run.run s) := by
  have hwp := h s hs
  simp only [WP.wp, PredTrans.apply_pushExcept, PredTrans.apply_pushArg] at hwp
  revert hwp
  rcases StateT.run (ExceptT.run x) s with ⟨_ | _, s'⟩
  · exact .failed
  · exact .ok

/-- A step that, run from `s`, can only fail with `err` and leave `s` as it was, does so. -/
theorem run_eq_of_rejects {α : Type} {x : CampaignM α} {s : CampaignDriver × World}
    {err : HarnessError}
    (h : ⦃fun s' => ⌜s' = s⌝⦄ x ⦃post⟨fun _ _ => ⌜False⌝, fun e s' => ⌜e = err ∧ s' = s⌝⟩⦄) :
    x.run.run s = (.error err, s) := by
  have hRun := run_of_triple h rfl
  rcases hResult : x.run.run s with ⟨e | a, s'⟩
  · have hFailed := hRun.of_error (congrArg Prod.fst hResult)
    rw [hResult] at hFailed
    obtain ⟨rfl, rfl⟩ : e = err ∧ s' = s := hFailed
    rfl
  · exact (hRun.of_ok (congrArg Prod.fst hResult)).elim

/-- A replay by a driver whose configuration does not validate fails with that, and touches
nothing. -/
theorem replay_rejects_invalid (c : ReproductionCapsule) (s : CampaignDriver × World)
    {e : ConfigError} (h : s.1.spec.validate = .error e) :
    ⦃fun s' => ⌜s' = s⌝⦄ replay c
    ⦃post⟨fun _ _ => ⌜False⌝, fun e' s' => ⌜e' = .config e ∧ s' = s⌝⟩⦄ := by
  mvcgen -trivial [replay, getDriver, liftWith]
  all_goals simp_all +zetaDelta

/-- A replay of a capsule that does not fit a campaign whose configuration validates fails with
the mismatch, and touches nothing. -/
theorem replay_rejects_misfit (c : ReproductionCapsule) (s : CampaignDriver × World) {m : String}
    (hValid : s.1.spec.validate = .ok ()) (hMismatch : capsuleMismatch? s.1.spec c = some m) :
    ⦃fun s' => ⌜s' = s⌝⦄ replay c
    ⦃post⟨fun _ _ => ⌜False⌝, fun e s' => ⌜e = .capsuleMismatch m ∧ s' = s⌝⟩⦄ := by
  mvcgen -trivial [replay, getDriver, liftWith]
  all_goals simp_all +zetaDelta

/-- A run by a driver whose configuration does not validate fails with that, and touches
nothing. -/
theorem run_rejects_invalid (cancel : CancelFlag) (s : CampaignDriver × World)
    {e : ConfigError} (h : s.1.spec.validate = .error e) :
    ⦃fun s' => ⌜s' = s⌝⦄ run cancel
    ⦃post⟨fun _ _ => ⌜False⌝, fun e' s' => ⌜e' = .config e ∧ s' = s⌝⟩⦄ := by
  mvcgen -trivial [run, getDriver, liftWith]
  all_goals simp_all +zetaDelta

/-- A replay of a capsule that fits a campaign whose configuration validates runs the capsule's
iteration and reports it; it fails only with an error of a step, never a check. -/
theorem replay_spec_of_fits (c : ReproductionCapsule) (before : CampaignState)
    (spec : CampaignSpec) :
    ⦃fun s => ⌜DriverAt before spec s ∧ spec.validate = .ok () ∧ c.Fits spec⌝⦄ replay c
    ⦃post⟨fun r _ => ⌜r.Replays c⌝, fun e _ => ⌜e.isCheck = false⌝⟩⦄ := by
  have hIteration := runIteration_spec .iterating spec
  have hFinish := fun state => finish_spec state spec .iterating
  mvcgen -trivial [replay, getDriver, getWorld, setState, liftWith, hIteration, hFinish]
  case vc4 =>
    rename_i i _ reason hOutcome _ hi _ _
    intro hr _
    exact hr.replays rfl rfl hi.1 hi.2.1 (hOutcome ▸ .corrupted reason)
  case vc6 =>
    rename_i i _ o hClean hOutcome _ hi _ _
    intro hr _
    have hNotCorrupted : o.isCorrupted = false := by
      cases o with
      | corrupted reason => exact absurd rfl (hClean reason)
      | aborted | finishedNaturally => rfl
    exact hr.replays rfl rfl hi.1 hi.2.1 (hOutcome ▸ .clean hNotCorrupted)
  case vc3 | vc5 => exact ‹_ ∧ _ ∧ DriverAt .iterating spec _›.2.2
  case vc7 => exact fun _ h => h
  all_goals simp_all +zetaDelta [driverAt_iff, ← capsuleMismatch?_eq_none_iff]

/-- A replay of a capsule that fits a campaign whose configuration validates reports the capsule's
iteration if it returns, and fails with no check if it fails. -/
theorem replay_run_of_fits (c : ReproductionCapsule) (s : CampaignDriver × World)
    (hValid : s.1.spec.validate = .ok ()) (hFits : c.Fits s.1.spec) :
    Answered (fun r _ => r.Replays c) (fun e _ => e.isCheck = false) ((replay c).run.run s) :=
  run_of_triple (@replay_spec_of_fits c s.1.state s.1.spec) ⟨⟨rfl, rfl⟩, hValid, hFits⟩

/-- A run returns only for a driver whose configuration validates. -/
theorem validate_of_run_ok {cancel : CancelFlag} {s : CampaignDriver × World} {r : CampaignResult}
    (hRun : ((run cancel).run.run s).1 = .ok r) : s.1.spec.validate = .ok () := by
  cases hValid : s.1.spec.validate with
  | ok u => rfl
  | error e =>
    rw [run_eq_of_rejects (@run_rejects_invalid cancel s e hValid)] at hRun
    cases hRun

/-- Every capsule a run returns fits the campaign. -/
theorem capsule_fits_of_run_ok {cancel : CancelFlag} {s : CampaignDriver × World}
    {r : CampaignResult} {cap : ReproductionCapsule} (hRun : ((run cancel).run.run s).1 = .ok r)
    (hCap : r.capsule = some cap) : cap.Fits s.1.spec := by
  have hAnswered := run_of_triple (@run_spec cancel s.1.state s.1.spec)
    (show DriverAt s.1.state s.1.spec s from ⟨rfl, rfl⟩)
  have hAnswers := (hAnswered.of_ok hRun).2
  exact hAnswers.ending.capsule_fits hAnswers.onSchedule hCap

/-- A replay by a driver whose configuration does not validate fails with the configuration's
error, before anything runs. -/
theorem replay_run_of_invalid (c : ReproductionCapsule) (s : CampaignDriver × World)
    {e : ConfigError} (h : s.1.spec.validate = .error e) :
    (replay c).run.run s = (.error (.config e), s) :=
  run_eq_of_rejects (@replay_rejects_invalid c s e h)

/-- A replay of a capsule that does not fit a campaign whose configuration validates fails with a
capsule mismatch, before anything runs. -/
theorem replay_run_of_misfit (c : ReproductionCapsule) (s : CampaignDriver × World)
    (hValid : s.1.spec.validate = .ok ()) (hMisfit : ¬ c.Fits s.1.spec) :
    ∃ m, (replay c).run.run s = (.error (.capsuleMismatch m), s) := by
  obtain ⟨m, hMismatch⟩ := Option.ne_none_iff_exists'.1
    (mt capsuleMismatch?_eq_none_iff.1 hMisfit)
  exact ⟨m, run_eq_of_rejects (@replay_rejects_misfit c s m hValid hMismatch)⟩

/-- A replay returns only once both checks passed, and then reports the capsule's iteration. -/
theorem replays_of_replay_ok {c : ReproductionCapsule} {s : CampaignDriver × World}
    {r : CampaignResult} (hr : ((replay c).run.run s).1 = .ok r) : r.Replays c := by
  cases hValid : s.1.spec.validate with
  | error e =>
    rw [replay_run_of_invalid c s hValid] at hr
    cases hr
  | ok u =>
    by_cases hFits : c.Fits s.1.spec
    · exact (replay_run_of_fits c s hValid hFits).of_ok hr
    · obtain ⟨m, hm⟩ := replay_run_of_misfit c s hValid hFits
      rw [hm] at hr
      cases hr

/-- A replay checks the campaign's configuration, then the capsule, before it touches anything. A
campaign that does not validate answers its configuration error; one that does answers a capsule
mismatch exactly when the capsule does not fit it. Either failure leaves the driver and the
machine as they were: no process is spawned and the driver's state does not move. A replay that
returns reports the capsule's one iteration. Every capsule a run of the campaign returns passes
both checks. -/
theorem replay_checks_then_replays (c : ReproductionCapsule) (s : CampaignDriver × World) :
    (∀ e, s.1.spec.validate = .error e → (replay c).run.run s = (.error (.config e), s)) ∧
    (s.1.spec.validate = .ok () →
      ((∃ m, ((replay c).run.run s).1 = .error (.capsuleMismatch m)) ↔ ¬ c.Fits s.1.spec) ∧
      (¬ c.Fits s.1.spec → ∃ m, (replay c).run.run s = (.error (.capsuleMismatch m), s))) ∧
    (∀ r, ((replay c).run.run s).1 = .ok r → r.Replays c) ∧
    (∀ cancel r cap, ((run cancel).run.run s).1 = .ok r → r.capsule = some cap →
      s.1.spec.validate = .ok () ∧ cap.Fits s.1.spec) := by
  refine ⟨fun e h => replay_run_of_invalid c s h,
    fun hValid => ⟨⟨?_, ?_⟩, replay_run_of_misfit c s hValid⟩, fun r => replays_of_replay_ok,
    fun cancel r cap hRun hCap => ⟨validate_of_run_ok hRun, capsule_fits_of_run_ok hRun hCap⟩⟩
  · -- a capsule that fits lets the replay run, and no step of it fails as a check
    rintro ⟨m, hm⟩ hFits
    have hNoCheck := (replay_run_of_fits c s hValid hFits).of_error hm
    simp [HarnessError.isCheck] at hNoCheck
  · intro hMisfit
    obtain ⟨m, hm⟩ := replay_run_of_misfit c s hValid hMisfit
    exact ⟨m, by rw [hm]⟩

end Campaign
end CrashTest
