import Mathlib
import CrashTest.Proofs.Campaign.Failures
import CrashTest.Proofs.Campaign.Replay
import CrashTest.Proofs.Verify.Restart
/-!
# The baseline decides what every restart is verified against

Before anything is killed the target is started once and inspected (`inspectBaseline`). Its
consistency is asked first: a probe that could not run fails the campaign, and an inconsistency
makes the baseline unhealthy, even when an expectation is configured. On a consistent target the
configured expectation is the answer; else the state the state probe observes, as a floor for a
counter of a workload campaign; else `any`, when no state command is configured. A state command
that could not run fails the campaign, and never becomes an expectation (`Inspects`).

The answer is then threaded unchanged through the run: it is the result's expectation, every
iteration's restart is verified against it, and a capsule carries it. A campaign cancelled before
its baseline reports the configured expectation, or `any`. An unhealthy baseline ends the run
while it is still idle, after the baseline target has been stopped.
-/
namespace CrashTest.Target

open CrashTest.Os CrashTest.Control

variable {w w' : World} {intr : Interrupt} {outer : Option Nat} {pid : Nat} {e : TargetError}

/-- A probe command that could not run failed, could not start or timed out: it is never reported
as unconfigured. -/
theorem runCommand_error_ne_notConfigured {argv : List String} {limit : Option Duration}
    (h : runCommand w intr outer argv pid limit = .done w' (.error e)) (what : String) :
    e ≠ .notConfigured what := by
  rintro rfl
  unfold runCommand at h
  split at h
  · cases h
  · dsimp only at h
    split at h
    · cases h
    · split at h
      · cases h
      · cases h
      · split at h
        · split at h <;> cases h
        · cases h

/-- With no state command, the state is reported as unconfigured. -/
theorem observableState_of_unconfigured (c : ProbeCommands) (hState : c.state = none) :
    observableState c w intr outer pid = .done w (.error (.notConfigured "state")) := by
  rw [observableState, hState]

/-- A configured state command that could not run is never reported as unconfigured. -/
theorem observableState_error_ne_notConfigured {c : ProbeCommands} (hState : c.state ≠ none)
    (h : observableState c w intr outer pid = .done w' (.error e)) (what : String) :
    e ≠ .notConfigured what := by
  unfold observableState at h
  split at h
  · contradiction
  · split at h
    · -- a command that ran and failed is reported as failed
      split at h
      · cases h
      · cases h
        nofun
    · cases h
      exact runCommand_error_ne_notConfigured ‹_› what
    · cases h
    · cases h

end CrashTest.Target

namespace CrashTest.Campaign

open Std.Do CrashTest.Os CrashTest.Control CrashTest.Target

set_option mvcgen.warning false

/-! ### What inspecting the baseline answers -/

/-- What inspecting the target `pid` of a campaign of `spec` on the machine `w` answers, by what
its probes say there. The consistency probe is asked first; on a consistent target the configured
expectation wins over the observed state, and the observed state over `any`. -/
inductive Inspects (spec : CampaignSpec) (w : World) (pid : Nat) :
    Except HarnessError Expectation → Prop
  /-- The consistency probe could not run. -/
  | unchecked {w' : World} {e : TargetError} :
      checkConsistency spec.probes w .never none pid = .done w' (.error e) →
      Inspects spec w pid (.error (.target e))
  /-- The target is inconsistent, whatever is configured. -/
  | inconsistent {w' : World} {reason : String} :
      checkConsistency spec.probes w .never none pid = .done w' (.ok (.inconsistent reason)) →
      Inspects spec w pid (.error (.unhealthyBaseline reason))
  | configured {w' : World} {e : Expectation} :
      checkConsistency spec.probes w .never none pid = .done w' (.ok .consistent) →
      spec.expected = some e → Inspects spec w pid (.ok e)
  /-- The observed state, as a floor for a counter of a workload campaign. -/
  | observed {w' w'' : World} {s : StateSnapshot} :
      checkConsistency spec.probes w .never none pid = .done w' (.ok .consistent) →
      spec.expected = none → observableState spec.probes w' .never none pid = .done w'' (.ok s) →
      Inspects spec w pid (.ok (.fromBaseline s (spec.operation == .workload)))
  | unobservable {w' : World} :
      checkConsistency spec.probes w .never none pid = .done w' (.ok .consistent) →
      spec.expected = none → spec.probes.state = none → Inspects spec w pid (.ok .any)
  /-- The configured state command could not run. -/
  | unobserved {w' w'' : World} {e : TargetError} :
      checkConsistency spec.probes w .never none pid = .done w' (.ok .consistent) →
      spec.expected = none → spec.probes.state ≠ none →
      observableState spec.probes w' .never none pid = .done w'' (.error e) →
      Inspects spec w pid (.error (.target e))

namespace Inspects

variable {spec : CampaignSpec} {w : World} {pid : Nat} {r : Except HarnessError Expectation}

/-- The baseline is unhealthy exactly when its consistency probe finds it inconsistent. -/
theorem unhealthy_iff (h : Inspects spec w pid r) (reason : String) :
    r = .error (.unhealthyBaseline reason) ↔
      ∃ w', checkConsistency spec.probes w .never none pid = .done w' (.ok (.inconsistent reason)) := by
  constructor
  · intro hr
    cases h with
    | inconsistent hc =>
      cases hr
      exact ⟨_, hc⟩
    | _ => cases hr
  · rintro ⟨w', hc⟩
    cases h with
    | inconsistent hc' =>
      rw [hc] at hc'
      cases hc'
      rfl
    | unchecked hc' | configured hc' | observed hc' | unobservable hc' | unobserved hc' =>
      rw [hc] at hc'
      cases hc'

/-- Inspecting a target answers one thing: its probes decide it. -/
theorem unique {r' : Except HarnessError Expectation} (h : Inspects spec w pid r)
    (h' : Inspects spec w pid r') : r = r' := by
  cases h <;> cases h' <;> simp_all [observableState_of_unconfigured]

/-- A baseline that passes was found consistent, and answers the configured expectation, or else
the state observed on it, or else `any` when no state command is configured. -/
theorem of_ok {e : Expectation} (h : Inspects spec w pid (.ok e)) :
    ∃ w', checkConsistency spec.probes w .never none pid = .done w' (.ok .consistent) ∧
      (spec.expected = some e ∨ spec.expected = none ∧
        ((∃ w'' s, observableState spec.probes w' .never none pid = .done w'' (.ok s) ∧
            e = .fromBaseline s (spec.operation == .workload)) ∨
          (spec.probes.state = none ∧ e = .any))) := by
  -- the answer is generalized so that inverting `h` does not unfold `fromBaseline`
  generalize hr : (Except.ok e : Except HarnessError Expectation) = r at h
  cases h with
  | configured hc hConfigured =>
    rw [Except.ok.inj hr]
    exact ⟨_, hc, .inl hConfigured⟩
  | observed hc hNone hs => exact ⟨_, hc, .inr ⟨hNone, .inl ⟨_, _, hs, Except.ok.inj hr⟩⟩⟩
  | unobservable hc hNone hState => exact ⟨_, hc, .inr ⟨hNone, .inr ⟨hState, Except.ok.inj hr⟩⟩⟩
  | unchecked | inconsistent | unobserved => cases hr

/-- A baseline that passes answers the configured expectation when there is one. -/
theorem eq_of_configured {e e' : Expectation} (h : Inspects spec w pid (.ok e))
    (hExpected : spec.expected = some e') : e = e' := by
  obtain ⟨_, _, hConfigured | ⟨hNone, _⟩⟩ := h.of_ok
  · rw [hConfigured] at hExpected
    exact Option.some.inj hExpected
  · rw [hNone] at hExpected
    cases hExpected

/-- With no configured expectation, a baseline that passes answers the state observed on it, as a
floor for a counter of a workload campaign, or `any` when no state command is configured. -/
theorem of_unconfigured {e : Expectation} (h : Inspects spec w pid (.ok e))
    (hExpected : spec.expected = none) :
    (∃ w' w'' s, checkConsistency spec.probes w .never none pid = .done w' (.ok .consistent) ∧
        observableState spec.probes w' .never none pid = .done w'' (.ok s) ∧
        e = .fromBaseline s (spec.operation == .workload)) ∨
      (spec.probes.state = none ∧ e = .any) := by
  obtain ⟨w', hc, hConfigured | ⟨_, ⟨w'', s, hs, he⟩ | hAny⟩⟩ := h.of_ok
  · rw [hConfigured] at hExpected
    cases hExpected
  · exact .inl ⟨w', w'', s, hc, hs, he⟩
  · exact .inr hAny

end Inspects

/-- A triple that holds for each value of a ghost read off the starting state holds with that
ghost hidden: its postcondition then says that some value of the ghost answers. -/
theorem triple_exists_of_ghost {α β : Type} {x : CampaignM α} {P : CampaignDriver × World → Prop}
    (ghost : CampaignDriver × World → β) {Q : β → α → CampaignDriver × World → Prop}
    {E : β → HarnessError → CampaignDriver × World → Prop}
    (h : ∀ b, ⦃fun s => ⌜P s ∧ ghost s = b⌝⦄ x
      ⦃post⟨fun a s => ⌜Q b a s⌝, fun e s => ⌜E b e s⌝⟩⦄) :
    ⦃fun s => ⌜P s⌝⦄ x ⦃post⟨fun a s => ⌜∃ b, Q b a s⌝, fun e s => ⌜∃ b, E b e s⌝⟩⦄ := by
  intro s hs
  have hwp := h (ghost s) s ⟨hs, rfl⟩
  simp only [WP.wp, PredTrans.apply_pushExcept, PredTrans.apply_pushArg] at hwp ⊢
  revert hwp
  rcases StateT.run (ExceptT.run x) s with ⟨_ | _, s'⟩
  · exact fun hFailed => ⟨_, hFailed⟩
  · exact fun hAnswered => ⟨_, hAnswered⟩

/-- Inspecting the baseline target `pid` on the machine `w` answers what its probes decide there. -/
theorem inspectBaseline_inspects (spec : CampaignSpec) (w : World) (pid : Nat) :
    ⦃fun s => ⌜s.1.spec = spec ∧ s.2 = w⌝⦄ inspectBaseline pid
    ⦃post⟨fun e _ => ⌜Inspects spec w pid (.ok e)⌝,
      fun err _ => ⌜Inspects spec w pid (.error err)⌝⟩⦄ := by
  unfold inspectBaseline
  mvcgen [getDriver, getWorld, setWorld]
  -- every goal starts from a driver of `spec` on `w`
  case vc5 hUnconfigured _ =>
    obtain ⟨rfl, rfl⟩ := ‹_ ∧ _›
    -- only a missing state command is reported as unconfigured
    refine .unobservable ‹_› ‹_› (not_not.1 fun hState => ?_)
    exact observableState_error_ne_notConfigured hState hUnconfigured _ rfl
  case vc6 hConfigured hError _ =>
    obtain ⟨rfl, rfl⟩ := ‹_ ∧ _›
    refine .unobserved ‹_› ‹_› (fun hState => ?_) hError
    rw [observableState_of_unconfigured _ hState] at hError
    cases hError
    exact hConfigured _ rfl
  -- a query that is never cut short and has no deadline is done
  case vc7 r hOk hUnconfigured hError hr _ =>
    obtain ⟨w', res, rfl⟩ : ∃ w' res, r = .done w' res :=
      hr ▸ observableState_never_done _ _ pid
    rcases res with e | s
    · exact (hError w' e rfl).elim
    · exact (hOk w' s rfl).elim
  case vc8 r hError hInconsistent hConsistent hr _ =>
    obtain ⟨w', res, rfl⟩ : ∃ w' res, r = .done w' res :=
      hr ▸ checkConsistency_never_done _ _ pid
    rcases res with e | _ | reason
    · exact (hError w' e rfl).elim
    · exact (hConsistent w' rfl).elim
    · exact (hInconsistent w' reason rfl).elim
  all_goals obtain ⟨rfl, rfl⟩ := ‹_ ∧ _›
  case vc1 => exact .unchecked ‹_›
  case vc2 => exact .inconsistent ‹_›
  case vc3 => exact .configured ‹_› ‹_›
  case vc4 => exact .observed ‹_› ‹_› ‹_›

/-- Inspecting the baseline answers what the probes decide on the machine it ran on. -/
theorem inspectBaseline_inspects_there (spec : CampaignSpec) (pid : Nat) :
    ⦃fun s => ⌜s.1.spec = spec⌝⦄ inspectBaseline pid
    ⦃post⟨fun e _ => ⌜∃ w, Inspects spec w pid (.ok e)⌝,
      fun err _ => ⌜∃ w, Inspects spec w pid (.error err)⌝⟩⦄ :=
  triple_exists_of_ghost (·.2) (@inspectBaseline_inspects spec · pid)

/-- The baseline answers what inspecting its target decides, and stops the target whatever the
inspection found: a baseline found unhealthy leaves the controller calm. -/
theorem baseline_inspects (state : CampaignState) (spec : CampaignSpec) :
    ⦃fun s => ⌜DriverAt state spec s ∧ Holds none s⌝⦄ baseline
    ⦃post⟨fun e s => ⌜Holds none s ∧ ∃ w pid, Inspects spec w pid (.ok e)⌝,
      fun err s => ⌜(∃ reason, err = .unhealthyBaseline reason) →
        Holds none s ∧ ∃ w pid, Inspects spec w pid (.error err)⌝⟩⦄ := by
  have hStart := Triple.and _ (Triple.and _ (@startFresh_spec state spec) startFresh_holds)
    startFresh_fails_operationally
  have hInspect := fun (h : Handle) =>
    Triple.and _ (@inspectBaseline_inspects_there spec h.pid) (@inspectBaseline_holds (some h) h.pid)
  have hStop := fun h => Triple.and _ (@stopHandle_calm h) (@stopHandle_returns h)
  unfold baseline
  mvcgen [hStart, hInspect, hStop, CrashTest.Campaign.liftWith, -startFresh_spec,
    -inspectBaseline_spec, -stopHandle_spec]
  -- the inspection runs on the target just started, and the stop makes the controller calm
  case vc2 =>
    have hStarted := ‹DriverAt state spec _ ∧ Holds (some _) _›
    exact ⟨hStarted.1.spec_eq, hStarted.2⟩
  case vc3 => exact ‹(∃ _, _) ∧ _›.2
  case vc4 =>
    obtain ⟨w, hw⟩ := ‹(∃ _, _) ∧ _›.1
    exact ⟨‹Holds none _›, w, _, hw⟩
  case vc6 hInspected _ => exact hInspected.2
  case vc7 hInspected _ _ _ hStopped =>
    obtain ⟨w, hw⟩ := hInspected.1
    exact fun _ => ⟨hStopped, w, _, hw⟩
  -- stopping never fails, and a start fails only operationally
  case vc5 | vc8 => exact fun hFailed => hFailed.2.elim
  case vc9 =>
    intro hFailed hUnhealthy
    obtain ⟨reason, rfl⟩ := hUnhealthy
    have hOperational : (HarnessError.unhealthyBaseline reason).isOperational = true := hFailed.2
    cases hOperational

/-! ### The expectation is kept through the run -/

/-- Every restart among `iterations` of a campaign of `spec` was verified against `expected`, and
a capsule, if there is one, carries `expected`. -/
structure KeepsExpected (spec : CampaignSpec) (expected : Expectation) (iterations : List Iteration)
    (capsule : Option ReproductionCapsule) : Prop where
  verified : ∀ i ∈ iterations, i.RecordsRace spec i.index i.trigger expected
  capsule_expected : ∀ c, capsule = some c → c.expected = expected

namespace KeepsExpected

variable {spec : CampaignSpec} {expected : Expectation} {iterations : List Iteration}
  {capsule : Option ReproductionCapsule}

theorem nil : KeepsExpected spec expected [] none :=
  ⟨nofun, nofun⟩

theorem push (h : KeepsExpected spec expected iterations capsule) {i : Iteration} {index : Nat}
    {trigger : Trigger} (hi : i.RecordsRace spec index trigger expected) :
    KeepsExpected spec expected (iterations ++ [i]) capsule := by
  refine ⟨fun i' hi' => ?_, h.capsule_expected⟩
  rcases List.mem_append.1 hi' with hOld | hNew
  · exact h.verified i' hOld
  · rw [List.mem_singleton.1 hNew, hi.index_eq, hi.trigger_eq]
    exact hi

/-- The capsule of a corruption carries the expectation it was found against. -/
theorem withCapsule (h : KeepsExpected spec expected iterations capsule) (i : Iteration)
    (reason : String) :
    KeepsExpected spec expected iterations (some (capsuleOf spec expected i reason)) :=
  ⟨h.verified, fun _ hc => by cases hc; rfl⟩

/-- A result that reports progress keeping its expectation keeps it too. -/
theorem of_reports {r : CampaignResult} {name : String} {state : CampaignState}
    {reason : StopReason} {p : Progress} (hr : r.Reports name state reason p)
    (hp : KeepsExpected spec p.expected p.iterations p.capsule) :
    r.expected = p.expected ∧ KeepsExpected spec r.expected r.iterations r.capsule := by
  rw [hr.expected_eq, hr.iterations_eq, hr.capsule_eq]
  exact ⟨rfl, hp⟩

end KeepsExpected

/-- Iterating verifies every restart against the expectation of the progress it starts from, and
returns that expectation; an error leaves the driver iterating. -/
theorem iterate_keepsExpected (spec : CampaignSpec) (cancel : CancelFlag) (plan : Plan)
    (start : Nat) :
    ∀ (index : Nat) (p : Progress), KeepsExpected spec p.expected p.iterations p.capsule →
    ⦃fun s => ⌜DriverAt .iterating spec s⌝⦄
    iterate spec cancel plan start index p
    ⦃post⟨fun r _ => ⌜r.expected = p.expected ∧ KeepsExpected spec r.expected r.iterations r.capsule⌝,
      fun _ s => ⌜DriverAt .iterating spec s⌝⟩⦄ := by
  intro index
  -- strong induction on the iterations the limit still allows, the measure `iterate` recurses on
  induction hn : spec.limits.maxIterations - index using Nat.strong_induction_on
    generalizing index with
  | _ n ih =>
    intro p hp
    have ihNext : ∀ p' : Progress, index < spec.limits.maxIterations ∧ p'.expected = p.expected ∧
        KeepsExpected spec p.expected p'.iterations p'.capsule →
        ⦃fun s => ⌜DriverAt .iterating spec s⌝⦄ iterate spec cancel plan start (index + 1) p'
        ⦃post⟨fun r _ => ⌜r.expected = p.expected ∧
            KeepsExpected spec r.expected r.iterations r.capsule⌝,
          fun _ s => ⌜DriverAt .iterating spec s⌝⟩⦄ := by
      rintro p' ⟨hlt, hExpected, hp'⟩
      rw [← hExpected] at hp' ⊢
      exact ih _ (by omega) _ rfl p' hp'
    have hIteration := fun index trigger expected =>
      Triple.and _ (@runIteration_recordsRace .iterating spec index trigger expected)
        (@runIteration_spec .iterating spec index trigger expected)
    have hFinish := fun state => @finish_spec state spec .iterating
    rw [iterate]
    mvcgen [elapsedSecs, getWorld, CrashTest.Campaign.liftWith, ihNext, hIteration, hFinish]
    -- each finish reports the progress as it stands, with the iteration just run pushed
    case vc2 | vc4 => exact fun hr _ => KeepsExpected.of_reports hr hp
    case vc7 =>
      have hi := ‹(Iteration.RecordsRace _ _ _ _ _ ∧ _) ∧ _›.1.1
      intro hr _
      have hKeeps := KeepsExpected.of_reports hr ((hp.push hi).withCapsule _ _)
      exact hKeeps
    case vc9 =>
      have hi := ‹(Iteration.RecordsRace _ _ _ _ _ ∧ _) ∧ _›.1.1
      intro hr _
      have hKeeps := KeepsExpected.of_reports hr (hp.push hi)
      exact hKeeps
    case vc11 | vc13 =>
      intro _ hi _ _ _ _
      exact ⟨ResourceLimits.lt_of_stopReason?_eq_none ‹_›, rfl, hp.push hi⟩
    case vc6 | vc8 | vc10 | vc12 => exact ‹(_ ∧ DriverAt .iterating spec _) ∧ _›.1.2
    case vc14 => exact fun hFailed => hFailed.2.1

/-- A run verifies every restart against the expectation it reports: the configured one, or `any`,
when the operator cancelled before the baseline, and otherwise what inspecting the baseline
answered. A baseline found unhealthy fails the run, while the driver is idle, with the controller
calm and as its inspection answered. -/
theorem run_keepsExpected (cancel : CancelFlag) (spec : CampaignSpec) :
    ⦃fun s => ⌜s.1.spec = spec ∧ Holds none s⌝⦄ run cancel
    ⦃post⟨fun r _ => ⌜(cancel.seen 0 = true → r.expected = spec.expected.getD .any) ∧
        (cancel.seen 0 = false → ∃ w pid, Inspects spec w pid (.ok r.expected)) ∧
        KeepsExpected spec r.expected r.iterations r.capsule⌝,
      fun e s => ⌜(∃ reason, e = .unhealthyBaseline reason) → s.1.state = .idle →
        Holds none s ∧ ∃ w pid, Inspects spec w pid (.error e)⌝⟩⦄ := by
  have hBaseline := Triple.and _ (@baseline_spec .idle spec) (@baseline_inspects .idle spec)
  have hCalibrate := @calibrate_spec .calibrating spec
  have hFinish := fun state => @finish_spec state spec .idle
  mvcgen -trivial [run, getDriver, getWorld, setState, CrashTest.Campaign.liftWith,
    hBaseline, hCalibrate, iterate_keepsExpected, hFinish]
  -- the driver runs the campaign it was given throughout
  all_goals obtain ⟨rfl, hCalm⟩ := ‹_ = spec ∧ Holds none _›
  case vc1 => exact ⟨rfl, rfl⟩
  case vc3 => exact ⟨⟨rfl, rfl⟩, ⟨rfl, rfl⟩, hCalm⟩
  case vc5 | vc8 =>
    have hBaselined := ‹DriverAt .idle _ _ ∧ Holds none _ ∧ _›
    exact ⟨rfl, hBaselined.1.spec_eq⟩
  case vc10 =>
    have hCalibrated := ‹_ ∧ DriverAt .calibrating _ _›
    exact ⟨rfl, hCalibrated.2.spec_eq⟩
  case vc2 =>
    -- cancelled before the baseline: the configured expectation, and no iteration ran
    intro hr _
    rw [hr.expected_eq, hr.iterations_eq, hr.capsule_eq]
    exact ⟨fun _ => rfl, fun hLive => absurd ‹cancel.seen 0 = true› (by simp [hLive]), .nil⟩
  case vc4 | vc9 => exact .nil
  case vc6 | vc11 =>
    -- the iterations ran against what the baseline answered
    intro hExpected hKeeps
    have hBaselined := ‹DriverAt .idle _ _ ∧ Holds none _ ∧ _›
    refine ⟨fun hCancelled => absurd hCancelled ‹¬cancel.seen 0 = true›, fun _ => ?_, hKeeps⟩
    rw [hExpected]
    exact hBaselined.2.2
  -- a failure after the baseline comes while the driver calibrates or iterates
  case vc7 | vc12 =>
    intro hd _ hIdle
    rw [hd.state_eq] at hIdle
    cases hIdle
  case vc13 =>
    intro hd _ _ hIdle
    rw [hd.state_eq] at hIdle
    cases hIdle
  case vc14 => exact fun hFailed hUnhealthy _ => hFailed.2 hUnhealthy
  case vc15 =>
    rintro ⟨_, hUnhealthy⟩
    cases hUnhealthy

/-- The baseline decides what every restart is verified against. A run of a campaign of `spec`,
from a calm controller, that returns reports the configured expectation, or `any`, when the
operator cancelled before the baseline, and otherwise what inspecting the baseline target
answered; every restart of the run was verified against that expectation and its capsule carries
it. A run that fails on an unhealthy baseline fails while its driver is still idle, with the
baseline target stopped, as the inspection answered. Inspecting answers by the probes: the
baseline is unhealthy exactly when the consistency probe finds it inconsistent, whatever is
configured; a baseline that passes answers the configured expectation, else the state observed
on it, else `any` when no state command is configured; a probe that could not run fails the
campaign and answers no expectation. -/
theorem baseline_decides_every_verification (cancel : CancelFlag) (spec : CampaignSpec) :
    ⦃fun s => ⌜s.1.spec = spec ∧ Holds none s⌝⦄ run cancel
    ⦃post⟨fun r _ => ⌜(cancel.seen 0 = true → r.expected = spec.expected.getD .any) ∧
        (cancel.seen 0 = false → ∃ w pid, Inspects spec w pid (.ok r.expected)) ∧
        KeepsExpected spec r.expected r.iterations r.capsule⌝,
      fun e s => ⌜∀ reason, e = .unhealthyBaseline reason →
        s.1.state = .idle ∧ Holds none s ∧ ∃ w pid, Inspects spec w pid (.error e)⌝⟩⦄ ∧
    (∀ w pid, ⦃fun s => ⌜s.1.spec = spec ∧ s.2 = w⌝⦄ inspectBaseline pid
      ⦃post⟨fun e _ => ⌜Inspects spec w pid (.ok e)⌝,
        fun err _ => ⌜Inspects spec w pid (.error err)⌝⟩⦄) ∧
    ∀ w pid answer, Inspects spec w pid answer →
      (∀ reason, answer = .error (.unhealthyBaseline reason) ↔
        ∃ w', checkConsistency spec.probes w .never none pid = .done w' (.ok (.inconsistent reason))) ∧
      (∀ e, answer = .ok e → (∀ e', spec.expected = some e' → e = e') ∧
        (spec.expected = none →
          (∃ w' w'' s, checkConsistency spec.probes w .never none pid = .done w' (.ok .consistent) ∧
              observableState spec.probes w' .never none pid = .done w'' (.ok s) ∧
              e = .fromBaseline s (spec.operation == .workload)) ∨
            (spec.probes.state = none ∧ e = .any))) ∧
      (∀ w' err, checkConsistency spec.probes w .never none pid = .done w' (.error err) →
        answer = .error (.target err)) ∧
      (∀ w' w'' err, checkConsistency spec.probes w .never none pid = .done w' (.ok .consistent) →
        spec.expected = none → spec.probes.state ≠ none →
        observableState spec.probes w' .never none pid = .done w'' (.error err) →
        answer = .error (.target err)) := by
  refine ⟨?_, @inspectBaseline_inspects spec, fun w pid answer hInspects =>
    ⟨hInspects.unhealthy_iff, ?_, ?_, ?_⟩⟩
  · -- an unhealthy baseline is a failure of an idle driver
    -- every argument explicit: elaborating the conjunction against its expected type would
    -- otherwise unfold `run`'s weakest precondition
    have hRun :=
      @Triple.and _ _ _ _ _ _ _ _ _ (@run_failures cancel spec) (@run_keepsExpected cancel spec)
    mvcgen [hRun]
    case vc1 => exact ⟨‹_ ∧ _›.1, ‹_ ∧ _›⟩
    case vc2 => exact fun hCancelled hBaselined hKept => ⟨hCancelled, hBaselined, hKept⟩
    case vc3 =>
      intro hFailed reason hReason
      obtain ⟨hFailed, hUnhealthy⟩ := hFailed
      subst hReason
      have hIdle : _ = CampaignState.idle := RunError.idle_of_unhealthy hFailed
      exact ⟨hIdle, hUnhealthy ⟨reason, rfl⟩ hIdle⟩
  · rintro e rfl
    exact ⟨fun _ => hInspects.eq_of_configured, hInspects.of_unconfigured⟩
  · exact fun _ _ hUnchecked => hInspects.unique (.unchecked hUnchecked)
  · exact fun _ _ _ hConsistent hExpected hState hError =>
      hInspects.unique (.unobserved hConsistent hExpected hState hError)

/-- A campaign with no probes and no configured expectation expects anything of its baseline,
and never finds it unhealthy. -/
theorem unprobed_baseline_is_never_unhealthy :
    let spec : CampaignSpec :=
      { name := "store", launch := { program := "server" }, trigger := .eventCount "ready" }
    Inspects spec World.initial 0 (.ok .any) ∧
      ¬ ∃ w', checkConsistency spec.probes World.initial .never none 0 =
        .done w' (.ok (.inconsistent "stale")) := by
  intro spec
  have hInspects : Inspects spec World.initial 0 (.ok .any) := .unobservable rfl rfl rfl
  refine ⟨hInspects, fun hInconsistent => ?_⟩
  have hUnhealthy := (((@baseline_decides_every_verification ⟨fun _ => false⟩ spec).2.2
    World.initial 0 _ hInspects).1 "stale").2 hInconsistent
  cases hUnhealthy

end CrashTest.Campaign
