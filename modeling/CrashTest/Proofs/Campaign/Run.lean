import Mathlib
import CrashTest.Proofs.Campaign.Results
/-!
What a whole campaign does: the runs and replays of a driver.

`iterate` keeps its progress on the plan (`Progress.OnPlan`) from one iteration to the next, and
whichever of its five exits it takes, the result it returns answers the campaign
(`iterate_spec`); the induction is on the iterations the limit still allows. `run` validates the
spec, reads the cancel flag, measures the baseline, calibrates a campaign that samples offsets and
iterates (`run_spec`). Its state moves only along `RunMove` from `idle`; an error leaves the state
it found when the spec does not validate, and otherwise a state that is not terminal. `replay`
runs the one iteration a capsule records and ends exhausted or corrupted (`replay_spec`).

The theorems at the end read off what a returned result says: its iterations ran on schedule, it
ended in one of five ways, the driver's state followed the campaign's lifecycle, and its analytics
recorded each iteration once.
-/
namespace CrashTest.Campaign

open Std.Do CrashTest.Os

set_option mvcgen.warning false

variable {spec : CampaignSpec} {r : CampaignResult}

/-! ### Iterating -/

/-- A result that reports a campaign's progress at an ending that answers the campaign, returned
by a driver in the state it reports. -/
theorem answers_of_finish {s : CampaignDriver × World} {state : CampaignState}
    {reason : StopReason} {p : Progress}
    (hAnswers : r.Reports spec.name state reason p → r.Answers spec) :
    r.Reports spec.name state reason p → DriverAt state spec s →
      DriverAt r.state spec s ∧ r.Answers spec :=
  fun hr hd => ⟨hr.state_eq ▸ hd, hAnswers hr⟩

/-- From progress on the plan before iteration `index + 1`, iterating returns a result that
answers the campaign, in the state it reports; an error leaves the driver iterating. -/
theorem iterate_spec (spec : CampaignSpec) (cancel : CancelFlag) (plan : Plan) (start : Nat) :
    ∀ (index : Nat) (p : Progress), p.iterations.length = index → p.OnPlan spec plan →
    ⦃fun s => ⌜DriverAt .iterating spec s⌝⦄
    iterate spec cancel plan start index p
    ⦃post⟨fun r s => ⌜DriverAt r.state spec s ∧ r.Answers spec⌝,
      fun _ s => ⌜DriverAt .iterating spec s⌝⟩⦄ := by
  intro index
  -- strong induction on the iterations the limit still allows, the measure `iterate` recurses on
  induction hn : spec.limits.maxIterations - index using Nat.strong_induction_on
    generalizing index with
  | _ n ih =>
    intro p hlen hp
    have ihNext : ∀ p' : Progress, index < spec.limits.maxIterations ∧
        p'.iterations.length = index + 1 ∧ p'.OnPlan spec plan →
        ⦃fun s => ⌜DriverAt .iterating spec s⌝⦄ iterate spec cancel plan start (index + 1) p'
        ⦃post⟨fun r s => ⌜DriverAt r.state spec s ∧ r.Answers spec⌝,
          fun _ s => ⌜DriverAt .iterating spec s⌝⟩⦄ :=
      fun p' ⟨hlt, hlen', hp'⟩ => ih _ (by omega) _ rfl p' hlen' hp'
    have hIteration := runIteration_spec .iterating spec
    have hFinish := fun state => finish_spec state spec .iterating
    rw [iterate]
    mvcgen [elapsedSecs, getWorld, CrashTest.Campaign.liftWith, ihNext, hIteration, hFinish]
    case vc2 => exact answers_of_finish (hp.answers · (.cancelled hp.goesOn))
    case vc4 hStop _ _ =>
      exact answers_of_finish (hp.answers · (hp.ending_of_stopReason hlen hStop))
    case vc6 | vc8 | vc10 | vc12 => exact ‹_ ∧ _ ∧ DriverAt .iterating spec _›.2.2
    case vc7 hStop _ hTrigger i _ _ hCorrupted _ hi _ _ =>
      exact answers_of_finish
        (hp.answers_corrupted (hp.onSchedule_push hlen hStop hi.1 (hi.2.1 ▸ hTrigger)) hCorrupted)
    case vc9 hStop _ hTrigger i _ hFinished hCounts _ hi _ _ =>
      exact answers_of_finish (hp.answers_finishedNaturally
        (hp.onSchedule_push hlen hStop hi.1 (hi.2.1 ▸ hTrigger)) hCounts hFinished)
    case vc11 hStop _ hTrigger _ _ hFinished hCounts =>
      -- the operation completed first, which lets only a campaign that samples offsets go on
      intro _ hIndex hT _
      have hOffset : spec.trigger.countsEvents = false := by
        rw [← hp.fits.countsEvents_eq]
        simpa using hCounts
      exact hp.next hlen hStop hIndex (hT ▸ hTrigger) (.inr ⟨hFinished, hOffset⟩)
    case vc13 hStop _ hTrigger _ _ hAborted =>
      intro _ hIndex hT _
      exact hp.next hlen hStop hIndex (hT ▸ hTrigger) (.inl hAborted)
    case vc14 => exact fun hd _ => hd

/-! ### The lifecycle of a run -/

/-- The moves of a driver's state within a run of a campaign of `spec`: from `idle` it calibrates
when the campaign samples offsets and then iterates, or iterates at once when it counts events, or
stops when the operator cancelled before the baseline; iterating ends in a terminal state. -/
inductive RunMove (spec : CampaignSpec) : CampaignState → CampaignState → Prop
  | calibrate : spec.trigger = .timeOffset → RunMove spec .idle .calibrating
  | iterateAfterCalibration : RunMove spec .calibrating .iterating
  | iterateAtOnce (eventName : String) : spec.trigger = .eventCount eventName →
      RunMove spec .idle .iterating
  | cancelBeforeBaseline : RunMove spec .idle .abortedByOperator
  | finish {state : CampaignState} : state.isTerminal = true → RunMove spec .iterating state

theorem RunMove.reaches_iterating (spec : CampaignSpec) :
    Relation.ReflTransGen (RunMove spec) .idle .iterating := by
  cases hMode : spec.trigger with
  | eventCount eventName => exact .single (.iterateAtOnce eventName hMode)
  | timeOffset => exact .head (.calibrate hMode) (.single .iterateAfterCalibration)

theorem RunMove.reaches_terminal (spec : CampaignSpec) {state : CampaignState}
    (h : state.isTerminal = true) : Relation.ReflTransGen (RunMove spec) .idle state :=
  (RunMove.reaches_iterating spec).tail (.finish h)

/-- Where a run of a campaign of `spec` that fails with `e` leaves the driver: in the state
`before` it found, when the spec does not validate, or in a state the run reaches from `idle` that
is not terminal. -/
def RunFailure (before : CampaignState) (spec : CampaignSpec) (e : HarnessError)
    (s : CampaignDriver × World) : Prop :=
  ((∃ e', e = .config e') ∧ DriverAt before spec s) ∨
    ∃ state, DriverAt state spec s ∧ Relation.ReflTransGen (RunMove spec) .idle state ∧
      state.isTerminal = false

theorem RunFailure.of_reaches {before state : CampaignState} {e : HarnessError}
    {s : CampaignDriver × World} (hd : DriverAt state spec s)
    (hReach : Relation.ReflTransGen (RunMove spec) .idle state)
    (hLive : state.isTerminal = false) : RunFailure before spec e s :=
  .inr ⟨state, hd, hReach, hLive⟩

/-- Fresh progress of a campaign that counts events is on the plan that counts its event. -/
theorem Progress.onPlan_count {eventName : String} (hMode : spec.trigger = .eventCount eventName)
    (expected : Expectation) :
    ({ expected := expected } : Progress).OnPlan spec (.count eventName) where
  fits := Plan.fits_count hMode
  onSchedule := CampaignSpec.onSchedule_nil spec none
  goesOn := nofun
  tallied := rfl
  capsule_eq := rfl

/-- Fresh progress of a campaign that samples offsets, told a measured calibration, is on the plan
that draws from its window. -/
theorem Progress.onPlan_offset (hMode : spec.trigger = .timeOffset) {c : Calibration}
    (hc : c.Measured) (expected : Expectation) :
    ({ analytics := { windowNs := some c.windowNs }, expected := expected, calibration := some c } :
      Progress).OnPlan spec (.offset c (.seeded spec.seed)) where
  fits := Plan.fits_offset hMode hc
  onSchedule := CampaignSpec.onSchedule_nil spec _
  goesOn := nofun
  tallied := rfl
  capsule_eq := rfl

/-- A run of a driver of `spec` that returns answers the campaign and leaves the driver in the
state it reports; one that fails leaves it as `RunFailure` says. -/
theorem run_spec (cancel : CancelFlag) (before : CampaignState) (spec : CampaignSpec) :
    ⦃fun s => ⌜DriverAt before spec s⌝⦄ run cancel
    ⦃post⟨fun r s => ⌜DriverAt r.state spec s ∧ r.Answers spec⌝,
      fun e s => ⌜RunFailure before spec e s⌝⟩⦄ := by
  have hBaseline := @baseline_spec .idle spec
  have hCalibrate := @calibrate_spec .calibrating spec
  have hFinish := fun state => finish_spec state spec .idle
  mvcgen -trivial [run, getDriver, getWorld, setState, CrashTest.Campaign.liftWith, iterate_spec,
    hBaseline, hCalibrate, hFinish]
  case vc1 | vc3 =>
    have h0 := ‹DriverAt before spec _›
    exact ⟨rfl, h0.spec_eq⟩
  case vc2 =>
    -- cancelled before the baseline: no iteration ran
    exact answers_of_finish fun hr =>
      hr.answers (CampaignSpec.onSchedule_nil _ _) (Progress.tallied_start _) (.cancelled fun _ hi => by cases hi)
  case vc4 | vc10 => rfl
  case vc5 => exact Progress.onPlan_count ‹_› _
  case vc6 =>
    have h0 := ‹DriverAt before spec _›
    have hIdle := ‹DriverAt .idle spec _›
    exact ⟨rfl, hIdle.spec_eq.trans h0.spec_eq.symm⟩
  case vc7 | vc13 =>
    have h0 := ‹DriverAt before spec _›
    intro hd hAnswers
    rw [← h0.spec_eq]
    exact ⟨hd, hAnswers⟩
  case vc8 | vc14 =>
    have h0 := ‹DriverAt before spec _›
    intro hd
    exact .of_reaches ⟨hd.state_eq, hd.spec_eq.trans h0.spec_eq⟩ (RunMove.reaches_iterating spec) rfl
  case vc9 =>
    have hIdle := ‹DriverAt .idle spec _›
    exact ⟨rfl, hIdle.spec_eq⟩
  case vc11 =>
    have hCalibrated := ‹_ ∧ DriverAt .calibrating spec _›
    exact Progress.onPlan_offset ‹_› hCalibrated.1 _
  case vc12 =>
    have h0 := ‹DriverAt before spec _›
    have hCalibrated := ‹_ ∧ DriverAt .calibrating spec _›
    exact ⟨rfl, hCalibrated.2.spec_eq.trans h0.spec_eq.symm⟩
  case vc15 =>
    -- calibration failed: only a campaign that samples offsets calibrates
    have h0 := ‹DriverAt before spec _›
    have hMode : spec.trigger = .timeOffset := by
      rw [← h0.spec_eq]
      assumption
    exact fun hd _ => .of_reaches hd (.single (.calibrate hMode)) rfl
  case vc16 => exact fun hd _ => .of_reaches hd .refl rfl
  case vc17 => exact .inl ⟨⟨_, rfl⟩, ‹_›⟩

/-- A triple that holds from each value of a ghost read off the starting state holds without it. -/
theorem triple_of_ghost {α β : Type} {x : CampaignM α} {P : CampaignDriver × World → Prop}
    (ghost : CampaignDriver × World → β)
    {Q : PostCond α (.except HarnessError (.arg (CampaignDriver × World) .pure))}
    (h : ∀ b, ⦃fun s => ⌜P s ∧ ghost s = b⌝⦄ x ⦃Q⦄) : ⦃fun s => ⌜P s⌝⦄ x ⦃Q⦄ :=
  fun s hs => h (ghost s) s ⟨hs, rfl⟩

/-- Every run of a driver of `spec` that returns answers the campaign, in the state it reports. -/
theorem run_answers (cancel : CancelFlag) (spec : CampaignSpec) :
    ⦃fun s => ⌜s.1.spec = spec⌝⦄ run cancel
    ⦃⇓? r s => ⌜DriverAt r.state spec s ∧ r.Answers spec⌝⦄ := by
  -- the run starts from whatever state the driver is in
  refine @triple_of_ghost _ _ _ _ (·.1.state) _ fun before => ?_
  have hRun := @run_spec cancel before spec
  mvcgen [hRun]
  case vc1 =>
    have hAt := ‹_ = spec ∧ _ = before›
    exact ⟨hAt.2, hAt.1⟩
  case vc2 => exact fun hd hAnswers => ⟨hd, hAnswers⟩

/-! ### Replaying a capsule -/

/-- Where a replay by a driver of `spec` that fails with `e` leaves the driver: in the state
`before` it found, when the spec does not validate or the capsule does not fit the campaign, and
iterating otherwise. -/
def ReplayFailure (before : CampaignState) (spec : CampaignSpec) (e : HarnessError)
    (s : CampaignDriver × World) : Prop :=
  (((∃ e', e = .config e') ∨ (∃ m, e = .capsuleMismatch m)) ∧ DriverAt before spec s) ∨
    DriverAt .iterating spec s

/-- A replay that returns ends exhausted or corrupted, in the state it reports, with its one
iteration recorded; one that fails leaves the driver as `ReplayFailure` says. -/
theorem replay_spec (c : ReproductionCapsule) (before : CampaignState) (spec : CampaignSpec) :
    ⦃fun s => ⌜DriverAt before spec s⌝⦄ replay c
    ⦃post⟨fun r s => ⌜DriverAt r.state spec s ∧ (r.state = .exhausted ∨ r.state = .corrupted) ∧
        r.Tallied⌝,
      fun e s => ⌜ReplayFailure before spec e s⌝⟩⦄ := by
  have hIteration := runIteration_spec .iterating spec
  have hFinish := fun state => finish_spec state spec .iterating
  mvcgen -trivial [replay, getDriver, getWorld, setState, CrashTest.Campaign.liftWith, hIteration,
    hFinish]
  case vc1 => exact .inl ⟨.inr ⟨_, rfl⟩, ‹_›⟩
  case vc2 =>
    have h0 := ‹DriverAt before spec _›
    exact ⟨rfl, h0.spec_eq⟩
  case vc3 | vc5 => exact ‹_ ∧ _ ∧ DriverAt .iterating spec _›.2.2
  case vc4 i _ _ _ _ _ _ _ =>
    exact fun hr hd => ⟨hr.state_eq ▸ hd, .inr hr.state_eq,
      hr.tallied ((Progress.tallied_start c.expected).push i)⟩
  case vc6 i _ _ _ _ _ _ _ _ =>
    exact fun hr hd => ⟨hr.state_eq ▸ hd, .inl hr.state_eq,
      hr.tallied ((Progress.tallied_start c.expected).push i)⟩
  case vc7 => exact fun hd _ => .inr hd
  case vc8 => exact .inl ⟨.inl ⟨_, rfl⟩, ‹_›⟩

/-! ### What a returned result says -/

/-- The iterations of every run that returns ran on schedule: the `j`-th has index `j + 1` and
the trigger of iteration `j + 1` (the `(j + 1)`-th line that mentions the event, or the seeded
draw from the calibrated window), and there are no more of them than the limit allows. -/
theorem run_iterations_on_schedule (cancel : CancelFlag) (spec : CampaignSpec) :
    ⦃fun s => ⌜s.1.spec = spec⌝⦄ run cancel
    ⦃⇓? r => ⌜spec.OnSchedule r.calibration r.iterations⌝⦄ :=
  Triple.entails_wp_of_post (@run_answers cancel spec)
    ⟨fun _ _ h => h.2.onSchedule, ExceptConds.entails_true⟩

/-- Every run that returns ends in one of five ways, in the terminal state it reports: only its
last iteration can be corrupted, and then it ended corrupted; in a campaign that counts events
only its last iteration can have finished naturally; and it carries a capsule exactly when it
ended corrupted. -/
theorem run_ends_in_one_of_five_ways (cancel : CancelFlag) (spec : CampaignSpec) :
    ⦃fun s => ⌜s.1.spec = spec⌝⦄ run cancel
    ⦃⇓? r s => ⌜s.1.state = r.state ∧ r.state.isTerminal = true ∧
      Ending spec r.expected r.state r.stopReason r.iterations r.capsule ∧
      (∀ j (hj : j < r.iterations.length), r.iterations[j].outcome.isCorrupted →
        j + 1 = r.iterations.length ∧ r.state = .corrupted) ∧
      (spec.trigger.countsEvents = true → ∀ j (hj : j < r.iterations.length),
        r.iterations[j].outcome = .finishedNaturally → j + 1 = r.iterations.length) ∧
      (r.capsule.isSome = true ↔ r.state = .corrupted)⌝⦄ := by
  refine Triple.entails_wp_of_post (@run_answers cancel spec) ⟨?_, ExceptConds.entails_true⟩
  rintro r s ⟨hd, hAnswers⟩
  have hEnding := hAnswers.ending
  exact ⟨hd.state_eq, hEnding.isTerminal, hEnding, fun _ => hEnding.corrupted_last,
    fun hCounts _ => hEnding.finishedNaturally_last hCounts, hEnding.capsule_isSome_iff⟩

/-- A run that returns leaves the terminal state it reports, which a run reaches from `idle`
along `RunMove`; one that fails leaves the driver as `RunFailure` says. -/
theorem run_follows_lifecycle (cancel : CancelFlag) (before : CampaignState)
    (spec : CampaignSpec) :
    ⦃fun s => ⌜DriverAt before spec s⌝⦄ run cancel
      ⦃post⟨fun r s => ⌜s.1.state = r.state ∧ r.state.isTerminal = true ∧
          Relation.ReflTransGen (RunMove spec) .idle r.state⌝,
        fun e s => ⌜RunFailure before spec e s⌝⟩⦄ := by
  have hRun := @run_spec cancel before spec
  mvcgen [hRun]
  intro hd hAnswers
  have hTerminal := hAnswers.ending.isTerminal
  exact ⟨hd.state_eq, hTerminal, RunMove.reaches_terminal spec hTerminal⟩

/-- A replay that returns leaves the state it reports, exhausted or corrupted; one that fails
leaves the driver as `ReplayFailure` says. -/
theorem replay_follows_lifecycle (c : ReproductionCapsule) (before : CampaignState)
    (spec : CampaignSpec) :
    ⦃fun s => ⌜DriverAt before spec s⌝⦄ replay c
      ⦃post⟨fun r s => ⌜s.1.state = r.state ∧ (r.state = .exhausted ∨ r.state = .corrupted)⌝,
        fun e s => ⌜ReplayFailure before spec e s⌝⟩⦄ := by
  have hReplay := @replay_spec c before spec
  mvcgen [hReplay]
  exact fun hd hState _ => ⟨hd.state_eq, hState⟩

/-- The driver's state follows the campaign's lifecycle, over any sequence of runs and replays,
from whatever state each call finds. A run that returns leaves the terminal state it reports,
reached from `idle` along `RunMove`; a replay that returns leaves the state it reports, exhausted
or corrupted. A call that fails leaves the state it found when the spec does not validate or the
capsule does not fit, and otherwise a state that is not terminal: one a run reaches from `idle`,
or iterating. -/
theorem driver_state_follows_lifecycle (cancel : CancelFlag) (c : ReproductionCapsule)
    (before : CampaignState) (spec : CampaignSpec) :
    ⦃fun s => ⌜DriverAt before spec s⌝⦄ run cancel
      ⦃post⟨fun r s => ⌜s.1.state = r.state ∧ r.state.isTerminal = true ∧
          Relation.ReflTransGen (RunMove spec) .idle r.state⌝,
        fun e s => ⌜RunFailure before spec e s⌝⟩⦄ ∧
    ⦃fun s => ⌜DriverAt before spec s⌝⦄ replay c
      ⦃post⟨fun r s => ⌜s.1.state = r.state ∧ (r.state = .exhausted ∨ r.state = .corrupted)⌝,
        fun e s => ⌜ReplayFailure before spec e s⌝⟩⦄ :=
  ⟨run_follows_lifecycle cancel before spec, replay_follows_lifecycle c before spec⟩

/-- The analytics of a run that returns recorded each of its iterations once, in order; in a run
that counts events the highest threshold is the number of iterations. -/
theorem run_analytics_tallied (cancel : CancelFlag) (spec : CampaignSpec) :
    ⦃fun s => ⌜s.1.spec = spec⌝⦄ run cancel
      ⦃⇓? r => ⌜r.Tallied ∧ r.analytics.iterations = r.iterations.length ∧
        r.analytics.counts =
          { aborted := r.iterations.countP (·.outcome == .aborted),
            finishedNaturally := r.iterations.countP (·.outcome == .finishedNaturally),
            corrupted := r.iterations.countP (·.outcome.isCorrupted) } ∧
        (spec.trigger.countsEvents = true → r.analytics.maxThreshold = r.iterations.length)⌝⦄ := by
  have hRun := @run_answers cancel spec
  mvcgen [hRun]
  intro _ _ hAnswers
  have hTallied := hAnswers.tallied
  exact ⟨hTallied, hTallied.iterations_eq, hTallied.counts_eq, hAnswers.maxThreshold_eq⟩

/-- The analytics of a replay that returns recorded its one iteration. -/
theorem replay_analytics_tallied (c : ReproductionCapsule) (spec : CampaignSpec) :
    ⦃fun s => ⌜s.1.spec = spec⌝⦄ replay c
      ⦃⇓? r => ⌜r.Tallied ∧ r.analytics.iterations = r.iterations.length ∧
        r.analytics.counts =
          { aborted := r.iterations.countP (·.outcome == .aborted),
            finishedNaturally := r.iterations.countP (·.outcome == .finishedNaturally),
            corrupted := r.iterations.countP (·.outcome.isCorrupted) }⌝⦄ := by
  refine @triple_of_ghost _ _ _ _ (·.1.state) _ fun before => ?_
  have hReplay := @replay_spec c before spec
  mvcgen [hReplay]
  case vc1 =>
    have hAt := ‹_ = spec ∧ _ = before›
    exact ⟨hAt.2, hAt.1⟩
  case vc2 => exact fun _ _ _ hTallied => ⟨hTallied, hTallied.iterations_eq, hTallied.counts_eq⟩

/-- The analytics of every run or replay that returns recorded each of its iterations once, in
order, into fresh analytics told the calibrated window: they count its iterations, and for each
way an iteration can end the iterations that ended so; in a run that counts events the highest
threshold is the number of iterations. -/
theorem analytics_record_each_iteration (cancel : CancelFlag) (c : ReproductionCapsule)
    (spec : CampaignSpec) :
    ⦃fun s => ⌜s.1.spec = spec⌝⦄ run cancel
      ⦃⇓? r => ⌜r.Tallied ∧ r.analytics.iterations = r.iterations.length ∧
        r.analytics.counts =
          { aborted := r.iterations.countP (·.outcome == .aborted),
            finishedNaturally := r.iterations.countP (·.outcome == .finishedNaturally),
            corrupted := r.iterations.countP (·.outcome.isCorrupted) } ∧
        (spec.trigger.countsEvents = true → r.analytics.maxThreshold = r.iterations.length)⌝⦄ ∧
    ⦃fun s => ⌜s.1.spec = spec⌝⦄ replay c
      ⦃⇓? r => ⌜r.Tallied ∧ r.analytics.iterations = r.iterations.length ∧
        r.analytics.counts =
          { aborted := r.iterations.countP (·.outcome == .aborted),
            finishedNaturally := r.iterations.countP (·.outcome == .finishedNaturally),
            corrupted := r.iterations.countP (·.outcome.isCorrupted) }⌝⦄ :=
  ⟨run_analytics_tallied cancel spec, replay_analytics_tallied c spec⟩

end CrashTest.Campaign
