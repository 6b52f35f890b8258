import Mathlib
import CrashTest.Proofs.Analytics
import CrashTest.Proofs.Campaign.Steps
/-!
What a campaign may answer, and what holds of its progress while it iterates.

The iterations of a campaign run on a schedule (`CampaignSpec.OnSchedule`): the `j`-th has index
`j + 1` and the trigger of iteration `j + 1`, which is the `(j + 1)`-th line that mentions the event
when the campaign counts events, and a seeded draw inside the calibrated window when it samples
offsets; and there are no more of them than the limit allows. Each is recorded, in order, into
analytics told the window (`CampaignResult.Tallied`). Every iteration but the last lets the
campaign go on (`CampaignSpec.GoesOnAfter`), and the campaign ends in one of five ways
(`Campaign.Ending`), each with its state, its stop reason and its capsule.

While a campaign iterates, its progress keeps all of this and holds no capsule
(`Progress.OnPlan`). Pushing an iteration that ran on the plan's next trigger and lets the campaign
go on keeps it; a result that reports such progress at one of the five endings answers the
campaign (`CampaignResult.Answers`).
-/
namespace CrashTest

open Campaign

/-- A property of every entry of a list with one more element at its end is one of every entry of
the list and one of that element, at its position. -/
theorem List.forall_getElem_append_singleton {α : Type} (P : Nat → α → Prop) {xs : List α}
    {x : α} :
    (∀ j (h : j < (xs ++ [x]).length), P j (xs ++ [x])[j]) ↔
      (∀ j (h : j < xs.length), P j xs[j]) ∧ P xs.length x := by
  constructor
  · intro h
    refine ⟨fun j hj => ?_, ?_⟩
    · have hj' := h j (by simp; omega)
      rwa [List.getElem_append_left hj] at hj'
    · simpa using h xs.length (by simp)
  · rintro ⟨hxs, hx⟩ j hj
    rcases Nat.lt_or_ge j xs.length with hj' | hj'
    · simpa [List.getElem_append_left hj'] using hxs j hj'
    · have hEq : j = xs.length := by simp at hj; omega
      subst hEq
      simpa using hx

/-- An entry of a list with one more element at its end that no entry of the list satisfies is
that element, at the last position. -/
theorem List.eq_length_of_getElem_append_singleton {α : Type} (Q : α → Prop) {xs : List α}
    {x : α} (hxs : ∀ y ∈ xs, ¬ Q y) {j : Nat} (hj : j < (xs ++ [x]).length)
    (hQ : Q (xs ++ [x])[j]) : j = xs.length ∧ Q x := by
  rcases Nat.lt_or_ge j xs.length with hj' | hj'
  · rw [List.getElem_append_left hj'] at hQ
    exact absurd hQ (hxs _ (List.getElem_mem hj'))
  · have hEq : j = xs.length := by simp at hj; omega
    subst hEq
    exact ⟨rfl, by simpa using hQ⟩

/-- A campaign stopped by its limits stopped at the iteration limit, once it was reached, or at
the wall-clock limit. -/
theorem ResourceLimits.stopReason?_eq_some {l : ResourceLimits} {iterations secs : Nat}
    {reason : StopReason} (h : l.stopReason? iterations secs = some reason) :
    (reason = .iterationLimitExceeded ∧ l.maxIterations ≤ iterations) ∨
      reason = .wallTimeExceeded := by
  unfold ResourceLimits.stopReason? at h
  split at h
  · cases h
    exact .inl ⟨rfl, ‹_›⟩
  · split at h
    · cases h
      exact .inr rfl
    · cases h

/-- Whether a campaign in this mode kills on the `k`-th line that mentions the event. -/
def TriggerMode.countsEvents : TriggerMode → Bool
  | .eventCount _ => true
  | .timeOffset => false

namespace CampaignSpec

/-- `t` is the trigger of iteration `k` of a campaign of `spec` calibrated as `calibration`: the
`k`-th line that mentions the event, or the seeded draw for `k` from the calibrated window, which
is the whole window with an offset inside it. -/
def TriggerAt (spec : CampaignSpec) (calibration : Option Calibration) (k : Nat) (t : Trigger) :
    Prop :=
  match spec.trigger with
  | .eventCount eventName => t = .eventCount eventName k
  | .timeOffset => ∃ c, calibration = some c ∧
      (OffsetSampler.seeded spec.seed).trigger c k = .ok t ∧
      ∃ offsetNs < c.windowNs, t = .timeOffset c.windowNs offsetNs

/-- The iterations `its` of a campaign of `spec` calibrated as `calibration` ran on schedule: no
more of them than the limit allows, the `j`-th with index `j + 1` and the trigger of iteration
`j + 1`. -/
structure OnSchedule (spec : CampaignSpec) (calibration : Option Calibration)
    (its : List Iteration) : Prop where
  length_le : its.length ≤ spec.limits.maxIterations
  index_eq : ∀ j (h : j < its.length), its[j].index = j + 1
  triggerAt : ∀ j (h : j < its.length), spec.TriggerAt calibration (j + 1) its[j].trigger

theorem onSchedule_nil (spec : CampaignSpec) (calibration : Option Calibration) :
    spec.OnSchedule calibration [] :=
  ⟨Nat.zero_le _, fun _ h => absurd h (Nat.not_lt_zero _), fun _ h => absurd h (Nat.not_lt_zero _)⟩

/-- An iteration below the limit, with the next index and the next trigger, stays on schedule. -/
theorem OnSchedule.push {spec : CampaignSpec} {calibration : Option Calibration}
    {its : List Iteration} {i : Iteration} (h : spec.OnSchedule calibration its)
    (hlen : its.length < spec.limits.maxIterations) (hIndex : i.index = its.length + 1)
    (hTrigger : spec.TriggerAt calibration (its.length + 1) i.trigger) :
    spec.OnSchedule calibration (its ++ [i]) where
  length_le := by simpa using hlen
  index_eq := (List.forall_getElem_append_singleton fun j (i : Iteration) => i.index = j + 1).2
    ⟨h.index_eq, hIndex⟩
  triggerAt := (List.forall_getElem_append_singleton
    fun j (i : Iteration) => spec.TriggerAt calibration (j + 1) i.trigger).2 ⟨h.triggerAt, hTrigger⟩

/-- In a campaign that counts events iteration `j + 1` kills on the `(j + 1)`-th line, so the
highest threshold of iterations on schedule is their number. -/
theorem OnSchedule.foldl_max_thresholds {spec : CampaignSpec} {calibration : Option Calibration}
    {its : List Iteration} (h : spec.OnSchedule calibration its)
    (hCounts : spec.trigger.countsEvents = true) :
    (its.map fun i => i.trigger.threshold?.getD 0).foldl max 0 = its.length := by
  obtain ⟨eventName, hMode⟩ : ∃ eventName, spec.trigger = .eventCount eventName := by
    cases hTrigger : spec.trigger with
    | eventCount eventName => exact ⟨eventName, rfl⟩
    | timeOffset => simp [hTrigger, TriggerMode.countsEvents] at hCounts
  have hThreshold : ∀ j (hj : j < its.length), its[j].trigger.threshold? = some (j + 1) := by
    intro j hj
    have hAt := h.triggerAt j hj
    simp only [TriggerAt, hMode] at hAt
    simp [hAt, Trigger.threshold?]
  clear h
  -- the thresholds are `1, …, n` in order; the last one raises the highest to `n`
  induction its using List.reverseRecOn with
  | nil => rfl
  | append_singleton its i ih =>
    obtain ⟨hIts, hI⟩ := (List.forall_getElem_append_singleton
      fun j (i : Iteration) => i.trigger.threshold? = some (j + 1)).1 hThreshold
    simp [ih hIts, hI]

/-- Whether an iteration that ended with `o` lets a campaign of `spec` go on: the kill landed
first, or the operation completed first in a campaign that samples offsets, where a later draw may
still land inside it. -/
def GoesOnAfter (spec : CampaignSpec) (o : Outcome) : Prop :=
  o = .aborted ∨ (o = .finishedNaturally ∧ spec.trigger.countsEvents = false)

theorem GoesOnAfter.not_isCorrupted {spec : CampaignSpec} {o : Outcome}
    (h : spec.GoesOnAfter o) : ¬ o.isCorrupted := by
  rcases h with rfl | ⟨rfl, -⟩ <;> simp [Outcome.isCorrupted]

theorem GoesOnAfter.ne_finishedNaturally {spec : CampaignSpec} {o : Outcome}
    (hCounts : spec.trigger.countsEvents = true) (h : spec.GoesOnAfter o) :
    o ≠ .finishedNaturally := by
  rcases h with rfl | ⟨-, hOffset⟩
  · simp
  · simp [hCounts] at hOffset

end CampaignSpec

namespace Campaign

/-- The plan a campaign of `spec` calibrated as `calibration` iterates on: the count of the
configured event, or seeded draws from a measured window. -/
def Plan.Fits (plan : Plan) (spec : CampaignSpec) (calibration : Option Calibration) : Prop :=
  match spec.trigger with
  | .eventCount eventName => plan = .count eventName
  | .timeOffset => ∃ c, c.Measured ∧ calibration = some c ∧ plan = .offset c (.seeded spec.seed)

/-- A campaign that counts an event iterates on the count of that event, uncalibrated. -/
theorem Plan.fits_count {spec : CampaignSpec} {eventName : String}
    (hMode : spec.trigger = .eventCount eventName) : (Plan.count eventName).Fits spec none := by
  simp [Plan.Fits, hMode]

/-- A campaign that samples offsets iterates on seeded draws from the window it measured. -/
theorem Plan.fits_offset {spec : CampaignSpec} (hMode : spec.trigger = .timeOffset)
    {c : Calibration} (hc : c.Measured) :
    (Plan.offset c (.seeded spec.seed)).Fits spec (some c) := by
  simp only [Plan.Fits, hMode]
  exact ⟨c, hc, rfl, rfl⟩

/-- A plan that fits the campaign counts events exactly when the campaign does. -/
theorem Plan.Fits.countsEvents_eq {plan : Plan} {spec : CampaignSpec}
    {calibration : Option Calibration} (h : plan.Fits spec calibration) :
    plan.countsEvents = spec.trigger.countsEvents := by
  unfold Plan.Fits at h
  split at h
  · next hMode => rw [h, hMode]; rfl
  · next hMode =>
    obtain ⟨c, -, -, rfl⟩ := h
    rw [hMode]; rfl

/-- Every trigger a fitting plan gives is the trigger of that iteration. -/
theorem Plan.Fits.triggerAt {plan : Plan} {spec : CampaignSpec}
    {calibration : Option Calibration} {k : Nat} {t : Trigger} (h : plan.Fits spec calibration)
    (hTrigger : plan.trigger k = .ok t) : spec.TriggerAt calibration k t := by
  unfold Plan.Fits at h
  unfold CampaignSpec.TriggerAt
  split at h
  · next eventName hMode =>
    subst h
    simp only [Plan.trigger, Trigger.ofEventCount] at hTrigger
    split at hTrigger
    · cases hTrigger
    · cases hTrigger; simp
  · next hMode =>
    obtain ⟨c, hc, rfl, rfl⟩ := h
    obtain ⟨offsetNs, hInside, hSeeded⟩ := OffsetSampler.seeded_trigger spec.seed k hc
    simp only [Plan.trigger, hSeeded] at hTrigger
    cases hTrigger
    exact ⟨c, rfl, hSeeded, offsetNs, hInside, rfl⟩

/-- How a campaign of `spec`, verifying its restarts against `expected`, ends: by its final state,
its stop reason, its iterations and its capsule. Every iteration but the last lets the campaign go
on; the last one, a limit or the operator decides. -/
inductive Ending (spec : CampaignSpec) (expected : Expectation) :
    CampaignState → StopReason → List Iteration → Option ReproductionCapsule → Prop
  /-- The operator cancelled before the next iteration. -/
  | cancelled {its : List Iteration} : (∀ i ∈ its, spec.GoesOnAfter i.outcome) →
      Ending spec expected .abortedByOperator .userAborted its none
  /-- The iteration limit was reached. -/
  | iterationLimit {its : List Iteration} : (∀ i ∈ its, spec.GoesOnAfter i.outcome) →
      its.length = spec.limits.maxIterations →
      Ending spec expected .exhausted .iterationLimitExceeded its none
  /-- The wall-clock limit was reached. -/
  | wallTime {its : List Iteration} : (∀ i ∈ its, spec.GoesOnAfter i.outcome) →
      Ending spec expected .exhausted .wallTimeExceeded its none
  /-- In a campaign that counts events, the operation completed before the trigger fired: a
  higher threshold cannot fire earlier. -/
  | finishedNaturally {its : List Iteration} {last : Iteration} :
      spec.trigger.countsEvents = true → (∀ i ∈ its, spec.GoesOnAfter i.outcome) →
      last.outcome = .finishedNaturally →
      Ending spec expected .exhausted .targetFinishedNaturally (its ++ [last]) none
  /-- The last restart failed verification; the capsule replays that iteration. -/
  | corrupted {its : List Iteration} {last : Iteration} {reason : String} :
      (∀ i ∈ its, spec.GoesOnAfter i.outcome) → last.outcome = .corrupted reason →
      Ending spec expected .corrupted .corruptionFound (its ++ [last])
        (some (capsuleOf spec expected last reason))

namespace Ending

variable {spec : CampaignSpec} {expected : Expectation} {state : CampaignState}
  {reason : StopReason} {its : List Iteration} {capsule : Option ReproductionCapsule}

theorem isTerminal (h : Ending spec expected state reason its capsule) : state.isTerminal = true := by
  cases h <;> rfl

/-- A capsule is taken exactly when the campaign ends corrupted. -/
theorem capsule_isSome_iff (h : Ending spec expected state reason its capsule) :
    capsule.isSome = true ↔ state = .corrupted := by
  cases h <;> simp

/-- Only the last iteration can be corrupted, and then the campaign ended corrupted. -/
theorem corrupted_last (h : Ending spec expected state reason its capsule) {j : Nat}
    (hj : j < its.length) (hCorrupted : its[j].outcome.isCorrupted) :
    j + 1 = its.length ∧ state = .corrupted := by
  cases h with
  | cancelled hGo | iterationLimit hGo | wallTime hGo =>
    exact absurd hCorrupted (hGo _ (List.getElem_mem hj)).not_isCorrupted
  | finishedNaturally _ hGo hLast =>
    obtain ⟨-, hLastCorrupted⟩ := List.eq_length_of_getElem_append_singleton
      (fun i : Iteration => i.outcome.isCorrupted) (fun i hi => (hGo i hi).not_isCorrupted)
      hj hCorrupted
    simp [hLast, Outcome.isCorrupted] at hLastCorrupted
  | corrupted hGo _ =>
    obtain ⟨rfl, -⟩ := List.eq_length_of_getElem_append_singleton
      (fun i : Iteration => i.outcome.isCorrupted) (fun i hi => (hGo i hi).not_isCorrupted)
      hj hCorrupted
    simp

/-- In a campaign that counts events only the last iteration can have finished naturally. -/
theorem finishedNaturally_last (h : Ending spec expected state reason its capsule)
    (hCounts : spec.trigger.countsEvents = true) {j : Nat} (hj : j < its.length)
    (hFinished : its[j].outcome = .finishedNaturally) : j + 1 = its.length := by
  have hLast : ∀ {init : List Iteration} {last : Iteration},
      (∀ i ∈ init, spec.GoesOnAfter i.outcome) → (hj : j < (init ++ [last]).length) →
      (init ++ [last])[j].outcome = .finishedNaturally → j + 1 = (init ++ [last]).length :=
    fun hGo hj hFinished => by
      obtain ⟨rfl, -⟩ := List.eq_length_of_getElem_append_singleton
        (fun i : Iteration => i.outcome = .finishedNaturally)
        (fun i hi => (hGo i hi).ne_finishedNaturally hCounts) hj hFinished
      simp
  cases h with
  | cancelled hGo | iterationLimit hGo | wallTime hGo =>
    exact absurd hFinished ((hGo _ (List.getElem_mem hj)).ne_finishedNaturally hCounts)
  | finishedNaturally _ hGo _ => exact hLast hGo hj hFinished
  | corrupted hGo _ => exact hLast hGo hj hFinished

end Ending

/-- Every iteration of `p` was recorded, in order, into analytics told the calibrated window. -/
def Progress.Tallied (p : Progress) : Prop :=
  p.analytics = CampaignAnalytics.ofIterations (p.calibration.map Calibration.windowNs) p.iterations

/-- Fresh progress has recorded nothing. -/
theorem Progress.tallied_start (expected : Expectation) : ({ expected := expected } : Progress).Tallied :=
  rfl

theorem Progress.Tallied.push {p : Progress} (h : p.Tallied) (i : Iteration) :
    (p.push i).Tallied := by
  unfold Progress.Tallied at *
  simp [Progress.push, h]

/-- What holds of the progress of a campaign of `spec` on `plan` before each of its iterations. -/
structure Progress.OnPlan (spec : CampaignSpec) (plan : Plan) (p : Progress) : Prop where
  fits : plan.Fits spec p.calibration
  onSchedule : spec.OnSchedule p.calibration p.iterations
  goesOn : ∀ i ∈ p.iterations, spec.GoesOnAfter i.outcome
  tallied : p.Tallied
  capsule_eq : p.capsule = none

end Campaign

namespace CampaignResult

/-- Apart from the elapsed time, the analytics of `r` are those of fresh analytics, told the
window of the calibration if there is one, that recorded each iteration of `r` in order. -/
def Tallied (r : CampaignResult) : Prop :=
  ∃ secs, r.analytics = { CampaignAnalytics.ofIterations (r.calibration.map Calibration.windowNs)
    r.iterations with elapsedSecs := secs }.summary

theorem Reports.tallied {r : CampaignResult} {name : String} {state : CampaignState}
    {reason : StopReason} {p : Progress} (hr : r.Reports name state reason p) (hp : p.Tallied) :
    r.Tallied := by
  obtain ⟨secs, hSecs⟩ := hr.analytics_eq
  refine ⟨secs, ?_⟩
  rw [hSecs, hp, hr.calibration_eq, hr.iterations_eq]

variable {r : CampaignResult}

/-- A tallied result counts each of its iterations once. -/
theorem Tallied.iterations_eq (h : r.Tallied) : r.analytics.iterations = r.iterations.length := by
  obtain ⟨secs, hSecs⟩ := h
  rw [hSecs]
  exact CampaignAnalytics.ofIterations_total _ _

/-- A tallied result counts, for each way an iteration can end, the iterations that ended so. -/
theorem Tallied.counts_eq (h : r.Tallied) :
    r.analytics.counts =
      { aborted := r.iterations.countP (·.outcome == .aborted),
        finishedNaturally := r.iterations.countP (·.outcome == .finishedNaturally),
        corrupted := r.iterations.countP (·.outcome.isCorrupted) } := by
  obtain ⟨secs, hSecs⟩ := h
  rw [hSecs]
  exact CampaignAnalytics.ofIterations_counts _ _

/-- The highest threshold of a tallied result is the largest event-count threshold among its
iterations. -/
theorem Tallied.maxThreshold_eq (h : r.Tallied) :
    r.analytics.maxThreshold = (r.iterations.map fun i => i.trigger.threshold?.getD 0).foldl max 0 := by
  obtain ⟨secs, hSecs⟩ := h
  rw [hSecs]
  exact CampaignAnalytics.ofIterations_maxThreshold _ _

/-- `r` answers a campaign of `spec`: it carries the campaign's name, its iterations ran on
schedule and were all recorded, and it ended in one of the five ways. -/
structure Answers (spec : CampaignSpec) (r : CampaignResult) : Prop where
  name_eq : r.name = spec.name
  onSchedule : spec.OnSchedule r.calibration r.iterations
  tallied : r.Tallied
  ending : Ending spec r.expected r.state r.stopReason r.iterations r.capsule

/-- A result reporting progress on schedule, all recorded, at one of the five endings answers the
campaign. -/
theorem Reports.answers {r : CampaignResult} {spec : CampaignSpec} {state : CampaignState}
    {reason : StopReason} {p : Progress} (hr : r.Reports spec.name state reason p)
    (hSchedule : spec.OnSchedule p.calibration p.iterations) (hTallied : p.Tallied)
    (hEnding : Ending spec p.expected state reason p.iterations p.capsule) : r.Answers spec where
  name_eq := hr.name_eq
  onSchedule := by rw [hr.calibration_eq, hr.iterations_eq]; exact hSchedule
  tallied := hr.tallied hTallied
  ending := by
    rw [hr.state_eq, hr.stopReason_eq, hr.iterations_eq, hr.expected_eq, hr.capsule_eq]
    exact hEnding

/-- In a campaign that counts events, the highest threshold a result reports is the number of its
iterations. -/
theorem Answers.maxThreshold_eq {spec : CampaignSpec} (h : r.Answers spec)
    (hCounts : spec.trigger.countsEvents = true) : r.analytics.maxThreshold = r.iterations.length :=
  h.tallied.maxThreshold_eq.trans (h.onSchedule.foldl_max_thresholds hCounts)

end CampaignResult

namespace Campaign.Progress.OnPlan

variable {spec : CampaignSpec} {plan : Plan} {p : Progress} {i : Iteration} {r : CampaignResult}

/-- An iteration that the limits allowed, run with the next index on the plan's next trigger,
keeps the iterations on schedule. -/
theorem onSchedule_push (hp : p.OnPlan spec plan) {index secs : Nat}
    (hlen : p.iterations.length = index) (hStop : spec.limits.stopReason? index secs = none)
    (hIndex : i.index = index + 1) (hTrigger : plan.trigger (index + 1) = .ok i.trigger) :
    spec.OnSchedule p.calibration (p.iterations ++ [i]) := by
  subst hlen
  exact hp.onSchedule.push (ResourceLimits.lt_of_stopReason?_eq_none hStop) hIndex
    (hp.fits.triggerAt hTrigger)

/-- Pushing an iteration on schedule that lets the campaign go on keeps the progress on the
plan. -/
theorem push (hp : p.OnPlan spec plan) (hSchedule : spec.OnSchedule p.calibration (p.iterations ++ [i]))
    (hGo : spec.GoesOnAfter i.outcome) : (p.push i).OnPlan spec plan where
  fits := hp.fits
  onSchedule := hSchedule
  goesOn := by
    simp only [Progress.push, List.mem_append, List.mem_singleton]
    rintro j (hj | rfl)
    · exact hp.goesOn j hj
    · exact hGo
  tallied := hp.tallied.push i
  capsule_eq := hp.capsule_eq

/-- After an iteration that the limits allowed, run with the next index on the plan's next trigger,
that lets the campaign go on, the progress is on the plan for the iteration after, which the limit
leaves room for. -/
theorem next (hp : p.OnPlan spec plan) {index secs : Nat} (hlen : p.iterations.length = index)
    (hStop : spec.limits.stopReason? index secs = none) (hIndex : i.index = index + 1)
    (hTrigger : plan.trigger (index + 1) = .ok i.trigger) (hGo : spec.GoesOnAfter i.outcome) :
    index < spec.limits.maxIterations ∧ (p.push i).iterations.length = index + 1 ∧
      (p.push i).OnPlan spec plan := by
  refine ⟨ResourceLimits.lt_of_stopReason?_eq_none hStop, ?_, ?_⟩
  · simp [Progress.push, hlen]
  · exact hp.push (hp.onSchedule_push hlen hStop hIndex hTrigger) hGo

/-- A campaign that stops before its next iteration, with every iteration it ran letting it go
on, answers the campaign. -/
theorem answers (hp : p.OnPlan spec plan) {state : CampaignState} {reason : StopReason}
    (hr : r.Reports spec.name state reason p)
    (hEnding : Ending spec p.expected state reason p.iterations none) : r.Answers spec :=
  hr.answers hp.onSchedule hp.tallied (hp.capsule_eq ▸ hEnding)

/-- A campaign stopped by its limits before iteration `index + 1` stopped at the iteration limit
with every iteration run, or at the wall-clock limit. -/
theorem ending_of_stopReason (hp : p.OnPlan spec plan) {index secs : Nat} {reason : StopReason}
    (hlen : p.iterations.length = index) (hStop : spec.limits.stopReason? index secs = some reason) :
    Ending spec p.expected .exhausted reason p.iterations none := by
  rcases ResourceLimits.stopReason?_eq_some hStop with ⟨rfl, hLimit⟩ | rfl
  · exact .iterationLimit hp.goesOn (by have := hp.onSchedule.length_le; omega)
  · exact .wallTime hp.goesOn

/-- A campaign that counts events, ended by an iteration on schedule whose operation completed
first, answers the campaign. -/
theorem answers_finishedNaturally (hp : p.OnPlan spec plan)
    (hSchedule : spec.OnSchedule p.calibration (p.iterations ++ [i]))
    (hCounts : plan.countsEvents = true) (hFinished : i.outcome = .finishedNaturally)
    (hr : r.Reports spec.name .exhausted .targetFinishedNaturally (p.push i)) : r.Answers spec := by
  have hEnding : Ending spec p.expected .exhausted .targetFinishedNaturally
      (p.iterations ++ [i]) p.capsule := by
    rw [hp.capsule_eq]
    exact .finishedNaturally (hp.fits.countsEvents_eq ▸ hCounts) hp.goesOn hFinished
  exact hr.answers hSchedule (hp.tallied.push i) hEnding

/-- A campaign ended by a corrupted restart after an iteration on schedule, reporting the capsule
of that iteration, answers the campaign. -/
theorem answers_corrupted (hp : p.OnPlan spec plan)
    (hSchedule : spec.OnSchedule p.calibration (p.iterations ++ [i])) {reason : String}
    (hCorrupted : i.outcome = .corrupted reason)
    (hr : r.Reports spec.name .corrupted .corruptionFound
      { p.push i with capsule := some (capsuleOf spec p.expected i reason) }) :
    r.Answers spec :=
  hr.answers hSchedule (hp.tallied.push i) (.corrupted hp.goesOn hCorrupted)

end Campaign.Progress.OnPlan

end CrashTest
