import Mathlib
import CrashTest.Proofs.Campaign.Race
/-!
# A failed startup is retried once

A campaign starts its target in two places: a fresh start before the baseline, the calibration and
each race of shutdown or workload (`startFresh`), and the race of startup itself (`raceStartup`).
The two loops are written apart, with their own attempt counters, yet follow one policy
(`retryStartup`): an attempt, and after a startup that failed, one more; a second failed startup
gives up with it, reporting two attempts. An attempt ends the campaign at once on any other
failure, so only a failed startup is ever retried.

Each attempt spawns at most one target, and reaps it before answering a failed startup
(`StartAttempt`); so a call spawns at most two targets, and a retry starts from a calm controller.
In a race of startup only the spawn counts: arming, disarming and settling the race spawn nothing.
-/
namespace CrashTest.Control

open CrashTest.Os

variable {c c' : Controller} {w w' : World} {h : Handle}

/-- A spawn that goes through counts one more target. -/
theorem Controller.spawned_spawn (hs : c.spawn w = .ok (c', w', h)) :
    c'.spawned = c.spawned + 1 := by
  unfold Controller.spawn at hs
  dsimp only at hs
  split at hs
  · cases hs
  · cases hs
    rfl

/-- A spawn that fails is no failed startup. -/
theorem Controller.isStartupFailure_of_spawn {e : ProcessError} (hs : c.spawn w = .error e) :
    e.isStartupFailure = false := by
  unfold Controller.spawn at hs
  dsimp only at hs
  split at hs
  · cases hs
    rfl
  · cases hs

/-- A start spawns at most one target; one that answers a handle or a failed startup spawned it. -/
theorem Controller.spawned_startWithin (probes : ProbeCommands) (limit : Duration) :
    ((c.startWithin w probes limit).1.spawned = c.spawned + 1) ∨
      ((c.startWithin w probes limit).1.spawned = c.spawned ∧
        ∃ e, (c.startWithin w probes limit).2.2 = .error e ∧ e.isStartupFailure = false) := by
  unfold Controller.startWithin
  split
  · next e hs => exact .inr ⟨rfl, e, rfl, Controller.isStartupFailure_of_spawn hs⟩
  · next c' w' h hs =>
    left
    have hCount := Controller.spawned_spawn hs
    split <;> simp [hCount]

end CrashTest.Control

namespace CrashTest.Campaign

open Std.Do CrashTest.Os CrashTest.Control

set_option mvcgen.warning false

variable {α : Type}

/-- The last attempt at a start: a startup that failed now gives up with that failure, reporting
every attempt made. -/
def lastStart (attempt : CampaignM (Except ProcessError α)) : CampaignM α := do
  match ← attempt with
  | .ok a => return a
  | .error e => throw (.startupFailure freshStartAttempts e)

/-- The retry policy of a start: an attempt, and after a startup that failed, the last one. -/
def retryStartup (attempt : CampaignM (Except ProcessError α)) : CampaignM α := do
  match ← attempt with
  | .ok a => return a
  | .error _ => lastStart attempt

/-- One attempt at a fresh start: a failed startup is answered, for the policy to retry; any
other failure of the start ends the campaign. -/
def startAttempt : CampaignM (Except ProcessError Handle) := do
  match ← startOnce with
  | .ok h => return .ok h
  | .error e => if e.isStartupFailure then return .error e else throw (.process e)

/-- A fresh start follows the retry policy. -/
theorem startFresh_eq_retryStartup : startFresh = retryStartup startAttempt := by
  unfold startFresh retryStartup lastStart startAttempt
  simp only [freshStartAttempts, startAttempts, bind_assoc]
  -- both sides run `startOnce` and then decide on its answer, twice
  congr 1
  funext r
  rcases r with e | h
  · by_cases hs : e.isStartupFailure
    · simp only [hs, if_true, pure_bind]
      congr 1
      funext r'
      rcases r' with e' | h'
      · by_cases hs' : e'.isStartupFailure <;> simp [hs']
      · simp
    · simp [hs]
  · simp

/-- The race of startup follows the retry policy. -/
theorem raceStartup_eq_retryStartup (trigger : Trigger) :
    raceStartup trigger = retryStartup (raceStartupOnce trigger) := by
  unfold raceStartup retryStartup lastStart
  simp only [freshStartAttempts, raceStartupFrom, Nat.reduceAdd]
  -- both sides run the attempt and then decide on its answer, twice
  congr 1
  funext r
  cases r with
  | ok r => rfl
  | error e =>
    dsimp only
    congr 1
    funext r'
    cases r' with
    | ok r => rfl
    | error e => rfl

/-- What an attempt at a fresh start does, from a calm controller that has spawned `n` targets:
it spawns at most one more. An attempt that answers spawned one, holds `holds a` for a start that
went through, and has reaped its target for a failed startup, the only failure it answers. A
failure it throws is one of `fails`. -/
def StartAttempt (attempt : CampaignM (Except ProcessError α)) (holds : α → Option Handle)
    (fails : HarnessError → Prop) : Prop :=
  ∀ n, ⦃fun s => ⌜s.1.controller.spawned = n ∧ Holds none s⌝⦄ attempt
    ⦃post⟨fun r s => ⌜s.1.controller.spawned = n + 1 ∧ Holds (r.toOption.bind holds) s ∧
        ∀ e, r = .error e → e.isStartupFailure = true⌝,
      fun e s => ⌜s.1.controller.spawned ≤ n + 1 ∧ fails e⌝⟩⦄

variable {attempt : CampaignM (Except ProcessError α)} {holds : α → Option Handle}
  {fails : HarnessError → Prop}

/-- The last attempt spawns at most one target, and a failure it reports as the last failed
startup spawned one and was reaped. -/
theorem lastStart_spec (hAttempt : StartAttempt attempt holds fails) (n : Nat) :
    ⦃fun s => ⌜s.1.controller.spawned = n ∧ Holds none s⌝⦄ lastStart attempt
    ⦃post⟨fun a s => ⌜s.1.controller.spawned ≤ n + 1 ∧ Holds (holds a) s⌝,
      fun e s => ⌜s.1.controller.spawned ≤ n + 1 ∧ (fails e ∨
        ∃ last, e = .startupFailure freshStartAttempts last ∧ last.isStartupFailure = true ∧
          s.1.controller.spawned = n + 1 ∧ Holds none s)⌝⟩⦄ := by
  have hLast := hAttempt n
  mvcgen [lastStart, hLast]
  all_goals simp_all [Except.toOption]

/-- Under the retry policy a call spawns at most two targets. A start that goes through holds
what its attempt holds; a failure is one an attempt threw, or, after two failed startups that
spawned a target each and reaped it, the second of them. -/
theorem retryStartup_spec (hAttempt : StartAttempt attempt holds fails) (n : Nat) :
    ⦃fun s => ⌜s.1.controller.spawned = n ∧ Holds none s⌝⦄ retryStartup attempt
    ⦃post⟨fun a s => ⌜s.1.controller.spawned ≤ n + 2 ∧ Holds (holds a) s⌝,
      fun e s => ⌜s.1.controller.spawned ≤ n + 2 ∧ (fails e ∨
        ∃ last, e = .startupFailure freshStartAttempts last ∧ last.isStartupFailure = true ∧
          s.1.controller.spawned = n + 2 ∧ Holds none s)⌝⟩⦄ := by
  have hFirst := hAttempt n
  have hLast := lastStart_spec hAttempt (n + 1)
  mvcgen [retryStartup, hFirst, hLast]
  all_goals simp_all [Except.toOption]
  -- a failure the first attempt threw comes before any second spawn
  intro hSpawned _
  omega

/-! ### The two attempts -/

/-- A start holds the target it answers and has reaped the one of a failed start; it spawns at
most one target, and one only when its answer is a handle or a failed startup. -/
theorem startOnce_counts (n : Nat) :
    ⦃fun s => ⌜s.1.controller.spawned = n ∧ Holds none s⌝⦄ startOnce
    ⦃⇓ r s => ⌜Holds r.toOption s ∧ (s.1.controller.spawned = n + 1 ∨
      (s.1.controller.spawned = n ∧ ∃ e, r = .error e ∧ e.isStartupFailure = false))⌝⦄ := by
  unfold startOnce
  mvcgen [getDriver, getWorld, setController, setWorld]
  obtain ⟨hn, hCalm⟩ := ‹_ ∧ Holds none _›
  rw [← hn]
  exact ⟨Controller.Calm.startWithin hCalm, Controller.spawned_startWithin _ _⟩

/-- An attempt at a fresh start throws only a failure that is no failed startup. -/
theorem startAttempt_attempt :
    StartAttempt startAttempt some fun e => ∃ e', e = .process e' ∧ e'.isStartupFailure = false := by
  intro n
  have hStart := startOnce_counts n
  -- the start is taken by its count, not by the campaign's step spec
  mvcgen [startAttempt, hStart, -startOnce_spec]
  all_goals simp_all [Except.toOption]
  -- a start that failed otherwise spawned at most its target
  omega

/-- Disarming a trigger touches only the machine: the count of spawned targets stays. -/
theorem disarmTrigger_spawned (a : ArmedTrigger) (n : Nat) :
    ⦃fun s => ⌜s.1.controller.spawned = n⌝⦄ disarmTrigger a
    ⦃⇓ _ s => ⌜s.1.controller.spawned = n⌝⦄ := by
  unfold disarmTrigger
  mvcgen [getWorld, setWorld]

/-- Arming a trigger touches only the machine; it fails only as a probe that could not be armed. -/
theorem arm_spawned (trigger : Trigger) (origin n : Nat) :
    ⦃fun s => ⌜s.1.controller.spawned = n⌝⦄ arm trigger origin
    ⦃post⟨fun _ s => ⌜s.1.controller.spawned = n⌝,
      fun e s => ⌜s.1.controller.spawned = n ∧ ∃ e', e = .arm e'⌝⟩⦄ := by
  unfold arm
  mvcgen [getWorld, setWorld]
  exact ⟨‹_›, _, rfl⟩

theorem armEarly_spawned (trigger : Trigger) (n : Nat) :
    ⦃fun s => ⌜s.1.controller.spawned = n⌝⦄ armEarly trigger
    ⦃post⟨fun _ s => ⌜s.1.controller.spawned = n⌝,
      fun e s => ⌜s.1.controller.spawned = n ∧ ∃ e', e = .arm e'⌝⟩⦄ := by
  have hArm := fun origin => arm_spawned trigger origin n
  -- the arming is taken by its count, not by the campaign's step specs
  unfold armEarly
  mvcgen [getWorld, hArm, -arm_spec, -arm_counts]

/-- Settling a race of startup spawns nothing: it kills, stops and disarms. It answers only a
failed startup, and throws only a failure of the startup that is none. -/
theorem settleStartup_spawned (armed : ArmedTrigger) (readyTimeout : Duration)
    (r : Waited (World × Handle) (Except ProcessError Unit)) (n : Nat) :
    ⦃fun s => ⌜s.1.controller.spawned = n⌝⦄ settleStartup armed readyTimeout r
    ⦃post⟨fun r s => ⌜s.1.controller.spawned = n ∧ ∀ e, r = .error e → e.isStartupFailure = true⌝,
      fun e s => ⌜s.1.controller.spawned = n ∧
        ∃ e', e = .process e' ∧ e'.isStartupFailure = false⌝⟩⦄ := by
  have hDisarm := fun a => disarmTrigger_spawned a n
  unfold settleStartup startupFailed deliverKill finishNaturally stopHandle killHandle
  mvcgen -trivial [getWorld, setWorld, getDriver, hDisarm, -disarmTrigger_spec,
    -disarmTrigger_counts]
  all_goals simp_all +zetaDelta

/-- An attempt at racing startup counts the targets it spawns: one when it answers, and a failure
it answers is a failed startup. A failure it throws is a spawn or a readiness check that failed
otherwise than by a failed startup, or a probe that could not be armed. -/
theorem raceStartupOnce_spawns (trigger : Trigger) (n : Nat) :
    ⦃fun s => ⌜s.1.controller.spawned = n⌝⦄ raceStartupOnce trigger
    ⦃post⟨fun r s => ⌜s.1.controller.spawned = n + 1 ∧ ∀ e, r = .error e → e.isStartupFailure = true⌝,
      fun e s => ⌜s.1.controller.spawned ≤ n + 1 ∧
        ((∃ e', e = .process e' ∧ e'.isStartupFailure = false) ∨ ∃ e', e = .arm e')⌝⟩⦄ := by
  -- each step is taken at the count it runs with: before the spawn, or one more after it
  have hEarly := armEarly_spawned trigger n
  have hDisarm := fun a => disarmTrigger_spawned a n
  have hArm := fun origin => arm_spawned trigger origin (n + 1)
  have hSettle := fun armed t r => settleStartup_spawned armed t r (n + 1)
  unfold raceStartupOnce
  mvcgen -trivial [getWorld, setWorld, getDriver, setController, hEarly, hDisarm, hArm, hSettle,
    -armEarly_spec, -armEarly_counts, -arm_spec, -arm_counts, -disarmTrigger_spec,
    -disarmTrigger_counts]
  -- before the spawn the count is where it was; a spawn that failed is thrown as it is
  case vc1 | vc2 => assumption
  case vc3 | vc4 => exact ⟨by omega, .inl ⟨_, rfl, Controller.isStartupFailure_of_spawn ‹_›⟩⟩
  case vc13 => exact fun hn hArm => ⟨by omega, .inr hArm⟩
  -- a spawn that went through counts one more target, and nothing after it spawns again
  case vc5 | vc8 =>
    have hCount := Controller.spawned_spawn ‹_›
    dsimp +zetaDelta only
    omega
  case vc9 => assumption
  case vc6 | vc10 => exact fun hn hFailed => ⟨hn, hFailed⟩
  case vc7 | vc11 => exact fun hn hFailed => ⟨hn.le, .inl hFailed⟩
  case vc12 => exact fun hn hArm => ⟨hn.le, .inr hArm⟩

/-- An attempt at racing startup answers only after its one spawn, with the controller calm: the
race reaped its target whichever way it ended. It throws a failure of the spawn or of the readiness
check that is no failed startup, or of a probe that could not be armed. -/
theorem raceStartupOnce_attempt (trigger : Trigger) :
    StartAttempt (raceStartupOnce trigger) (fun _ => none)
      fun e => (∃ e', e = .process e' ∧ e'.isStartupFailure = false) ∨ ∃ e', e = .arm e' := by
  intro n
  have hBoth := Triple.and _ (raceStartupOnce_spawns trigger n) (raceStartupOnce_calm trigger)
  -- the race is taken by its count and its reaping, not by the campaign's step specs
  mvcgen [hBoth, -raceStartupOnce_spec, -raceStartupOnce_ends]
  all_goals simp_all

/-- A failed startup is retried once, by both loops that start the target: a fresh start and the
race of startup each follow the retry policy over an attempt of their own. Each attempt spawns at
most one target; it answers a failed startup, the only failure the policy retries, after reaping
its target, and throws any other failure, which ends the call at once. So a call from a calm
controller spawns at most two targets. A fresh start that goes through holds its target, a race
that goes through has reaped it; a failure is one an attempt threw, or the second of two failed
startups, each of which spawned a target and reaped it, reported as two attempts. -/
theorem failed_startup_is_retried_once (trigger : Trigger) (n : Nat) :
    startFresh = retryStartup startAttempt ∧
      raceStartup trigger = retryStartup (raceStartupOnce trigger) ∧
      StartAttempt startAttempt some
        (fun e => ∃ e', e = .process e' ∧ e'.isStartupFailure = false) ∧
      StartAttempt (raceStartupOnce trigger) (fun _ => none)
        (fun e => (∃ e', e = .process e' ∧ e'.isStartupFailure = false) ∨ ∃ e', e = .arm e') ∧
      ⦃fun s => ⌜s.1.controller.spawned = n ∧ Holds none s⌝⦄ startFresh
      ⦃post⟨fun h s => ⌜s.1.controller.spawned ≤ n + 2 ∧ Holds (some h) s⌝,
        fun e s => ⌜s.1.controller.spawned ≤ n + 2 ∧
          ((∃ e', e = .process e' ∧ e'.isStartupFailure = false) ∨
            ∃ last, e = .startupFailure 2 last ∧ last.isStartupFailure = true ∧
              s.1.controller.spawned = n + 2 ∧ Holds none s)⌝⟩⦄ ∧
      ⦃fun s => ⌜s.1.controller.spawned = n ∧ Holds none s⌝⦄ raceStartup trigger
      ⦃post⟨fun _ s => ⌜s.1.controller.spawned ≤ n + 2 ∧ Holds none s⌝,
        fun e s => ⌜s.1.controller.spawned ≤ n + 2 ∧
          (((∃ e', e = .process e' ∧ e'.isStartupFailure = false) ∨ ∃ e', e = .arm e') ∨
            ∃ last, e = .startupFailure 2 last ∧ last.isStartupFailure = true ∧
              s.1.controller.spawned = n + 2 ∧ Holds none s)⌝⟩⦄ := by
  refine ⟨startFresh_eq_retryStartup, raceStartup_eq_retryStartup trigger, startAttempt_attempt,
    raceStartupOnce_attempt trigger, ?_, ?_⟩
  · rw [startFresh_eq_retryStartup]
    exact retryStartup_spec startAttempt_attempt n
  · rw [raceStartup_eq_retryStartup]
    exact retryStartup_spec (raceStartupOnce_attempt trigger) n

end CrashTest.Campaign
