import Mathlib
import CrashTest.Proofs.Campaign.Steps
import CrashTest.Proofs.Control.Interrupt
/-!
# How a race ends, and what an iteration records of it

Each race arms the trigger, lets it race the monitored operation in one wait, and settles what the
wait found (`settleStartup`, `settleShutdown`, `settleWorkload`). The wait looks at the trigger
before anything else, and is cut short only on a machine where the trigger has fired
(`Control.awaitReady_cut_short` and the like); killing a cut-short probe command cannot unfire it.
Settling a wait that the trigger cut short sends the campaign's signal there and then: the report
is a kill at that instant (`RaceEnd.killed`), aborted when the signal found the target alive and
finished naturally when it found it gone. A wait whose operation succeeded is a completion; a
shutdown that outlived its stop timeout was killed and counts as aborted; every other end fails
the attempt or the campaign. A kill that finds the workload's target gone ends the campaign too.

An iteration records its race's report, its instant of restart, and the restart's verdict over the
race's outcome: a corrupted restart is recorded as corrupted, a clean one as the race ended. A
counting trigger answers its count whichever way the race went, and an alarm answers none.
-/
set_option mvcgen.warning false

namespace CrashTest.Control

open CrashTest.Os

/-- A signal finds its process exactly when the process is on the machine and alive. -/
theorem World.signal_found_iff (w : World) (pid sig : Nat) :
    (w.signal pid sig).2 = true ↔ ∃ p, w.proc? pid = some p ∧ p.alive = true := by
  unfold World.signal
  cases hp : w.proc? pid with
  | none => simp
  | some p =>
    simp only [Option.some.injEq, exists_eq_left']
    -- a live process takes the signal, however it reacts
    repeat' split
    all_goals simp_all

/-- The campaign's signal is delivered exactly when the controller has not seen the process end
and the machine, caught up, has it alive. -/
theorem signal_delivered_iff (w : World) (h : Handle) (sig : KillSignal) :
    (signal w h sig).2.2 = .delivered ↔
      h.exitStatus = none ∧ ∃ p, w.catchUp.proc? h.pid = some p ∧ p.alive = true := by
  unfold signal Handle.tryExited
  cases hs : h.exitStatus with
  | some s => simp
  | none =>
    dsimp only
    cases hb : (w.catchUp.proc? h.pid).bind (·.exit) with
    | some e =>
      -- the process had ended on the machine
      simp only [reduceCtorEq, true_and, false_iff, not_exists, not_and]
      intro p hp hAlive
      simp [hp, Proc.alive] at hb hAlive
      simp [hAlive] at hb
    | none =>
      simp only [true_and]
      split
      · next hFound => simpa using (World.signal_found_iff _ _ _).1 hFound
      · next hLost =>
        simp only [reduceCtorEq, false_iff, not_exists, not_and]
        intro p hp hAlive
        simpa [hLost] using (World.signal_found_iff _ h.pid sig.number).2 ⟨p, hp, hAlive⟩

end CrashTest.Control

namespace CrashTest.Campaign

open Std.Do CrashTest.Os CrashTest.Control CrashTest.Target

/-! ### Armed triggers -/

namespace ArmedTrigger

/-- Whether the trigger counts lines, and so answers a count when disarmed. -/
def counts : ArmedTrigger → Bool
  | .probe _ => true
  | .alarm _ => false

@[simp] theorem disarm_isSome (a : ArmedTrigger) (w : World) :
    (a.disarm w).2.isSome = a.counts := by
  cases a <;> rfl

theorem interrupt_check (a : ArmedTrigger) : a.interrupt.check = a.fired := by
  cases a <;> rfl

/-- A trigger that has fired on one machine has fired on every later one. -/
theorem fired_of_keepsFired {a : ArmedTrigger} {w w' : World} (hk : World.KeepsFired w w')
    (h : a.fired w = true) : a.fired w' = true := by
  cases a with
  | probe p => exact hk.fired h
  | alarm instant =>
    simp only [fired, decide_eq_true_eq] at h ⊢
    exact h.trans hk.now_le

/-- Killing a probe command cannot unfire a trigger. -/
theorem interrupt_sticky (a : ArmedTrigger) : a.interrupt.Sticky := by
  intro w child out err h
  rw [interrupt_check] at h ⊢
  exact fired_of_keepsFired (World.KeepsFired.refl w).abandon h

end ArmedTrigger

/-- The trigger of a workload race, or the target's end, cannot be undone by killing a probe
command. -/
theorem workload_interrupt_sticky (a : ArmedTrigger) (pid : Nat) :
    Interrupt.Sticky ⟨fun w => a.fired w || processEnded pid w, a.interrupt.alarm⟩ := by
  intro w child out err h
  simp only [Bool.or_eq_true] at h ⊢
  rcases h with hFired | hEnded
  · exact .inl (ArmedTrigger.fired_of_keepsFired (World.KeepsFired.refl w).abandon hFired)
  · exact .inr (((World.KeepsProcs.refl w).signal.dropPipe.dropPipe).ended_of_ended hEnded)

variable (state : CampaignState) (spec : CampaignSpec)

/-- Arming makes a counting probe exactly for an event-count trigger, and an alarm at the origin
plus the offset for a time-offset one. -/
@[spec high] theorem arm_counts (trigger : Trigger) (origin : Nat) :
    ⦃fun s => ⌜DriverAt state spec s⌝⦄ arm trigger origin
    ⦃⇓? a s => ⌜a.counts = trigger.isEventCount ∧
      (∀ window offset, trigger = .timeOffset window offset → a = .alarm (origin + offset)) ∧
      DriverAt state spec s⌝⦄ := by
  unfold arm
  mvcgen [getWorld, setWorld]
  all_goals simp_all +zetaDelta [driverAt_iff, ArmedTrigger.counts, Trigger.isEventCount]

/-- Arming early makes a counting probe for an event-count trigger and nothing otherwise. -/
@[spec high] theorem armEarly_counts (trigger : Trigger) :
    ⦃fun s => ⌜DriverAt state spec s⌝⦄ armEarly trigger
    ⦃⇓? a? s => ⌜(∀ a, a? = some a → a.counts = true) ∧ (a?.isSome = trigger.isEventCount) ∧
      DriverAt state spec s⌝⦄ := by
  unfold armEarly
  mvcgen [getWorld, arm_counts]
  all_goals simp_all

/-- Disarming answers a count exactly for a counting trigger. -/
@[spec high] theorem disarmTrigger_counts (a : ArmedTrigger) :
    ⦃fun s => ⌜DriverAt state spec s⌝⦄ disarmTrigger a
    ⦃⇓? n s => ⌜n.isSome = a.counts ∧ DriverAt state spec s⌝⦄ := by
  unfold disarmTrigger
  mvcgen [getWorld, setWorld]
  all_goals simp_all +zetaDelta [driverAt_iff]

/-! ### How a race ends -/

/-- How a race ended. -/
inductive RaceEnd where
  /-- The trigger cut the race short at instant `firedAt`, and the campaign's signal, sent then,
  found the target alive (`delivered`) or already gone. -/
  | killed (firedAt : Nat) (delivery : Delivery)
  /-- The monitored operation completed first. -/
  | completed
  /-- A shutdown outlived its stop timeout, and the target was killed. -/
  | hung
  deriving DecidableEq, Repr

namespace RaceEnd

/-- The outcome of a race that ended so, before the restart is verified: a kill that reached the
target and a hung shutdown abort it; a completion, or a kill that found the target gone, finished
naturally. -/
def outcome : RaceEnd → Outcome
  | .killed _ .delivered => .aborted
  | .killed _ .alreadyExited => .finishedNaturally
  | .completed => .finishedNaturally
  | .hung => .aborted

/-- The instant of the kill, if there was one. -/
def firedAt? : RaceEnd → Option Nat
  | .killed t _ => some t
  | _ => none

/-- A race never ends in a corruption: only the restart's verdict finds one. -/
theorem outcome_ne_corrupted (e : RaceEnd) (reason : String) : e.outcome ≠ .corrupted reason := by
  unfold outcome
  split <;> simp

/-- The endings a race of `op` can have: only a shutdown hangs, and a kill during the workload
finds the target alive, since finding it gone ends the campaign. -/
def Fits (op : MonitoredOperation) : RaceEnd → Prop
  | .killed _ d => op = .workload → d = .delivered
  | .completed => True
  | .hung => op = .shutdown

/-- The ending follows how the wait `r` for the operation ended, against a trigger armed as
`armed` and with the campaign's signal `sig`: it is a kill exactly when the wait was cut short, at
the instant it was cut short, where the trigger had fired, with the delivery the signal made
there; and it is a completion exactly when the operation succeeded. -/
structure Follows {ε α : Type} (armed : ArmedTrigger) (sig : KillSignal)
    (r : Waited (World × Handle) (Except ε α)) (e : RaceEnd) : Prop where
  killed_iff : ∀ t d, e = .killed t d ↔ ∃ w h, r = .interrupted (w, h) ∧
    armed.fired w = true ∧ t = w.now ∧ d = (Control.signal w h sig).2.2
  completed_iff : e = .completed ↔ ∃ st a, r = .done st (.ok a)

end RaceEnd

/-- A report that records the ending `e`: the outcome and the kill's instant are the ending's,
and how the process ended is known. -/
structure RaceReport.Records (e : RaceEnd) (r : RaceReport) : Prop where
  outcome_eq : r.outcome = e.outcome
  firedAtNs_eq : r.firedAtNs = e.firedAt?
  exit_isSome : r.exit.isSome

end CrashTest.Campaign

namespace CrashTest.Campaign

open Std.Do CrashTest.Os CrashTest.Control CrashTest.Target

variable (state : CampaignState) (spec : CampaignSpec)

/-- Delivering the kill on the machine `w` reports a kill at `w`'s instant, with the delivery the
campaign's signal made there. -/
@[spec high] theorem deliverKill_reports (h : Handle) (armed : ArmedTrigger) (w : World) :
    ⦃fun s => ⌜DriverAt state spec s ∧ s.2 = w⌝⦄ deliverKill h armed
    ⦃⇓? r s => ⌜r.Records (.killed w.now (Control.signal w h spec.signal).2.2) ∧
      r.eventsObserved.isSome = armed.counts ∧ DriverAt state spec s⌝⦄ := by
  unfold deliverKill
  mvcgen [getDriver, getWorld, setWorld]
  rename_i s hs t
  obtain ⟨hDriver, rfl⟩ := hs
  rw [hDriver.spec_eq]
  refine ⟨⟨?_, rfl, rfl⟩, ArmedTrigger.disarm_isSome _ _, hDriver.of_driver rfl rfl⟩
  -- a kill that reached the process aborts it; one that found it gone finished naturally
  cases (signal s.2 h spec.signal).2.2 <;> rfl

/-- Finishing naturally reports a completion. -/
@[spec high] theorem finishNaturally_reports (h : Handle) (armed : ArmedTrigger) :
    ⦃fun s => ⌜DriverAt state spec s⌝⦄ finishNaturally h armed
    ⦃⇓? r s => ⌜r.Records .completed ∧ r.eventsObserved.isSome = armed.counts ∧
      DriverAt state spec s⌝⦄ := by
  unfold finishNaturally
  mvcgen
  · -- the target is stopped by the driver the disarm left
    rename_i hEvents
    exact hEvents.2
  · rename_i hEvents _ _ hDriver
    exact ⟨⟨rfl, rfl, rfl⟩, hEvents.1, hDriver⟩

/-! ### Each way a wait can end, as an ending -/

namespace RaceEnd

variable {ε α : Type} {armed : ArmedTrigger} {sig : KillSignal}

/-- A wait cut short where the trigger had fired ends in the kill sent there. -/
theorem follows_interrupted {w : World} {h : Handle} (hFired : armed.fired w = true) :
    (killed w.now (Control.signal w h sig).2.2).Follows armed sig
      (.interrupted (w, h) : Waited (World × Handle) (Except ε α)) where
  killed_iff t d := by
    constructor
    · rintro ⟨⟩
      exact ⟨w, h, rfl, hFired, rfl, rfl⟩
    · rintro ⟨w', h', hr, -, rfl, rfl⟩
      cases hr
      rfl
  completed_iff := by simp

/-- A wait whose operation succeeded ends in a completion. -/
theorem follows_done {st : World × Handle} {a : α} :
    completed.Follows armed sig (.done st (.ok a) : Waited (World × Handle) (Except ε α)) where
  killed_iff t d := by simp
  completed_iff := by simp

/-- A wait that neither was cut short nor saw its operation succeed ends in a hung shutdown. -/
theorem follows_hung {r : Waited (World × Handle) (Except ε α)}
    (hCut : ∀ st, r ≠ .interrupted st) (hDone : ∀ st a, r ≠ .done st (.ok a)) :
    hung.Follows armed sig r where
  killed_iff t d := by
    simp only [reduceCtorEq, false_iff, not_exists, not_and]
    exact fun w h hr => absurd hr (hCut _)
  completed_iff := by
    simp only [reduceCtorEq, false_iff, not_exists]
    exact fun st a => hDone st a

end RaceEnd

/-- The report of a race whose operation's wait ended as `r`, against a trigger armed as `armed`,
in a campaign of operation `op` and signal `sig`: it answers a count exactly for a counting
trigger, and records an ending that the operation allows and that follows the wait. -/
structure RaceReport.Settles {ε α : Type} (armed : ArmedTrigger) (op : MonitoredOperation)
    (sig : KillSignal) (r : Waited (World × Handle) (Except ε α)) (report : RaceReport) : Prop where
  counts : report.eventsObserved.isSome = armed.counts
  ending : ∃ e, e.Fits op ∧ report.Records e ∧ e.Follows armed sig r

/-- A failed startup answers its failure, and no report. -/
theorem startupFailed_fails (armed : ArmedTrigger) (w : World) (h : Handle) (err : ProcessError) :
    ⦃fun s => ⌜DriverAt state spec s⌝⦄ startupFailed armed w h err
    ⦃⇓? res s => ⌜(∀ report, res ≠ .ok report) ∧ DriverAt state spec s⌝⦄ := by
  unfold startupFailed
  mvcgen [setWorld]
  all_goals simp_all +zetaDelta [driverAt_iff]

/-- Settling a startup race: a report is a kill exactly when the trigger cut the wait short, and a
completion exactly when the target became ready; any other end answers the failure. -/
theorem settleStartup_settles (armed : ArmedTrigger) (readyTimeout : Duration)
    (r : Waited (World × Handle) (Except ProcessError Unit))
    (hCut : ∀ w h, r = .interrupted (w, h) → armed.fired w = true) :
    ⦃fun s => ⌜DriverAt state spec s⌝⦄ settleStartup armed readyTimeout r
    ⦃⇓? res s => ⌜(∀ report, res = .ok report → report.Settles armed .startup spec.signal r) ∧
      DriverAt state spec s⌝⦄ := by
  unfold settleStartup
  match r with
  | .interrupted (w, h) =>
    mvcgen [setWorld]
    · -- the kill is sent on the machine where the wait was cut short
      rename_i _ hDriver _
      exact ⟨hDriver.of_driver rfl rfl, rfl⟩
    · rename_i hReport
      obtain ⟨hRecords, hCounts, hDriver⟩ := hReport
      refine ⟨?_, hDriver⟩
      rintro report ⟨⟩
      exact ⟨hCounts, _, by simp [RaceEnd.Fits], hRecords,
        RaceEnd.follows_interrupted (hCut w h rfl)⟩
  | .done _ (.ok ()) =>
    mvcgen [setWorld]
    · rename_i _ hDriver _
      exact hDriver.of_driver rfl rfl
    · rename_i hReport
      obtain ⟨hRecords, hCounts, hDriver⟩ := hReport
      refine ⟨?_, hDriver⟩
      rintro report ⟨⟩
      exact ⟨hCounts, .completed, trivial, hRecords, RaceEnd.follows_done⟩
  | .done _ (.error _) | .expired _ =>
    mvcgen [startupFailed_fails]
    exact fun hNo hDriver => ⟨fun report hr => absurd hr (hNo report), hDriver⟩

/-- Settling a shutdown race: a report is a kill exactly when the trigger cut the wait short, a
completion exactly when the process exited in time, and otherwise a hung shutdown. -/
theorem settleShutdown_settles (armed : ArmedTrigger)
    (r : Waited (World × Handle) (Except ProcessError ExitStatus))
    (hCut : ∀ w h, r = .interrupted (w, h) → armed.fired w = true) :
    ⦃fun s => ⌜DriverAt state spec s⌝⦄ settleShutdown armed r
    ⦃⇓? report s => ⌜report.Settles armed .shutdown spec.signal r ∧ DriverAt state spec s⌝⦄ := by
  unfold settleShutdown
  match r with
  | .interrupted (w, h) =>
    mvcgen [setWorld]
    · rename_i _ hDriver _
      exact ⟨hDriver.of_driver rfl rfl, rfl⟩
    · intro hRecords hCounts hDriver
      exact ⟨⟨hCounts, _, by simp [RaceEnd.Fits], hRecords,
        RaceEnd.follows_interrupted (hCut w h rfl)⟩, hDriver⟩
  | .done _ (.ok _) =>
    mvcgen [setWorld]
    · rename_i _ hDriver _
      exact hDriver.of_driver rfl rfl
    · rename_i hEvents
      exact ⟨⟨hEvents.1, .completed, trivial, ⟨rfl, rfl, rfl⟩, RaceEnd.follows_done⟩, hEvents.2⟩
  | .done _ (.error _) | .expired _ =>
    -- the process outlived the stop timeout
    mvcgen [setWorld]
    · rename_i _ hDriver _
      exact hDriver.of_driver rfl rfl
    · exact (‹_ ∧ DriverAt state spec _›).2
    · rename_i hEvents _ _ hDriver
      exact ⟨⟨hEvents.1, .hung, rfl, ⟨rfl, rfl, rfl⟩,
        RaceEnd.follows_hung (by simp) (by simp)⟩, hDriver⟩

/-- Settling a workload race: a report is a kill exactly when the trigger cut the wait short, the
kill having reached the target, and a completion exactly when the workload succeeded. A target
that ended on its own, a kill that found it gone, a failed workload and a machine with nothing
left to happen end the campaign. -/
theorem settleWorkload_settles (probes : ProbeCommands) (h : Handle) (armed : ArmedTrigger)
    (origin : Nat) (r : Waited World (Except TargetError Unit))
    (hCut : ∀ w, r = .interrupted w → (armed.fired w || processEnded h.pid w) = true) :
    ⦃fun s => ⌜DriverAt state spec s⌝⦄ settleWorkload probes h armed origin r
    ⦃⇓? report s => ⌜report.Settles armed .workload spec.signal (r.mapState (·, h)) ∧
      DriverAt state spec s⌝⦄ := by
  unfold settleWorkload
  rcases r with ⟨w, _ | _⟩ | w | w <;> mvcgen [setWorld, getWorld]
  -- the machine changes under the driver, which stays where it is
  all_goals first
    | (simp_all +zetaDelta [driverAt_iff]; done)
    | skip
  · -- the workload succeeded
    intro hRecords hCounts hDriver
    exact ⟨⟨hCounts, .completed, trivial, hRecords, RaceEnd.follows_done⟩, hDriver⟩
  · -- the wait was cut short and the kill sent
    rename_i hNotEnded report _ hNotGone _ hReport
    obtain ⟨hRecords, hCounts, hDriver⟩ := hReport
    -- the trigger or the target's end cut it short, and not the end alone
    have hFired : armed.fired w = true := by
      have hEither := hCut w rfl
      revert hEither hNotEnded
      cases armed.fired w <;> simp
    refine ⟨⟨hCounts, _, fun _ => ?_, hRecords, RaceEnd.follows_interrupted hFired⟩, hDriver⟩
    -- a kill that found the target gone would have ended the campaign
    cases hd : (signal w h spec.signal).2.2 with
    | delivered => rfl
    | alreadyExited =>
      have hOutcome := hRecords.outcome_eq
      rw [hd] at hOutcome
      simp [RaceEnd.outcome, hOutcome] at hNotGone

/-! ### Each race, settled as it runs -/

/-- The startup race as it runs: the wait for readiness races the armed trigger, so a kill is
sent exactly where the trigger cut it short. -/
theorem settleStartup_awaitReady (armed : ArmedTrigger) (w : World) (h : Handle)
    (probes : ProbeCommands) (poll readyTimeout : Duration) :
    ⦃fun s => ⌜DriverAt state spec s⌝⦄
    settleStartup armed readyTimeout (awaitReady w h probes poll readyTimeout armed.interrupt none)
    ⦃⇓? res s => ⌜(∀ report, res = .ok report → report.Settles armed .startup spec.signal
        (awaitReady w h probes poll readyTimeout armed.interrupt none)) ∧
      DriverAt state spec s⌝⦄ :=
  settleStartup_settles state spec armed readyTimeout _ fun _ _ hr => by
    rw [← ArmedTrigger.interrupt_check]
    exact awaitReady_cut_short armed.interrupt_sticky hr

/-- The shutdown race as it runs: the wait for the exit races the armed trigger. -/
theorem settleShutdown_waitExited (armed : ArmedTrigger) (w : World) (h : Handle)
    (stopTimeout : Duration) :
    ⦃fun s => ⌜DriverAt state spec s⌝⦄
    settleShutdown armed (waitExited w h armed.interrupt none stopTimeout)
    ⦃⇓? report s => ⌜report.Settles armed .shutdown spec.signal
        (waitExited w h armed.interrupt none stopTimeout) ∧ DriverAt state spec s⌝⦄ :=
  settleShutdown_settles state spec armed _ fun _ _ hr => by
    rw [← ArmedTrigger.interrupt_check]
    exact waitExited_cut_short hr

/-- The workload race as it runs: the workload races the armed trigger and the target's end. -/
theorem settleWorkload_runWorkload (probes : ProbeCommands) (h : Handle) (armed : ArmedTrigger)
    (origin : Nat) (w : World) :
    ⦃fun s => ⌜DriverAt state spec s⌝⦄
    settleWorkload probes h armed origin
      (runWorkload probes w ⟨fun w => armed.fired w || processEnded h.pid w, armed.interrupt.alarm⟩
        none h.pid)
    ⦃⇓? report s => ⌜report.Settles armed .workload spec.signal
        ((runWorkload probes w ⟨fun w => armed.fired w || processEnded h.pid w,
          armed.interrupt.alarm⟩ none h.pid).mapState (·, h)) ∧ DriverAt state spec s⌝⦄ :=
  settleWorkload_settles state spec probes h armed origin _ fun _ hr =>
    runWorkload_cut_short (workload_interrupt_sticky armed h.pid) hr

/-! ### Whole races -/

/-- A race's report for `trigger` in a campaign of operation `op`: a counting trigger answers its
count and an alarm none, and the report records an ending that the operation allows. -/
structure RaceReport.Ends (trigger : Trigger) (op : MonitoredOperation) (report : RaceReport) :
    Prop where
  counts : report.eventsObserved.isSome = trigger.isEventCount
  ending : ∃ e, e.Fits op ∧ report.Records e

theorem RaceReport.Settles.ends {ε α : Type} {armed : ArmedTrigger} {op : MonitoredOperation}
    {sig : KillSignal} {r : Waited (World × Handle) (Except ε α)} {report : RaceReport}
    {trigger : Trigger} (hs : report.Settles armed op sig r)
    (hCounts : armed.counts = trigger.isEventCount) : report.Ends trigger op :=
  let ⟨e, hFits, hRecords, _⟩ := hs.ending
  ⟨hs.counts.trans hCounts, e, hFits, hRecords⟩

@[spec high] theorem raceStartupOnce_ends (trigger : Trigger) :
    ⦃fun s => ⌜DriverAt state spec s⌝⦄ raceStartupOnce trigger
    ⦃⇓? res s => ⌜(∀ report, res = .ok report → report.Ends trigger .startup) ∧
      DriverAt state spec s⌝⦄ := by
  unfold raceStartupOnce
  mvcgen [getDriver, getWorld, setWorld, setController, settleStartup_awaitReady]
  all_goals first
    | (simp_all +zetaDelta [driverAt_iff]; done)
    | skip
  -- the trigger was armed early as a probe, or armed now: either way it counts exactly when it
  -- is an event count
  all_goals
    intro hSettles hDriver
    refine ⟨fun report hr => (hSettles report hr).ends ?_, hDriver⟩
    simp_all

@[spec high] theorem raceStartupFrom_ends (trigger : Trigger) (attempt more : Nat) :
    ⦃fun s => ⌜DriverAt state spec s⌝⦄ raceStartupFrom trigger attempt more
    ⦃⇓? report s => ⌜report.Ends trigger .startup ∧ DriverAt state spec s⌝⦄ := by
  induction more generalizing attempt with
  | zero =>
    unfold raceStartupFrom
    mvcgen
    all_goals simp_all
  | succ more ih =>
    unfold raceStartupFrom
    mvcgen [-raceStartupFrom_spec, ih]
    all_goals simp_all

@[spec high] theorem raceStartup_ends (trigger : Trigger) :
    ⦃fun s => ⌜DriverAt state spec s⌝⦄ raceStartup trigger
    ⦃⇓? report s => ⌜report.Ends trigger .startup ∧ DriverAt state spec s⌝⦄ := by
  unfold raceStartup
  mvcgen [raceStartupFrom_ends]

@[spec high] theorem raceShutdown_ends (trigger : Trigger) :
    ⦃fun s => ⌜DriverAt state spec s⌝⦄ raceShutdown trigger
    ⦃⇓? report s => ⌜report.Ends trigger .shutdown ∧ DriverAt state spec s⌝⦄ := by
  unfold raceShutdown
  mvcgen [getDriver, getWorld, setWorld, settleShutdown_waitExited]
  all_goals first
    | (simp_all +zetaDelta [driverAt_iff]; done)
    | skip
  all_goals
    intro hSettles hDriver
    refine ⟨hSettles.ends ?_, hDriver⟩
    simp_all

@[spec high] theorem raceWorkload_ends (trigger : Trigger) :
    ⦃fun s => ⌜DriverAt state spec s⌝⦄ raceWorkload trigger
    ⦃⇓? report s => ⌜report.Ends trigger .workload ∧ DriverAt state spec s⌝⦄ := by
  unfold raceWorkload
  mvcgen [getDriver, getWorld, setWorld, settleWorkload_runWorkload]
  all_goals first
    | (simp_all +zetaDelta [driverAt_iff]; done)
    | skip
  intro hSettles hDriver
  refine ⟨hSettles.ends ?_, hDriver⟩
  simp_all

end CrashTest.Campaign

/-! ### What an iteration records -/

namespace CrashTest

/-- What iteration `i` of a campaign of `spec` records of its race: the index and the trigger it
was run with, the instant of the restart, how the target ended, a count exactly for a counting
trigger, and an ending its operation allows, fired when the ending is a kill. The verdict of the
restart on the world the race left decides a corruption; a clean verdict keeps the race's
outcome. -/
structure Iteration.RecordsRace (spec : CampaignSpec) (index : Nat) (trigger : Trigger)
    (expected : Expectation) (i : Iteration) : Prop where
  index_eq : i.index = index
  trigger_eq : i.trigger = trigger
  restarted : i.restartedAtNs.isSome
  exit_isSome : i.exit.isSome
  counts : i.eventsObserved.isSome = trigger.isEventCount
  ending : ∃ (e : Campaign.RaceEnd) (verdict : Verdict), e.Fits spec.operation ∧
    i.firedAtNs = e.firedAt? ∧
    (∃ (c : Control.Controller) (w : Os.World) (held : Option Control.Handle),
      i.restartedAtNs = some w.now ∧
      (Verify.restartAndVerify c w spec.probes spec.verify expected).2.2 = .ok (verdict, held)) ∧
    (∀ r, i.outcome = .corrupted r ↔ verdict = .corrupted r) ∧
    (verdict = .clean → i.outcome = e.outcome)

/-- An iteration that keeps the report of a race which ended for its trigger in the campaign's
operation, restarted at the instant of the world the race left and judged by the restart's verdict
there, records its race. -/
theorem Iteration.recordsRace_of_ends {spec : CampaignSpec} {trigger : Trigger}
    {expected : Expectation} {report : Campaign.RaceReport} {c : Control.Controller} {w : Os.World}
    {v : Verdict × Option Control.Handle} (index armedAt : Nat)
    (hEnds : report.Ends trigger spec.operation)
    (hVerify : (Verify.restartAndVerify c w spec.probes spec.verify expected).2.2 = .ok v) :
    Iteration.RecordsRace spec index trigger expected
      { index := index, trigger := trigger,
        outcome := match v.1 with
          | .clean => report.outcome
          | .corrupted reason => .corrupted reason,
        armedAtNs := armedAt, firedAtNs := report.firedAtNs, restartedAtNs := some w.now,
        exit := report.exit, eventsObserved := report.eventsObserved } := by
  obtain ⟨e, hFits, hRecords⟩ := hEnds.ending
  refine ⟨rfl, rfl, rfl, hRecords.exit_isSome, hEnds.counts, e, v.1, hFits, hRecords.firedAtNs_eq,
    ⟨c, w, v.2, rfl, hVerify⟩, ?_, ?_⟩
  all_goals
    rcases v with ⟨_ | reason, held⟩
  -- a clean verdict leaves the race's outcome, which is never a corruption
  · simp [hRecords.outcome_eq, e.outcome_ne_corrupted]
  · simp
  · simp [hRecords.outcome_eq]
  · simp

end CrashTest

namespace CrashTest.Campaign

open Std.Do CrashTest.Os CrashTest.Control CrashTest.Target

variable (state : CampaignState) (spec : CampaignSpec)

theorem runIteration_recordsRace (index : Nat) (trigger : Trigger) (expected : Expectation) :
    ⦃fun s => ⌜DriverAt state spec s⌝⦄ runIteration index trigger expected
    ⦃⇓? i s => ⌜i.RecordsRace spec index trigger expected ∧ DriverAt state spec s⌝⦄ := by
  unfold runIteration
  mvcgen [getWorld, setWorld, getDriver, setController, CrashTest.Campaign.liftWith]
  all_goals first
    | (simp_all +zetaDelta [driverAt_iff]; done)
    | skip
  -- what is left in each operation, with and without a handle to stop, is the record itself
  all_goals
    simp_all +zetaDelta [driverAt_iff]
    obtain ⟨hEnds, -⟩ := ‹RaceReport.Ends _ _ _ ∧ _›
    exact Iteration.recordsRace_of_ends _ _ (‹spec.operation = _› ▸ hEnds) ‹_›

/-- Every iteration records how its race ended. Each race, settled as it runs, reports a count
exactly for a counting trigger, and an ending its operation allows: a kill exactly where the
trigger, fired by then, cut the race's wait short, at that instant and with the delivery the
signal made there (aborted on a live target, finished naturally on a gone one); a completion
exactly where the operation succeeded first; otherwise a shutdown that outlived its stop timeout,
killed and aborted. The iteration keeps that report under its index and trigger with the instant
of the restart, and the restart's verdict decides whether it was corrupted. -/
theorem iteration_records_how_its_race_ended :
    (∀ index trigger expected,
      ⦃fun s => ⌜DriverAt state spec s⌝⦄ runIteration index trigger expected
      ⦃⇓? i s => ⌜i.RecordsRace spec index trigger expected ∧ DriverAt state spec s⌝⦄) ∧
    (∀ armed w h probes poll readyTimeout,
      ⦃fun s => ⌜DriverAt state spec s⌝⦄
      settleStartup armed readyTimeout
        (awaitReady w h probes poll readyTimeout armed.interrupt none)
      ⦃⇓? res s => ⌜(∀ report, res = .ok report → report.Settles armed .startup spec.signal
          (awaitReady w h probes poll readyTimeout armed.interrupt none)) ∧
        DriverAt state spec s⌝⦄) ∧
    (∀ armed w h stopTimeout,
      ⦃fun s => ⌜DriverAt state spec s⌝⦄
      settleShutdown armed (waitExited w h armed.interrupt none stopTimeout)
      ⦃⇓? report s => ⌜report.Settles armed .shutdown spec.signal
          (waitExited w h armed.interrupt none stopTimeout) ∧ DriverAt state spec s⌝⦄) ∧
    (∀ probes h armed origin w,
      ⦃fun s => ⌜DriverAt state spec s⌝⦄
      settleWorkload probes h armed origin
        (runWorkload probes w
          ⟨fun w => armed.fired w || processEnded h.pid w, armed.interrupt.alarm⟩ none h.pid)
      ⦃⇓? report s => ⌜report.Settles armed .workload spec.signal
          ((runWorkload probes w ⟨fun w => armed.fired w || processEnded h.pid w,
            armed.interrupt.alarm⟩ none h.pid).mapState (·, h)) ∧ DriverAt state spec s⌝⦄) :=
  ⟨runIteration_recordsRace state spec, settleStartup_awaitReady state spec,
    settleShutdown_waitExited state spec, settleWorkload_runWorkload state spec⟩

end CrashTest.Campaign
