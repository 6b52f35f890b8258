import Mathlib
import CrashTest.Verify.Recovery
import CrashTest.Proofs.Control.Reaping
import CrashTest.Proofs.Trigger.Counter
import CrashTest.Proofs.Control.Interrupt
/-!
# Restart verdicts

A restart is watched from a subscription made before the spawn (`watchRestart`) and then judged
on what the watch saw (`judgeRestart`): how the start ended, the output lines caught until then,
and the machine on which the probe commands run. Every behaviour of the restarted target and of
its probes reaches the judge as such a watched restart, so the verdicts are stated for every one.

A readiness wait that timed out is the verdict "startup timeout after restart". A target that
exited while starting is corrupted with the first line, in publish order, that holds a non-empty
marker, or else with its exit status; since that line is whatever the target printed, it may read
"startup timeout after restart" too. Any other failed start is an error of the harness. A ready
target is corrupted by a marker line; else it is asked for its consistency, and then, unless the
expectation asks nothing, for its state. A probe that cannot answer is an error of the harness,
never a verdict, and a probe is asked only when every earlier check passed. The probes always
answer: a query that nothing cuts short and that has a time limit ends, at the limit at the latest.
-/
namespace CrashTest.Control

open CrashTest.Os

variable {α : Type}

/-- A wait that nothing cuts short is never interrupted. -/
theorem waitUntil_never_ne_interrupted (w : World) (deadline : Option Nat) (precheck : Bool)
    (timer : Option Nat) (ready : World → Option α) (s : World) :
    waitUntil w .never deadline precheck timer ready ≠ .interrupted s := fun h =>
  absurd (waitUntil_cut_short h) (by simp [Interrupt.never])

end CrashTest.Control

namespace CrashTest.Target

open CrashTest.Os CrashTest.Control

/-- A probe command with a time limit that nothing cuts short always answers: with its output,
or with why it failed or took too long. -/
theorem runCommand_never_done (w : World) (argv : List String) (pid : Nat) (limit : Duration) :
    ∃ w' r, runCommand w .never none argv pid (some limit) = .done w' r := by
  unfold runCommand
  split
  · exact ⟨_, _, rfl⟩
  · dsimp only
    split
    · exact ⟨_, _, rfl⟩
    · split
      · exact ⟨_, _, rfl⟩
      · exact absurd ‹_› (waitUntil_never_ne_interrupted _ _ _ _ _ _)
      · -- the wait took too long: with no outer deadline the command's own limit was reached
        simp

/-- The consistency probe always answers. -/
theorem checkConsistency_never_done (probes : ProbeCommands) (w : World) (pid : Nat) :
    ∃ w' r, checkConsistency probes w .never none pid = .done w' r := by
  unfold checkConsistency
  split
  · exact ⟨_, _, rfl⟩
  · obtain ⟨w', r, hRun⟩ := runCommand_never_done w _ pid probes.timeout
    rw [hRun]
    exact ⟨_, _, rfl⟩

/-- The state probe always answers. -/
theorem observableState_never_done (probes : ProbeCommands) (w : World) (pid : Nat) :
    ∃ w' r, observableState probes w .never none pid = .done w' r := by
  unfold observableState
  split
  · exact ⟨_, _, rfl⟩
  · obtain ⟨w', r, hRun⟩ := runCommand_never_done w _ pid probes.timeout
    rw [hRun]
    rcases r with _ | o
    · exact ⟨_, _, rfl⟩
    · dsimp only
      split <;> exact ⟨_, _, rfl⟩

end CrashTest.Target

namespace CrashTest.Verify

open CrashTest.Os CrashTest.Control CrashTest.Target

/-! ### Marker lines -/

/-- An output line holds a marker: the characters of a non-empty marker stand in it as one run. -/
def HoldsMarker (markers : List String) (e : OutputEvent) : Prop :=
  ∃ m ∈ markers, m ≠ "" ∧ m.toList <:+: e.line.toList

theorem marks_iff (markers : List String) (e : OutputEvent) :
    (markers.any fun m => !m.isEmpty && Text.contains e.line m) = true ↔ HoldsMarker markers e := by
  simp [HoldsMarker, Text.contains_iff]

/-- The scan answers the first line, in the order the lines came, that holds a marker. -/
theorem scanMarkers_eq_some_iff {markers : List String} {lines : List OutputEvent}
    {line : String} :
    scanMarkers markers lines = some line ↔
      ∃ pre e post, lines = pre ++ e :: post ∧ (∀ x ∈ pre, ¬ HoldsMarker markers x) ∧
        HoldsMarker markers e ∧ e.line = line := by
  simp only [scanMarkers, Option.map_eq_some_iff, List.find?_eq_some_iff_append, marks_iff,
    Bool.not_eq_true', ← Bool.not_eq_true]
  constructor
  · rintro ⟨e, ⟨hMarked, pre, post, rfl, hClean⟩, rfl⟩
    exact ⟨pre, e, post, rfl, hClean, hMarked, rfl⟩
  · rintro ⟨pre, e, post, rfl, hClean, hMarked, rfl⟩
    exact ⟨e, ⟨hMarked, pre, post, rfl, hClean⟩, rfl⟩

/-- The scan finds nothing exactly when no line holds a marker. -/
theorem scanMarkers_eq_none_iff {markers : List String} {lines : List OutputEvent} :
    scanMarkers markers lines = none ↔ ∀ e ∈ lines, ¬ HoldsMarker markers e := by
  simp [scanMarkers, List.find?_eq_none, ← marks_iff]

/-! ### Checking a ready instance -/

section Verify

variable {w w₁ w₂ : World} {h : Handle} {probes : ProbeCommands} {expected : Expectation}

theorem verify_of_consistency_error {e : TargetError}
    (hc : checkConsistency probes w .never none h.pid = .done w₁ (.error e)) :
    verify w h probes expected = (w₁, .error (.target e)) := by
  rw [verify, hc]

theorem verify_of_inconsistent {reason : String}
    (hc : checkConsistency probes w .never none h.pid = .done w₁ (.ok (.inconsistent reason))) :
    verify w h probes expected = (w₁, .ok (.corrupted reason)) := by
  rw [verify, hc]

theorem verify_of_any
    (hc : checkConsistency probes w .never none h.pid = .done w₁ (.ok .consistent)) :
    verify w h probes .any = (w₁, .ok .clean) := by
  rw [verify, hc]
  rfl

theorem verify_of_state_error {e : TargetError}
    (hc : checkConsistency probes w .never none h.pid = .done w₁ (.ok .consistent))
    (hNeeds : expected ≠ .any)
    (hs : observableState probes w₁ .never none h.pid = .done w₂ (.error e)) :
    verify w h probes expected = (w₂, .error (.target e)) := by
  cases expected with
  | any => exact absurd rfl hNeeds
  | _ => rw [verify, hc]; simp [Expectation.needsState, hs]

theorem verify_of_state_fails {observed : StateSnapshot} {reason : String}
    (hc : checkConsistency probes w .never none h.pid = .done w₁ (.ok .consistent))
    (hNeeds : expected ≠ .any)
    (hs : observableState probes w₁ .never none h.pid = .done w₂ (.ok observed))
    (hCheck : expected.check observed = .error reason) :
    verify w h probes expected = (w₂, .ok (.corrupted reason)) := by
  cases expected with
  | any => exact absurd rfl hNeeds
  | _ => rw [verify, hc]; simp [Expectation.needsState, hs, hCheck]

theorem verify_of_state_passes {observed : StateSnapshot}
    (hc : checkConsistency probes w .never none h.pid = .done w₁ (.ok .consistent))
    (hNeeds : expected ≠ .any)
    (hs : observableState probes w₁ .never none h.pid = .done w₂ (.ok observed))
    (hCheck : expected.check observed = .ok ()) :
    verify w h probes expected = (w₂, .ok .clean) := by
  cases expected with
  | any => exact absurd rfl hNeeds
  | _ => rw [verify, hc]; simp [Expectation.needsState, hs, hCheck]

end Verify

/-! ### Judging a watched restart -/

section Judge

variable {probes : ProbeCommands} {config : VerifyConfig} {expected : Expectation}
  {r : RestartWatch}

theorem judgeRestart_of_timeout {limit : Duration} (hs : r.started = .error (.startupTimeout limit)) :
    judgeRestart probes config expected r = (r.world, .ok (.corrupted restartTimeoutReason, none)) := by
  rw [judgeRestart, hs]

theorem judgeRestart_of_exited {status : ExitStatus}
    (hs : r.started = .error (.exitedDuringStartup status)) :
    judgeRestart probes config expected r =
      (r.world, .ok (.corrupted ((scanMarkers config.corruptionMarkers r.lines).getD
        ("exited during startup validation: " ++ status.describe)), none)) := by
  rw [judgeRestart, hs]

theorem judgeRestart_of_failed {e : ProcessError} (hs : r.started = .error e)
    (hLate : ∀ limit, e ≠ .startupTimeout limit) (hExited : ∀ status, e ≠ .exitedDuringStartup status) :
    judgeRestart probes config expected r = (r.world, .error (.process e)) := by
  rw [judgeRestart, hs]
  cases e with
  | startupTimeout limit => exact absurd rfl (hLate limit)
  | exitedDuringStartup status => exact absurd rfl (hExited status)
  | _ => rfl

theorem judgeRestart_of_marked {h : Handle} {line : String} (hs : r.started = .ok h)
    (hLine : scanMarkers config.corruptionMarkers r.lines = some line) :
    judgeRestart probes config expected r = (r.world, .ok (.corrupted line, some h)) := by
  rw [judgeRestart, hs]
  simp only [hLine]

theorem judgeRestart_of_unmarked {h : Handle} (hs : r.started = .ok h)
    (hLine : scanMarkers config.corruptionMarkers r.lines = none) :
    judgeRestart probes config expected r =
      ((verify r.world h probes expected).1,
        (verify r.world h probes expected).2.map fun v => (v, some h)) := by
  rw [judgeRestart, hs]
  simp only [hLine]

theorem judgeRestart_of_verify {h : Handle} {w' : World} {v : Except VerifyError Verdict}
    (hs : r.started = .ok h) (hLine : scanMarkers config.corruptionMarkers r.lines = none)
    (hv : verify r.world h probes expected = (w', v)) :
    judgeRestart probes config expected r = (w', v.map fun v => (v, some h)) := by
  rw [judgeRestart_of_unmarked hs hLine, hv]

/-- The text of a start that ended early is never the text of a start that timed out. -/
theorem exitedReason_ne_restartTimeoutReason (status : ExitStatus) :
    "exited during startup validation: " ++ status.describe ≠ restartTimeoutReason := by
  intro hEq
  have hHead := congrArg (fun t : String => t.toList.head?) hEq
  simp [restartTimeoutReason, String.toList_append] at hHead

/-- The verdict "startup timeout after restart", with no handle, comes from a readiness wait that
timed out, or from a target that exited while starting and whose first marker line reads so. -/
theorem judgeRestart_eq_timeout_iff :
    (judgeRestart probes config expected r).2 = .ok (.corrupted restartTimeoutReason, none) ↔
      (∃ limit, r.started = .error (.startupTimeout limit)) ∨
      ∃ status, r.started = .error (.exitedDuringStartup status) ∧
        scanMarkers config.corruptionMarkers r.lines = some restartTimeoutReason := by
  cases hs : r.started with
  | ok h =>
    -- a ready restart returns its handle, or an error of the harness
    cases hLine : scanMarkers config.corruptionMarkers r.lines with
    | some line => simp [judgeRestart_of_marked hs hLine]
    | none =>
      rw [judgeRestart_of_unmarked hs hLine]
      cases (verify r.world h probes expected).2 <;> simp [Except.map]
  | error e =>
    cases e with
    | startupTimeout limit => simp [judgeRestart_of_timeout hs]
    | exitedDuringStartup status =>
      rw [judgeRestart_of_exited hs]
      cases hLine : scanMarkers config.corruptionMarkers r.lines with
      | some line => simp
      | none => simpa using exitedReason_ne_restartTimeoutReason status
    | _ => simp [judgeRestart_of_failed hs]

end Judge

/-- Restart verdicts. A restart is the judge's verdict on what its watch saw, and for every watched
restart, that is every behaviour of the restarted target and of its probes: the verdict "startup
timeout after restart" with no handle comes exactly from a readiness wait that timed out or from a
target that exited while starting and whose first marker line reads so; a timed-out wait gives
it; an early exit is corrupted with the first line, in publish order, that holds a non-empty
marker, or else with its exit status; any other failed start is an error of the process. A ready
target keeps its handle and is corrupted by a marker line, without any probe asked; else its
consistency probe answers, and an error of it is an error of the harness, an inconsistency is the
verdict, and a consistent target is clean when nothing is expected; otherwise its state probe
answers, an error of it is an error of the harness, and the expectation's check of the state
decides between its failure as the verdict and a clean one. -/
theorem restart_verdicts_follow_start_and_probes (probes : ProbeCommands) (config : VerifyConfig)
    (expected : Expectation) :
    (∀ c w, restartAndVerify c w probes config expected =
      ((watchRestart c w probes config).controller,
        judgeRestart probes config expected (watchRestart c w probes config))) ∧
    (∀ lines line, scanMarkers config.corruptionMarkers lines = some line ↔
      ∃ pre e post, lines = pre ++ e :: post ∧
        (∀ x ∈ pre, ¬ HoldsMarker config.corruptionMarkers x) ∧
        HoldsMarker config.corruptionMarkers e ∧ e.line = line) ∧
    ∀ r : RestartWatch,
      ((judgeRestart probes config expected r).2 = .ok (.corrupted restartTimeoutReason, none) ↔
        (∃ limit, r.started = .error (.startupTimeout limit)) ∨
        ∃ status, r.started = .error (.exitedDuringStartup status) ∧
          scanMarkers config.corruptionMarkers r.lines = some restartTimeoutReason) ∧
      (∀ limit, r.started = .error (.startupTimeout limit) →
        judgeRestart probes config expected r =
          (r.world, .ok (.corrupted restartTimeoutReason, none))) ∧
      (∀ status, r.started = .error (.exitedDuringStartup status) →
        judgeRestart probes config expected r =
          (r.world, .ok (.corrupted ((scanMarkers config.corruptionMarkers r.lines).getD
            ("exited during startup validation: " ++ status.describe)), none))) ∧
      (∀ e, r.started = .error e → (∀ limit, e ≠ .startupTimeout limit) →
        (∀ status, e ≠ .exitedDuringStartup status) →
        judgeRestart probes config expected r = (r.world, .error (.process e))) ∧
      ∀ h, r.started = .ok h →
        (∀ line, scanMarkers config.corruptionMarkers r.lines = some line →
          judgeRestart probes config expected r = (r.world, .ok (.corrupted line, some h))) ∧
        (scanMarkers config.corruptionMarkers r.lines = none →
          (∃ w₁ answer, checkConsistency probes r.world .never none h.pid = .done w₁ answer) ∧
          ∀ w₁ answer, checkConsistency probes r.world .never none h.pid = .done w₁ answer →
            (∀ e, answer = .error e →
              judgeRestart probes config expected r = (w₁, .error (.target e))) ∧
            (∀ reason, answer = .ok (.inconsistent reason) →
              judgeRestart probes config expected r = (w₁, .ok (.corrupted reason, some h))) ∧
            (answer = .ok .consistent → expected = .any →
              judgeRestart probes config expected r = (w₁, .ok (.clean, some h))) ∧
            (answer = .ok .consistent → expected ≠ .any →
              (∃ w₂ state, observableState probes w₁ .never none h.pid = .done w₂ state) ∧
              ∀ w₂ state, observableState probes w₁ .never none h.pid = .done w₂ state →
                (∀ e, state = .error e →
                  judgeRestart probes config expected r = (w₂, .error (.target e))) ∧
                ∀ observed, state = .ok observed →
                  (∀ reason, expected.check observed = .error reason →
                    judgeRestart probes config expected r =
                      (w₂, .ok (.corrupted reason, some h))) ∧
                  (expected.check observed = .ok () →
                    judgeRestart probes config expected r = (w₂, .ok (.clean, some h))))) := by
  refine ⟨fun _ _ => rfl, fun _ _ => scanMarkers_eq_some_iff, fun r => ⟨judgeRestart_eq_timeout_iff,
    fun _ hs => judgeRestart_of_timeout hs, fun _ hs => judgeRestart_of_exited hs,
    fun _ hs hLate hExited => judgeRestart_of_failed hs hLate hExited,
    fun h hs => ⟨fun _ hLine => judgeRestart_of_marked hs hLine, fun hLine => ?_⟩⟩⟩
  -- a ready target with no marker line is judged by its probes, in order
  refine ⟨checkConsistency_never_done _ _ _, fun w₁ answer hc => ⟨?_, ?_, ?_, ?_⟩⟩
  · rintro e rfl
    exact judgeRestart_of_verify hs hLine (verify_of_consistency_error hc)
  · rintro reason rfl
    exact judgeRestart_of_verify hs hLine (verify_of_inconsistent hc)
  · rintro rfl rfl
    exact judgeRestart_of_verify hs hLine (verify_of_any hc)
  · rintro rfl hNeeds
    refine ⟨observableState_never_done _ _ _, fun w₂ state hState => ⟨?_, ?_⟩⟩
    · rintro e rfl
      exact judgeRestart_of_verify hs hLine (verify_of_state_error hc hNeeds hState)
    · rintro observed rfl
      exact ⟨fun _ hCheck => judgeRestart_of_verify hs hLine
          (verify_of_state_fails hc hNeeds hState hCheck),
        fun hCheck => judgeRestart_of_verify hs hLine
          (verify_of_state_passes hc hNeeds hState hCheck)⟩

/-- With the default configuration: a restart that timed out, one that exited quietly while
starting, and one that became ready with no probe configured and nothing expected. -/
theorem restart_verdicts_on_timeout_quiet_exit_and_ready :
    judgeRestart {} {} .any ⟨default, default, .error (.startupTimeout (.ofMillis 60000)), []⟩ =
        (default, .ok (.corrupted restartTimeoutReason, none)) ∧
      judgeRestart {} {} .any ⟨default, default, .error (.exitedDuringStartup (.code 1)), []⟩ =
        (default, .ok (.corrupted "exited during startup validation: exit code 1", none)) ∧
      judgeRestart {} {} .any ⟨default, default, .ok default, []⟩ =
        (default, .ok (.clean, some default)) :=
  have hJudged := restart_verdicts_follow_start_and_probes {} {} .any
  ⟨(hJudged.2.2 ⟨default, default, .error (.startupTimeout (.ofMillis 60000)), []⟩).2.1 _ rfl,
    (hJudged.2.2 ⟨default, default, .error (.exitedDuringStartup (.code 1)), []⟩).2.2.1 (.code 1)
      rfl,
    (((((hJudged.2.2 ⟨default, default, .ok default, []⟩).2.2.2.2 default rfl).2 rfl).2 default
      (.ok .consistent) rfl).2.2.1 rfl rfl)⟩

/-- A target that prints "startup timeout after restart" and then exits while starting, judged
with the marker "timeout", gets the verdict of a timed-out readiness wait although its wait did
not time out. -/
theorem exited_restart_reads_as_timeout :
    let restart : RestartWatch :=
      { controller := default, world := default,
        started := .error (.exitedDuringStartup (.code 1)),
        lines := [⟨4200, .stdout, "startup timeout after restart"⟩] }
    ¬ ((judgeRestart {} { corruptionMarkers := ["timeout"] } .any restart).2 =
        .ok (.corrupted restartTimeoutReason, none) ↔
      ∃ limit, restart.started = .error (.startupTimeout limit)) := by
  intro restart
  have hJudged : (judgeRestart {} { corruptionMarkers := ["timeout"] } .any restart).2 =
      .ok (.corrupted restartTimeoutReason, none) := rfl
  simp [hJudged, restart]

end CrashTest.Verify
