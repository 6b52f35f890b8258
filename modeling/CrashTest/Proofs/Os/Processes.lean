import Mathlib
import CrashTest.Os.Scheduler
/-!
# Processes are kept, and ended ones stay ended

No step of the world forgets a process, and none changes how a process that has ended ended:
writes, pipes, signals, programs starting and running, every command a shell runs, and time
passing (`World.runUntil`, so also `World.catchUp`). `World.KeepsProcs w w'` says this of two
worlds; it is a preorder, and each operation is shown to keep it in the monotone form
`KeepsProcs w₀ w → KeepsProcs w₀ (f w)`, so that a chain of operations is a chain of dot
calls. Only three lemmas look inside the relation: a world with the same process list, a
process list grown at its end, and a change to one process that keeps its pid and, once it has
ended, its exit. Everything else is assembled from those.

The controller relies on this: an exit it has once seen in the world is still there at its
next look, whatever the shells ran in between.
-/
namespace CrashTest.Os

open CrashTest.Text

/-- A process is not alive exactly when it has ended. -/
theorem Proc.alive_eq_false_iff {p : Proc} : p.alive = false ↔ p.exit.isSome := by
  unfold Proc.alive
  cases p.exit <;> simp

theorem Proc.alive_eq_false {p : Proc} (hp : p.exit.isSome) : p.alive = false :=
  Proc.alive_eq_false_iff.2 hp

namespace World

/-- Every process of `w` is still in `w'`, and one that had ended in `w` ended the same way. -/
def KeepsProcs (w w' : World) : Prop :=
  ∀ ⦃pid : Nat⦄ ⦃p : Proc⦄, w.proc? pid = some p →
    ∃ p', w'.proc? pid = some p' ∧ (p.exit.isSome → p'.exit = p.exit)

variable {w₀ w w' : World}

theorem KeepsProcs.refl (w : World) : KeepsProcs w w := fun _ p hp => ⟨p, hp, fun _ => rfl⟩

theorem KeepsProcs.trans {w₁ w₂ w₃ : World} (h₁ : KeepsProcs w₁ w₂) (h₂ : KeepsProcs w₂ w₃) :
    KeepsProcs w₁ w₃ := by
  intro pid p hp
  obtain ⟨p₂, hp₂, he₂⟩ := h₁ hp
  obtain ⟨p₃, hp₃, he₃⟩ := h₂ hp₂
  refine ⟨p₃, hp₃, fun hs => ?_⟩
  have hs₂ : p₂.exit.isSome := by rw [he₂ hs]; exact hs
  rw [he₃ hs₂, he₂ hs]

theorem KeepsProcs.of_procs_eq (h : KeepsProcs w₀ w) (hProcs : w'.procs = w.procs) :
    KeepsProcs w₀ w' := by
  intro pid p hp
  unfold proc?
  rw [hProcs]
  exact h hp

theorem proc?_modifyProc {pid q : Nat} {f : Proc → Proc} (hf : ∀ p, (f p).pid = p.pid) :
    (w.modifyProc pid f).proc? q = (w.proc? q).map fun p => if p.pid == pid then f p else p := by
  unfold modifyProc proc?
  rw [List.find?_map]
  congr 2
  funext p
  simp only [Function.comp_apply]
  split <;> simp [hf]

theorem KeepsProcs.modifyProc (h : KeepsProcs w₀ w) {pid : Nat} {f : Proc → Proc}
    (hf : ∀ p, (f p).pid = p.pid) (hExit : ∀ p, p.exit.isSome → (f p).exit = p.exit) :
    KeepsProcs w₀ (w.modifyProc pid f) := by
  intro q p hp
  obtain ⟨p₁, hp₁, he₁⟩ := h hp
  rw [proc?_modifyProc hf, hp₁]
  refine ⟨_, rfl, fun hs => ?_⟩
  have hs₁ : p₁.exit.isSome := by rw [he₁ hs]; exact hs
  dsimp only
  split
  · rw [hExit p₁ hs₁, he₁ hs]
  · exact he₁ hs

theorem KeepsProcs.append (h : KeepsProcs w₀ w) {ps : List Proc} :
    KeepsProcs w₀ { w with procs := w.procs ++ ps } := by
  intro q p hp
  obtain ⟨p₁, hp₁, he₁⟩ := h hp
  refine ⟨p₁, ?_, he₁⟩
  unfold proc? at hp₁ ⊢
  rw [List.find?_append, hp₁]
  rfl

/-- At one pid: a process that had ended is still there, ended the same way. -/
theorem KeepsProcs.exit_eq (h : KeepsProcs w w') {pid : Nat} {e : Exit}
    (he : (w.proc? pid).bind (·.exit) = some e) : (w'.proc? pid).bind (·.exit) = some e := by
  cases hp : w.proc? pid with
  | none => simp [hp] at he
  | some p =>
    simp only [hp, Option.bind_some] at he
    obtain ⟨p', hp', hExit⟩ := h hp
    rw [hp', Option.bind_some, hExit (by simp [he]), he]

theorem KeepsProcs.isSome (h : KeepsProcs w w') {pid : Nat} (hp : (w.proc? pid).isSome) :
    (w'.proc? pid).isSome := by
  obtain ⟨p, hp⟩ := Option.isSome_iff_exists.1 hp
  obtain ⟨p', hp', -⟩ := h hp
  simp [hp']

theorem KeepsProcs.ended (h : KeepsProcs w w') {pid : Nat} {p : Proc} (hp : w.proc? pid = some p)
    (hs : p.exit.isSome) : ∃ p', w'.proc? pid = some p' ∧ p'.exit.isSome := by
  obtain ⟨p', hp', hExit⟩ := h hp
  exact ⟨p', hp', by rw [hExit hs]; exact hs⟩

theorem KeepsProcs.foldl {α : Type} {f : World → α → World}
    (hf : ∀ v x, KeepsProcs w₀ v → KeepsProcs w₀ (f v x)) :
    ∀ (xs : List α) (v : World), KeepsProcs w₀ v → KeepsProcs w₀ (xs.foldl f v)
  | [], _, hv => hv
  | x :: xs, v, hv => KeepsProcs.foldl hf xs (f v x) (hf v x hv)

theorem KeepsProcs.foldl_fst {α β : Type} {f : World × β → α → World × β}
    (hf : ∀ acc x, KeepsProcs w₀ acc.1 → KeepsProcs w₀ (f acc x).1) :
    ∀ (xs : List α) (acc : World × β), KeepsProcs w₀ acc.1 → KeepsProcs w₀ (xs.foldl f acc).1
  | [], _, hv => hv
  | x :: xs, acc, hv => KeepsProcs.foldl_fst hf xs (f acc x) (hf acc x hv)

/-! ### Steps that leave the processes alone -/

theorem KeepsProcs.modifyPipe (h : KeepsProcs w₀ w) {id : Nat} {f : Pipe → Pipe} :
    KeepsProcs w₀ (w.modifyPipe id f) := h.of_procs_eq rfl

theorem KeepsProcs.newPipe (h : KeepsProcs w₀ w) {sink : Sink} : KeepsProcs w₀ (w.newPipe sink).1 :=
  h.of_procs_eq rfl

theorem KeepsProcs.detach (h : KeepsProcs w₀ w) {id : Nat} : KeepsProcs w₀ (w.detach id) :=
  h.of_procs_eq rfl

theorem flushLines_procs (w : World) (id fuel : Nat) : (w.flushLines id fuel).procs = w.procs := by
  induction fuel generalizing w with
  | zero => rfl
  | succ fuel ih =>
    unfold flushLines
    split
    · split
      · rfl
      · split
        · exact ih _
        · rfl
    · rfl

theorem writeTo_procs {fd : Fd} {bs : Bytes} (hw : w.writeTo fd bs = .ok w') : w'.procs = w.procs := by
  unfold writeTo at hw
  repeat' split at hw
  all_goals first | (cases hw; rfl) | (cases hw; exact flushLines_procs _ _ _) | cases hw

theorem KeepsProcs.tryWriteFd (h : KeepsProcs w₀ w) {pid n : Nat} {bs : Bytes} :
    KeepsProcs w₀ (w.tryWriteFd pid n bs).1 := by
  unfold World.tryWriteFd
  split
  · exact h
  · split
    · split
      · next w' hw => exact h.of_procs_eq (writeTo_procs hw)
      · exact h
    · exact h

theorem KeepsProcs.writeFd (h : KeepsProcs w₀ w) {pid n : Nat} {bs : Bytes} :
    KeepsProcs w₀ (w.writeFd pid n bs) := h.tryWriteFd

theorem KeepsProcs.writeText (h : KeepsProcs w₀ w) {pid n : Nat} {s : String} :
    KeepsProcs w₀ (w.writeText pid n s) := h.writeFd

theorem KeepsProcs.closeUnheld (h : KeepsProcs w₀ w) : KeepsProcs w₀ w.closeUnheld := by
  unfold World.closeUnheld
  -- each pipe is closed, emptied or detached, and at most one line published
  refine KeepsProcs.foldl (fun v p hv => ?_) _ _ h
  dsimp only
  repeat' split
  all_goals exact hv.of_procs_eq rfl

/-! ### Ending and signalling -/

theorem KeepsProcs.finish (h : KeepsProcs w₀ w) {pid : Nat} {e : Exit} :
    KeepsProcs w₀ (w.finish pid e) := by
  unfold World.finish
  dsimp only
  -- only a live process is ended; its parent only hears of it
  refine KeepsProcs.closeUnheld ?_
  split
  · refine KeepsProcs.modifyProc (KeepsProcs.modifyProc h ?_ ?_) ?_ ?_
    all_goals first
      | (intro q; split <;> rfl)
      | (intro q hq; simp [Proc.alive_eq_false hq])
  · refine KeepsProcs.modifyProc h ?_ ?_
    · intro q; split <;> rfl
    · intro q hq; simp [Proc.alive_eq_false hq]

theorem proc?_pid {pid : Nat} {p : Proc} (hp : w.proc? pid = some p) : p.pid = pid := by
  unfold proc? at hp
  simpa using List.find?_some hp

/-- A process that exists has ended once `finish` is done with it, now or before. -/
theorem finish_ended {pid : Nat} {e : Exit} (h : (w.proc? pid).isSome) :
    ∃ p, (w.finish pid e).proc? pid = some p ∧ p.exit.isSome := by
  obtain ⟨p, hp⟩ := Option.isSome_iff_exists.1 h
  unfold World.finish
  dsimp only
  set w₁ := w.modifyProc pid fun p =>
    if p.alive then { p with exit := some e, program := .ended, fds := [] } else p with hw₁
  -- the process ends at the first change; its parent's record and the pipes keep that
  have hEnded : ∃ p₁, w₁.proc? pid = some p₁ ∧ p₁.exit.isSome := by
    rw [hw₁, proc?_modifyProc (fun _ => by split <;> rfl), hp]
    refine ⟨_, rfl, ?_⟩
    simp only [proc?_pid hp, beq_self_eq_true, if_true]
    split
    · rfl
    · next hDead => exact Proc.alive_eq_false_iff.1 (by simpa using hDead)
  obtain ⟨p₁, hp₁, hs₁⟩ := hEnded
  refine KeepsProcs.ended ?_ hp₁ hs₁
  refine KeepsProcs.closeUnheld ?_
  split
  · exact (KeepsProcs.refl w₁).modifyProc (fun _ => by split <;> rfl)
      (fun _ hq => by simp [Proc.alive_eq_false hq])
  · exact KeepsProcs.refl w₁

theorem KeepsProcs.signal (h : KeepsProcs w₀ w) {pid sig : Nat} : KeepsProcs w₀ (w.signal pid sig).1 := by
  unfold World.signal
  -- a signal ends the process, notes it for a trap, or does nothing
  repeat' split
  all_goals first
    | exact h
    | exact h.finish
    | exact h.modifyProc (fun _ => rfl) (fun _ _ => rfl)

/-- `KILL` ends a process that exists, unless it had ended already. -/
theorem signal_kill_ended {pid : Nat} (h : (w.proc? pid).isSome) :
    ∃ p, (w.signal pid sigKill).1.proc? pid = some p ∧ p.exit.isSome := by
  obtain ⟨p, hp⟩ := Option.isSome_iff_exists.1 h
  unfold World.signal
  rw [hp]
  dsimp only
  split
  · next hDead => exact ⟨p, hp, Proc.alive_eq_false_iff.1 (by simpa using hDead)⟩
  · rw [if_neg (by decide), if_pos (by decide)]
    exact finish_ended h

/-! ### Starting programs -/

theorem KeepsProcs.placeProc (h : KeepsProcs w₀ w) {pid : Nat} {l : Launch} :
    KeepsProcs w₀ (w.placeProc pid l) := by
  unfold World.placeProc
  dsimp only
  split
  · exact h.modifyProc (fun _ => rfl) (fun _ _ => rfl)
  · exact h.append

theorem KeepsProcs.applyEffect (h : KeepsProcs w₀ w) {pid : Nat} {name : String} {inOrder : Bool}
    {e : Utility.Effect} : KeepsProcs w₀ (w.applyEffect pid name inOrder e) := by
  unfold World.applyEffect
  dsimp only
  split
  on_goal 1 => refine KeepsProcs.finish (KeepsProcs.writeText ?_)
  on_goal 2 => refine KeepsProcs.finish ?_
  -- each write keeps the processes, whether or not it fails
  all_goals
    refine KeepsProcs.foldl_fst (fun acc x hv => ?_) _ _ (h.of_procs_eq rfl)
    split
    · exact hv
    · have hw : KeepsProcs w₀ (acc.1.tryWriteFd pid x.1 (bytesOf x.2)).1 := hv.tryWriteFd
      rcases hr : acc.1.tryWriteFd pid x.1 (bytesOf x.2) with ⟨v', _ | err⟩
      all_goals rw [hr] at hw; dsimp only
      · exact hw
      · split <;> exact hw

theorem KeepsProcs.startIn_runProgram (fuel : Nat) :
    (∀ {w₀ w : World} {pid : Nat} {t : Tool} {l : Launch}, KeepsProcs w₀ w →
      KeepsProcs w₀ (w.runProgram pid fuel t l)) ∧
    (∀ {w₀ w w' : World} {pid : Nat} {l : Launch}, KeepsProcs w₀ w → w.startIn pid fuel l = .ok w' →
      KeepsProcs w₀ w') := by
  induction fuel using Nat.strong_induction_on with
  | _ fuel ih =>
    have hRun : ∀ {w₀ w : World} {pid : Nat} {t : Tool} {l : Launch}, KeepsProcs w₀ w →
        KeepsProcs w₀ (w.runProgram pid fuel t l) := by
      intro w₀ w pid t l h
      unfold World.runProgram
      dsimp only
      repeat' split
      all_goals first
        | with_reducible exact h.applyEffect
        | with_reducible exact h.finish
        | with_reducible exact h.writeText.finish
        | with_reducible exact h.modifyProc (fun _ => rfl) (fun _ _ => rfl)
        | exact (ih _ (Nat.lt_succ_self _)).2 h ‹_›
    refine ⟨hRun, ?_⟩
    intro w₀ w w' pid l h hs
    unfold World.startIn at hs
    simp only [bind, Except.bind, pure, Except.pure, throw, throwThe, MonadExceptOf.throw] at hs
    repeat' split at hs
    all_goals first
      | (cases hs; done)
      | (cases hs; exact hRun h.placeProc)
      | exact (ih _ (Nat.lt_succ_self _)).2 h hs

theorem KeepsProcs.start (h : KeepsProcs w₀ w) {pid : Nat} {l : Launch} (hs : w.start pid l = .ok w') :
    KeepsProcs w₀ w' :=
  (KeepsProcs.startIn_runProgram 8).2 h hs

theorem KeepsProcs.spawn (h : KeepsProcs w₀ w) {l : Launch} {child : Nat}
    (hs : w.spawn l = .ok (w', child)) : KeepsProcs w₀ w' := by
  unfold World.spawn at hs
  simp only [bind, Except.bind, pure, Except.pure] at hs
  split at hs
  · cases hs
  · next v hv =>
    cases hs
    refine KeepsProcs.start ?_ hv
    exact h.of_procs_eq rfl

/-! ### Shells -/

theorem KeepsProcs.putShell (h : KeepsProcs w₀ w) {pid : Nat} {s : ShellState} :
    KeepsProcs w₀ (w.putShell pid s) :=
  h.modifyProc (fun _ => by split <;> rfl) (fun _ _ => by split <;> rfl)

theorem KeepsProcs.modifyShell (h : KeepsProcs w₀ w) {pid : Nat} {f : ShellState → ShellState} :
    KeepsProcs w₀ (w.modifyShell pid f) := by
  unfold World.modifyShell
  split
  · exact h.putShell
  · exact h

theorem KeepsProcs.dropPipe (h : KeepsProcs w₀ w) {id : Nat} : KeepsProcs w₀ (w.dropPipe id) :=
  h.of_procs_eq rfl

theorem KeepsProcs.spawnShell (h : KeepsProcs w₀ w) {parent : Proc} {s : ShellState} {fds : FdTable} :
    KeepsProcs w₀ (w.spawnShell parent s fds).1 :=
  h.append

open CrashTest.Shell

theorem KeepsProcs.report (h : KeepsProcs w₀ w) {pid : Nat} {s : ShellState} {msg : String} :
    KeepsProcs w₀ (Shell.report w pid s msg) := h.writeText

theorem KeepsProcs.leave (h : KeepsProcs w₀ w) {pid : Nat} {s : ShellState} {status : Nat} :
    KeepsProcs w₀ (Shell.leave w pid s status) := by
  unfold Shell.leave
  -- the exit trap runs first, if there is one
  repeat' split
  all_goals first | with_reducible exact h.finish | with_reducible exact h.putShell

theorem KeepsProcs.setStatus (h : KeepsProcs w₀ w) {pid : Nat} {s : ShellState} {status : Nat} :
    KeepsProcs w₀ (Shell.setStatus w pid s status) := h.putShell

theorem KeepsProcs.startSubst (h : KeepsProcs w₀ w) {pid : Nat} {p : Proc} {s : ShellState}
    {script : String} {line : Nat} : KeepsProcs w₀ (Shell.startSubst w pid p s script line) :=
  h.newPipe.spawnShell.putShell

theorem KeepsProcs.unwind {pid : Nat} {stop : Frame → Bool} :
    ∀ (frames : List Frame) (s : ShellState) {w : World}, KeepsProcs w₀ w →
      KeepsProcs w₀ (Shell.unwind w pid stop frames s).1
  | [], _, _, h => h
  | f :: rest, s, w, h => by
    unfold Shell.unwind
    split
    · exact h
    · split
      · refine KeepsProcs.unwind rest s (KeepsProcs.closeUnheld (KeepsProcs.modifyProc h ?_ ?_))
        · exact fun _ => rfl
        · exact fun _ _ => rfl
      all_goals exact KeepsProcs.unwind rest _ h

theorem openForWriting_procs {w w' : World} {s : ShellState} {cwd target : String} {fds : FdTable}
    {op : RedirOp} {fd : Fd} (h : openForWriting w s cwd target fds op = .ok (w', fd)) :
    w'.procs = w.procs := by
  unfold openForWriting at h
  dsimp only at h
  repeat' split at h
  all_goals first | (cases h; rfl) | cases h

theorem KeepsProcs.expansionFailed (h : KeepsProcs w₀ w) {pid : Nat} {s : ShellState} {e : ExpandError} :
    KeepsProcs w₀ (Shell.expansionFailed w pid s e) := by
  unfold Shell.expansionFailed
  split
  · exact h.report.leave
  · exact h.report.leave
  · exact h.finish

theorem KeepsProcs.applyOutcome (h : KeepsProcs w₀ w) {pid : Nat} {name : String} {special : Bool}
    {o : Outcome} : KeepsProcs w₀ (Shell.applyOutcome w pid name special o) := by
  unfold Shell.applyOutcome
  dsimp only
  have hOut : KeepsProcs w₀ ((w.writeText pid 2 o.err).tryWriteFd pid 1 (bytesOf o.out)).1 :=
    h.writeText.tryWriteFd
  -- an output that cannot be written adds a message; a raised error of a special command ends it
  repeat' split
  all_goals first
    | with_reducible exact hOut.writeText.leave
    | with_reducible exact hOut.leave
    | with_reducible exact hOut.writeText.putShell
    | with_reducible exact hOut.putShell

theorem redirect_procs {cwd : String} :
    ∀ {redirs : List Redir} {w w' : World} {s s' : ShellState} {fds fds' : FdTable},
      redirect w s cwd fds redirs = .ok (w', s', fds') → w'.procs = w.procs := by
  intro redirs
  induction redirs with
  | nil => intro w w' s s' fds fds' h; cases h; rfl
  | cons r rest ih =>
    intro w w' s s' fds fds' h
    unfold redirect at h
    dsimp only at h
    -- a redirection only opens, creates or empties files
    repeat' split at h
    all_goals first
      | exact absurd h (by simp)
      | (have hRest := ih h; exact hRest)
      | exact (ih h).trans (openForWriting_procs ‹_›)

theorem KeepsProcs.redirect (h : KeepsProcs w₀ w) {s s' : ShellState} {cwd : String} {fds fds' : FdTable}
    {redirs : List Redir} {w' : World} (hr : redirect w s cwd fds redirs = .ok (w', s', fds')) :
    KeepsProcs w₀ w' :=
  h.of_procs_eq (redirect_procs hr)

theorem KeepsProcs.leaveLoops {pid : Nat} {again : Bool} :
    ∀ (n : Nat) {w : World} {s : ShellState}, KeepsProcs w₀ w →
      KeepsProcs w₀ (Shell.leaveLoops w pid s again n)
  | 0, _, _, h => by unfold Shell.leaveLoops; exact h.putShell
  | n + 1, w, s, h => by
    unfold Shell.leaveLoops
    dsimp only
    have hUnwind : KeepsProcs w₀ (Shell.unwind w pid (fun f => f.isLoop || f.isCall) s.stack s).1 :=
      h.unwind _ _
    repeat' split
    all_goals first
      | with_reducible exact h.putShell
      | with_reducible exact hUnwind.putShell
      | exact KeepsProcs.leaveLoops n hUnwind

theorem KeepsProcs.returnFrom (h : KeepsProcs w₀ w) {pid : Nat} {s : ShellState} {status : Nat} :
    KeepsProcs w₀ (Shell.returnFrom w pid s status) := by
  unfold Shell.returnFrom
  dsimp only
  have hUnwind : KeepsProcs w₀ (Shell.unwind w pid (fun f => f.isCall || f.isSourceEnd) s.stack s).1 :=
    h.unwind _ _
  split
  · exact hUnwind.leave
  · exact hUnwind.putShell

theorem KeepsProcs.cdCommand (h : KeepsProcs w₀ w) {pid : Nat} {p : Proc} {s : ShellState}
    {args : List String} : KeepsProcs w₀ (Shell.cdCommand w pid p s args) := by
  unfold Shell.cdCommand
  split
  · exact h.applyOutcome
  · extract_lets physical
    split
    extract_lets dest direct tries
    split
    -- only the directory found decides whether the world changes
    dsimp only
    repeat' split
    all_goals first
      | with_reducible exact h.applyOutcome
      | (refine KeepsProcs.applyOutcome ?_; exact h.modifyProc (fun _ => rfl) (fun _ _ => rfl))

theorem KeepsProcs.killCommand_go {pid : Nat} {s : ShellState} {sig : Nat} :
    ∀ (targets : List (Except String Int)) {w : World} (failed : Bool), KeepsProcs w₀ w →
      KeepsProcs w₀ (Shell.killCommand.go pid s sig targets w failed)
  | [], _, _, h => h.modifyShell
  | .error _ :: _, w, _, h => by
    unfold Shell.killCommand.go
    split
    · exact h.applyOutcome
    · exact h
  | .ok t :: rest, w, failed, h => by
    unfold Shell.killCommand.go
    have hSent : KeepsProcs w₀ (if t > 0 then w.signal t.toNat sig else (w, false)).1 := by
      split
      · exact h.signal
      · exact h
    split
    next w' found heq =>
      rw [heq] at hSent
      split
      · exact KeepsProcs.killCommand_go rest failed hSent
      · exact KeepsProcs.killCommand_go rest true hSent.writeText

theorem KeepsProcs.killCommand (h : KeepsProcs w₀ w) {pid : Nat} {s : ShellState} {args : List String} :
    KeepsProcs w₀ (Shell.killCommand w pid s args) := by
  unfold Shell.killCommand
  split
  · exact h.applyOutcome
  · exact h.applyOutcome
  · exact KeepsProcs.killCommand_go _ false h.putShell

theorem KeepsProcs.waitCommand (h : KeepsProcs w₀ w) {pid : Nat} {s : ShellState} {args : List String} :
    KeepsProcs w₀ (Shell.waitCommand w pid s args) := by
  unfold Shell.waitCommand
  dsimp only
  repeat' split
  all_goals first
    | with_reducible exact h.applyOutcome
    | with_reducible exact h.putShell

theorem KeepsProcs.jobsCommand (h : KeepsProcs w₀ w) {pid : Nat} {s : ShellState} {args : List String} :
    KeepsProcs w₀ (Shell.jobsCommand w pid s args) := by
  unfold Shell.jobsCommand
  split
  · exact h.applyOutcome
  · exact h.applyOutcome

theorem KeepsProcs.readBuiltin (h : KeepsProcs w₀ w) {pid : Nat} {fds : FdTable} {s : ShellState}
    {args : List String} : KeepsProcs w₀ (Shell.readBuiltin w pid fds s args) := by
  unfold Shell.readBuiltin
  dsimp only
  refine KeepsProcs.applyOutcome (h.modifyProc ?_ ?_)
  · intro q
    split <;> rfl
  · intro q _
    split <;> rfl

theorem KeepsProcs.runProgram (h : KeepsProcs w₀ w) {pid : Nat} {p : Proc} {fds : FdTable}
    {s : ShellState} {name path : String} {args : List String} :
    KeepsProcs w₀ (Shell.runProgram w pid p fds s name path args) := by
  unfold Shell.runProgram
  dsimp only
  split
  · exact (h.spawn ‹_›).putShell
  · exact h.report.setStatus

theorem KeepsProcs.replaceWithProgram (h : KeepsProcs w₀ w) {pid : Nat} {p : Proc} {fds : FdTable}
    {s : ShellState} {name path : String} {args : List String} :
    KeepsProcs w₀ (Shell.replaceWithProgram w pid p fds s name path args) := by
  unfold Shell.replaceWithProgram
  dsimp only
  split
  · exact (h.start ‹_›).closeUnheld
  · exact h.runProgram

theorem KeepsProcs.execProgram (h : KeepsProcs w₀ w) {pid : Nat} {p : Proc} {fds : FdTable}
    {s : ShellState} {name : String} {args : List String} :
    KeepsProcs w₀ (Shell.execProgram w pid p fds s name args) := by
  unfold Shell.execProgram
  dsimp only
  repeat' split
  all_goals first
    | with_reducible exact h.writeText.leave
    | exact (h.start ‹_›).closeUnheld

theorem KeepsProcs.runBuiltin {pid : Nat} {p : Proc} {fds : FdTable} (fuel : Nat) :
    ∀ {w : World} {s : ShellState} {name : String} {args : List String} {special ownRedirs tested : Bool},
      KeepsProcs w₀ w →
      KeepsProcs w₀ (Shell.runBuiltin w pid p fds s name args special ownRedirs tested fuel) := by
  -- `command` runs the builtin it names with less fuel
  induction fuel using Nat.strong_induction_on with
  | _ fuel ih =>
    intro w s name args special ownRedirs tested h
    unfold Shell.runBuiltin
    dsimp only
    repeat' split
    all_goals first
      | with_reducible exact h.applyOutcome
      | with_reducible exact h.leave
      | with_reducible exact h.returnFrom
      | with_reducible exact h.putShell
      | with_reducible exact h.putShell.closeUnheld
      | with_reducible exact h.execProgram
      | with_reducible exact h.cdCommand
      | with_reducible exact h.runProgram
      | with_reducible exact h.report.setStatus
      | with_reducible exact h.killCommand
      | with_reducible exact h.waitCommand
      | with_reducible exact h.readBuiltin
      | with_reducible exact h.jobsCommand
      | exact KeepsProcs.leaveLoops _ h
      | exact ih _ (Nat.lt_succ_self _) h

theorem KeepsProcs.runSimple (h : KeepsProcs w₀ w) {pid : Nat} {p : Proc} {s : ShellState}
    {assigns : List (String × Word)} {words : List Word} {redirs : List Redir} {hadOutput tested : Bool} :
    KeepsProcs w₀ (Shell.runSimple w pid p s assigns words redirs hadOutput tested) := by
  unfold Shell.runSimple
  split
  · exact h.expansionFailed
  · extract_lets made
    rcases hMade : made with e | ⟨w₁, s₁, fds₁, failed₁⟩
    · exact h.expansionFailed
    · -- the redirections are made, or the failure to make them reported
      have h₁ : KeepsProcs w₀ w₁ := by
        simp only [made] at hMade
        split at hMade
        · cases hMade
          exact h.redirect ‹_›
        · cases hMade
          exact h.report
        · cases hMade
      dsimp -zeta only
      split
      · exact h₁.expansionFailed
      · exact h₁.report.leave
      · extract_lets traced ownRedirs w₂ tail temporary
        -- the trace is written, and the descriptors the redirections made are installed
        have h₂ : KeepsProcs w₀ w₂ := by
          simp only [w₂, traced]
          split
          · split
            · exact h₁.writeText.modifyProc (fun _ => rfl) (fun _ _ => rfl)
            · exact h₁.modifyProc (fun _ => rfl) (fun _ _ => rfl)
          · split
            · exact h₁.writeText
            · exact h₁
        -- every command, found or not, runs on that world
        clear_value w₂
        split
        · exact h₂.putShell
        · split
          · exact h₂.report.setStatus
          · split
            · -- a redirection that failed stops the command
              split
              · exact h₂.leave
              · exact h₂.putShell
            · split
              · exact KeepsProcs.runBuiltin 4 h₂
              · exact KeepsProcs.runBuiltin 4 h₂
              · -- a function's body is pushed onto the shell's stack
                split
                · exact h₂.putShell
                · exact h₂.putShell
              · extract_lets st
                split
                · exact h₂.replaceWithProgram
                · exact h₂.runProgram
              · exact h₂.putShell

theorem KeepsProcs.runCmd (h : KeepsProcs w₀ w) {pid : Nat} {p : Proc} {s : ShellState} {c : Cmd}
    {tested : Bool} : KeepsProcs w₀ (Shell.runCmd w pid p s c tested) := by
  unfold Shell.runCmd
  dsimp only
  repeat' split
  all_goals
    repeat' first
      | with_reducible exact h
      | with_reducible exact fun _ => rfl
      | with_reducible exact fun _ _ => rfl
      | with_reducible apply KeepsProcs.putShell
      | with_reducible apply KeepsProcs.setStatus
      | with_reducible apply KeepsProcs.report
      | with_reducible apply KeepsProcs.startSubst
      | with_reducible apply KeepsProcs.runSimple
      | with_reducible apply KeepsProcs.expansionFailed
      | with_reducible apply KeepsProcs.modifyProc
      | with_reducible apply KeepsProcs.spawnShell
      | with_reducible apply KeepsProcs.newPipe
      | exact h.redirect ‹_›

theorem KeepsProcs.runFrame (h : KeepsProcs w₀ w) {pid : Nat} {p : Proc} {s : ShellState} {f : Frame} :
    KeepsProcs w₀ (Shell.runFrame w pid p s f) := by
  unfold Shell.runFrame
  repeat' split
  all_goals
    repeat' first
      | with_reducible exact h
      | with_reducible exact fun _ => rfl
      | with_reducible exact fun _ _ => rfl
      | with_reducible apply KeepsProcs.putShell
      | with_reducible apply KeepsProcs.setStatus
      | with_reducible apply KeepsProcs.report
      | with_reducible apply KeepsProcs.leave
      | with_reducible apply KeepsProcs.finish
      | with_reducible apply KeepsProcs.closeUnheld
      | with_reducible apply KeepsProcs.runCmd
      | with_reducible apply KeepsProcs.modifyProc

theorem KeepsProcs.takeSignal (h : KeepsProcs w₀ w) {pid : Nat} {s : ShellState} {w' : World}
    (ht : Shell.takeSignal w pid s = some w') : KeepsProcs w₀ w' := by
  unfold Shell.takeSignal at ht
  dsimp only at ht
  repeat' split at ht
  all_goals
    cases ht <;> first
      | with_reducible exact h.putShell
      | with_reducible exact h.finish

theorem KeepsProcs.resume (h : KeepsProcs w₀ w) {pid : Nat} {p : Proc} {s : ShellState} {wt : Wait}
    {w' : World} (hr : Shell.resume w pid p s wt = some w') : KeepsProcs w₀ w' := by
  unfold Shell.resume at hr
  dsimp only at hr
  repeat' split at hr
  all_goals
    cases hr
    repeat' first
      | with_reducible exact h
      | with_reducible apply KeepsProcs.putShell
      | with_reducible apply KeepsProcs.dropPipe
      | with_reducible apply KeepsProcs.spawnShell

theorem KeepsProcs.step (h : KeepsProcs w₀ w) {pid : Nat} : KeepsProcs w₀ (Shell.step w pid).1 := by
  unfold Shell.step
  split
  · split
    · split
      · exact h
      · extract_lets trapped s' w' p'
        -- a noted child's end only changes the shell's own record
        have hW : KeepsProcs w₀ w' := by
          simp only [w']
          split
          · refine KeepsProcs.putShell (h.modifyProc ?_ ?_)
            · exact fun _ => rfl
            · exact fun _ _ => rfl
          · exact h
        split
        · -- a wait ends, or goes on
          split
          · exact hW.resume ‹_›
          · exact hW
        · split
          · -- a noted signal is handled, unless a command is part way through
            next w'' hSig =>
            split at hSig
            · exact absurd hSig (by simp)
            · exact hW.takeSignal hSig
          · split
            · exact hW.leave
            · exact hW.runFrame
    · exact h
  · exact h

/-! ### Time passing -/

theorem KeepsProcs.runShell {pid : Nat} :
    ∀ (budget : Nat) {w : World} {used : Nat}, KeepsProcs w₀ w → KeepsProcs w₀ (w.runShell pid used budget).1
  | 0, _, _, h => h
  | budget + 1, w, used, h => by
    unfold World.runShell
    have hStep : KeepsProcs w₀ (Shell.step w pid).1 := h.step
    split
    next w' heq =>
      rw [heq] at hStep
      exact KeepsProcs.runShell budget hStep
    next w' heq =>
      rw [heq] at hStep
      exact hStep

theorem KeepsProcs.sweep (h : KeepsProcs w₀ w) {spent : List (Nat × Nat)} :
    KeepsProcs w₀ (w.sweep spent).1 := by
  unfold World.sweep
  -- each runnable shell runs its share; a busy one is held back
  refine KeepsProcs.foldl_fst (fun acc pid hv => ?_) _ _ h
  dsimp only
  split
  · refine KeepsProcs.modifyProc (KeepsProcs.runShell _ hv) ?_ ?_
    · exact fun _ => rfl
    · exact fun _ _ => rfl
  · exact KeepsProcs.runShell _ hv

theorem KeepsProcs.settle (h : KeepsProcs w₀ w) : KeepsProcs w₀ w.settle := by
  unfold World.settle
  suffices hGo : ∀ (fuel : Nat) {w : World} {spent : List (Nat × Nat)}, KeepsProcs w₀ w →
      KeepsProcs w₀ (World.settle.go fuel w spent) from hGo _ h
  intro fuel
  induction fuel with
  | zero => intro w spent h; exact h
  | succ fuel ih =>
    intro w spent h
    unfold World.settle.go
    dsimp only
    split
    · exact ih h.sweep
    · exact h.sweep

theorem KeepsProcs.wake (h : KeepsProcs w₀ w) : KeepsProcs w₀ w.wake := by
  unfold World.wake
  refine KeepsProcs.foldl (fun v p hv => ?_) _ _ h
  repeat' split
  all_goals first
    | with_reducible exact hv
    | with_reducible exact hv.finish

theorem KeepsProcs.runUntil (h : KeepsProcs w₀ w) {deadline : Nat} {inclusive : Bool} :
    KeepsProcs w₀ (w.runUntil deadline inclusive) := by
  unfold World.runUntil
  suffices hGo : ∀ (fuel : Nat) {w : World}, KeepsProcs w₀ w →
      KeepsProcs w₀ (World.runUntil.go deadline inclusive fuel w) by
    dsimp only
    split
    · exact (hGo _ h).of_procs_eq rfl
    · exact hGo _ h
  intro fuel
  induction fuel with
  | zero => intro w h; exact h
  | succ fuel ih =>
    intro w h
    unfold World.runUntil.go
    dsimp only
    have hSettled : KeepsProcs w₀ w.wake.settle := h.wake.settle
    repeat' split
    all_goals first
      | with_reducible exact hSettled
      | exact ih (hSettled.of_procs_eq rfl)

theorem KeepsProcs.catchUp (h : KeepsProcs w₀ w) : KeepsProcs w₀ w.catchUp := h.runUntil

end World
end CrashTest.Os
