import Mathlib
import CrashTest.Control.Session
import CrashTest.Proofs.Os.Processes
/-!
# An ended handle stays ended

Once the controller has seen a process end, the handle's status is `exited s` for good, and
every operation that reports an exit reports `s`: looking again, waiting, stopping gracefully or
by force. Sending a signal to it sends nothing and only lets the world catch up, and waiting for
its readiness fails with `exitedDuringStartup s`. Waiting for an ended handle may still give up,
but only with a timeout: its forwarders may take longer to drain than the wait allows.

A forceful stop always leaves the handle ended with the status it returns, provided its process
is in the world: `KILL` ends the process at once, the world catching up keeps it ended
(`World.KeepsProcs.catchUp`), so the wait after it finds the exit at its first look. A second
forceful stop then returns the same status.

The same holds of a scripted session, over every sequence of actions that keeps its handle.
-/
namespace CrashTest.Control
open CrashTest CrashTest.Os

variable {w : World} {h : Handle} {s : ExitStatus} {intr : Interrupt} {outer : Option Nat}

theorem Handle.exitStatus_eq_some_iff : h.exitStatus = some s ↔ h.status = .exited s := by
  unfold Handle.exitStatus
  split <;> simp_all

theorem Handle.exitStatus_eq_some (hs : h.status = .exited s) : h.exitStatus = some s :=
  Handle.exitStatus_eq_some_iff.2 hs

theorem Handle.tryExited_of_exited (hs : h.status = .exited s) : h.tryExited w = (h, some s) := by
  simp [Handle.tryExited, Handle.exitStatus_eq_some hs]

theorem drain_go_state (ps : List Nat) (w : World) :
    (drain.go h intr outer ps w).state.2 = { h with forwarders := [] } := by
  induction ps generalizing w with
  | nil => rfl
  | cons p rest ih =>
    unfold drain.go
    dsimp only
    split
    · exact ih _
    · split
      · exact ih _
      · rfl
    · rfl

/-- Draining gives up the forwarders, however it ends. -/
theorem drain_state : (drain w h intr outer).state.2 = { h with forwarders := [] } :=
  drain_go_state h.forwarders w

/-- Waiting for an ended handle keeps it ended, and reports its status when the wait is done. -/
theorem exited_of_exited (hs : h.status = .exited s) :
    (exited w h intr outer).state.2 = { h with forwarders := [] } ∧
      ∀ st s', exited w h intr outer = .done st s' → s' = s := by
  have hDrain := @drain_state w h intr outer
  unfold exited
  rw [Handle.exitStatus_eq_some hs]
  simp only
  -- only the forwarders are left to drain, and that may be cut short
  split
  · next st _ hd =>
    rw [hd] at hDrain
    exact ⟨hDrain, fun _ _ hDone => by cases hDone; rfl⟩
  · next st hd =>
    rw [hd] at hDrain
    exact ⟨hDrain, fun _ _ hDone => nomatch hDone⟩
  · next st hd =>
    rw [hd] at hDrain
    exact ⟨hDrain, fun _ _ hDone => nomatch hDone⟩

theorem waitExited_of_exited {limit : Duration} (hs : h.status = .exited s) :
    (waitExited w h intr outer limit).state.2 = { h with forwarders := [] } ∧
      ∀ st s', waitExited w h intr outer limit = .done st (.ok s') → s' = s := by
  unfold waitExited
  dsimp only
  have hExited := @exited_of_exited w h s intr
    (earlier (some (w.catchUp.now + limit.nanos)) outer) hs
  split
  · next st s'' hd =>
    rw [hd] at hExited
    exact ⟨hExited.1, fun _ _ hDone => by cases hDone; exact hExited.2 _ _ rfl⟩
  · next st hd =>
    rw [hd] at hExited
    exact ⟨hExited.1, fun _ _ hDone => nomatch hDone⟩
  · -- a drain cut off by the deadline is a timeout, or leaves the wait expired
    next st hd =>
    rw [hd] at hExited
    split
    · exact ⟨hExited.1, fun _ _ hDone => by cases hDone⟩
    · exact ⟨hExited.1, fun _ _ hDone => nomatch hDone⟩

/-- A wait that leaves the handle ended with `s`, and is done only with `s`, settles on `s`. -/
theorem settled_of_exited {r : Waited (World × Handle) ExitStatus}
    (hState : r.state.2.status = .exited s) (hDone : ∀ st s', r = .done st s' → s' = s) :
    settled r = (r.state.1, r.state.2, s) := by
  cases r with
  | done st s' =>
    obtain rfl := hDone st s' rfl
    rfl
  | interrupted st | expired st =>
    simp only [Waited.state] at hState
    simp [settled, Waited.state, Handle.exitStatus_eq_some hState]

/-- A forceful stop of an ended handle kills nothing: it drains and returns the status. -/
theorem stopForceful_of_exited (hs : h.status = .exited s) :
    (stopForceful w h).2 = ({ h with forwarders := [] }, s) := by
  have hExited := @exited_of_exited w.catchUp h s .never none hs
  unfold stopForceful
  dsimp only
  rw [Handle.exitStatus_eq_some hs]
  dsimp only
  rw [settled_of_exited (by rw [hExited.1]; exact hs) hExited.2, hExited.1]

/-- A wait whose condition holds when it begins ends at its first look, with nothing run. -/
theorem waitUntil_of_ready {α : Type} {deadline timer : Option Nat} {ready : World → Option α} {a : α}
    (hCheck : intr.check w.catchUp = false) (hReady : ready w.catchUp = some a) :
    waitUntil w intr deadline true timer ready = .done w.catchUp a := by
  unfold waitUntil
  rw [show (10000000 : Nat) = 9999999 + 1 from rfl, waitUntil.go]
  simp [hCheck, hReady]

/-- Once the wait for a running process finds its exit, `exited` goes on as for a handle that had
seen it end. -/
theorem exited_of_ready {w' : World} {e : Exit} (hx : h.exitStatus = none)
    (hw : waitUntil w intr outer true none (fun w => (w.proc? h.pid).bind (·.exit)) = .done w' e) :
    exited w h intr outer = exited w' { h with status := .exited (exitStatusOf e) } intr outer := by
  unfold exited
  rw [hx, hw]
  simp [Handle.exitStatus]

/-- A forceful stop of a process the world has: `KILL` ends it, and the wait finds the exit at its
first look, so the handle is left ended with the status returned. -/
theorem stopForceful_of_running (hx : h.exitStatus = none) (hp : (w.proc? h.pid).isSome) :
    ∃ s, (stopForceful w h).2 = ({ h with status := .exited s, forwarders := [] }, s) := by
  have hp₁ : (w.catchUp.proc? h.pid).isSome := (World.KeepsProcs.refl w).catchUp.isSome hp
  obtain ⟨p, hpKill, hsKill⟩ := World.signal_kill_ended hp₁
  obtain ⟨e, he⟩ := Option.isSome_iff_exists.1 hsKill
  -- the exit is still there once the killed world catches up
  have hEnded : (((w.catchUp.signal h.pid sigKill).1).catchUp.proc? h.pid).bind (·.exit) = some e :=
    (World.KeepsProcs.refl _).catchUp.exit_eq (by rw [hpKill, Option.bind_some, he])
  have hWait : waitUntil (w.catchUp.signal h.pid sigKill).1 Interrupt.never none true none
      (fun w => (w.proc? h.pid).bind (·.exit)) =
      .done ((w.catchUp.signal h.pid sigKill).1).catchUp e :=
    waitUntil_of_ready rfl hEnded
  have hExited := @exited_of_exited ((w.catchUp.signal h.pid sigKill).1).catchUp
    { h with status := .exited (exitStatusOf e) } (exitStatusOf e) .never none rfl
  refine ⟨exitStatusOf e, ?_⟩
  unfold stopForceful
  dsimp only
  rw [hx]
  dsimp only
  rw [@exited_of_ready _ { h with status := .stopping } .never none _ _ rfl hWait, settled_of_exited (by rw [hExited.1]) hExited.2, hExited.1]

/-- A forceful stop of a process the world has leaves the handle ended, with the status it
returns, whether or not it had been seen to end before. -/
theorem stopForceful_ends (hp : (w.proc? h.pid).isSome) :
    ∃ s, (stopForceful w h).2 = ({ h with status := .exited s, forwarders := [] }, s) := by
  cases hx : h.exitStatus with
  | none => exact stopForceful_of_running hx hp
  | some s =>
    have hs := Handle.exitStatus_eq_some_iff.1 hx
    refine ⟨s, ?_⟩
    rw [stopForceful_of_exited hs]
    obtain ⟨pid, startedAt, status, forwarders⟩ := h
    subst hs
    rfl

theorem stopForceful_status (hp : (w.proc? h.pid).isSome) :
    (stopForceful w h).2.1.status = .exited (stopForceful w h).2.2 := by
  obtain ⟨s, hs⟩ := stopForceful_ends hp
  rw [hs]

/-- A second forceful stop returns what the first did. -/
theorem stopForceful_twice (hp : (w.proc? h.pid).isSome) :
    (stopForceful (stopForceful w h).1 (stopForceful w h).2.1).2.2 = (stopForceful w h).2.2 := by
  rw [stopForceful_of_exited (stopForceful_status hp)]

theorem stopGraceful_of_exited {limit : Duration} (hs : h.status = .exited s) :
    stopGraceful w h limit = (w, h, s) := by
  unfold stopGraceful
  rw [Handle.exitStatus_eq_some hs]

/-- A signal to an ended handle sends nothing. -/
theorem signal_of_exited {sig : KillSignal} (hs : h.status = .exited s) :
    signal w h sig = (w.catchUp, h, .alreadyExited) := by
  unfold signal
  dsimp only
  rw [Handle.tryExited_of_exited hs]

/-- Waiting for an ended handle to become ready fails at once, with the status. -/
theorem awaitReady_of_exited {probes : ProbeCommands} {poll limit : Duration}
    (hs : h.status = .exited s) :
    awaitReady w h probes poll limit intr outer = .done (w.catchUp, h) (.error (.exitedDuringStartup s)) := by
  unfold awaitReady
  dsimp only
  rw [show (10000000 : Nat) = 9999999 + 1 from rfl, awaitReady.go]
  rw [Handle.tryExited_of_exited hs]

/-- The only error a wait for the end gives is a timeout. -/
theorem waitExited_error {limit : Duration} {st : World × Handle} {e : ProcessError}
    (hd : waitExited w h intr outer limit = .done st (.error e)) : e = .timeout limit := by
  unfold waitExited at hd
  dsimp only at hd
  split at hd
  · cases hd
  · cases hd
  · split at hd
    · cases hd
      rfl
    · cases hd

namespace Action

/-- Whether the action acts on the current handle, or leaves it alone; spawning, starting and
dropping replace it. -/
def keepsHandle : Action → Bool
  | .spawn | .start _ | .drop => false
  | _ => true

/-- The answer an action gives for a handle that has ended with `s`, given the session before it
and the session and reply after it. -/
def AfterExit (s : ExitStatus) (before : Session) : Action → Session × Reply → Prop
  | .awaitReady _, (_, r) => r = .failed (.exitedDuringStartup s)
  | .waitExited limit, (_, r) => r = .exit s ∨ r = .failed (.timeout limit)
  | .stopForceful, (_, r) | .stopGraceful _, (_, r) => r = .exit s
  | .signal _, (after, r) => after.world = before.world.catchUp ∧ r = .delivery .alreadyExited
  | .tryExited, (_, r) | .exitStatus, (_, r) => r = .exitIfKnown (some s)
  | .status, (_, r) => r = .status (.exited s)
  | _, _ => True

end Action

namespace Session

/-- The session's handle is the one for `pid`, and it has ended with `s`. -/
def HandleExited (pid : Nat) (s : ExitStatus) (ss : Session) : Prop :=
  ∃ h, ss.handle = some h ∧ h.pid = pid ∧ h.status = .exited s

/-- One action that keeps an ended handle: it stays ended, and the action answers as for an ended
handle. -/
theorem run_of_handleExited {ss : Session} {pid : Nat} (hss : ss.HandleExited pid s) {a : Action}
    (ha : a.keepsHandle = true) :
    (ss.run a).1.HandleExited pid s ∧ a.AfterExit s ss (ss.run a) := by
  obtain ⟨h, hh, hPid, hs⟩ := hss
  cases a with
  | spawn | start _ | drop => cases ha
  | awaitReady limit =>
    simp only [Session.run, Session.withHandle, hh, awaitReady_of_exited hs]
    exact ⟨⟨h, rfl, hPid, hs⟩, rfl⟩
  | waitExited limit =>
    have hWait := @waitExited_of_exited ss.world h s .never none limit hs
    simp only [Session.run, Session.withHandle, hh]
    refine ⟨⟨_, rfl, by rw [hWait.1, hPid], by rw [hWait.1, hs]⟩, ?_⟩
    split
    · next st s' hd => exact .inl (by rw [hWait.2 _ _ hd])
    · next st e hd => exact .inr (by rw [waitExited_error hd])
    · exact .inr rfl
  | stopForceful =>
    have hStop := @stopForceful_of_exited ss.world h s hs
    simp only [Session.run, Session.withHandle, hh]
    rcases hResult : stopForceful ss.world h with ⟨w', h', st⟩
    rw [hResult] at hStop
    obtain ⟨rfl, rfl⟩ := Prod.mk.inj hStop
    exact ⟨⟨_, rfl, hPid, hs⟩, rfl⟩
  | stopGraceful limit =>
    simp only [Session.run, Session.withHandle, hh, stopGraceful_of_exited hs]
    exact ⟨⟨h, rfl, hPid, hs⟩, rfl⟩
  | signal sig =>
    simp only [Session.run, Session.withHandle, hh, signal_of_exited hs]
    exact ⟨⟨h, rfl, hPid, hs⟩, rfl, rfl⟩
  | tryExited =>
    simp only [Session.run, Session.withHandle, hh, Handle.tryExited_of_exited hs]
    exact ⟨⟨h, rfl, hPid, hs⟩, rfl⟩
  | status =>
    simp only [Session.run, Session.withHandle, hh]
    exact ⟨⟨h, hh, hPid, hs⟩, by rw [hs]; rfl⟩
  | exitStatus =>
    simp only [Session.run, Session.withHandle, hh]
    exact ⟨⟨h, hh, hPid, hs⟩, by rw [Handle.exitStatus_eq_some hs]; rfl⟩
  | spawnCount => exact ⟨⟨h, hh, hPid, hs⟩, trivial⟩
  | waitLine needle limit =>
    simp only [Session.run]
    split <;> exact ⟨⟨h, hh, hPid, hs⟩, trivial⟩
  | output => exact ⟨⟨h, hh, hPid, hs⟩, trivial⟩

/-- The session after running the actions one after the other. -/
def after (ss : Session) (as : List Action) : Session := as.foldl (fun ss a => (ss.run a).1) ss

theorem after_append {ss : Session} {as bs : List Action} : ss.after (as ++ bs) = (ss.after as).after bs :=
  List.foldl_append

/-- Over any actions that keep the handle, an ended handle stays ended the same way. -/
theorem after_of_handleExited {pid : Nat} :
    ∀ (as : List Action) {ss : Session}, ss.HandleExited pid s → (∀ a ∈ as, a.keepsHandle = true) →
      (ss.after as).HandleExited pid s
  | [], _, hss, _ => hss
  | a :: as, ss, hss, hKeep => by
    have hNext := (run_of_handleExited hss (hKeep a List.mem_cons_self)).1
    exact after_of_handleExited as hNext fun b hb => hKeep b (List.mem_cons_of_mem a hb)

/-- Every action of such a sequence answers as for an ended handle. -/
theorem reply_of_handleExited {pid : Nat} {ss : Session} {pre post : List Action} {a : Action}
    (hss : ss.HandleExited pid s) (hKeep : ∀ b ∈ pre ++ a :: post, b.keepsHandle = true) :
    a.AfterExit s (ss.after pre) ((ss.after pre).run a) := by
  have hPre := after_of_handleExited pre hss fun b hb => hKeep b (List.mem_append_left _ hb)
  exact (run_of_handleExited hPre (hKeep a (by simp))).2

/-- A forceful stop of a handle whose process the world has leaves it ended with the status it
answers. -/
theorem run_stopForceful {ss : Session} {h : Handle} (hh : ss.handle = some h)
    (hp : (ss.world.proc? h.pid).isSome) :
    ∃ r, (ss.run .stopForceful).2 = .exit r ∧ (ss.run .stopForceful).1.HandleExited h.pid r := by
  obtain ⟨r, hr⟩ := stopForceful_ends hp
  simp only [Session.run, Session.withHandle, hh]
  rcases hResult : stopForceful ss.world h with ⟨w', h', r'⟩
  rw [hResult] at hr
  obtain ⟨rfl, rfl⟩ := Prod.mk.inj hr
  exact ⟨_, rfl, _, rfl, rfl, rfl⟩

end Session

/-- Once the controller has seen a process end with status `s`, the handle stays ended with `s`:
every look, wait and stop reports `s` (a wait may still give up, with a timeout), a signal sends
nothing and only lets the world catch up, and waiting for readiness fails with
`exitedDuringStartup s`. A forceful stop of a process the world has always leaves the handle
ended with the status it returns, so a second one returns it again. In a session, over every
sequence of actions that keeps the handle, the handle stays ended with `s` and each action
answers as for an ended handle. -/
theorem exited_handle_stays_exited :
    (∀ (w : World) (h : Handle) (s : ExitStatus), h.status = .exited s →
      h.exitStatus = some s ∧ h.tryExited w = (h, some s) ∧
      (∀ intr outer, (exited w h intr outer).state.2 = { h with forwarders := [] } ∧
        ∀ st s', exited w h intr outer = .done st s' → s' = s) ∧
      (∀ intr outer limit, (waitExited w h intr outer limit).state.2 = { h with forwarders := [] } ∧
        (∀ st s', waitExited w h intr outer limit = .done st (.ok s') → s' = s) ∧
        (∀ st e, waitExited w h intr outer limit = .done st (.error e) → e = .timeout limit)) ∧
      (∀ limit, stopGraceful w h limit = (w, h, s)) ∧
      (stopForceful w h).2 = ({ h with forwarders := [] }, s) ∧
      (∀ sig, signal w h sig = (w.catchUp, h, .alreadyExited)) ∧
      (∀ probes poll limit intr outer,
        awaitReady w h probes poll limit intr outer = .done (w.catchUp, h) (.error (.exitedDuringStartup s)))) ∧
    (∀ (w : World) (h : Handle), (w.proc? h.pid).isSome →
      ∃ s, (stopForceful w h).2 = ({ h with status := .exited s, forwarders := [] }, s) ∧
        (stopForceful (stopForceful w h).1 (stopForceful w h).2.1).2.2 = s) ∧
    (∀ (ss : Session) (pid : Nat) (s : ExitStatus) (pre post : List Action) (a : Action),
      ss.HandleExited pid s → (∀ b ∈ pre ++ a :: post, b.keepsHandle = true) →
      (ss.after (pre ++ a :: post)).HandleExited pid s ∧
        a.AfterExit s (ss.after pre) ((ss.after pre).run a)) := by
  refine ⟨fun w h s hs => ?_, fun w h hp => ?_, fun ss pid s pre post a hss hKeep => ?_⟩
  · refine ⟨Handle.exitStatus_eq_some hs, Handle.tryExited_of_exited hs,
      fun _ _ => exited_of_exited hs, fun intr outer limit => ?_, fun _ => stopGraceful_of_exited hs,
      stopForceful_of_exited hs, fun _ => signal_of_exited hs, fun _ _ _ _ _ => awaitReady_of_exited hs⟩
    have hWait := @waitExited_of_exited w h s intr outer limit hs
    exact ⟨hWait.1, hWait.2, fun _ _ => waitExited_error⟩
  · obtain ⟨s, hs⟩ := stopForceful_ends hp
    refine ⟨s, hs, ?_⟩
    rw [stopForceful_twice hp, hs]
  · exact ⟨Session.after_of_handleExited _ hss hKeep, Session.reply_of_handleExited hss hKeep⟩

end CrashTest.Control
