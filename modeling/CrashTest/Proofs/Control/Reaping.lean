import Mathlib
import CrashTest.Control.Controller
import CrashTest.Proofs.Control.Handle
/-!
# The controller reaps what it spawns

Waiting, running probe commands, signalling and stopping keep every process of the machine and
every way a process ended (`World.KeepsProcs`). A handle keeps its pid through every operation of
the controller and stays true to the machine (`Handle.Tracks`): its process exists, and has ended
when the handle says so. Stopping a target, forcefully or gracefully, and a wait for its exit that
is done, leave it ended.

Together these give the controller's discipline over its spawn history: started from a calm
machine, where every target it spawned has ended and each was spawned while no earlier one ran,
`startWithin` either holds one new target or, having reaped it, is calm again, and stopping the
held target makes it calm.
-/
namespace CrashTest.Control

open CrashTest.Os CrashTest.Target

/-! ### Waits keep the processes -/

section Wait

variable {α : Type} {w₀ : World}

/-- A wait that began at `w₀` kept every process, and one that is done came to `ready`'s
answer. -/
structure Waited.Sound (w₀ : World) (ready : World → Option α) (r : Waited World α) :
    Prop where
  keeps : World.KeepsProcs w₀ r.state
  done : ∀ w a, r = .done w a → ready w = some a

theorem waitUntil_go_sound {intr : Interrupt} {deadline : Option Nat} {precheck : Bool}
    {timer : Option Nat} {ready : World → Option α} {giveUp : World → Nat → Waited World α}
    (hGiveUp : ∀ v d, World.KeepsProcs w₀ v → (giveUp v d).Sound w₀ ready) (fuel : Nat) :
    ∀ (first : Bool) (v : World), World.KeepsProcs w₀ v →
      (waitUntil.go intr deadline precheck timer ready giveUp fuel first v).Sound w₀ ready := by
  induction fuel with
  | zero => exact fun _ _ hv => ⟨hv, by simp [waitUntil.go]⟩
  | succ fuel ih =>
    intro first v hv
    rw [waitUntil.go]
    split
    · exact ⟨hv, by simp⟩
    · dsimp only
      split
      · -- `ready` answered, when the wait could finish
        next a hReady =>
        refine ⟨hv, fun w a' hDone => ?_⟩
        cases hDone
        split at hReady
        · exact hReady
        · cases hReady
      · -- otherwise the wait goes on to the next event, or gives up at the deadline
        split
        · split
          · exact ih _ _ hv.runUntil
          · exact hGiveUp _ _ hv
        · exact ih _ _ hv.runUntil
        · exact hGiveUp _ _ hv
        · exact ⟨hv, by simp⟩

theorem waitUntil_sound (w : World) (intr : Interrupt) (deadline : Option Nat) (precheck : Bool)
    (timer : Option Nat) (ready : World → Option α) :
    (waitUntil w intr deadline precheck timer ready).Sound w ready := by
  unfold waitUntil
  refine waitUntil_go_sound (fun v d hv => ?_) _ _ _ (World.KeepsProcs.refl w).catchUp
  dsimp only
  split
  · exact ⟨hv.runUntil, by simp⟩
  · exact ⟨hv.runUntil, by simp⟩

theorem waitUntil_keeps {w : World} {intr : Interrupt} {deadline : Option Nat} {precheck : Bool}
    {timer : Option Nat} {ready : World → Option α} {r : Waited World α}
    (hr : waitUntil w intr deadline precheck timer ready = r) : World.KeepsProcs w r.state :=
  hr ▸ (waitUntil_sound w intr deadline precheck timer ready).keeps

theorem waitUntil_done {w w' : World} {intr : Interrupt} {deadline : Option Nat} {precheck : Bool}
    {timer : Option Nat} {ready : World → Option α} {a : α}
    (hr : waitUntil w intr deadline precheck timer ready = .done w' a) : ready w' = some a :=
  (waitUntil_sound w intr deadline precheck timer ready).done w' a hr

end Wait

end CrashTest.Control

namespace CrashTest.Os.World

open CrashTest.Control CrashTest.Target

/-- The process `pid` has ended on the machine. -/
def Ended (w : World) (pid : Nat) : Prop := ((w.proc? pid).bind (·.exit)).isSome

variable {w₀ w w' : World}

theorem KeepsProcs.ended_of_ended (h : KeepsProcs w w') {pid : Nat} (he : w.Ended pid) :
    w'.Ended pid := by
  obtain ⟨e, hExit⟩ := Option.isSome_iff_exists.1 he
  unfold Ended
  rw [h.exit_eq hExit]
  rfl

/-! ### Sleeping and probe commands keep the processes -/

variable {intr : Interrupt} {outer : Option Nat} {pid : Nat}

theorem KeepsProcs.runCommand (h : KeepsProcs w₀ w) {argv : List String}
    {limit : Option Duration} {r : Waited World (Except TargetError CommandOutput)}
    (hr : Target.runCommand w intr outer argv pid limit = r) : KeepsProcs w₀ r.state := by
  subst hr
  unfold Target.runCommand
  dsimp only
  split
  · exact h
  · split
    · exact h
    · next w₁ child hSpawn =>
      have h₁ : KeepsProcs w₀ w₁ := (h.newPipe.newPipe).spawn hSpawn
      -- the command's pipes are forgotten, and a command not done is killed
      split
      · next w₂ o hr => exact ((h₁.trans (waitUntil_keeps hr)).dropPipe).dropPipe
      · next w₂ hr => exact ((h₁.trans (waitUntil_keeps hr)).signal.dropPipe).dropPipe
      · next w₂ hr =>
        have h₂ := h₁.trans (waitUntil_keeps hr)
        split
        · split <;> exact (h₂.signal.dropPipe).dropPipe
        · exact (h₂.signal.dropPipe).dropPipe

theorem KeepsProcs.sleepUntil (h : KeepsProcs w₀ w) {deadline : Option Nat} {wake : Nat} :
    KeepsProcs w₀ (Control.sleepUntil w intr deadline wake).state :=
  h.trans (waitUntil_keeps rfl)

section Probes

variable (h : KeepsProcs w₀ w) (c : ProbeCommands)
include h

theorem KeepsProcs.isReady : KeepsProcs w₀ (Target.isReady c w intr outer pid).state := by
  unfold Target.isReady
  split
  · exact h
  · split <;> exact KeepsProcs.runCommand h ‹_›

theorem KeepsProcs.checkConsistency :
    KeepsProcs w₀ (Target.checkConsistency c w intr outer pid).state := by
  unfold Target.checkConsistency
  split
  · exact h
  · split <;> exact KeepsProcs.runCommand h ‹_›

theorem KeepsProcs.observableState :
    KeepsProcs w₀ (Target.observableState c w intr outer pid).state := by
  unfold Target.observableState
  split
  · exact h
  · split
    · split <;> exact KeepsProcs.runCommand h ‹_›
    all_goals exact KeepsProcs.runCommand h ‹_›

theorem KeepsProcs.runWorkload : KeepsProcs w₀ (Target.runWorkload c w intr outer pid).state := by
  unfold Target.runWorkload
  split
  · exact h
  · split
    · split <;> exact KeepsProcs.runCommand h ‹_›
    all_goals exact KeepsProcs.runCommand h ‹_›

end Probes

/-! The same, from the command's result. -/

section Results

variable {c : ProbeCommands}

theorem keeps_checkConsistency {r : Waited World (Except TargetError Consistency)}
    (hr : Target.checkConsistency c w intr outer pid = r) : KeepsProcs w r.state :=
  hr ▸ (KeepsProcs.refl w).checkConsistency c

theorem keeps_observableState {r : Waited World (Except TargetError StateSnapshot)}
    (hr : Target.observableState c w intr outer pid = r) : KeepsProcs w r.state :=
  hr ▸ (KeepsProcs.refl w).observableState c

theorem keeps_runWorkload {r : Waited World (Except TargetError Unit)}
    (hr : Target.runWorkload c w intr outer pid = r) : KeepsProcs w r.state :=
  hr ▸ (KeepsProcs.refl w).runWorkload c

end Results

/-! ### A spawned process exists -/

theorem placeProc_live {pid : Nat} {l : Launch} : ((w.placeProc pid l).proc? pid).isSome := by
  by_cases hSome : (w.proc? pid).isSome
  · exact (KeepsProcs.refl w).placeProc.isSome hSome
  · -- a new process is put after the others, none of which has its pid
    have hFind : w.procs.find? (·.pid == pid) = none := by simpa [proc?] using hSome
    simp [placeProc, proc?, List.find?_append, hFind]

theorem startIn_live (fuel : Nat) :
    ∀ {w w' : World} {pid : Nat} {l : Launch}, w.startIn pid fuel l = .ok w' →
      (w'.proc? pid).isSome := by
  induction fuel using Nat.strong_induction_on with
  | _ fuel ih =>
    intro w w' pid l hs
    unfold World.startIn at hs
    simp only [bind, Except.bind, pure, Except.pure, throw, throwThe, MonadExceptOf.throw] at hs
    repeat' split at hs
    all_goals first
      | (cases hs; done)
      | (cases hs; exact ((KeepsProcs.startIn_runProgram fuel).1 (.refl _)).isSome placeProc_live)
      | exact ih _ (Nat.lt_succ_self _) hs

theorem spawn_live {l : Launch} {child : Nat} (hs : w.spawn l = .ok (w', child)) :
    (w'.proc? child).isSome := by
  unfold World.spawn at hs
  simp only [bind, Except.bind, pure, Except.pure] at hs
  split at hs
  · cases hs
  · next v hv =>
    cases hs
    exact startIn_live 8 hv

end CrashTest.Os.World

namespace CrashTest.Control

open CrashTest.Os CrashTest.Target

/-! ### Handles stay true to the machine -/

/-- A handle is true to the machine: its process exists, and has ended if the handle says it
has. -/
structure Handle.Tracks (h : Handle) (w : World) : Prop where
  live : (w.proc? h.pid).isSome
  ended : h.exitStatus.isSome → w.Ended h.pid

theorem Handle.Tracks.keeps {h : Handle} {w w' : World} (ht : h.Tracks w)
    (hw : World.KeepsProcs w w') : h.Tracks w' :=
  ⟨hw.isSome ht.live, fun hs => hw.ended_of_ended (ht.ended hs)⟩

/-- An operation of the controller took the machine from `w` to `w'` and the handle from `h` to
`h'`: it kept every process and the handle's pid, and a handle true to the machine stays so. -/
structure HandleStep (w : World) (h : Handle) (w' : World) (h' : Handle) : Prop where
  keeps : World.KeepsProcs w w'
  pid_eq : h'.pid = h.pid
  tracks : h.Tracks w → h'.Tracks w'

namespace HandleStep

variable {w w₁ w₂ : World} {h h₁ h₂ : Handle}

theorem of_keeps (hw : World.KeepsProcs w w') : HandleStep w h w' h :=
  ⟨hw, rfl, fun ht => ht.keeps hw⟩

theorem trans (h₁₂ : HandleStep w h w₁ h₁) (h₂₃ : HandleStep w₁ h₁ w₂ h₂) :
    HandleStep w h w₂ h₂ :=
  ⟨h₁₂.keeps.trans h₂₃.keeps, h₂₃.pid_eq.trans h₁₂.pid_eq,
    fun ht => h₂₃.tracks (h₁₂.tracks ht)⟩

/-- A status that is not an end changes nothing the handle knows of its process. -/
theorem restatus (hw : World.KeepsProcs w w') {st : ProcessStatus}
    (hst : ({ h with status := st } : Handle).exitStatus = none) :
    HandleStep w h w' { h with status := st } :=
  ⟨hw, rfl, fun ht => ⟨hw.isSome ht.live, fun hs => by rw [hst] at hs; cases hs⟩⟩

/-- An end seen after a step is an end of the process the step began with. -/
theorem ended (hs : HandleStep w h w₁ h₁) {v : World}
    (he : h₁.Tracks w₁ → v.Ended h₁.pid) (ht : h.Tracks w) : v.Ended h.pid :=
  hs.pid_eq ▸ he (hs.tracks ht)

/-- Letting go of the forwarders changes nothing the handle knows of its process. -/
theorem forwarders (hw : World.KeepsProcs w w') (fs : List Nat) :
    HandleStep w h w' { h with forwarders := fs } :=
  ⟨hw, rfl, fun ht => ⟨hw.isSome ht.live, fun hs => hw.ended_of_ended (ht.ended hs)⟩⟩

end HandleStep

/-! ### Each operation on a handle is a step -/

variable {w w' : World} {h : Handle} {intr : Interrupt} {outer : Option Nat}

theorem tryExited_step : HandleStep w h w (h.tryExited w).1 := by
  unfold Handle.tryExited
  split
  · exact .of_keeps (.refl w)
  · split
    · -- the handle learns the exit the machine shows
      next e he =>
      exact ⟨.refl w, rfl, fun ht => ⟨ht.live, fun _ => by simp [World.Ended, he]⟩⟩
    · exact .of_keeps (.refl w)

theorem drain_go_keeps (ps : List Nat) {v : World} (hv : World.KeepsProcs w v) :
    World.KeepsProcs w (drain.go h intr outer ps v).state.1 := by
  induction ps generalizing v with
  | nil => exact hv
  | cons p rest ih =>
    unfold drain.go
    dsimp only
    split
    · next _ _ hr => exact ih (hv.trans (waitUntil_keeps hr))
    · next _ hr =>
      split
      · exact ih (hv.trans (waitUntil_keeps hr)).detach
      · exact hv.trans (waitUntil_keeps hr)
    · next _ hr => exact hv.trans (waitUntil_keeps hr)

theorem drain_step :
    HandleStep w h (drain w h intr outer).state.1 (drain w h intr outer).state.2 := by
  rw [drain_state]
  exact .forwarders (drain_go_keeps h.forwarders (.refl w)) []

/-- Draining after a step is a step, and a drain that is done keeps an end the step had seen. -/
theorem drain_after {v : World} {h' : Handle} (hStep : HandleStep w h v h')
    (hEnded : h.Tracks w → v.Ended h.pid) :
    HandleStep w h (drain v h' intr outer).state.1 (drain v h' intr outer).state.2 ∧
      (h.Tracks w → (drain v h' intr outer).state.1.Ended h.pid) :=
  ⟨hStep.trans drain_step, fun ht => drain_step.keeps.ended_of_ended (hEnded ht)⟩

/-- A wait for the end is a step, and one that is done has seen the process end. -/
theorem exited_step :
    HandleStep w h (exited w h intr outer).state.1 (exited w h intr outer).state.2 ∧
      ∀ st s, exited w h intr outer = .done st s → h.Tracks w → st.1.Ended h.pid := by
  unfold exited
  dsimp only
  split
  · -- seen to end already: only the drain is left
    next s hs =>
    have hd := @drain_after w h intr outer w h (.of_keeps (.refl w))
      fun ht => ht.ended (by rw [hs]; rfl)
    generalize drain w h intr outer = r at hd
    cases r <;> exact ⟨hd.1, fun _ _ hDone ht => by cases hDone <;> exact hd.2 ht⟩
  · split
    · -- the wait found the exit, which the handle now records
      next w' e hw =>
      have hEnded : w'.Ended h.pid := by simp [World.Ended, waitUntil_done hw]
      have hd := @drain_after w h intr outer w' _
        (⟨waitUntil_keeps hw, rfl,
            fun ht => ⟨(waitUntil_keeps hw).isSome ht.live, fun _ => hEnded⟩⟩ :
          HandleStep w h w' { h with status := .exited (exitStatusOf e) }) fun _ => hEnded
      generalize drain w' _ intr outer = r at hd
      cases r <;> exact ⟨hd.1, fun _ _ hDone ht => by cases hDone <;> exact hd.2 ht⟩
    · next w' hw => exact ⟨.of_keeps (waitUntil_keeps hw), fun _ _ hDone => nomatch hDone⟩
    · next w' hw => exact ⟨.of_keeps (waitUntil_keeps hw), fun _ _ hDone => nomatch hDone⟩

/-- A bounded wait for the end is a step, and one that found the end has seen the process end. -/
theorem waitExited_step {limit : Duration} :
    HandleStep w h (waitExited w h intr outer limit).state.1
        (waitExited w h intr outer limit).state.2 ∧
      ∀ st s, waitExited w h intr outer limit = .done st (.ok s) → h.Tracks w →
        st.1.Ended h.pid := by
  unfold waitExited
  dsimp only
  have hx := @exited_step w h intr (earlier (some (w.catchUp.now + limit.nanos)) outer)
  generalize exited w h intr _ = r at hx
  cases r with
  | done st s => exact ⟨hx.1, fun _ _ hDone => by cases hDone; exact hx.2 _ _ rfl⟩
  | interrupted st => exact ⟨hx.1, fun _ _ hDone => by cases hDone⟩
  | expired st => split_ifs <;> exact ⟨hx.1, fun _ _ hDone => by cases hDone⟩

@[simp] theorem settled_world (r : Waited (World × Handle) ExitStatus) :
    (settled r).1 = r.state.1 := by
  cases r <;> rfl

@[simp] theorem settled_handle (r : Waited (World × Handle) ExitStatus) :
    (settled r).2.1 = r.state.2 := by
  cases r <;> rfl

/-- A forceful stop is a step, and leaves the process ended. -/
theorem stopForceful_step :
    HandleStep w h (stopForceful w h).1 (stopForceful w h).2.1 ∧
      (h.Tracks w → (stopForceful w h).1.Ended h.pid) := by
  have hc : World.KeepsProcs w w.catchUp := (World.KeepsProcs.refl w).catchUp
  unfold stopForceful
  dsimp only
  split
  · next s hs =>
    have hx := @exited_step w.catchUp h .never none
    rw [settled_world, settled_handle]
    exact ⟨(HandleStep.of_keeps hc).trans hx.1,
      fun ht => hx.1.keeps.ended_of_ended (hc.ended_of_ended (ht.ended (by rw [hs]; rfl)))⟩
  · next hs =>
    have hk : World.KeepsProcs w (w.catchUp.signal h.pid sigKill).1 := hc.signal
    have hKill :
        HandleStep w h (w.catchUp.signal h.pid sigKill).1 { h with status := .stopping } :=
      .restatus hk rfl
    have hx := @exited_step (w.catchUp.signal h.pid sigKill).1 { h with status := .stopping }
      .never none
    rw [settled_world, settled_handle]
    refine ⟨hKill.trans hx.1, fun ht => hx.1.keeps.ended_of_ended ?_⟩
    -- KILL ends a process the machine has
    obtain ⟨p, hp, hEnded⟩ := World.signal_kill_ended (hc.isSome ht.live)
    simp [World.Ended, hp, hEnded]

/-- Sending a signal is a step. -/
theorem signal_step {sig : KillSignal} :
    HandleStep w h (signal w h sig).1 (signal w h sig).2.1 := by
  have hc : HandleStep w h w.catchUp h := .of_keeps (World.KeepsProcs.refl w).catchUp
  have hLook := hc.trans (@tryExited_step w.catchUp h)
  unfold signal
  dsimp only
  split
  · next h' s hte =>
    rw [hte] at hLook
    exact hLook
  · next h' hte =>
    rw [hte] at hLook
    have hSent : World.KeepsProcs w.catchUp (w.catchUp.signal h'.pid sig.number).1 :=
      (World.KeepsProcs.refl _).signal
    split
    · exact hLook.trans (.restatus hSent rfl)
    · exact hLook.trans (.of_keeps hSent)

/-- A graceful stop is a step, and leaves the process ended. -/
theorem stopGraceful_step {limit : Duration} :
    HandleStep w h (stopGraceful w h limit).1 (stopGraceful w h limit).2.1 ∧
      (h.Tracks w → (stopGraceful w h limit).1.Ended h.pid) := by
  unfold stopGraceful
  split
  · next s hs => exact ⟨.of_keeps (.refl w), fun ht => ht.ended (by rw [hs]; rfl)⟩
  · have hSig := @signal_step w h .terminate
    generalize signal w h .terminate = r at hSig
    obtain ⟨v, h', d⟩ := r
    dsimp only at hSig ⊢
    have hWait := @waitExited_step v h' .never none limit
    split
    · next v' h'' s hr =>
      rw [hr] at hWait
      exact ⟨hSig.trans hWait.1, hSig.ended (hWait.2 _ _ rfl)⟩
    · -- not stopped in time, or the wait was cut short: killed
      have hSoFar := hSig.trans hWait.1
      have hStop := @stopForceful_step (waitExited v h' .never none limit).state.1
        (waitExited v h' .never none limit).state.2
      exact ⟨hSoFar.trans hStop.1, hSoFar.ended hStop.2⟩

theorem awaitReady_go_step {probes : ProbeCommands} {poll : Duration} {deadline : Option Nat}
    {late : World × Handle → Waited (World × Handle) (Except ProcessError Unit)}
    (hLate : ∀ st, (late st).state = st) (fuel : Nat) :
    ∀ {v : World} {h' : Handle}, HandleStep w h v h' →
      HandleStep w h (awaitReady.go probes poll intr deadline late fuel v h').state.1
        (awaitReady.go probes poll intr deadline late fuel v h').state.2 := by
  induction fuel with
  | zero =>
    intro v h' hs
    rw [awaitReady.go, hLate]
    exact hs
  | succ fuel ih =>
    intro v h' hs
    rw [awaitReady.go]
    have hLook := (hs.trans (.of_keeps (World.KeepsProcs.refl v).catchUp)).trans
      (@tryExited_step v.catchUp h')
    split
    · next h'' s hte =>
      rw [hte] at hLook
      exact hLook
    · next h'' hte =>
      rw [hte] at hLook
      have hProbe : World.KeepsProcs v.catchUp
          (isReady probes v.catchUp intr deadline h''.pid).state :=
        (World.KeepsProcs.refl _).isReady probes
      split
      · next v' e hr =>
        rw [hr] at hProbe
        exact hLook.trans (.of_keeps hProbe)
      · next v' hr =>
        rw [hr] at hProbe
        exact hLook.trans (.restatus hProbe rfl)
      · -- not ready yet: sleep for one poll interval, and look again
        next v' hr =>
        rw [hr] at hProbe
        have hSleep :
            World.KeepsProcs v' (sleepUntil v' intr deadline (v'.now + poll.nanos)).state :=
          (World.KeepsProcs.refl _).sleepUntil
        split
        · next v'' _ hr' =>
          rw [hr'] at hSleep
          exact ih (hLook.trans (.of_keeps (hProbe.trans hSleep)))
        · next v'' hr' =>
          rw [hr'] at hSleep
          exact hLook.trans (.of_keeps (hProbe.trans hSleep))
        · next v'' hr' =>
          rw [hr'] at hSleep
          rw [hLate]
          exact hLook.trans (.of_keeps (hProbe.trans hSleep))
      · next v' hr =>
        rw [hr] at hProbe
        exact hLook.trans (.of_keeps hProbe)
      · next v' hr =>
        rw [hr] at hProbe
        rw [hLate]
        exact hLook.trans (.of_keeps hProbe)

/-- Waiting for readiness is a step. -/
theorem awaitReady_step {probes : ProbeCommands} {poll limit : Duration} :
    HandleStep w h (awaitReady w h probes poll limit intr outer).state.1
      (awaitReady w h probes poll limit intr outer).state.2 := by
  unfold awaitReady
  dsimp only
  refine awaitReady_go_step (fun st => ?_) _ (.of_keeps (.refl w))
  split <;> rfl

/-- Dropping a handle keeps every process. -/
theorem dropHandle_keeps : World.KeepsProcs w (dropHandle w h) := by
  have hCut : World.KeepsProcs w (h.forwarders.foldl World.detach w) :=
    World.KeepsProcs.foldl (fun _ _ hv => hv.detach) _ _ (.refl w)
  unfold dropHandle
  dsimp only
  split
  · exact hCut
  · exact hCut.signal

/-! ### The controller's discipline over its spawns -/

namespace Controller

variable {c c' : Controller} {probes : ProbeCommands} {limit : Duration}

/-- The targets the controller spawned that have not ended are none, exactly when every target
it spawned has ended. -/
theorem liveTargets_eq_nil_iff : c.liveTargets w = [] ↔ ∀ r ∈ c.history, w.Ended r.pid := by
  unfold liveTargets World.Ended
  rw [List.filter_eq_nil_iff, List.forall_mem_map]
  simp only [Bool.not_eq_true', Bool.not_eq_false]

/-- The controller is calm on the machine: each of its spawns found every target it had spawned
before ended, and every target it spawned has ended. -/
structure Calm (c : Controller) (w : World) : Prop where
  apart : ∀ r ∈ c.history, r.liveBefore = []
  ended : ∀ r ∈ c.history, w.Ended r.pid

theorem calm_iff : c.Calm w ↔ (∀ r ∈ c.history, r.liveBefore = []) ∧ c.liveTargets w = [] :=
  ⟨fun hc => ⟨hc.apart, liveTargets_eq_nil_iff.2 hc.ended⟩,
    fun ⟨hApart, hLive⟩ => ⟨hApart, liveTargets_eq_nil_iff.1 hLive⟩⟩

/-- The controller holds the running target `h`: its spawns were apart as in `Calm`, every other
target it spawned has ended, and `h` is true to the machine. -/
structure Holding (c : Controller) (w : World) (h : Handle) : Prop where
  apart : ∀ r ∈ c.history, r.liveBefore = []
  ended : ∀ r ∈ c.history, r.pid ≠ h.pid → w.Ended r.pid
  tracks : h.Tracks w

/-- Holding the target if there is one, and calm if not. -/
def HoldingSome (c : Controller) (w : World) : Option Handle → Prop
  | some h => c.Holding w h
  | none => c.Calm w

theorem Calm.keeps (hc : c.Calm w) (hw : World.KeepsProcs w w') : c.Calm w' :=
  ⟨hc.apart, fun r hr => hw.ended_of_ended (hc.ended r hr)⟩

theorem Holding.step (hc : c.Holding w h) {h' : Handle} (hs : HandleStep w h w' h') :
    c.Holding w' h' :=
  ⟨hc.apart, fun r hr hne => hs.keeps.ended_of_ended (hc.ended r hr (hs.pid_eq ▸ hne)),
    hs.tracks hc.tracks⟩

theorem HoldingSome.keeps {held : Option Handle} (hc : c.HoldingSome w held)
    (hw : World.KeepsProcs w w') : c.HoldingSome w' held := by
  cases held with
  | none => exact Calm.keeps hc hw
  | some h => exact Holding.step hc (.of_keeps hw)

/-- What the controller holds survives a run of commands that keeps the processes, from a machine
that differs from where it held it only outside the processes. -/
theorem HoldingSome.of_keeps_from {w₀ v : World} {held : Option Handle}
    (hk : World.KeepsProcs w v) (hc : c.HoldingSome w₀ held) (hw : w.procs = w₀.procs) :
    c.HoldingSome v held :=
  (hc.keeps ((World.KeepsProcs.refl _).of_procs_eq hw)).keeps hk

/-- A step that ends the held target leaves the controller calm. -/
theorem Holding.reaped (hc : c.Holding w h) {h' : Handle} (hs : HandleStep w h w' h')
    (he : h.Tracks w → w'.Ended h.pid) : c.Calm w' := by
  refine ⟨hc.apart, fun r hr => ?_⟩
  by_cases hPid : r.pid = h.pid
  · exact hPid ▸ he hc.tracks
  · exact hs.keeps.ended_of_ended (hc.ended r hr hPid)

theorem Holding.stopForceful (hc : c.Holding w h) :
    c.Calm (dropHandle (stopForceful w h).1 (stopForceful w h).2.1) :=
  (hc.reaped stopForceful_step.1 stopForceful_step.2).keeps dropHandle_keeps

theorem Holding.stopGraceful (hc : c.Holding w h) :
    c.Calm (dropHandle (stopGraceful w h limit).1 (stopGraceful w h limit).2.1) :=
  (hc.reaped stopGraceful_step.1 stopGraceful_step.2).keeps dropHandle_keeps

/-- A wait for the end that found it reaps the held target. -/
theorem Holding.waitExited (hc : c.Holding w h) {st : World × Handle} {s : ExitStatus}
    (hr : Control.waitExited w h intr outer limit = .done st (.ok s)) :
    c.Calm (dropHandle st.1 st.2) := by
  have hWait := @waitExited_step w h intr outer limit
  rw [hr] at hWait
  exact (hc.reaped hWait.1 (hWait.2 _ _ rfl)).keeps dropHandle_keeps

/-- A signal to the held target keeps it held. The machine may change before and after in
anything but its processes. -/
theorem Holding.signal {w₀ w₁ : World} {sig : KillSignal} (hc : c.Holding w₀ h)
    (hw : w.procs = w₀.procs) (hw₁ : w₁.procs = (Control.signal w h sig).1.procs) :
    c.Holding w₁ (Control.signal w h sig).2.1 :=
  ((hc.step (.of_keeps ((World.KeepsProcs.refl _).of_procs_eq hw))).step signal_step).step
    (.of_keeps ((World.KeepsProcs.refl _).of_procs_eq hw₁))

/-- The held target, signalled and then waited for, is still held with the handle the wait left,
whatever the wait came to. -/
theorem Holding.signal_waitExited {w₀ w₁ v : World} {h' : Handle} {sig : KillSignal}
    {r : Waited (World × Handle) (Except ProcessError ExitStatus)}
    (hr : Control.waitExited w₁ (Control.signal w h sig).2.1 intr outer limit = r)
    (hst : r.state = (v, h')) (hc : c.Holding w₀ h) (hw : w.procs = w₀.procs)
    (hw₁ : w₁.procs = (Control.signal w h sig).1.procs) : c.Holding v h' := by
  have hStep := (hc.signal hw hw₁).step (@waitExited_step w₁ _ intr outer limit).1
  rw [hr, hst] at hStep
  exact hStep

/-- The held target, signalled and then waited for until it ended, is reaped. -/
theorem Holding.signal_waitExited_done {w₀ w₁ v : World} {h' : Handle} {sig : KillSignal}
    {e : ExitStatus}
    (hr : Control.waitExited w₁ (Control.signal w h sig).2.1 intr outer limit =
      .done (v, h') (.ok e))
    (hc : c.Holding w₀ h) (hw : w.procs = w₀.procs)
    (hw₁ : w₁.procs = (Control.signal w h sig).1.procs) : c.Calm (dropHandle v h') :=
  (hc.signal hw hw₁).waitExited hr

/-- A spawn from a calm machine records that no earlier target ran, and holds the new one. -/
theorem Calm.spawn (hc : c.Calm w) (hs : c.spawn w = .ok (c', w', h)) : c'.Holding w' h := by
  unfold Controller.spawn at hs
  dsimp only at hs
  split at hs
  · cases hs
  · next _ w₂ child hSpawn =>
    simp only [Except.ok.injEq, Prod.mk.injEq] at hs
    obtain ⟨rfl, rfl, rfl⟩ := hs
    have hw : World.KeepsProcs w.catchUp w₂ :=
      ((World.KeepsProcs.refl _).newPipe.newPipe).spawn hSpawn
    have hCalm : c.Calm w₂ := (hc.keeps (World.KeepsProcs.refl w).catchUp).keeps hw
    refine ⟨?_, ?_,
      ⟨World.spawn_live hSpawn, fun hSome => by simp [Handle.exitStatus] at hSome⟩⟩
    · -- the new record finds every earlier target ended
      intro r hr
      rcases List.mem_append.1 hr with hr | hr
      · exact hc.apart r hr
      · rw [List.mem_singleton.1 hr]
        exact liveTargets_eq_nil_iff.2 (hc.keeps (World.KeepsProcs.refl w).catchUp).ended
    · intro r hr hne
      rcases List.mem_append.1 hr with hr | hr
      · exact hCalm.ended r hr
      · exact absurd (by rw [List.mem_singleton.1 hr]) hne

/-- A target spawned from a calm machine and then awaited is held, whatever the wait came to. The
machine may change between the steps in anything but its processes. -/
theorem Calm.spawn_awaitReady {w₀ w₁ v : World} {h' : Handle} {poll : Duration}
    {intr : Interrupt} {outer : Option Nat}
    {r : Waited (World × Handle) (Except ProcessError Unit)}
    (hc : c.Calm w₀) (hw : w.procs = w₀.procs) (hs : c.spawn w = .ok (c', w', h))
    (hw' : w₁.procs = w'.procs) (hr : awaitReady w₁ h probes poll limit intr outer = r)
    (hst : r.state = (v, h')) : c'.Holding v h' := by
  have hHold : c'.Holding w₁ h :=
    (hc.keeps ((World.KeepsProcs.refl _).of_procs_eq hw)).spawn hs |>.step
      (.of_keeps ((World.KeepsProcs.refl _).of_procs_eq hw'))
  have hStep := hHold.step (@awaitReady_step w₁ h intr outer probes poll limit)
  rw [hr, hst] at hStep
  exact hStep

/-- A start from a calm machine holds the target it returns, and leaves the controller calm when
it fails: a target that did not become ready is killed and reaped. -/
theorem Calm.startWithin (hc : c.Calm w) :
    (c.startWithin w probes limit).1.HoldingSome (c.startWithin w probes limit).2.1
      (c.startWithin w probes limit).2.2.toOption := by
  unfold Controller.startWithin
  split
  · exact hc
  · next c₁ w₁ h₁ hs =>
    have hHold := hc.spawn hs
    have hReady := @awaitReady_step w₁ h₁ .never none probes c₁.spec.pollInterval limit
    dsimp only
    split
    · next v h' hr =>
      rw [hr] at hReady
      exact hHold.step hReady
    · next v h' e hr =>
      rw [hr] at hReady
      exact (hHold.step hReady).stopForceful
    · -- cut short or out of time: killed and reaped all the same
      exact (hHold.step hReady).stopForceful

end Controller

end CrashTest.Control
