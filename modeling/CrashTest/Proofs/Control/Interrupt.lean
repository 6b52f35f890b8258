import Mathlib
import CrashTest.Control.Controller
import CrashTest.Proofs.Output.Bus
/-!
# A wait is cut short only where what it races holds

A wait looks at its interrupt before anything else at every instant it looks, so it answers
`interrupted` only with a machine on which the interrupt holds. The waits built on `waitUntil`
answer that machine, or, when a probe command is cut short, that machine after the command is
killed and its pipes let go (`Target.abandon`). What fires a trigger survives that: killing a
command ends processes and may publish their last lines, but it turns no clock back and unfires no
probe that fired (`World.KeepsFired`). An interrupt that killing a command cannot
undo (`Interrupt.Sticky`) therefore holds wherever any of these waits is cut short.
-/
namespace CrashTest

/-- A probe that has fired has still fired after a line is published. -/
theorem EventBus.fired?_publish {b : EventBus} {id : Nat} (h : (b.fired? id).isSome)
    (e : OutputEvent) : ((b.publish e).fired? id).isSome := by
  unfold EventBus.fired? at h ⊢
  rw [EventBus.find?_publish]
  cases hs : b.find? id with
  | none => simp [hs] at h
  | some s =>
    obtain ⟨sid, l, live⟩ := s
    simp only [hs] at h
    cases l with
    | queue _ => cases h
    | probe c f =>
      obtain ⟨n, rfl⟩ := Option.isSome_iff_exists.1 h
      -- a live probe fires again or keeps what it had; a stopped one is left alone
      cases live with
      | false => rfl
      | true =>
        simp only [Option.map_some, Subscription.deliver, Listener.receive, if_true]
        rcases c.observe e.line with ⟨c', _ | m⟩ <;> rfl

end CrashTest

namespace CrashTest.Os.World

variable {w₀ w : World}

/-- What has fired on `w` has fired on `w'`: the clock has not gone back, and every probe that
fired is still fired. -/
structure KeepsFired (w w' : World) : Prop where
  now_le : w.now ≤ w'.now
  fired : ∀ ⦃id : Nat⦄, (w.bus.fired? id).isSome → (w'.bus.fired? id).isSome

theorem KeepsFired.refl (w : World) : KeepsFired w w := ⟨le_refl _, fun _ h => h⟩

theorem KeepsFired.trans {w₁ w₂ w₃ : World} (h₁ : KeepsFired w₁ w₂) (h₂ : KeepsFired w₂ w₃) :
    KeepsFired w₁ w₃ :=
  ⟨h₁.now_le.trans h₂.now_le, fun _ h => h₂.fired (h₁.fired h)⟩

/-- A step that changes neither the clock nor the bus keeps what has fired. -/
theorem KeepsFired.of_eq {w' : World} (h : KeepsFired w₀ w) (hNow : w'.now = w.now)
    (hBus : w'.bus = w.bus) : KeepsFired w₀ w' :=
  ⟨hNow ▸ h.now_le, fun _ hf => hBus ▸ h.fired hf⟩

theorem KeepsFired.publish (h : KeepsFired w₀ w) (e : OutputEvent) :
    KeepsFired w₀ { w with bus := w.bus.publish e } :=
  ⟨h.now_le, fun _ hf => EventBus.fired?_publish (h.fired hf) e⟩

theorem KeepsFired.modifyPipe (h : KeepsFired w₀ w) {id : Nat} {f : Pipe → Pipe} :
    KeepsFired w₀ (w.modifyPipe id f) :=
  h.of_eq rfl rfl

theorem KeepsFired.foldl {α : Type} {f : World → α → World}
    (hf : ∀ v x, KeepsFired w₀ v → KeepsFired w₀ (f v x)) :
    ∀ (xs : List α) (v : World), KeepsFired w₀ v → KeepsFired w₀ (xs.foldl f v)
  | [], _, hv => hv
  | x :: xs, v, hv => KeepsFired.foldl hf xs (f v x) (hf v x hv)

theorem KeepsFired.closeUnheld (h : KeepsFired w₀ w) : KeepsFired w₀ w.closeUnheld := by
  unfold World.closeUnheld
  -- each pipe is closed, emptied or detached, and at most one line published
  refine KeepsFired.foldl (fun v p hv => ?_) _ _ h
  dsimp only
  repeat' split
  all_goals first
    | exact hv
    | exact hv.modifyPipe.modifyPipe.publish _
    | exact hv.of_eq rfl rfl

theorem KeepsFired.finish (h : KeepsFired w₀ w) {pid : Nat} {e : Exit} :
    KeepsFired w₀ (w.finish pid e) := by
  unfold World.finish
  dsimp only
  refine KeepsFired.closeUnheld ?_
  split <;> exact h.of_eq rfl rfl

theorem KeepsFired.signal (h : KeepsFired w₀ w) {pid sig : Nat} :
    KeepsFired w₀ (w.signal pid sig).1 := by
  unfold World.signal
  repeat' split
  all_goals first
    | exact h
    | exact h.finish
    | exact h.of_eq rfl rfl

theorem KeepsFired.dropPipe (h : KeepsFired w₀ w) {id : Nat} : KeepsFired w₀ (w.dropPipe id) :=
  h.of_eq rfl rfl

/-- Killing a probe command and letting go of its pipes keeps what has fired. -/
theorem KeepsFired.abandon (h : KeepsFired w₀ w) {child out err : Nat} :
    KeepsFired w₀ (Target.abandon w child out err) :=
  h.signal.dropPipe.dropPipe

end CrashTest.Os.World

namespace CrashTest.Control

open CrashTest.Os CrashTest.Target

variable {α : Type} {intr : Interrupt}

/-- The loop of a wait is cut short only where its interrupt holds, given that giving up is. -/
theorem waitUntil_go_cut_short {deadline : Option Nat} {precheck : Bool} {timer : Option Nat}
    {ready : World → Option α} {giveUp : World → Nat → Waited World α}
    (hGiveUp : ∀ v d s, giveUp v d = .interrupted s → intr.check s = true) (fuel : Nat) :
    ∀ (first : Bool) (v s : World),
      waitUntil.go intr deadline precheck timer ready giveUp fuel first v = .interrupted s →
        intr.check s = true := by
  induction fuel with
  | zero => intro _ _ _ h; simp [waitUntil.go] at h
  | succ fuel ih =>
    intro first v s h
    rw [waitUntil.go] at h
    split at h
    · -- the interrupt is looked at first
      cases h
      assumption
    · dsimp only at h
      split at h
      · cases h
      · -- the wait goes on to the next event, or gives up at the deadline
        split at h
        · split at h
          · exact ih _ _ _ h
          · exact hGiveUp _ _ _ h
        · exact ih _ _ _ h
        · exact hGiveUp _ _ _ h
        · cases h

/-- A wait is cut short only at a machine on which its interrupt holds. -/
theorem waitUntil_cut_short {w s : World} {deadline : Option Nat} {precheck : Bool}
    {timer : Option Nat} {ready : World → Option α}
    (h : waitUntil w intr deadline precheck timer ready = .interrupted s) :
    intr.check s = true := by
  unfold waitUntil at h
  refine waitUntil_go_cut_short (fun v d s hs => ?_) _ _ _ _ h
  dsimp only at hs
  split at hs
  · cases hs
    assumption
  · cases hs

/-- An interrupt that killing a probe command and letting go of its pipes cannot undo. -/
def Interrupt.Sticky (intr : Interrupt) : Prop :=
  ∀ w child out err, intr.check w = true → intr.check (abandon w child out err) = true

variable (hSticky : intr.Sticky)
include hSticky

/-- A probe command is cut short only where a sticky interrupt holds: it is killed after the
wait for it was. -/
theorem runCommand_cut_short {w s : World} {outer : Option Nat} {argv : List String} {pid : Nat}
    {limit : Option Duration} (h : runCommand w intr outer argv pid limit = .interrupted s) :
    intr.check s = true := by
  unfold runCommand at h
  split at h
  · cases h
  · dsimp only at h
    split at h
    · cases h
    · split at h
      · cases h
      · next w₂ hw =>
        cases h
        exact hSticky _ _ _ _ (waitUntil_cut_short hw)
      · -- the command took too long: it failed, or the wait outside it is over
        repeat' split at h
        all_goals cases h

theorem isReady_cut_short {c : ProbeCommands} {w s : World} {outer : Option Nat} {pid : Nat}
    (h : isReady c w intr outer pid = .interrupted s) : intr.check s = true := by
  unfold isReady at h
  split at h
  · cases h
  · split at h
    · cases h
    · next hr =>
      cases h
      exact runCommand_cut_short hSticky hr
    · cases h

/-- The loop of a wait for readiness is cut short only where a sticky interrupt holds, given
that giving up never is; by induction on the polls it has left, each a readiness command and then
a sleep. -/
theorem awaitReady_go_cut_short {probes : ProbeCommands} {poll : Duration}
    {deadline : Option Nat}
    {late : World × Handle → Waited (World × Handle) (Except ProcessError Unit)}
    (hLate : ∀ st st', late st ≠ .interrupted st') (fuel : Nat) :
    ∀ {v s : World} {g h' : Handle},
      awaitReady.go probes poll intr deadline late fuel v g = .interrupted (s, h') →
        intr.check s = true := by
  induction fuel with
  | zero =>
    intro v s g h' hr
    rw [awaitReady.go] at hr
    exact absurd hr (hLate _ _)
  | succ fuel ih =>
    intro v s g h' hr
    rw [awaitReady.go] at hr
    split at hr
    · cases hr
    · split at hr
      · cases hr
      · cases hr
      · split at hr
        · exact ih hr
        · next hSleep =>
          cases hr
          exact waitUntil_cut_short hSleep
        · exact absurd hr (hLate _ _)
      · next hReady =>
        cases hr
        exact isReady_cut_short hSticky hReady
      · exact absurd hr (hLate _ _)

/-- Waiting for readiness is cut short only where a sticky interrupt holds. -/
theorem awaitReady_cut_short {probes : ProbeCommands} {poll limit : Duration}
    {outer : Option Nat} {w s : World} {h h' : Handle}
    (hr : awaitReady w h probes poll limit intr outer = .interrupted (s, h')) :
    intr.check s = true := by
  unfold awaitReady at hr
  refine awaitReady_go_cut_short hSticky (fun st st' => ?_) _ hr
  split <;> simp

omit hSticky in
theorem drain_go_cut_short {h h' : Handle} {outer : Option Nat} {s : World} :
    ∀ (ps : List Nat) (v : World),
      drain.go h intr outer ps v = .interrupted (s, h') → intr.check s = true
  | [], v, hr => by cases hr
  | p :: rest, v, hr => by
    rw [drain.go] at hr
    split at hr
    · exact drain_go_cut_short rest _ hr
    · split at hr
      · exact drain_go_cut_short rest _ hr
      · cases hr
    · next hw =>
      cases hr
      exact waitUntil_cut_short hw

omit hSticky in
/-- Waiting for a process to end, and for its last lines, is cut short only where the interrupt
holds. -/
theorem exited_cut_short {w s : World} {h h' : Handle} {outer : Option Nat}
    (hr : exited w h intr outer = .interrupted (s, h')) : intr.check s = true := by
  unfold exited at hr
  dsimp only at hr
  split at hr
  · split at hr
    · cases hr
    · next hd =>
      cases hr
      exact drain_go_cut_short _ _ hd
    · cases hr
  · split at hr
    · split at hr
      · cases hr
      · next hd =>
        cases hr
        exact drain_go_cut_short _ _ hd
      · cases hr
    · next hw =>
      cases hr
      exact waitUntil_cut_short hw
    · cases hr

omit hSticky in
/-- Waiting for a process to end within a limit is cut short only where the interrupt holds. -/
theorem waitExited_cut_short {w s : World} {h h' : Handle} {outer : Option Nat}
    {limit : Duration} (hr : waitExited w h intr outer limit = .interrupted (s, h')) :
    intr.check s = true := by
  unfold waitExited at hr
  dsimp only at hr
  split at hr
  · cases hr
  · next hExited =>
    cases hr
    exact exited_cut_short hExited
  · split at hr <;> cases hr

/-- The workload is cut short only where a sticky interrupt holds. -/
theorem runWorkload_cut_short {c : ProbeCommands} {w s : World} {outer : Option Nat} {pid : Nat}
    (h : runWorkload c w intr outer pid = .interrupted s) : intr.check s = true := by
  unfold runWorkload at h
  split at h
  · cases h
  · split at h
    · split at h <;> cases h
    · cases h
    · next hr =>
      cases h
      exact runCommand_cut_short hSticky hr
    · cases h

end CrashTest.Control
