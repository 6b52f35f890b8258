import CrashTest.Os.Scheduler
/-!
Waiting in virtual time.

The controller waits for conditions on the machine: a process has ended, a pipe has closed, a
sleep is over. A wait looks at the machine at each instant at which something may have changed:
when a process wakes or goes on after a pause, and at the instants of the wait's own timer and of
the alarm that may cut it short. Before anything else at each such instant it asks whether the
wait is cut short; a trigger that fires wins over the operation it races.

A wait with a deadline gives up at the deadline. What happens at the deadline itself comes too
late: only the alarm is still looked at there, since it is checked before the deadline is. The
first look, made when the wait begins, may succeed even at the deadline when the condition was
already true before the wait began (`precheck`): a process that had already ended, a pipe that
had already closed. What a wait starts itself, such as a command it runs, cannot be done in no
time, so a wait of length zero for it always gives up.
-/
namespace CrashTest.Control

open CrashTest.Os

/-- How a wait ended, with the state it carries. -/
inductive Waited (σ α : Type) where
  /-- The condition came true, with this result. -/
  | done (s : σ) (a : α)
  /-- The wait was cut short by what it raced. -/
  | interrupted (s : σ)
  /-- The deadline came first. -/
  | expired (s : σ)
  deriving Inhabited

namespace Waited

/-- Changes the state a wait carries. -/
def mapState (f : σ → τ) : Waited σ α → Waited τ α
  | .done s a => .done (f s) a
  | .interrupted s => .interrupted (f s)
  | .expired s => .expired (f s)

/-- The state a wait carries, however it ended. -/
def state : Waited σ α → σ
  | .done s _ => s
  | .interrupted s => s
  | .expired s => s

end Waited

/-- What can cut a wait short: a condition on the machine, checked before anything else at every
instant the wait looks, and an instant at which it may become true with nothing else happening. -/
structure Interrupt where
  check : World → Bool
  alarm : Option Nat

/-- Nothing cuts the wait short. -/
def Interrupt.never : Interrupt := ⟨fun _ => false, none⟩

/-- The earlier of two optional deadlines. -/
def earlier : Option Nat → Option Nat → Option Nat
  | some a, some b => some (min a b)
  | some a, none => some a
  | none, b => b

/-- Waits until `ready` gives a result, the wait is cut short, or the deadline comes. `timer` is
an instant at which `ready` may come true by the passing of time alone. -/
def waitUntil (w : World) (intr : Interrupt) (deadline : Option Nat) (precheck : Bool)
    (timer : Option Nat) (ready : World → Option α) : Waited World α :=
  let giveUp (w : World) (d : Nat) : Waited World α :=
    let w := w.runUntil d false
    if intr.check w then .interrupted w else .expired w
  let rec go : Nat → Bool → World → Waited World α
    | 0, _, w => .expired w
    | fuel + 1, first, w =>
      if intr.check w then .interrupted w
      else
        let mayFinish := (first && precheck) || deadline.all (w.now < ·)
        match (if mayFinish then ready w else none) with
        | some a => .done w a
        | none =>
          let later := fun (t : Option Nat) => t.filter (w.now < ·)
          let next := earlier w.nextEvent (earlier (later timer) (later intr.alarm))
          match next, deadline with
          | some t, some d => if t < d then go fuel false (w.runUntil t true) else giveUp w d
          | some t, none => go fuel false (w.runUntil t true)
          | none, some d => giveUp w d
          | none, none => .expired w
  go 10000000 true w.catchUp

/-- Sleeps until the instant `wake`. -/
def sleepUntil (w : World) (intr : Interrupt) (deadline : Option Nat) (wake : Nat) :
    Waited World Unit :=
  waitUntil w intr deadline true (some wake) fun w => if wake ≤ w.now then some () else none

end CrashTest.Control
