import CrashTest.Shell.Machine
/-!
Running the machine through time.

At one instant every shell that can make a step makes it, again and again, until none can: all
are waiting for a child, a pipe or the clock. A shell that makes more than `stepBudget` steps in
one instant is busy: it pauses until one millisecond later, so that a loop that never sleeps still
lets time pass.

Time moves from event to event: a sleeper's wake-up, which ends it with status 0, or the end of a
busy shell's pause. `runUntil` handles the events before a deadline, or up to and including it,
and then sets the clock to the deadline.
-/
namespace CrashTest.Os

open CrashTest.Shell

/-- How many steps a shell makes in one instant before it counts as busy. -/
def stepBudget : Nat := 5000

/-- How long a busy shell pauses, in nanoseconds. -/
def busyPause : Nat := 1000000

namespace World

/-- Runs one shell until it cannot go on or has made `budget` more steps; also returns how many
steps it made in all, counting `used` made before. -/
def runShell (w : World) (pid : Nat) (used : Nat) : Nat → World × Nat
  | 0 => (w, used)
  | budget + 1 =>
    match Shell.step w pid with
    | (w', true) => runShell w' pid (used + 1) budget
    | (w', false) => (w', used)

/-- The pids of live shells that may run now. -/
def runnable (w : World) : List Nat :=
  (w.procs.filter fun p => p.alive && p.readyAt ≤ w.now &&
    match p.program with
    | .shell _ => true
    | _ => false).map (·.pid)

/-- One round over the runnable shells; `spent` counts each shell's steps at this instant. -/
def sweep (w : World) (spent : List (Nat × Nat)) : World × List (Nat × Nat) × Bool :=
  w.runnable.foldl (fun (acc : World × List (Nat × Nat) × Bool) pid =>
    let (w, spent, moved) := acc
    let used := ((spent.find? (·.1 == pid)).map (·.2)).getD 0
    let (w, total) := w.runShell pid used (stepBudget - used)
    let spent := (pid, total) :: spent.filter (·.1 != pid)
    let w := if total ≥ stepBudget then
        w.modifyProc pid fun p => { p with readyAt := w.now + busyPause }
      else w
    (w, spent, moved || total > used)) (w, spent, false)

/-- Lets the shells run at this instant until none can make a step. -/
def settle (w : World) : World :=
  let rec go : Nat → World → List (Nat × Nat) → World
    | 0, w, _ => w
    | fuel + 1, w, spent =>
      let (w, spent, moved) := w.sweep spent
      if moved then go fuel w spent else w
  go 100000 w []

/-- The next instant at which something happens by itself: a sleeper wakes or a busy shell goes
on. -/
def nextEvent (w : World) : Option Nat :=
  w.procs.foldl (fun (acc : Option Nat) p =>
    let t : Option Nat :=
      if !p.alive then none
      else
        match p.program with
        | .sleeper wakeAt => some wakeAt
        | .shell _ => if w.now < p.readyAt then some p.readyAt else none
        | .ended => none
    match acc, t with
    | some a, some b => some (min a b)
    | none, b => b
    | a, none => a) none

/-- Ends the sleepers whose time has come, in pid order. -/
def wake (w : World) : World :=
  w.procs.foldl (fun w p =>
    match p.program with
    | .sleeper wakeAt => if p.alive && wakeAt ≤ w.now then w.finish p.pid (.code 0) else w
    | _ => w) w

/-- Handles everything that happens by itself before `deadline` (up to and including it when
`inclusive`), then sets the clock to the deadline if it is later. -/
def runUntil (w : World) (deadline : Nat) (inclusive : Bool) : World :=
  let rec go : Nat → World → World
    | 0, w => w
    | fuel + 1, w =>
      let w := (w.wake).settle
      match w.nextEvent with
      | some t =>
        if t < deadline || (inclusive && t == deadline) then go fuel { w with now := max t w.now }
        else w
      | none => w
  let w := go 10000000 w
  if w.now < deadline then { w with now := deadline } else w

/-- Handles everything due by the current instant. -/
def catchUp (w : World) : World := w.runUntil w.now true

end World

end CrashTest.Os
