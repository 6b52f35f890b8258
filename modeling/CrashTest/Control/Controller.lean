import CrashTest.Control.Status
import CrashTest.Control.Launch
import CrashTest.Target.Command
/-!
The process controller: starting target processes, waiting for them to become ready or to end,
and stopping them.

A spawned target reads nothing and has its output and error output forwarded line by line to the
output bus. The controller sees a process end only when it looks (`tryExited`) or waits
(`exited`); until then its status is what the controller last made of it: starting, ready, or
stopping once a signal was sent.

Waiting for a process to end also gives each of its two forwarders up to 250 ms, one after the
other, to publish the last lines; a forwarder that takes longer is cut off, so that a grandchild
holding a pipe open cannot stall the controller. A wait cut short while forwarders are still
draining leaves them running, no longer owned by the handle. Dropping a handle cuts off the
forwarders it still owns and kills the process unless the controller has seen it end.
-/
namespace CrashTest.Control

open CrashTest CrashTest.Os CrashTest.Target CrashTest.Text

/-- How long each forwarder may take to finish after its process has ended, in nanoseconds. -/
def drainLimit : Nat := 250000000

/-- The exit status of an ended process. -/
def exitStatusOf : Exit → ExitStatus
  | .code n => .code (Int.ofNat n)
  | .signaled s => .signal (Int.ofNat s)

/-- One spawned target process. -/
structure Handle where
  pid : Nat
  /-- The instant of the spawn. -/
  startedAt : Nat
  status : ProcessStatus
  /-- The pipes whose forwarders the handle still owns: output, then error output. -/
  forwarders : List Nat
  deriving Repr, Inhabited

namespace Handle

/-- The status, once the controller has seen the process end. -/
def exitStatus (h : Handle) : Option ExitStatus :=
  match h.status with
  | .exited s => some s
  | _ => none

/-- Looks whether the process has ended, without waiting. -/
def tryExited (h : Handle) (w : World) : Handle × Option ExitStatus :=
  match h.exitStatus with
  | some s => (h, some s)
  | none =>
    match (w.proc? h.pid).bind (·.exit) with
    | some e => ({ h with status := .exited (exitStatusOf e) }, some (exitStatusOf e))
    | none => (h, none)

end Handle

/-- Whether a forwarder has finished: its pipe closed, or it stopped on a line that is not text
or was cut off. -/
def forwarderDone (w : World) (id : Nat) : Bool :=
  match w.pipe? id with
  | some p => p.closed || p.detached
  | none => true

/-- Lets the forwarders the handle owns finish, each within `drainLimit`. -/
def drain (w : World) (h : Handle) (intr : Interrupt) (outer : Option Nat) :
    Waited (World × Handle) Unit :=
  let rec go : List Nat → World → Waited (World × Handle) Unit
    | [], w => .done (w, { h with forwarders := [] }) ()
    | p :: rest, w =>
      let limit := w.catchUp.now + drainLimit
      match waitUntil w intr (earlier (some limit) outer) true none
          (fun w => if forwarderDone w p then some () else none) with
      | .done w _ => go rest w
      | .expired w =>
        if outer.all (limit ≤ ·) then go rest (w.detach p)
        else .expired (w, { h with forwarders := [] })
      | .interrupted w => .interrupted (w, { h with forwarders := [] })
  go h.forwarders w

/-- Waits until the process has ended, then drains its output. -/
def exited (w : World) (h : Handle) (intr : Interrupt) (outer : Option Nat) :
    Waited (World × Handle) ExitStatus :=
  let finish (w : World) (h : Handle) (s : ExitStatus) : Waited (World × Handle) ExitStatus :=
    match drain w h intr outer with
    | .done st _ => .done st s
    | .interrupted st => .interrupted st
    | .expired st => .expired st
  match h.exitStatus with
  | some s => finish w h s
  | none =>
    match waitUntil w intr outer true none (fun w => (w.proc? h.pid).bind (·.exit)) with
    | .done w e => finish w { h with status := .exited (exitStatusOf e) } (exitStatusOf e)
    | .interrupted w => .interrupted (w, h)
    | .expired w => .expired (w, h)

/-- Waits for the process to end within `limit`; the process is left as it is when it does not. -/
def waitExited (w : World) (h : Handle) (intr : Interrupt) (outer : Option Nat) (limit : Duration) :
    Waited (World × Handle) (Except ProcessError ExitStatus) :=
  let inner := w.catchUp.now + limit.nanos
  match exited w h intr (earlier (some inner) outer) with
  | .done st s => .done st (.ok s)
  | .interrupted st => .interrupted st
  | .expired st => if outer.all (inner ≤ ·) then .done st (.error (.timeout limit)) else .expired st

/-- The outcome of a wait that nothing cuts short and that has no deadline. -/
def settled (r : Waited (World × Handle) ExitStatus) : World × Handle × ExitStatus :=
  match r with
  | .done (w, h) s => (w, h, s)
  | .interrupted (w, h) | .expired (w, h) => (w, h, h.exitStatus.getD .lost)

/-- Kills the process and waits for it; a process already seen to end keeps its status. -/
def stopForceful (w : World) (h : Handle) : World × Handle × ExitStatus :=
  let w := w.catchUp
  match h.exitStatus with
  | some _ => settled (exited w h .never none)
  | none =>
    let w := (w.signal h.pid sigKill).1
    settled (exited w { h with status := .stopping } .never none)

/-- Sends a signal without waiting for the process to react. -/
def signal (w : World) (h : Handle) (sig : KillSignal) : World × Handle × Delivery :=
  let w := w.catchUp
  match h.tryExited w with
  | (h, some _) => (w, h, .alreadyExited)
  | (h, none) =>
    let (w, found) := w.signal h.pid sig.number
    if found then (w, { h with status := .stopping }, .delivered) else (w, h, .alreadyExited)

/-- Asks the process to stop, and kills it after `limit`. -/
def stopGraceful (w : World) (h : Handle) (limit : Duration) : World × Handle × ExitStatus :=
  match h.exitStatus with
  | some s => (w, h, s)
  | none =>
    let (w, h, _) := signal w h .terminate
    match waitExited w h .never none limit with
    | .done (w, h) (.ok s) => (w, h, s)
    | r => let (w, h) := r.state; stopForceful w h

/-- Polls the readiness command until it passes, the process ends, or `limit` passes. The
process keeps running in every case. -/
def awaitReady (w : World) (h : Handle) (probes : ProbeCommands) (poll limit : Duration)
    (intr : Interrupt) (outer : Option Nat) : Waited (World × Handle) (Except ProcessError Unit) :=
  let inner := w.catchUp.now + limit.nanos
  let deadline := earlier (some inner) outer
  let late (st : World × Handle) : Waited (World × Handle) (Except ProcessError Unit) :=
    if outer.all (inner ≤ ·) then .done st (.error (.startupTimeout limit)) else .expired st
  let rec go : Nat → World → Handle → Waited (World × Handle) (Except ProcessError Unit)
    | 0, w, h => late (w, h)
    | fuel + 1, w, h =>
      let w := w.catchUp
      match h.tryExited w with
      | (h, some s) => .done (w, h) (.error (.exitedDuringStartup s))
      | (h, none) =>
        match isReady probes w intr deadline h.pid with
        | .done w (.error e) => .done (w, h) (.error (.readiness e.message))
        | .done w (.ok true) => .done (w, { h with status := .ready }) (.ok ())
        | .done w (.ok false) =>
          match sleepUntil w intr deadline (w.now + poll.nanos) with
          | .done w _ => go fuel w h
          | .interrupted w => .interrupted (w, h)
          | .expired w => late (w, h)
        | .interrupted w => .interrupted (w, h)
        | .expired w => late (w, h)
  go 10000000 w h

/-- Drops a handle: cuts off the forwarders it owns, and kills the process unless it was seen to
end. -/
def dropHandle (w : World) (h : Handle) : World :=
  let w := h.forwarders.foldl World.detach w
  match h.exitStatus with
  | some _ => w
  | none => (w.signal h.pid sigKill).1

/-- One spawn as the controller made it: the new target's pid, and the pids of the targets it
had spawned before that had not ended at that instant. -/
structure SpawnRecord where
  pid : Nat
  liveBefore : List Nat
  deriving DecidableEq, Repr, Inhabited

/-- The controller of the targets built from one launch spec. -/
structure Controller where
  spec : LaunchSpec
  /-- How many processes it has spawned. -/
  spawned : Nat := 0
  /-- Its spawns, oldest first: a record of what it did, which it never reads itself. -/
  history : List SpawnRecord := []
  deriving Repr, Inhabited

namespace Controller

/-- The targets it has spawned that have not ended on the machine. -/
def liveTargets (c : Controller) (w : World) : List Nat :=
  (c.history.map (·.pid)).filter fun pid => !((w.proc? pid).bind (·.exit)).isSome

/-- The environment of a target: the controller's, with the spec's variables over it. -/
def environment (c : Controller) (w : World) : List (String × String) :=
  (w.env.filter fun (k, _) => !c.spec.env.any (·.1 == k)) ++ c.spec.env

/-- Spawns the target without waiting for readiness. -/
def spawn (c : Controller) (w : World) : Except ProcessError (Controller × World × Handle) :=
  let w := w.catchUp
  let pid := w.nextPid
  let (w1, out) := w.newPipe (.forward pid .stdout)
  let (w1, err) := w1.newPipe (.forward pid .stderr)
  -- the machine works on bytes
  let l : Launch :=
    { program := byteText c.spec.program, argv0 := byteText c.spec.program,
      args := c.spec.args.map byteText,
      env := (c.environment w).map fun (k, v) => (byteText k, byteText v),
      cwd := normalize scratchDir (byteText (c.spec.workingDir.getD scratchDir)),
      fds := [(0, .null), (1, .pipe out), (2, .pipe err)], ignored := [], parent := none }
  match w1.spawn l with
  | .error e => .error (.spawn c.spec.displayProgram e.errno)
  | .ok (w2, child) =>
    .ok ({ c with spawned := c.spawned + 1, history := c.history ++ [⟨child, c.liveTargets w⟩] }, w2,
      { pid := child, startedAt := w2.now, status := .starting, forwarders := [out, err] })

/-- Spawns the target and waits for readiness within `limit`; on any failure the process is
killed and reaped before the error is returned. -/
def startWithin (c : Controller) (w : World) (probes : ProbeCommands) (limit : Duration) :
    Controller × World × Except ProcessError Handle :=
  match c.spawn w with
  | .error e => (c, w, .error e)
  | .ok (c, w, h) =>
    match awaitReady w h probes c.spec.pollInterval limit .never none with
    | .done (w, h) (.ok ()) => (c, w, .ok h)
    | .done (w, h) (.error e) =>
      let (w, h, _) := stopForceful w h
      (c, dropHandle w h, .error e)
    | r =>
      let (w, h) := r.state
      let (w, h, _) := stopForceful w h
      (c, dropHandle w h, .error (.startupTimeout limit))

/-- Spawns the target and waits for readiness within the spec's limit. -/
def start (c : Controller) (w : World) (probes : ProbeCommands) :
    Controller × World × Except ProcessError Handle :=
  c.startWithin w probes c.spec.readyTimeout

end Controller

end CrashTest.Control
