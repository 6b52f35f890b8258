import CrashTest.Control.Controller
/-!
A scripted session with one controller.

A session holds the machine, one controller, the readiness commands, at most one current handle
and a subscription to the output bus made before anything runs. Actions run one after the
other. Spawning or starting replaces the current handle once the new spawn or start is over;
the old handle is dropped then, and a failed start leaves no handle. Actions on the handle need
one.
-/
namespace CrashTest.Control

open CrashTest CrashTest.Os

/-- One scripted action. -/
inductive Action where
  | spawn
  /-- Spawns and waits for readiness, within the given limit or the spec's. -/
  | start (within : Option Duration)
  | awaitReady (limit : Duration)
  | waitExited (limit : Duration)
  | stopForceful
  | stopGraceful (limit : Duration)
  | signal (sig : KillSignal)
  | tryExited
  | status
  | exitStatus
  | drop
  | spawnCount
  /-- Waits until some line seen so far contains the text. -/
  | waitLine (needle : String) (limit : Duration)
  /-- The lines seen so far, by stream. -/
  | output
  deriving Repr, Inhabited

/-- What an action answers. -/
inductive Reply where
  | spawned
  | ready
  | failed (e : ProcessError)
  | exit (s : ExitStatus)
  | exitIfKnown (s : Option ExitStatus)
  | status (s : ProcessStatus)
  | delivery (d : Delivery)
  | dropped
  | count (n : Nat)
  | seen (found : Bool)
  | lines (stdout stderr : List String)
  /-- The action needs a handle and there is none. -/
  | noHandle
  deriving Repr, Inhabited

/-- A session. -/
structure Session where
  world : World
  controller : Controller
  probes : ProbeCommands
  handle : Option Handle
  /-- The subscription that sees every line. -/
  sub : Nat
  deriving Repr, Inhabited

namespace Session

/-- A session for a launch spec and readiness commands, with nothing started. -/
def new (spec : LaunchSpec) (probes : ProbeCommands) : Session :=
  let w := World.initial
  let (bus, sub) := w.bus.subscribe
  { world := { w with bus := bus }, controller := { spec := spec }, probes := probes,
    handle := none, sub := sub }

/-- The lines seen so far. -/
def seenLines (s : Session) : List OutputEvent := s.world.bus.peek s.sub

/-- Replaces the current handle, dropping the old one. -/
def replace (s : Session) (h : Option Handle) : Session :=
  let w := match s.handle with
    | some old => dropHandle s.world old
    | none => s.world
  { s with world := w, handle := h }

/-- Runs an action on the current handle. -/
def withHandle (s : Session) (f : Handle → Session × Reply) : Session × Reply :=
  match s.handle with
  | some h => f h
  | none => (s, .noHandle)

/-- Runs one action. -/
def run (s : Session) : Action → Session × Reply
  | .spawn =>
    match s.controller.spawn s.world with
    | .ok (c, w, h) => ({ s with controller := c, world := w }.replace (some h), .spawned)
    | .error e => (s.replace none, .failed e)
  | .start within =>
    let limit := within.getD s.controller.spec.readyTimeout
    match s.controller.startWithin s.world s.probes limit with
    | (c, w, .ok h) => ({ s with controller := c, world := w }.replace (some h), .ready)
    | (c, w, .error e) => ({ s with controller := c, world := w }.replace none, .failed e)
  | .awaitReady limit => s.withHandle fun h =>
    let r := Control.awaitReady s.world h s.probes s.controller.spec.pollInterval limit .never none
    let (w, h) := r.state
    let reply := match r with
      | .done _ (.ok ()) => Reply.ready
      | .done _ (.error e) => .failed e
      | _ => .failed (.startupTimeout limit)
    ({ s with world := w, handle := some h }, reply)
  | .waitExited limit => s.withHandle fun h =>
    let r := Control.waitExited s.world h .never none limit
    let (w, h) := r.state
    let reply := match r with
      | .done _ (.ok st) => Reply.exit st
      | .done _ (.error e) => .failed e
      | _ => .failed (.timeout limit)
    ({ s with world := w, handle := some h }, reply)
  | .stopForceful => s.withHandle fun h =>
    let (w, h, st) := Control.stopForceful s.world h
    ({ s with world := w, handle := some h }, .exit st)
  | .stopGraceful limit => s.withHandle fun h =>
    let (w, h, st) := Control.stopGraceful s.world h limit
    ({ s with world := w, handle := some h }, .exit st)
  | .signal sig => s.withHandle fun h =>
    let (w, h, d) := Control.signal s.world h sig
    ({ s with world := w, handle := some h }, .delivery d)
  | .tryExited => s.withHandle fun h =>
    let w := s.world.catchUp
    let (h, st) := h.tryExited w
    ({ s with world := w, handle := some h }, .exitIfKnown st)
  | .status => s.withHandle fun h => (s, .status h.status)
  | .exitStatus => s.withHandle fun h => (s, .exitIfKnown h.exitStatus)
  | .drop => (s.replace none, .dropped)
  | .spawnCount => (s, .count s.controller.spawned)
  | .waitLine needle limit =>
    let deadline := s.world.catchUp.now + limit.nanos
    let found := fun (w : World) =>
      if (w.bus.peek s.sub).any (fun e => Text.contains e.line needle) then some () else none
    match waitUntil s.world .never (some deadline) true none found with
    | .done w _ => ({ s with world := w }, .seen true)
    | r => ({ s with world := r.state }, .seen false)
  | .output =>
    let w := s.world.catchUp
    let evs := w.bus.peek s.sub
    ({ s with world := w }, .lines ((evs.filter (·.stream == .stdout)).map (·.line))
      ((evs.filter (·.stream == .stderr)).map (·.line)))

end Session

end CrashTest.Control
