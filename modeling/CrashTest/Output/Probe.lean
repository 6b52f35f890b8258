import CrashTest.Output.Bus
/-!
Counting probes armed on the output bus.

Arming checks the event name and threshold, then subscribes a counter to the bus. The armed
probe is a handle on that subscription: its count stays readable until the handle is disarmed or
dropped, which detaches it. Disarming answers the count seen so far. A probe fires at most once,
on exactly its threshold-th matching line, and stops listening when it does.
-/
namespace CrashTest

/-- A handle on an armed counting probe. -/
structure ArmedProbe where
  sub : Nat
  attached : Bool := true
  deriving DecidableEq, Repr, Inhabited

/-- Why arming fails where no event loop runs to feed the probe. -/
def noEventLoop : String :=
  "there is no reactor running, must be called from the context of a Tokio 1.x runtime"

namespace ArmedProbe

/-- Arms a probe counting lines that mention `eventName`, firing on the `threshold`-th. -/
def arm (bus : EventBus) (eventName : String) (threshold : Nat) :
    Except ProbeError (EventBus × ArmedProbe) := do
  let c ← EventCounter.new eventName threshold
  let (bus', id) := bus.attach (.probe c none)
  return (bus', { sub := id })

/-- Arming where no event loop runs: the checks of `arm`, then the failure to attach. -/
def armDetached (eventName : String) (threshold : Nat) : ProbeError :=
  match EventCounter.new eventName threshold with
  | .error e => e
  | .ok _ => .attach noEventLoop

/-- The matching lines the probe has counted. -/
def observed (p : ArmedProbe) (bus : EventBus) : Nat :=
  ((bus.counter? p.sub).map (·.observed)).getD 0

/-- The count the probe fired on, if it has fired. -/
def fired? (p : ArmedProbe) (bus : EventBus) : Option Nat := bus.fired? p.sub

/-- Detaches the probe, answering the count seen so far. -/
def disarm (p : ArmedProbe) (bus : EventBus) : EventBus × ArmedProbe × Nat :=
  (bus.drop p.sub, { p with attached := false }, p.observed bus)

end ArmedProbe

end CrashTest
