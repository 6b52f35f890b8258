import CrashTest.Trigger.Basic
import CrashTest.Text.Search
/-!
Counting a named event in output lines.

A counter fires on exactly the `threshold`-th line that contains the event's name, and once it
has fired it counts nothing more: `observed` never passes the threshold, and the firing count is
reported at most once.
-/
namespace CrashTest

/-- Why a counting probe could not be armed. -/
inductive ProbeError where
  /-- A threshold of zero would fire before anything happened. -/
  | zeroThreshold
  /-- An empty name matches every line. -/
  | emptyEvent
  /-- The probe could not attach to the output it counts. -/
  | attach (reason : String)
  deriving DecidableEq, Repr, Inhabited

namespace ProbeError

/-- The name of the kind of error. -/
def kind : ProbeError → String
  | .zeroThreshold => "ZeroThreshold"
  | .emptyEvent => "EmptyEvent"
  | .attach _ => "Attach"

/-- The error in words. -/
def message : ProbeError → String
  | .zeroThreshold => "probe threshold must be at least 1"
  | .emptyEvent => "probe event name is empty"
  | .attach reason => "probe attach failed: " ++ reason

end ProbeError

/-- A count of the lines that mention an event, up to a threshold. -/
structure EventCounter where
  eventName : String
  threshold : Nat
  observed : Nat := 0
  fired : Bool := false
  deriving DecidableEq, Repr, Inhabited

namespace EventCounter

/-- A fresh counter; the name must not be empty (checked first) and the threshold not zero. -/
def new (eventName : String) (threshold : Nat) : Except ProbeError EventCounter :=
  if eventName.isEmpty then .error .emptyEvent
  else if threshold = 0 then .error .zeroThreshold
  else .ok { eventName, threshold }

/-- Whether `line` mentions the event. -/
def mentions (c : EventCounter) (line : String) : Bool := Text.contains line c.eventName

/-- Counts one line: nothing once fired or when the line does not mention the event; otherwise
one more, and the count when it reaches the threshold, which fires the counter. -/
def observe (c : EventCounter) (line : String) : EventCounter × Option Nat :=
  if c.fired || !c.mentions line then (c, none)
  else
    let n := c.observed + 1
    if n = c.threshold then ({ c with observed := n, fired := true }, some n)
    else ({ c with observed := n }, none)

end EventCounter

end CrashTest
