import CrashTest.Trigger.Basic
/-!
The measured window of an operation.

A calibration runs the monitored operation once, uninterrupted, and keeps how long it took; the
time-offset triggers of a campaign are then drawn from that window. A calibration built by
`Calibration.new`, `Calibration.measure` or `Calibration.ofNanos` has a window of at least one
nanosecond; one read from JSON is taken as written.
-/
namespace CrashTest

/-- The window of a monitored operation, in nanoseconds. -/
structure Calibration where
  windowNs : Nat
  deriving DecidableEq, Repr, Inhabited

namespace Calibration

/-- A calibration of the span `window`, in nanoseconds saturating at the largest word; an empty
span is refused. -/
def new (window : Duration) : Except TriggerError Calibration :=
  let windowNs := window.saturatingNanos
  if windowNs = 0 then .error (.invalidCalibration "measured window is zero") else .ok ⟨windowNs⟩

/-- The calibration of an operation that started at `start` and ended at `stop`, both in
nanoseconds from one instant; an end before the start is refused. -/
def measure (start stop : Nat) : Except TriggerError Calibration :=
  if stop < start then .error (.invalidCalibration "operation ended before it started")
  else new (.ofNanos (stop - start))

/-- A calibration of a signed count of nanoseconds: a count that is not positive is refused, and
one beyond the largest word becomes the largest word. -/
def ofNanos (windowNs : Int) : Except TriggerError Calibration :=
  if windowNs ≤ 0 then
    .error (.invalidCalibration ("measured window is " ++ toString windowNs ++ "ns"))
  else .ok ⟨min windowNs.toNat Duration.wordMax⟩

/-- The window as a span. -/
def window (c : Calibration) : Duration := .ofNanos c.windowNs

/-- The calibration as JSON. -/
def toJson (c : Calibration) : Json := .obj [("window_ns", .nat c.windowNs)]

open Json in
/-- Reads a calibration from JSON, unchecked. -/
def decoder : Decoder Calibration :=
  let windowNs := Field.required "window_ns" Decoder.u64
  Decoder.record "Calibration" [windowNs.toCheck] fun m => return ⟨← m.read windowNs⟩

end Calibration

end CrashTest
