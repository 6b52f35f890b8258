import CrashTest.Time.Duration
import CrashTest.Json.Decode
/-!
Kill triggers: when, during a monitored operation, the target is killed.

A trigger either fires on the `threshold`-th output line that mentions a named event, or a fixed
offset into a measured window of time. Both are built through checked constructors
(`Trigger.ofEventCount`, `Trigger.ofTimeOffset`); a trigger read from JSON is taken as written,
unchecked, so a recorded campaign replays exactly what was recorded.
-/
namespace CrashTest

/-- Why a trigger or a calibration could not be made. -/
inductive TriggerError where
  /-- The measured window is unusable; the reason says why. -/
  | invalidCalibration (reason : String)
  /-- The offset lies beyond the end of the window. -/
  | offsetOutOfWindow (offsetNs windowNs : Nat)
  /-- An event count of zero would fire before anything happened. -/
  | zeroThreshold
  deriving DecidableEq, Repr, Inhabited

namespace TriggerError

/-- The name of the kind of error. -/
def kind : TriggerError → String
  | .invalidCalibration _ => "InvalidCalibration"
  | .offsetOutOfWindow .. => "OffsetOutOfWindow"
  | .zeroThreshold => "ZeroThreshold"

/-- The error in words. -/
def message : TriggerError → String
  | .invalidCalibration reason => "invalid calibration: " ++ reason
  | .offsetOutOfWindow offsetNs windowNs =>
    "offset " ++ toString offsetNs ++ "ns lies outside the " ++ toString windowNs ++ "ns window"
  | .zeroThreshold => "event-count threshold must be at least 1"

end TriggerError

/-- When to kill the target. -/
inductive Trigger where
  /-- On the `threshold`-th output line that contains `eventName`. -/
  | eventCount (eventName : String) (threshold : Nat)
  /-- `offsetNs` nanoseconds after the operation starts, in a window of `windowNs`. -/
  | timeOffset (windowNs offsetNs : Nat)
  deriving DecidableEq, Repr, Inhabited

namespace Trigger

/-- An event-count trigger; the threshold must be at least one. -/
def ofEventCount (eventName : String) (threshold : Nat) : Except TriggerError Trigger :=
  if threshold = 0 then .error .zeroThreshold else .ok (.eventCount eventName threshold)

/-- A time-offset trigger; both spans are taken in nanoseconds, saturating at the largest word,
and the offset may not pass the end of the window. -/
def ofTimeOffset (window offset : Duration) : Except TriggerError Trigger :=
  let windowNs := window.saturatingNanos
  let offsetNs := offset.saturatingNanos
  if windowNs < offsetNs then .error (.offsetOutOfWindow offsetNs windowNs)
  else .ok (.timeOffset windowNs offsetNs)

/-- Whether the trigger counts events. -/
def isEventCount : Trigger → Bool
  | .eventCount .. => true
  | .timeOffset .. => false

/-- The threshold of an event-count trigger. -/
def threshold? : Trigger → Option Nat
  | .eventCount _ threshold => some threshold
  | .timeOffset .. => none

/-- The offset of a time-offset trigger. -/
def offset? : Trigger → Option Duration
  | .timeOffset _ offsetNs => some (.ofNanos offsetNs)
  | .eventCount .. => none

/-- Nanoseconds as seconds with three decimals: the count as a double, divided by `1e9` as a
double, then the quotient's exact value rounded half to even. -/
def secondsText (ns : Nat) : String :=
  ((Binary64.ofNat ns).div (Binary64.ofNat Duration.nanosPerSec)).elim "" (·.toFixed 3)

/-- The trigger for people. -/
def describe : Trigger → String
  | .eventCount eventName threshold =>
    "after occurrence #" ++ toString threshold ++ " of '" ++ eventName ++ "'"
  | .timeOffset windowNs offsetNs =>
    "after " ++ secondsText offsetNs ++ "s of a " ++ secondsText windowNs ++ "s window"

/-- The trigger as JSON: the member `kind` names it, beside its fields. -/
def toJson : Trigger → Json
  | .eventCount eventName threshold =>
    .obj [("kind", .str "event_count"), ("event_name", .str eventName),
      ("threshold", .nat threshold)]
  | .timeOffset windowNs offsetNs =>
    .obj [("kind", .str "time_offset"), ("window_ns", .nat windowNs), ("offset_ns", .nat offsetNs)]

open Json in
/-- Reads a trigger from JSON, unchecked. -/
def decoder : Decoder Trigger :=
  let eventName := Field.required "event_name" Decoder.string
  let threshold := Field.required "threshold" Decoder.u64
  let windowNs := Field.required "window_ns" Decoder.u64
  let offsetNs := Field.required "offset_ns" Decoder.u64
  Decoder.tagged "internally tagged enum Trigger" "kind"
    [("event_count", Decoder.record "variant Trigger::EventCount"
        [eventName.toCheck, threshold.toCheck]
        fun m => return .eventCount (← m.read eventName) (← m.read threshold)),
     ("time_offset", Decoder.record "variant Trigger::TimeOffset"
        [windowNs.toCheck, offsetNs.toCheck]
        fun m => return .timeOffset (← m.read windowNs) (← m.read offsetNs))]

end Trigger

end CrashTest
