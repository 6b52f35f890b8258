import CrashTest.Campaign.Outcome
/-!
Campaign analytics: how iterations ended, how far event-count thresholds got, and how much of a
calibrated window the time-offset kills have covered.

The window is cut into twenty equal slices. A time-offset iteration whose kill landed (any
outcome but finished naturally) marks the slice its offset falls in, `offset * 20 / window`
rounded down, an offset at the very end counting in the last slice. The quotient is computed wide
and then cut to a 64-bit word before it is clamped to the last slice, so an offset far past the
end of a small window, as a recorded trigger may carry, can wrap to a low slice. Coverage is the
share of slices marked at least once, as a double.
-/
-- Powers of numbers are the core ones, also where Mathlib's monoid powers are in scope.
attribute [local instance (high)] instPowNat

namespace CrashTest

open CrashTest.Json

/-- How many slices a calibrated window is cut into. -/
def timelineSlices : Nat := 20

/-- How many iterations ended each way. -/
structure OutcomeCounts where
  aborted : Nat := 0
  finishedNaturally : Nat := 0
  corrupted : Nat := 0
  deriving DecidableEq, Repr, Inhabited

namespace OutcomeCounts

/-- All iterations counted. -/
def total (c : OutcomeCounts) : Nat := c.aborted + c.finishedNaturally + c.corrupted

/-- Counts one more iteration that ended with `o`. -/
def record (c : OutcomeCounts) : Outcome → OutcomeCounts
  | .aborted => { c with aborted := c.aborted + 1 }
  | .finishedNaturally => { c with finishedNaturally := c.finishedNaturally + 1 }
  | .corrupted _ => { c with corrupted := c.corrupted + 1 }

/-- The counts as JSON. -/
def toJson (c : OutcomeCounts) : Json :=
  .obj [("aborted", .nat c.aborted), ("finished_naturally", .nat c.finishedNaturally),
    ("corrupted", .nat c.corrupted)]

/-- Reads counts from JSON. -/
def decoder : Decoder OutcomeCounts :=
  let aborted := Field.required "aborted" Decoder.u64
  let finished := Field.required "finished_naturally" Decoder.u64
  let corrupted := Field.required "corrupted" Decoder.u64
  Decoder.record "OutcomeCounts" [aborted.toCheck, finished.toCheck, corrupted.toCheck] fun m => do
    return { aborted := ← m.read aborted, finishedNaturally := ← m.read finished,
             corrupted := ← m.read corrupted }

end OutcomeCounts

/-- Adds one to the `i`-th entry; a list too short is left as it is. -/
def bumpAt : List Nat → Nat → List Nat
  | [], _ => []
  | x :: xs, 0 => (x + 1) :: xs
  | x :: xs, i + 1 => x :: bumpAt xs i

/-- The slice of a window of `windowNs` that an offset falls in: the quotient cut to a 64-bit word,
then clamped so that the end of the window and beyond count in the last slice. -/
def timelineSlot (windowNs offsetNs : Nat) : Nat :=
  min (timelineSlices - 1) (offsetNs * timelineSlices / windowNs % 2 ^ (64 : Nat))

/-- What a campaign has learnt so far. -/
structure CampaignAnalytics where
  counts : OutcomeCounts := {}
  /-- The highest event-count threshold tried. -/
  maxThreshold : Nat := 0
  /-- The calibrated window, when the campaign samples offsets. -/
  windowNs : Option Nat := none
  /-- Kills per window slice. -/
  timeline : List Nat := List.replicate timelineSlices 0
  elapsedSecs : Binary64 := Binary64.zero
  deriving DecidableEq, Repr, Inhabited

/-- A compact account of a campaign's analytics. -/
structure AnalyticsSummary where
  iterations : Nat
  counts : OutcomeCounts
  maxThreshold : Nat
  windowNs : Option Nat
  timelineCoverage : Option Binary64
  elapsedSecs : Binary64
  deriving DecidableEq, Repr, Inhabited

namespace CampaignAnalytics

/-- Counts one iteration: its outcome, its threshold, and the slice of a kill that landed. -/
def record (a : CampaignAnalytics) (i : Iteration) : CampaignAnalytics :=
  let a := { a with counts := a.counts.record i.outcome }
  match i.trigger with
  | .eventCount _ threshold => { a with maxThreshold := max a.maxThreshold threshold }
  | .timeOffset windowNs offsetNs =>
    if i.outcome != .finishedNaturally && 0 < windowNs then
      { a with timeline := bumpAt a.timeline (timelineSlot windowNs offsetNs) }
    else a

/-- How many slices have at least one kill. -/
def slicesHit (a : CampaignAnalytics) : Nat := (a.timeline.filter (0 < ·)).length

/-- The share of slices with at least one kill, as a double. -/
def timelineCoverage (a : CampaignAnalytics) : Binary64 :=
  ((Binary64.ofNat a.slicesHit).div (Binary64.ofNat timelineSlices)).getD Binary64.zero

/-- The summary; coverage is given only when a window is known. -/
def summary (a : CampaignAnalytics) : AnalyticsSummary :=
  { iterations := a.counts.total, counts := a.counts, maxThreshold := a.maxThreshold,
    windowNs := a.windowNs, timelineCoverage := a.windowNs.map fun _ => a.timelineCoverage,
    elapsedSecs := a.elapsedSecs }

end CampaignAnalytics

namespace AnalyticsSummary

/-- The summary as JSON. -/
def toJson (s : AnalyticsSummary) : Json :=
  .obj [("iterations", .nat s.iterations), ("counts", s.counts.toJson),
    ("max_threshold", .nat s.maxThreshold), ("window_ns", .ofOption .nat s.windowNs),
    ("timeline_coverage", .ofOption .float s.timelineCoverage),
    ("elapsed_secs", .float s.elapsedSecs)]

/-- Reads a summary from JSON; `window_ns` and `timeline_coverage` may be absent. -/
def decoder : Decoder AnalyticsSummary :=
  let iterations := Field.required "iterations" Decoder.u64
  let counts := Field.required "counts" OutcomeCounts.decoder
  let maxThreshold := Field.required "max_threshold" Decoder.u64
  let windowNs := Field.optional "window_ns" Decoder.u64
  let coverage := Field.optional "timeline_coverage" Decoder.f64
  let elapsed := Field.required "elapsed_secs" Decoder.f64
  Decoder.record "AnalyticsSummary"
    [iterations.toCheck, counts.toCheck, maxThreshold.toCheck, windowNs.toCheck,
      coverage.toCheck, elapsed.toCheck] fun m => do
    return { iterations := ← m.read iterations, counts := ← m.read counts,
             maxThreshold := ← m.read maxThreshold, windowNs := ← m.read windowNs,
             timelineCoverage := ← m.read coverage, elapsedSecs := ← m.read elapsed }

end AnalyticsSummary

end CrashTest
