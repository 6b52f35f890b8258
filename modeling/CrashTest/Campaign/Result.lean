import CrashTest.Campaign.Analytics
import CrashTest.Campaign.Capsule
import CrashTest.Trigger.Calibration
/-!
What a campaign and a suite leave behind.

A campaign's result holds its final state, why it stopped, every iteration, the analytics
summary, the expectation every restart was checked against, the calibration of a time-offset
campaign, and the capsule of a corruption finding. A suite passes when every planned campaign
ran and ended exhausted.
-/
namespace CrashTest

open CrashTest.Json

/-- The record of one campaign. -/
structure CampaignResult where
  name : String
  state : CampaignState
  stopReason : StopReason
  iterations : List Iteration
  analytics : AnalyticsSummary
  /-- The expectation every restart was verified against. -/
  expected : Expectation
  calibration : Option Calibration := none
  /-- Set when the campaign ended corrupted. -/
  capsule : Option ReproductionCapsule := none
  deriving DecidableEq, Repr, Inhabited

namespace CampaignResult

/-- The first iteration whose verification failed. -/
def corruptedIteration (r : CampaignResult) : Option Iteration :=
  r.iterations.find? (·.outcome.isCorrupted)

/-- The result as JSON. -/
def toJson (r : CampaignResult) : Json :=
  .obj [("name", .str r.name), ("state", r.state.toJson), ("stop_reason", r.stopReason.toJson),
    ("iterations", .arr (r.iterations.map Iteration.toJson)), ("analytics", r.analytics.toJson),
    ("expected", r.expected.toJson), ("calibration", .ofOption Calibration.toJson r.calibration),
    ("capsule", .ofOption ReproductionCapsule.toJson r.capsule)]

/-- Reads a result from JSON; the calibration and the capsule may be absent. -/
def decoder : Decoder CampaignResult :=
  let name := Field.required "name" Decoder.string
  let state := Field.required "state" CampaignState.decoder
  let stopReason := Field.required "stop_reason" StopReason.decoder
  let iterations := Field.required "iterations" (Decoder.list Iteration.decoder)
  let analytics := Field.required "analytics" AnalyticsSummary.decoder
  let expected := Field.required "expected" Expectation.decoder
  let calibration := Field.optional "calibration" Calibration.decoder
  let capsule := Field.optional "capsule" ReproductionCapsule.decoder
  Decoder.record "CampaignResult"
    [name.toCheck, state.toCheck, stopReason.toCheck, iterations.toCheck, analytics.toCheck,
      expected.toCheck, calibration.toCheck, capsule.toCheck] fun m => do
    return { name := ← m.read name, state := ← m.read state, stopReason := ← m.read stopReason,
             iterations := ← m.read iterations, analytics := ← m.read analytics,
             expected := ← m.read expected, calibration := ← m.read calibration,
             capsule := ← m.read capsule }

end CampaignResult

/-- The record of a suite: how many campaigns were planned and the results of those that ran. -/
structure SuiteResult where
  name : String
  planned : Nat
  results : List CampaignResult
  deriving DecidableEq, Repr, Inhabited

namespace SuiteResult

/-- Whether every planned campaign ran and ended exhausted. -/
def passed (s : SuiteResult) : Bool :=
  s.results.length == s.planned && s.results.all (·.state == .exhausted)

/-- The result as JSON. -/
def toJson (s : SuiteResult) : Json :=
  .obj [("name", .str s.name), ("planned", .nat s.planned),
    ("results", .arr (s.results.map CampaignResult.toJson))]

/-- Reads a suite result from JSON. -/
def decoder : Decoder SuiteResult :=
  let name := Field.required "name" Decoder.string
  let planned := Field.required "planned" Decoder.usize
  let results := Field.required "results" (Decoder.list CampaignResult.decoder)
  Decoder.record "SuiteResult" [name.toCheck, planned.toCheck, results.toCheck] fun m => do
    return { name := ← m.read name, planned := ← m.read planned, results := ← m.read results }

end SuiteResult

end CrashTest
