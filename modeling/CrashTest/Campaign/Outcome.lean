import CrashTest.Campaign.Config
import CrashTest.Trigger.Basic
/-!
What a campaign records: how each iteration ended, the iterations themselves, the state the
campaign is in, and why it stopped.

An iteration is one cycle of start, kill, restart and verify. It ends aborted (the kill landed
before the operation completed), finished naturally (the operation completed first) or corrupted
(the restarted target failed verification). A campaign stops when its iteration count reaches
the limit, checked before the wall-clock limit, or when an iteration says it must.
-/
namespace CrashTest

open CrashTest.Json

/-- Why a campaign stopped. -/
inductive StopReason where
  | iterationLimitExceeded
  | wallTimeExceeded
  /-- The trigger outgrew the operation: nothing was left to kill. -/
  | targetFinishedNaturally
  | corruptionFound
  /-- Cancelled between iterations. -/
  | userAborted
  /-- A single replayed iteration finished. -/
  | replayComplete
  deriving DecidableEq, Repr, Inhabited

namespace StopReason

/-- Every reason with its name, in declaration order. -/
def named : List (String × StopReason) :=
  [("IterationLimitExceeded", .iterationLimitExceeded), ("WallTimeExceeded", .wallTimeExceeded),
    ("TargetFinishedNaturally", .targetFinishedNaturally), ("CorruptionFound", .corruptionFound),
    ("UserAborted", .userAborted), ("ReplayComplete", .replayComplete)]

/-- The reason's name. -/
def name : StopReason → String
  | .iterationLimitExceeded => "IterationLimitExceeded"
  | .wallTimeExceeded => "WallTimeExceeded"
  | .targetFinishedNaturally => "TargetFinishedNaturally"
  | .corruptionFound => "CorruptionFound"
  | .userAborted => "UserAborted"
  | .replayComplete => "ReplayComplete"

/-- The reason in words. -/
def describe : StopReason → String
  | .iterationLimitExceeded => "iteration limit reached"
  | .wallTimeExceeded => "wall-clock limit reached"
  | .targetFinishedNaturally => "operation completed before the trigger"
  | .corruptionFound => "corruption found"
  | .userAborted => "aborted by operator"
  | .replayComplete => "replay complete"

/-- The reason as JSON: its name. -/
def toJson (r : StopReason) : Json := .str r.name

/-- Reads a reason from JSON. -/
def decoder : Decoder StopReason := Decoder.named (named.map fun (k, r) => (k, .unit r))

end StopReason

namespace ResourceLimits

/-- Whether `elapsedSecs` whole seconds of wall-clock time use up the limit. -/
def wallTimeExceeded (l : ResourceLimits) (elapsedSecs : Nat) : Bool := l.maxWallSecs ≤ elapsedSecs

/-- Why no further iteration may run after `iterations` of them and `elapsedSecs` whole seconds;
`none` while another may. The iteration limit is checked first. -/
def stopReason? (l : ResourceLimits) (iterations elapsedSecs : Nat) : Option StopReason :=
  if l.maxIterations ≤ iterations then some .iterationLimitExceeded
  else if l.wallTimeExceeded elapsedSecs then some .wallTimeExceeded
  else none

/-- While another iteration may run, the iteration limit is not reached. -/
theorem lt_of_stopReason?_eq_none {l : ResourceLimits} {iterations elapsedSecs : Nat}
    (h : l.stopReason? iterations elapsedSecs = none) : iterations < l.maxIterations := by
  unfold stopReason? at h
  split at h
  · cases h
  · omega

end ResourceLimits

/-- How one iteration ended. -/
inductive Outcome where
  /-- The kill landed before the operation completed. -/
  | aborted
  /-- The operation completed before the trigger fired. -/
  | finishedNaturally
  /-- Verification after the restart failed. -/
  | corrupted (reason : String)
  deriving DecidableEq, Repr, Inhabited

namespace Outcome

/-- Whether verification failed. -/
def isCorrupted : Outcome → Bool
  | .corrupted _ => true
  | _ => false

/-- The outcome in words. -/
def label : Outcome → String
  | .aborted => "aborted"
  | .finishedNaturally => "finished naturally"
  | .corrupted _ => "corrupted"

/-- The outcome as JSON: the member `outcome` names it, beside the reason of a corruption. -/
def toJson : Outcome → Json
  | .aborted => .obj [("outcome", .str "aborted")]
  | .finishedNaturally => .obj [("outcome", .str "finished_naturally")]
  | .corrupted reason => .obj [("outcome", .str "corrupted"), ("reason", .str reason)]

/-- Reads an outcome from JSON; other members of the unit outcomes are ignored. -/
def decoder : Decoder Outcome :=
  let reason := Field.required "reason" Decoder.string
  Decoder.tagged "internally tagged enum Outcome" "outcome"
    [("aborted", Decoder.unitVariant .aborted),
      ("finished_naturally", Decoder.unitVariant .finishedNaturally),
      ("corrupted", Decoder.record "variant Outcome::Corrupted" [reason.toCheck]
        fun m => return .corrupted (← m.read reason))]

end Outcome

/-- One start, kill, restart and verify cycle. Times are nanoseconds of the wall clock. -/
structure Iteration where
  /-- Counts from one within a campaign. -/
  index : Nat
  trigger : Trigger
  outcome : Outcome
  armedAtNs : Nat
  firedAtNs : Option Nat := none
  restartedAtNs : Option Nat := none
  /-- How the killed, or naturally stopped, process ended. -/
  exit : Option ExitStatus := none
  /-- Events the probe counted before it was disarmed. -/
  eventsObserved : Option Nat := none
  deriving DecidableEq, Repr, Inhabited

namespace Iteration

/-- The iteration as JSON. -/
def toJson (i : Iteration) : Json :=
  .obj [("index", .nat i.index), ("trigger", i.trigger.toJson), ("outcome", i.outcome.toJson),
    ("armed_at_ns", .nat i.armedAtNs), ("fired_at_ns", .ofOption .nat i.firedAtNs),
    ("restarted_at_ns", .ofOption .nat i.restartedAtNs),
    ("exit", .ofOption ExitStatus.toJson i.exit),
    ("events_observed", .ofOption .nat i.eventsObserved)]

/-- Reads an iteration from JSON; absent optional fields are `none`. -/
def decoder : Decoder Iteration :=
  let index := Field.required "index" Decoder.u64
  let trigger := Field.required "trigger" Trigger.decoder
  let outcome := Field.required "outcome" Outcome.decoder
  let armed := Field.required "armed_at_ns" Decoder.u64
  let fired := Field.optional "fired_at_ns" Decoder.u64
  let restarted := Field.optional "restarted_at_ns" Decoder.u64
  let exit := Field.optional "exit" ExitStatus.decoder
  let observed := Field.optional "events_observed" Decoder.u64
  Decoder.record "Iteration"
    [index.toCheck, trigger.toCheck, outcome.toCheck, armed.toCheck, fired.toCheck,
      restarted.toCheck, exit.toCheck, observed.toCheck] fun m => do
    return { index := ← m.read index, trigger := ← m.read trigger, outcome := ← m.read outcome,
             armedAtNs := ← m.read armed, firedAtNs := ← m.read fired,
             restartedAtNs := ← m.read restarted, exit := ← m.read exit,
             eventsObserved := ← m.read observed }

end Iteration

/-- The state of a campaign. -/
inductive CampaignState where
  | idle
  | calibrating
  | iterating
  | exhausted
  | corrupted
  | abortedByOperator
  deriving DecidableEq, Repr, Inhabited

namespace CampaignState

/-- Every state with its name, in declaration order. -/
def named : List (String × CampaignState) :=
  [("Idle", .idle), ("Calibrating", .calibrating), ("Iterating", .iterating),
    ("Exhausted", .exhausted), ("Corrupted", .corrupted), ("AbortedByOperator", .abortedByOperator)]

/-- The state's name. -/
def name : CampaignState → String
  | .idle => "Idle"
  | .calibrating => "Calibrating"
  | .iterating => "Iterating"
  | .exhausted => "Exhausted"
  | .corrupted => "Corrupted"
  | .abortedByOperator => "AbortedByOperator"

/-- Whether the campaign is over. -/
def isTerminal : CampaignState → Bool
  | .exhausted | .corrupted | .abortedByOperator => true
  | _ => false

/-- The state as JSON: its name. -/
def toJson (s : CampaignState) : Json := .str s.name

/-- Reads a state from JSON. -/
def decoder : Decoder CampaignState := Decoder.named (named.map fun (k, s) => (k, .unit s))

end CampaignState

end CrashTest
