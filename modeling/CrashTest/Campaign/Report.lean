import CrashTest.Campaign.Result
/-!
Campaign and suite reports for people.

A report opens with a title between two rules of 71 double bars. Each fact stands on its own
line, its label padded to 24 characters. Sections open with a heading of light bars 71 wide.
Seconds are written with one decimal, a calibrated window with three, and coverage as a whole
percentage; each is the double's exact value rounded half to even.
-/
namespace CrashTest

/-- The width of rules and headings. -/
def reportWidth : Nat := 71

/-- A rule of double bars, ended by a newline. -/
def reportRule : String := String.ofList (List.replicate reportWidth '═') ++ "\n"

/-- A section heading of light bars around `title`, ended by a newline. -/
def reportHeading (title : String) : String :=
  "─── " ++ title ++ " " ++ String.ofList (List.replicate (reportWidth - 5 - title.length) '─') ++
    "\n"

/-- `s` followed by spaces up to `width` characters. -/
def padRight (s : String) (width : Nat) : String :=
  s ++ String.ofList (List.replicate (width - s.length) ' ')

/-- One fact: its label padded to 24 characters, then its value, ended by a newline. -/
def reportLine (label value : String) : String := padRight label 24 ++ value ++ "\n"

namespace CampaignResult

/-- The coverage section: the highest threshold if any was tried, the calibrated window, the
timeline coverage when known, and the expectation. -/
def coverageSection (r : CampaignResult) : String :=
  let s := r.analytics
  let threshold := if 0 < s.maxThreshold then reportLine "Highest threshold:" (toString s.maxThreshold)
    else ""
  let window := match r.calibration with
    | some c => reportLine "Calibrated window:" (c.window.secondsF64.toFixed 3 ++ "s")
    | none => ""
  let coverage := match s.timelineCoverage with
    | some x =>
      let percent := (x.mul (Binary64.ofNat 100)).getD x
      reportLine "Timeline coverage:" (percent.toFixed 0 ++ "%")
    | none => ""
  reportHeading "Trigger Coverage" ++ threshold ++ window ++ coverage ++
    reportLine "Expected state:" r.expected.debugText ++ "\n"

/-- The corruption section for the first corrupted iteration, if there is one. -/
def corruptionSection (r : CampaignResult) : String :=
  match r.corruptedIteration with
  | none => ""
  | some i =>
    let reason := match i.outcome with
      | .corrupted reason => reportLine "Reason:" reason
      | _ => ""
    let exit := match i.exit with
      | some e => reportLine "Killed process:" e.describe
      | none => ""
    let capsule := if r.capsule.isSome then reportLine "Reproduction capsule:" "attached" else ""
    reportHeading "Corruption" ++ reportLine "Iteration:" (toString i.index) ++
      reportLine "Trigger:" i.trigger.describe ++ reason ++ exit ++ capsule ++ "\n"

/-- The campaign's report. -/
def report (r : CampaignResult) : String :=
  let s := r.analytics
  reportRule ++ "  crashprobe campaign: " ++ r.name ++ "\n" ++ reportRule ++ "\n" ++
    reportLine "Final state:" r.state.name ++
    reportLine "Stop reason:" r.stopReason.describe ++
    reportLine "Iterations:" (toString s.iterations) ++
    reportLine "  aborted:" (toString s.counts.aborted) ++
    reportLine "  finished naturally:" (toString s.counts.finishedNaturally) ++
    reportLine "  corrupted:" (toString s.counts.corrupted) ++
    reportLine "Elapsed:" (s.elapsedSecs.toFixed 1 ++ "s") ++ "\n" ++
    r.coverageSection ++ r.corruptionSection

end CampaignResult

namespace SuiteResult

/-- The suite's report: a line per campaign that ran, how many did not, and the verdict. -/
def report (s : SuiteResult) : String :=
  let line := fun (r : CampaignResult) =>
    "  " ++ padRight r.name 32 ++ " " ++ r.state.name ++ " (" ++ toString r.analytics.iterations ++
      " iterations, " ++ r.stopReason.describe ++ ")\n"
  let skipped := s.planned - s.results.length
  let notRun := if 0 < skipped then "  " ++ toString skipped ++ " campaign(s) not run\n" else ""
  reportRule ++ "  crashprobe suite: " ++ s.name ++ "\n" ++ reportRule ++ "\n" ++
    String.join (s.results.map line) ++ notRun ++
    "\nVerdict: " ++ (if s.passed then "PASS" else "FAIL") ++ "\n"

end SuiteResult

end CrashTest
