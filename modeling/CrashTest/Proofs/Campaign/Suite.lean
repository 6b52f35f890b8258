import Mathlib
import CrashTest.Proofs.Campaign.Replay
/-!
What running a suite does: its campaigns, one after another, until one does not end exhausted.

A suite validates when it has campaigns and each of them validates
(`SuiteSpec.validate_eq_ok_iff`); one that does not is refused before any campaign runs. Otherwise
the campaigns run in order, each from the machine the one before it left. The first error a
campaign returns is the suite's error, and no campaign after it runs (`runSuite_error`, with the
campaigns before it in `RanExhausted`). A suite that returns reports each campaign that ran,
named after it, all exhausted but the last, and fewer than planned only when the last was not
(`RanUntilStop`, `runSuite_ok`); it passes exactly when every planned campaign ran and ended
exhausted, that is, when the last one ran did.
-/
namespace CrashTest

/-- Checking a list of campaigns one by one passes exactly when each campaign validates. -/
theorem SuiteSpec.forM_validate_eq_ok (specs : List CampaignSpec) :
    specs.forM CampaignSpec.validate = .ok () ↔ ∀ spec ∈ specs, spec.validate = .ok () := by
  induction specs with
  | nil => exact ⟨fun _ _ h => (nomatch h), fun _ => rfl⟩
  | cons spec rest ih =>
    show (spec.validate >>= fun _ => rest.forM CampaignSpec.validate) = _ ↔ _
    cases h : spec.validate with
    | error e =>
      refine ⟨fun hOk => (nomatch hOk), fun hAll => ?_⟩
      simpa [h] using hAll spec (.head rest)
    | ok u =>
      show rest.forM CampaignSpec.validate = _ ↔ _
      rw [ih]
      simp [h]

/-- A suite validates exactly when it has campaigns and each of them validates. -/
theorem SuiteSpec.validate_eq_ok_iff (suite : SuiteSpec) :
    suite.validate = .ok () ↔
      suite.campaigns ≠ [] ∧ ∀ spec ∈ suite.campaigns, spec.validate = .ok () := by
  unfold SuiteSpec.validate
  cases hCampaigns : suite.campaigns with
  | nil => simp
  | cons spec rest =>
    rw [List.isEmpty_cons, if_neg Bool.false_ne_true, SuiteSpec.forM_validate_eq_ok]
    simp

/-- `rs` are the results of the campaigns `specs` run in order until one did not end exhausted:
one for each campaign of a prefix of `specs`, named after it, nonempty when `specs` is, all
exhausted but the last, and fewer than the campaigns only when the last was not exhausted. -/
structure RanUntilStop (specs : List CampaignSpec) (rs : List CampaignResult) : Prop where
  names_eq : rs.map (·.name) = (specs.take rs.length).map (·.name)
  length_le : rs.length ≤ specs.length
  ne_nil : specs ≠ [] → rs ≠ []
  exhausted : ∀ x ∈ rs.dropLast, x.state = .exhausted
  stopped : rs.length < specs.length → ∃ last, rs.getLast? = some last ∧ last.state ≠ .exhausted

theorem RanUntilStop.nil : RanUntilStop [] [] where
  names_eq := rfl
  length_le := le_rfl
  ne_nil h := absurd rfl h
  exhausted := by simp
  stopped h := absurd h (lt_irrefl 0)

/-- A first campaign that did not end exhausted is the only one that ran. -/
theorem RanUntilStop.stop {spec : CampaignSpec} {rest : List CampaignSpec} {r : CampaignResult}
    (hName : r.name = spec.name) (hState : r.state ≠ .exhausted) :
    RanUntilStop (spec :: rest) [r] where
  names_eq := by simp [hName]
  length_le := by simp
  ne_nil _ := List.cons_ne_nil r []
  exhausted := by simp
  stopped _ := ⟨r, rfl, hState⟩

/-- A first campaign that ended exhausted is followed by the campaigns after it. -/
theorem RanUntilStop.cons {spec : CampaignSpec} {rest : List CampaignSpec} {r : CampaignResult}
    {rs : List CampaignResult} (hName : r.name = spec.name) (hState : r.state = .exhausted)
    (h : RanUntilStop rest rs) : RanUntilStop (spec :: rest) (r :: rs) where
  names_eq := by simp [hName, h.names_eq]
  length_le := by simpa using h.length_le
  ne_nil _ := List.cons_ne_nil r rs
  exhausted := by
    intro x hx
    cases rs with
    | nil => simp at hx
    | cons r' rs' =>
      rw [List.dropLast_cons_cons] at hx
      rcases List.mem_cons.1 hx with rfl | hx
      · exact hState
      · exact h.exhausted x hx
  stopped hLt := by
    obtain ⟨last, hLast, hNot⟩ := h.stopped (by simpa using hLt)
    refine ⟨last, ?_, hNot⟩
    cases rs with
    | nil => simp at hLast
    | cons r' rs' => simpa [List.getLast?_cons_cons] using hLast


/-- What a suite result says of the suite it ran: its name, the number of campaigns planned, and
the results, at least one, of its campaigns run in order until one did not end exhausted. -/
structure SuiteResult.Answers (suite : SuiteSpec) (r : SuiteResult) : Prop where
  name_eq : r.name = suite.name
  planned_eq : r.planned = suite.campaigns.length
  ne_nil : r.results ≠ []
  ranUntilStop : RanUntilStop suite.campaigns r.results

/-- A suite passes exactly when every planned campaign ran and ended exhausted. -/
theorem SuiteResult.Answers.passed_iff {suite : SuiteSpec} {r : SuiteResult} (h : r.Answers suite) :
    r.passed = true ↔
      r.results.length = suite.campaigns.length ∧ ∀ x ∈ r.results, x.state = .exhausted := by
  simp [SuiteResult.passed, h.planned_eq]

/-- A suite passes exactly when the last campaign that ran ended exhausted: every one before it
did, and it would not have been the last had it not stopped the suite or ended the plan. -/
theorem SuiteResult.Answers.passed_iff_last {suite : SuiteSpec} {r : SuiteResult}
    (h : r.Answers suite) :
    r.passed = true ↔ ∃ last, r.results.getLast? = some last ∧ last.state = .exhausted := by
  rw [h.passed_iff]
  have hSplit := List.dropLast_append_getLast h.ne_nil
  have hLast : r.results.getLast? = some (r.results.getLast h.ne_nil) :=
    List.getLast?_eq_some_getLast h.ne_nil
  constructor
  · rintro ⟨-, hAll⟩
    exact ⟨_, hLast, hAll _ (List.getLast_mem h.ne_nil)⟩
  · rintro ⟨last, hLast', hExhausted⟩
    obtain rfl : r.results.getLast h.ne_nil = last := Option.some.inj (hLast.symm.trans hLast')
    refine ⟨?_, fun x hx => ?_⟩
    · -- fewer results than campaigns would end on one that was not exhausted
      refine le_antisymm h.ranUntilStop.length_le (not_lt.1 fun hLt => ?_)
      obtain ⟨last', hLast'', hNot⟩ := h.ranUntilStop.stopped hLt
      rw [hLast] at hLast''
      cases hLast''
      exact hNot hExhausted
    · rw [← hSplit] at hx
      rcases List.mem_append.1 hx with hx | hx
      · exact h.ranUntilStop.exhausted x hx
      · rw [List.mem_singleton.1 hx]
        exact hExhausted

namespace Campaign

open Std.Do CrashTest.Os

/-- `RanExhausted cancel j specs w rs w'`: the campaigns `specs`, the first numbered `j`, ran one
after another from machine `w`, each from the machine the one before it left, returned the results
`rs`, all exhausted, and left machine `w'`. -/
inductive RanExhausted (cancel : Nat → CancelFlag) :
    Nat → List CampaignSpec → World → List CampaignResult → World → Prop
  | nil {j : Nat} {w : World} : RanExhausted cancel j [] w [] w
  | cons {j : Nat} {spec : CampaignSpec} {specs : List CampaignSpec} {w w₁ w' : World}
      {d : CampaignDriver} {r : CampaignResult} {rs : List CampaignResult} :
      runSpec spec (cancel j) w = (d, w₁, .ok r) → r.state = .exhausted →
      RanExhausted cancel (j + 1) specs w₁ rs w' → RanExhausted cancel j (spec :: specs) w (r :: rs) w'

/-- A campaign run by a fresh driver: the driver and machine its run leaves, and what it returns. -/
theorem runSpec_eq (spec : CampaignSpec) (cancel : CancelFlag) (w : World) :
    runSpec spec cancel w =
      (((run cancel).run.run (CampaignDriver.ofSpec spec, w)).2.1,
        ((run cancel).run.run (CampaignDriver.ofSpec spec, w)).2.2,
        ((run cancel).run.run (CampaignDriver.ofSpec spec, w)).1) := by
  unfold runSpec
  rcases (run cancel).run.run (CampaignDriver.ofSpec spec, w) with ⟨r, d, w'⟩
  rfl

/-- Every result a campaign returns answers the campaign. -/
theorem runSpec_answers {spec : CampaignSpec} {cancel : CancelFlag} {w w' : World}
    {d : CampaignDriver} {r : CampaignResult} (h : runSpec spec cancel w = (d, w', .ok r)) :
    r.Answers spec := by
  rw [runSpec_eq, Prod.mk.injEq, Prod.mk.injEq] at h
  have hAnswered := run_of_triple (@run_spec cancel .idle spec)
    (show DriverAt .idle spec (CampaignDriver.ofSpec spec, w) from ⟨rfl, rfl⟩)
  exact (hAnswered.of_ok h.2.2).2

section Go

variable {cancel : Nat → CancelFlag} {j : Nat} {spec : CampaignSpec} {rest : List CampaignSpec}
  {w w' : World} {done : List CampaignResult} {d : CampaignDriver}

/-- A campaign that fails ends the suite with its error. -/
theorem go_of_error {e : HarnessError} (h : runSpec spec (cancel j) w = (d, w', .error e)) :
    runSuite.go cancel j (spec :: rest) w done = (w', .error e) := by
  rw [runSuite.go, h]

/-- A campaign that ends exhausted is followed by the next one, from the machine it left. -/
theorem go_of_exhausted {r : CampaignResult} (h : runSpec spec (cancel j) w = (d, w', .ok r))
    (hState : r.state = .exhausted) :
    runSuite.go cancel j (spec :: rest) w done = runSuite.go cancel (j + 1) rest w' (r :: done) := by
  rw [runSuite.go, h]
  simp [hState]

/-- A campaign that ends otherwise ends the suite with the results so far. -/
theorem go_of_stopped {r : CampaignResult} (h : runSpec spec (cancel j) w = (d, w', .ok r))
    (hState : r.state ≠ .exhausted) :
    runSuite.go cancel j (spec :: rest) w done = (w', .ok (r :: done).reverse) := by
  rw [runSuite.go, h]
  simp [hState]

/-- The results a run of campaigns returns extend those it started with by the results of the
campaigns run in order until one did not end exhausted. -/
theorem go_ok {specs : List CampaignSpec} {rs : List CampaignResult}
    (h : runSuite.go cancel j specs w done = (w', .ok rs)) :
    ∃ new, rs = done.reverse ++ new ∧ RanUntilStop specs new := by
  induction specs generalizing j w done with
  | nil =>
    simp only [runSuite.go, Prod.mk.injEq, Except.ok.injEq] at h
    exact ⟨[], by simp [h.2], .nil⟩
  | cons spec rest ih =>
    rcases hRun : runSpec spec (cancel j) w with ⟨d, w₁, _ | r⟩
    · rw [go_of_error hRun] at h
      simp at h
    · by_cases hState : r.state = .exhausted
      · rw [go_of_exhausted hRun hState] at h
        obtain ⟨new, rfl, hNew⟩ := ih h
        exact ⟨r :: new, by simp, .cons (runSpec_answers hRun).name_eq hState hNew⟩
      · rw [go_of_stopped hRun hState] at h
        simp only [Prod.mk.injEq, Except.ok.injEq] at h
        exact ⟨[r], by simp [← h.2], .stop (runSpec_answers hRun).name_eq hState⟩

/-- A run of campaigns that fails does so with the error of one campaign, run after the campaigns
before it all ended exhausted, from the machine they left; it leaves the machine that campaign
left, so none after it ran. -/
theorem go_error {specs : List CampaignSpec} {e : HarnessError}
    (h : runSuite.go cancel j specs w done = (w', .error e)) :
    ∃ pre spec post rs w₁ d, specs = pre ++ spec :: post ∧ RanExhausted cancel j pre w rs w₁ ∧
      runSpec spec (cancel (j + pre.length)) w₁ = (d, w', .error e) := by
  induction specs generalizing j w done with
  | nil => simp [runSuite.go] at h
  | cons spec rest ih =>
    rcases hRun : runSpec spec (cancel j) w with ⟨d, w₁, e' | r⟩
    · rw [go_of_error hRun] at h
      simp only [Prod.mk.injEq, Except.error.injEq] at h
      obtain ⟨rfl, rfl⟩ := h
      exact ⟨[], spec, rest, [], w, d, rfl, .nil, hRun⟩
    · by_cases hState : r.state = .exhausted
      · rw [go_of_exhausted hRun hState] at h
        obtain ⟨pre, spec', post, rs, w₂, d', rfl, hRan, hFail⟩ := ih h
        have hIndex : j + (spec :: pre).length = j + 1 + pre.length := by
          simp only [List.length_cons]
          omega
        exact ⟨spec :: pre, spec', post, r :: rs, w₂, d', rfl, .cons hRun hState hRan,
          hIndex ▸ hFail⟩
      · rw [go_of_stopped hRun hState] at h
        simp at h

end Go

/-- A suite that does not validate is refused with the error, before any campaign runs. -/
theorem runSuite_of_invalid {suite : SuiteSpec} {cancel : Nat → CancelFlag} {w : World}
    {e : ConfigError} (h : suite.validate = .error e) :
    runSuite suite cancel w = (w, .error (.config e)) := by
  unfold runSuite
  rw [h]

/-- A validated suite that fails does so with the error of one of its campaigns, run after the ones
before it all ended exhausted; none after it ran. -/
theorem runSuite_error {suite : SuiteSpec} {cancel : Nat → CancelFlag} {w w' : World}
    {e : HarnessError} (hValid : suite.validate = .ok ())
    (h : runSuite suite cancel w = (w', .error e)) :
    ∃ pre spec post rs w₁ d, suite.campaigns = pre ++ spec :: post ∧
      RanExhausted cancel 0 pre w rs w₁ ∧ runSpec spec (cancel pre.length) w₁ = (d, w', .error e) := by
  unfold runSuite at h
  rw [hValid] at h
  rcases hGo : runSuite.go cancel 0 suite.campaigns w [] with ⟨w₁, e' | rs⟩
  · rw [hGo] at h
    simp only [Prod.mk.injEq, Except.error.injEq] at h
    obtain ⟨rfl, rfl⟩ := h
    simpa using go_error hGo
  · rw [hGo] at h
    simp at h

/-- A suite that returns reports its campaigns run in order until one did not end exhausted. -/
theorem runSuite_ok {suite : SuiteSpec} {cancel : Nat → CancelFlag} {w w' : World}
    {r : SuiteResult} (h : runSuite suite cancel w = (w', .ok r)) : r.Answers suite := by
  rcases hValid : suite.validate with e | ⟨⟩
  · rw [runSuite_of_invalid hValid] at h
    simp at h
  · have hNonempty := ((SuiteSpec.validate_eq_ok_iff suite).1 hValid).1
    unfold runSuite at h
    rw [hValid] at h
    rcases hGo : runSuite.go cancel 0 suite.campaigns w [] with ⟨w₁, e | rs⟩
    · rw [hGo] at h
      simp at h
    · rw [hGo] at h
      simp only [Prod.mk.injEq, Except.ok.injEq] at h
      obtain ⟨-, rfl⟩ := h
      obtain ⟨new, hRs, hRan⟩ := go_ok hGo
      rw [List.reverse_nil, List.nil_append] at hRs
      subst hRs
      exact ⟨rfl, rfl, hRan.ne_nil hNonempty, hRan⟩

/-- A suite is refused before anything runs unless it has campaigns and each validates. A validated
suite runs its campaigns in order, each from the machine the one before it left: if one fails, its
error is the suite's and no campaign after it runs; otherwise the suite reports the campaigns that
ran, each named after its campaign, all exhausted but the last, fewer than planned only when the
last was not, and it passes exactly when every planned campaign ran and ended exhausted. -/
theorem suite_runs_in_order_until_one_stops (suite : SuiteSpec) (cancel : Nat → CancelFlag)
    (w : World) :
    (suite.validate = .ok () ↔
      suite.campaigns ≠ [] ∧ ∀ spec ∈ suite.campaigns, spec.validate = .ok ()) ∧
    (∀ e, suite.validate = .error e → runSuite suite cancel w = (w, .error (.config e))) ∧
    (∀ w' e, suite.validate = .ok () → runSuite suite cancel w = (w', .error e) →
      ∃ pre spec post rs w₁ d, suite.campaigns = pre ++ spec :: post ∧
        RanExhausted cancel 0 pre w rs w₁ ∧
        runSpec spec (cancel pre.length) w₁ = (d, w', .error e)) ∧
    (∀ w' r, runSuite suite cancel w = (w', .ok r) → r.Answers suite ∧
      (r.passed = true ↔
        r.results.length = suite.campaigns.length ∧ ∀ x ∈ r.results, x.state = .exhausted)) :=
  ⟨suite.validate_eq_ok_iff, fun _ => runSuite_of_invalid, fun _ _ => runSuite_error,
    fun _ _ h => ⟨runSuite_ok h, (runSuite_ok h).passed_iff⟩⟩

end Campaign
end CrashTest
