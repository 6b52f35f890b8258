import Mathlib
import CrashTest.Campaign.Analytics
/-!
What a campaign's analytics say about the iterations recorded into them.

Recording is a left fold: the analytics after a list of iterations are those of a fresh
aggregator, told the calibrated window when there is one, with `record` applied to each iteration
in order. Their counts are then the numbers of iterations that ended each way, the total is the
number of iterations, the window is the one they were told, and the highest threshold is the
largest event-count threshold recorded.

The timeline is a histogram: each slice counts the iterations whose kill landed in it
(`Iteration.killSlot?`), and the slices hit are as many as the distinct slices kills landed in.
A slice is the quotient `offset * 20 / window` cut to a 64-bit word and then clamped to the last
slice, so an offset far past the end of a small window lands in a low slice, not the last one.
-/
namespace CrashTest

namespace OutcomeCounts

/-- Counting one more iteration adds one to the total. -/
@[simp] theorem total_record (c : OutcomeCounts) (o : Outcome) :
    (c.record o).total = c.total + 1 := by
  cases o <;> simp [record, total] <;> omega

end OutcomeCounts

/-- Adding one at an entry is `List.modify` with the successor. -/
theorem bumpAt_eq_modify (l : List Nat) (k : Nat) : bumpAt l k = l.modify k (· + 1) := by
  induction l generalizing k with
  | nil => cases k <;> rfl
  | cons x xs ih =>
    cases k with
    | zero => rfl
    | succ k => simp [bumpAt, ih, List.modify_succ_cons]

/-- The slice of the window in which an iteration's kill landed, if it marks one: only a
time-offset trigger in a window of at least a nanosecond, in an iteration that did not finish
naturally, marks a slice. The slice is `offset * 20 / window` cut to a 64-bit word, and at most
the last slice. -/
def Iteration.killSlot? (i : Iteration) : Option Nat :=
  match i.trigger with
  | .timeOffset windowNs offsetNs =>
    if i.outcome = .finishedNaturally ∨ windowNs = 0 then none
    else some (min 19 (offsetNs * 20 / windowNs % 2 ^ 64))
  | .eventCount .. => none

/-- A kill lands in one of the slices. -/
theorem Iteration.killSlot?_lt {i : Iteration} {k : Nat} (h : i.killSlot? = some k) :
    k < timelineSlices := by
  unfold killSlot? at h
  split at h
  · split at h
    · cases h
    · cases h
      exact Nat.lt_succ_of_le (Nat.min_le_left _ _)
  · cases h

namespace CampaignAnalytics

/-- The analytics of a fresh aggregator, told the window `window` when there is one, after it
recorded each of `iterations` in order. -/
def ofIterations (window : Option Nat) (iterations : List Iteration) : CampaignAnalytics :=
  iterations.foldl record { windowNs := window }

@[simp] theorem ofIterations_nil (window : Option Nat) :
    ofIterations window [] = { windowNs := window } := rfl

@[simp] theorem ofIterations_append_singleton (window : Option Nat) (its : List Iteration)
    (i : Iteration) : ofIterations window (its ++ [i]) = (ofIterations window its).record i := by
  simp [ofIterations]

/-- Recording an iteration counts its outcome. -/
@[simp] theorem record_counts (a : CampaignAnalytics) (i : Iteration) :
    (a.record i).counts = a.counts.record i.outcome := by
  unfold record
  split
  · rfl
  · split <;> rfl

/-- Recording an iteration adds one to the slice its kill landed in, if any. -/
@[simp] theorem record_timeline (a : CampaignAnalytics) (i : Iteration) :
    (a.record i).timeline = i.killSlot?.elim a.timeline (bumpAt a.timeline) := by
  unfold record Iteration.killSlot?
  split
  · simp_all
  · rename_i windowNs offsetNs hTrigger
    simp only [hTrigger]
    by_cases hKill : i.outcome = .finishedNaturally ∨ windowNs = 0
    · rcases hKill with h | h <;> simp [h]
    · obtain ⟨hLanded, hWindow⟩ := not_or.1 hKill
      simp [hLanded, Nat.pos_of_ne_zero hWindow, hWindow, timelineSlot, timelineSlices]

/-- Recording an iteration keeps the window. -/
@[simp] theorem record_windowNs (a : CampaignAnalytics) (i : Iteration) :
    (a.record i).windowNs = a.windowNs := by
  unfold record
  split
  · rfl
  · split <;> rfl

/-- Recording an iteration raises the highest threshold to its own, if it counts events. -/
@[simp] theorem record_maxThreshold (a : CampaignAnalytics) (i : Iteration) :
    (a.record i).maxThreshold = max a.maxThreshold (i.trigger.threshold?.getD 0) := by
  unfold record
  split
  · simp_all [Trigger.threshold?]
  · split <;> simp_all [Trigger.threshold?]

/-- The analytics keep the window they were told. -/
@[simp] theorem ofIterations_windowNs (window : Option Nat) (its : List Iteration) :
    (ofIterations window its).windowNs = window := by
  induction its using List.reverseRecOn with
  | nil => rfl
  | append_singleton its i ih => simp [ih]

/-- The counts are the numbers of recorded iterations that ended each way. -/
theorem ofIterations_counts (window : Option Nat) (its : List Iteration) :
    (ofIterations window its).counts =
      { aborted := its.countP (·.outcome == .aborted),
        finishedNaturally := its.countP (·.outcome == .finishedNaturally),
        corrupted := its.countP (·.outcome.isCorrupted) } := by
  induction its using List.reverseRecOn with
  | nil => rfl
  | append_singleton its i ih =>
    rw [ofIterations_append_singleton, record_counts, ih]
    cases hOutcome : i.outcome <;> simp [OutcomeCounts.record, Outcome.isCorrupted, hOutcome]

/-- Every recorded iteration is counted once. -/
theorem ofIterations_total (window : Option Nat) (its : List Iteration) :
    (ofIterations window its).counts.total = its.length := by
  induction its using List.reverseRecOn with
  | nil => rfl
  | append_singleton its i ih => simp [ih]

/-- The highest threshold is the largest event-count threshold recorded, or zero. -/
theorem ofIterations_maxThreshold (window : Option Nat) (its : List Iteration) :
    (ofIterations window its).maxThreshold =
      (its.map fun i => i.trigger.threshold?.getD 0).foldl max 0 := by
  induction its using List.reverseRecOn with
  | nil => rfl
  | append_singleton its i ih => simp [ih]

/-- Each slice of the timeline counts the recorded iterations whose kill landed in it. -/
theorem ofIterations_timeline (window : Option Nat) (its : List Iteration) :
    (ofIterations window its).timeline =
      (List.range timelineSlices).map fun k => its.countP fun i => i.killSlot? == some k := by
  induction its using List.reverseRecOn with
  | nil => rfl
  | append_singleton its i ih =>
    rw [ofIterations_append_singleton, record_timeline, ih]
    cases hSlot : i.killSlot? with
    | none => simp [List.countP_append, hSlot]
    | some k =>
      -- the new kill adds one to slice `k` and nothing to the others
      refine List.ext_getElem (by simp [bumpAt_eq_modify]) fun j _ _ => ?_
      simp [bumpAt_eq_modify, List.getElem_modify, List.countP_append, hSlot]
      split <;> rfl

/-- The slices hit are as many as the distinct slices that recorded kills landed in. -/
theorem ofIterations_slicesHit (window : Option Nat) (its : List Iteration) :
    (ofIterations window its).slicesHit = (its.filterMap Iteration.killSlot?).toFinset.card := by
  have hMem : ∀ k, (0 < its.countP fun i => i.killSlot? == some k) ↔
      k ∈ its.filterMap Iteration.killSlot? := by
    intro k
    simp [List.countP_pos_iff, List.mem_filterMap]
  have hBelow : ∀ k ∈ its.filterMap Iteration.killSlot?, k < timelineSlices := by
    intro k hk
    obtain ⟨i, -, hSlot⟩ := List.mem_filterMap.1 hk
    exact Iteration.killSlot?_lt hSlot
  -- the slices hit, listed in order, are duplicate-free: count them as a finite set
  rw [slicesHit, ofIterations_timeline, List.filter_map, List.length_map,
    ← List.toFinset_card_of_nodup (List.nodup_range.filter _)]
  congr 1
  ext k
  simp only [List.mem_toFinset, List.mem_filter, List.mem_range, Function.comp_apply, hMem,
    decide_eq_true_eq]
  exact ⟨And.right, fun hk => ⟨hBelow k hk, hk⟩⟩

/-- What the analytics say after recording iterations in order: each slice of the timeline counts
the iterations whose time-offset kill landed in it, in a window of at least a nanosecond, the
slice being `offset * 20 / window` cut to a 64-bit word and clamped to the last one; the highest
threshold is the largest event-count threshold recorded, or zero; the counts are the numbers of
iterations that ended each way; and the slices hit are the distinct slices that kills landed in. -/
theorem analytics_timeline_counts_landed_kills (window : Option Nat) (its : List Iteration) :
    (ofIterations window its).timeline =
        (List.range timelineSlices).map (fun k => its.countP fun i => i.killSlot? == some k) ∧
      (ofIterations window its).maxThreshold =
        (its.map fun i => i.trigger.threshold?.getD 0).foldl max 0 ∧
      (ofIterations window its).counts =
        { aborted := its.countP (·.outcome == .aborted),
          finishedNaturally := its.countP (·.outcome == .finishedNaturally),
          corrupted := its.countP (·.outcome.isCorrupted) } ∧
      (ofIterations window its).slicesHit = (its.filterMap Iteration.killSlot?).toFinset.card :=
  ⟨ofIterations_timeline window its, ofIterations_maxThreshold window its,
    ofIterations_counts window its, ofIterations_slicesHit window its⟩

/-- A kill recorded at an offset of `2^62` in a window of one nanosecond lands in the first slice,
while clamping the quotient without cutting it to a word would put it in the last. -/
theorem far_offset_kill_wraps_to_first_slice :
    (ofIterations none
        [{ index := 1, trigger := .timeOffset 1 (2 ^ 62), outcome := .aborted,
           armedAtNs := 1 }]).timeline = 1 :: List.replicate 19 0 ∧
    min (2 ^ 62 * 20 / 1) 19 = 19 := by
  decide

end CampaignAnalytics

end CrashTest
