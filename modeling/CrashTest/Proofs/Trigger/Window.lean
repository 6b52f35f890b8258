import Mathlib
import CrashTest.Trigger.Sampler
/-!
Offsets drawn for time-offset triggers stay inside the calibrated window.

A calibration made by measuring an operation has a window of at least one nanosecond and at most
the largest word. A uniform draw below a positive bound is below it whatever the generator gives:
an accepted draw keeps the high half of the product of a 64-bit word with the bound, and a loop
that runs out of draws answers zero. So the seeded sampler turns any iteration into the
time-offset trigger of the whole window at an offset inside it.

More generally every offset a sampler answers lies in the window, so the trigger check, which
reads both spans back in nanoseconds saturating at the largest word, never refuses it, even for
a window of the largest word. Only a seeded draw from an empty window, which a calibration read
unchecked may have, fails; a fixed offset fails exactly when it is past the end of the window.

Since it compares the saturated counts, the check is exact only for a window short of the largest
word: a window of at least that many nanoseconds takes every offset, however far past its end,
and the trigger keeps the largest word for both spans.
-/
namespace CrashTest

/-- A window that could have been measured: at least one nanosecond, and a count of nanoseconds
that fits in a 64-bit word. -/
structure Calibration.Measured (c : Calibration) : Prop where
  pos : 0 < c.windowNs
  le_wordMax : c.windowNs ≤ Duration.wordMax

/-- The calibration of an operation timed from its start to its stop has a measured window. -/
theorem Calibration.measured_of_measure {start stop : Nat} {c : Calibration}
    (h : Calibration.measure start stop = .ok c) : c.Measured := by
  unfold Calibration.measure Calibration.new at h
  split at h
  · cases h
  · dsimp only at h
    split at h
    · cases h
    · cases h
      exact ⟨Nat.pos_of_ne_zero ‹_›, Nat.min_le_right _ _⟩

/-- A calibration of a span has a measured window: its nanoseconds up to the largest word. -/
theorem Calibration.new_eq_ok {window : Duration} {c : Calibration}
    (h : Calibration.new window = .ok c) :
    c.Measured ∧ c.windowNs = min window.nanos Duration.wordMax := by
  unfold Calibration.new at h
  dsimp only at h
  split at h
  · cases h
  · cases h
    exact ⟨⟨Nat.pos_of_ne_zero ‹_›, Nat.min_le_right _ _⟩, rfl⟩

/-- The calibration of a timed operation has a measured window: the time from its start to its
stop, up to the largest word. -/
theorem Calibration.measure_eq_ok {start stop : Nat} {c : Calibration}
    (h : Calibration.measure start stop = .ok c) :
    c.Measured ∧ c.windowNs = min (stop - start) Duration.wordMax := by
  unfold Calibration.measure at h
  split at h
  · cases h
  · exact Calibration.new_eq_ok h

/-- The calibration of a signed count of nanoseconds has a measured window: the count, up to the
largest word. -/
theorem Calibration.ofNanos_eq_ok {windowNs : Int} {c : Calibration}
    (h : Calibration.ofNanos windowNs = .ok c) :
    c.Measured ∧ c.windowNs = min windowNs.toNat Duration.wordMax := by
  unfold Calibration.ofNanos at h
  split at h
  · cases h
  · cases h
    refine ⟨⟨?_, Nat.min_le_right _ _⟩, rfl⟩
    have hPos : 0 < windowNs.toNat := by omega
    exact Nat.lt_min.2 ⟨hPos, by decide⟩

/-! ### The time-offset check -/

namespace Duration

theorem le_iff_nanos_le {a b : Duration} : a ≤ b ↔ a.nanos ≤ b.nanos := Iff.rfl

theorem lt_iff_nanos_lt {a b : Duration} : a < b ↔ a.nanos < b.nanos := Iff.rfl

/-- Saturated counts order two spans as the spans themselves, except that no span reads longer
than one of at least the largest word. -/
theorem saturatingNanos_le_iff (a b : Duration) :
    a.saturatingNanos ≤ b.saturatingNanos ↔ a ≤ b ∨ wordMax ≤ b.nanos := by
  rw [le_iff_nanos_le]
  unfold saturatingNanos
  omega

end Duration

namespace Trigger

/-- The check makes the trigger of the two saturated counts exactly when the offset does not pass
the window or the window reaches the largest word. -/
theorem ofTimeOffset_eq_ok_iff (window offset : Duration) (t : Trigger) :
    ofTimeOffset window offset = .ok t ↔
      (offset ≤ window ∨ Duration.wordMax ≤ window.nanos) ∧
        t = .timeOffset window.saturatingNanos offset.saturatingNanos := by
  rw [← Duration.saturatingNanos_le_iff, ofTimeOffset]
  split
  · next hLate => simp [Nat.not_le.2 hLate]
  · next hFits => simp [Nat.not_lt.1 hFits, eq_comm]

/-- The check refuses an offset past a window short of the largest word, naming the saturated
offset and the window. -/
theorem ofTimeOffset_eq_error_iff (window offset : Duration) (e : TriggerError) :
    ofTimeOffset window offset = .error e ↔
      window < offset ∧ window.nanos < Duration.wordMax ∧
        e = .offsetOutOfWindow offset.saturatingNanos window.nanos := by
  have hLate : window.saturatingNanos < offset.saturatingNanos ↔
      window < offset ∧ window.nanos < Duration.wordMax := by
    rw [← Nat.not_le, Duration.saturatingNanos_le_iff, Duration.le_iff_nanos_le,
      Duration.lt_iff_nanos_lt]
    omega
  rw [ofTimeOffset]
  split
  · next hOut =>
    obtain ⟨hPast, hShort⟩ := hLate.1 hOut
    have hWindow : window.saturatingNanos = window.nanos := Nat.min_eq_left hShort.le
    simp [hPast, hShort, hWindow, eq_comm]
  · next hIn =>
    simp only [reduceCtorEq, false_iff]
    exact fun h => hIn (hLate.2 ⟨h.1, h.2.1⟩)

/-- Short of the largest word the check is exact: it makes a trigger exactly when the offset does
not pass the window, and the trigger holds both counts as they are. -/
theorem ofTimeOffset_of_lt_wordMax {window offset : Duration}
    (hShort : window.nanos < Duration.wordMax) :
    ((∃ t, ofTimeOffset window offset = .ok t) ↔ offset ≤ window) ∧
      (offset ≤ window →
        ofTimeOffset window offset = .ok (.timeOffset window.nanos offset.nanos)) := by
  have hExact : offset ≤ window → window.saturatingNanos = window.nanos ∧
      offset.saturatingNanos = offset.nanos := fun hIn =>
    ⟨Nat.min_eq_left hShort.le, Nat.min_eq_left (Nat.le_trans hIn hShort.le)⟩
  simp only [ofTimeOffset_eq_ok_iff, exists_eq_right, Nat.not_le.2 hShort, or_false, true_and]
  intro hIn
  exact ⟨hIn, by rw [(hExact hIn).1, (hExact hIn).2]⟩

end Trigger

/-- The time-offset check reads both spans in nanoseconds saturating at the largest word. It
makes the trigger of the two saturated counts exactly when the offset does not pass the window or
the window reaches the largest word, and otherwise refuses the offset, naming the saturated offset
and the window. For a window short of the largest word, about 584 years, the check is exact: a
trigger exactly when the offset does not pass the window, holding both counts as they are. -/
theorem time_offset_check_saturates (window offset : Duration) :
    (∀ t, Trigger.ofTimeOffset window offset = .ok t ↔
        (offset ≤ window ∨ Duration.wordMax ≤ window.nanos) ∧
          t = .timeOffset window.saturatingNanos offset.saturatingNanos) ∧
      (∀ e, Trigger.ofTimeOffset window offset = .error e ↔
        window < offset ∧ window.nanos < Duration.wordMax ∧
          e = .offsetOutOfWindow offset.saturatingNanos window.nanos) ∧
      (window.nanos < Duration.wordMax →
        ((∃ t, Trigger.ofTimeOffset window offset = .ok t) ↔ offset ≤ window) ∧
          (offset ≤ window → Trigger.ofTimeOffset window offset =
            .ok (.timeOffset window.nanos offset.nanos))) :=
  ⟨Trigger.ofTimeOffset_eq_ok_iff window offset, Trigger.ofTimeOffset_eq_error_iff window offset,
    fun hShort => Trigger.ofTimeOffset_of_lt_wordMax hShort⟩

/-- In a ten-second window an offset of three seconds makes the trigger of the exact counts. -/
theorem three_seconds_into_ten_second_window :
    (Duration.ofSecs 10).nanos < Duration.wordMax ∧
      Trigger.ofTimeOffset (.ofSecs 10) (.ofSecs 3) =
        .ok (.timeOffset (Duration.ofSecs 10).nanos (Duration.ofSecs 3).nanos) :=
  ⟨by decide, ((time_offset_check_saturates (.ofSecs 10) (.ofSecs 3)).2.2 (by decide)).2
    (by decide)⟩

/-- Past the largest word the check is not exact: an offset a second past a window of
18446744074 s passes, and the trigger holds the largest word for both. -/
theorem offset_past_saturated_window_passes :
    Duration.ofSecs 18446744074 < Duration.ofSecs 18446744075 ∧
      Trigger.ofTimeOffset (.ofSecs 18446744074) (.ofSecs 18446744075) =
        .ok (.timeOffset Duration.wordMax Duration.wordMax) :=
  ⟨by decide, rfl⟩

namespace Random

/-- The rejection loop answers a number below its positive bound, whatever the draws are. -/
theorem drawBelow_lt {n : Nat} (hn : 0 < n) (fuel : Nat) (g : Generator) :
    (drawBelow n fuel g).1 < n := by
  induction fuel generalizing g with
  | zero => exact hn
  | succ fuel ih =>
    unfold drawBelow
    rcases g.nextU64 with ⟨v, g'⟩
    dsimp only
    split
    · -- the high half of a 64-bit word times `n` is below `n`
      rw [Nat.div_lt_iff_lt_mul (by positivity), Nat.mul_comm v.toNat]
      exact Nat.mul_lt_mul_of_pos_left v.toNat_lt hn
    · exact ih g'

/-- A uniform draw below a positive bound is below it. -/
theorem Generator.below_lt (g : Generator) {n : Nat} (hn : 0 < n) : (g.below n).1 < n :=
  drawBelow_lt hn 1024 g

end Random

/-- A seeded sampler draws from a window of at least one nanosecond an offset inside it. -/
theorem OffsetSampler.sample_seeded_of_pos (seed iteration : Nat) {c : Calibration}
    (hc : 0 < c.windowNs) :
    ∃ offsetNs, offsetNs < c.windowNs ∧
      (OffsetSampler.seeded seed).sample c iteration = .ok (.ofNanos offsetNs) := by
  rw [OffsetSampler.sample, if_neg (Nat.pos_iff_ne_zero.1 hc)]
  -- the draw is taken as `sample` writes it: unfolding the generator would run ChaCha symbolically
  refine ⟨_, ?_, rfl⟩
  exact Random.Generator.below_lt _ hc

/-- A seeded sampler draws from a measured window an offset inside it. -/
theorem OffsetSampler.sample_seeded (seed iteration : Nat) {c : Calibration} (hc : c.Measured) :
    ∃ offsetNs, offsetNs < c.windowNs ∧
      (OffsetSampler.seeded seed).sample c iteration = .ok (.ofNanos offsetNs) :=
  sample_seeded_of_pos seed iteration hc.pos

/-- A sampled offset that fits a window of at most a word becomes the time-offset trigger of the
whole window at that offset. -/
theorem OffsetSampler.trigger_of_sample {s : OffsetSampler} {c : Calibration} {iteration : Nat}
    {offset : Duration} (hSample : s.sample c iteration = .ok offset)
    (hInside : offset.nanos ≤ c.windowNs) (hWord : c.windowNs ≤ Duration.wordMax) :
    s.trigger c iteration = .ok (.timeOffset c.windowNs offset.nanos) := by
  have hWindow : c.window.saturatingNanos = c.windowNs := Nat.min_eq_left hWord
  have hOffset : offset.saturatingNanos = offset.nanos := Nat.min_eq_left (by omega)
  rw [OffsetSampler.trigger, hSample]
  change Except.mapError SampleError.trigger (Trigger.ofTimeOffset c.window offset) = _
  rw [Trigger.ofTimeOffset, hWindow, hOffset, if_neg (Nat.not_lt.2 hInside)]
  rfl

/-- A seeded draw from an empty window fails, as drawing from an empty range does. -/
theorem OffsetSampler.sample_seeded_empty (seed iteration : Nat) {c : Calibration}
    (hc : c.windowNs = 0) :
    (OffsetSampler.seeded seed).sample c iteration = .error .emptyRange := by
  rw [OffsetSampler.sample, if_pos hc]

/-- A fixed offset is the offset of every iteration when it fits the window, and is refused with
both spans otherwise. -/
theorem OffsetSampler.sample_fixed (offsetNs iteration : Nat) (c : Calibration) :
    (OffsetSampler.fixed offsetNs).sample c iteration =
      if offsetNs ≤ c.windowNs then .ok (.ofNanos offsetNs)
      else .error (.trigger (.offsetOutOfWindow offsetNs c.windowNs)) := by
  rw [OffsetSampler.sample]
  by_cases hFits : offsetNs ≤ c.windowNs
  · rw [if_neg (Nat.not_lt.2 hFits), if_pos hFits]
  · rw [if_pos (Nat.lt_of_not_le hFits), if_neg hFits]

/-- Every offset a sampler answers lies in the window. -/
theorem OffsetSampler.nanos_le_of_sample {s : OffsetSampler} {c : Calibration} {iteration : Nat}
    {offset : Duration} (hSample : s.sample c iteration = .ok offset) :
    offset.nanos ≤ c.windowNs := by
  cases s with
  | seeded seed =>
    by_cases hc : c.windowNs = 0
    · rw [sample_seeded_empty seed iteration hc] at hSample
      cases hSample
    · obtain ⟨offsetNs, hInside, hDrawn⟩ :=
        sample_seeded_of_pos seed iteration (Nat.pos_of_ne_zero hc)
      rw [hDrawn] at hSample
      cases hSample
      exact hInside.le
  | fixed offsetNs =>
    rw [sample_fixed] at hSample
    split at hSample
    · cases hSample
      assumption
    · cases hSample

/-- A seeded sampler turns an iteration into the time-offset trigger of the whole measured window,
at an offset inside it. -/
theorem OffsetSampler.seeded_trigger (seed iteration : Nat) {c : Calibration} (hc : c.Measured) :
    ∃ offsetNs, offsetNs < c.windowNs ∧
      (OffsetSampler.seeded seed).trigger c iteration = .ok (.timeOffset c.windowNs offsetNs) := by
  obtain ⟨offsetNs, hInside, hSample⟩ := sample_seeded seed iteration hc
  exact ⟨offsetNs, hInside, trigger_of_sample hSample hInside.le hc.le_wordMax⟩

/-- Sampled offsets always make triggers. For any sampler and a window of at most the largest
word, as every calibration has, whether made or read: an offset the sampler answers becomes the
time-offset trigger of the whole window at that offset, so the trigger check never refuses it. A
seeded sampler never fails on a window of at least one nanosecond and answers an offset below
it, while on an empty window it fails as drawing from an empty range does. A fixed sampler answers
exactly when its offset fits the window, and otherwise names the offset and the window. Every
calibration made by `new`, `measure` or `ofNanos` has a window of at least one nanosecond: the
measured nanoseconds, up to the largest word. -/
theorem sampled_offsets_make_triggers :
    (∀ (s : OffsetSampler) (c : Calibration) (iteration : Nat) (offset : Duration),
        c.windowNs ≤ Duration.wordMax → s.sample c iteration = .ok offset →
        s.trigger c iteration = .ok (.timeOffset c.windowNs offset.nanos)) ∧
    (∀ (seed : Nat) (c : Calibration) (iteration : Nat), 1 ≤ c.windowNs →
        ∃ offset, (OffsetSampler.seeded seed).sample c iteration = .ok offset ∧
          offset.nanos < c.windowNs) ∧
    (∀ (seed : Nat) (c : Calibration) (iteration : Nat), c.windowNs = 0 →
        (OffsetSampler.seeded seed).sample c iteration = .error .emptyRange) ∧
    SampleError.emptyRangeMessage = "cannot sample empty range" ∧
    (∀ (offsetNs : Nat) (c : Calibration) (iteration : Nat),
        ((∃ offset, (OffsetSampler.fixed offsetNs).sample c iteration = .ok offset) ↔
          offsetNs ≤ c.windowNs) ∧
        (c.windowNs < offsetNs → (OffsetSampler.fixed offsetNs).sample c iteration =
          .error (.trigger (.offsetOutOfWindow offsetNs c.windowNs)))) ∧
    (∀ (window : Duration) (c : Calibration), Calibration.new window = .ok c →
        c.Measured ∧ c.windowNs = min window.nanos Duration.wordMax) ∧
    (∀ (start stop : Nat) (c : Calibration), Calibration.measure start stop = .ok c →
        c.Measured ∧ c.windowNs = min (stop - start) Duration.wordMax) ∧
    (∀ (windowNs : Int) (c : Calibration), Calibration.ofNanos windowNs = .ok c →
        c.Measured ∧ c.windowNs = min windowNs.toNat Duration.wordMax) := by
  refine ⟨fun s c iteration offset hWord hSample => ?_, fun seed c iteration hc => ?_,
    fun seed c iteration hc => OffsetSampler.sample_seeded_empty seed iteration hc, rfl,
    fun offsetNs c iteration => ⟨?_, fun hLate => ?_⟩, fun _ _ => Calibration.new_eq_ok,
    fun _ _ _ => Calibration.measure_eq_ok, fun _ _ => Calibration.ofNanos_eq_ok⟩
  · exact OffsetSampler.trigger_of_sample hSample (OffsetSampler.nanos_le_of_sample hSample) hWord
  · obtain ⟨offsetNs, hInside, hDrawn⟩ := OffsetSampler.sample_seeded_of_pos seed iteration hc
    exact ⟨_, hDrawn, hInside⟩
  · rw [OffsetSampler.sample_fixed]
    constructor
    · rintro ⟨offset, hSample⟩
      split at hSample
      · assumption
      · cases hSample
    · intro hFits
      exact ⟨_, if_pos hFits⟩
  · rw [OffsetSampler.sample_fixed, if_neg (Nat.not_le.2 hLate)]

/-- A fixed offset of three seconds in a ten-second window becomes its trigger; a seeded sampler
draws inside a window of 750 ms and fails on an empty one; a fixed offset of eleven seconds is
refused by a ten-second window; and a calibration of 750 ms is measured. -/
theorem fixed_offset_in_ten_second_window :
    (OffsetSampler.fixed 3000000000).trigger ⟨10000000000⟩ 99 =
        .ok (.timeOffset 10000000000 3000000000) ∧
      (∃ offset, (OffsetSampler.seeded 7).sample ⟨750000000⟩ 1 = .ok offset ∧
        offset.nanos < 750000000) ∧
      (OffsetSampler.seeded 1).sample ⟨0⟩ 1 = .error .emptyRange ∧
      (OffsetSampler.fixed 11000000000).sample ⟨10000000000⟩ 1 =
        .error (.trigger (.offsetOutOfWindow 11000000000 10000000000)) ∧
      Calibration.Measured ⟨750000000⟩ ∧
      750000000 = min (Duration.ofMillis 750).nanos Duration.wordMax :=
  ⟨sampled_offsets_make_triggers.1 (.fixed 3000000000) ⟨10000000000⟩ 99 ⟨3000000000⟩
      (by decide) rfl,
    sampled_offsets_make_triggers.2.1 7 ⟨750000000⟩ 1 (by decide),
    sampled_offsets_make_triggers.2.2.1 1 ⟨0⟩ 1 rfl,
    (sampled_offsets_make_triggers.2.2.2.2.1 11000000000 ⟨10000000000⟩ 1).2 (by decide),
    sampled_offsets_make_triggers.2.2.2.2.2.1 (.ofMillis 750) ⟨750000000⟩ rfl⟩

end CrashTest
