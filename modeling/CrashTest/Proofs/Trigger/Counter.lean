import Mathlib
import CrashTest.Trigger.Counter
/-!
Counting an event over a stream of lines.

A counter is sound when its threshold is positive, it has not passed the threshold, and it has
fired exactly when it reached it. A fresh counter is sound and every line keeps it so, which is
the whole of the argument: a sound counter adds the line to its count, capped at the threshold,
and answers the threshold on the one line that takes the count onto it. Fed a stream of lines, a
fresh counter therefore answers the threshold exactly on the line where the number of lines that
mention the event first reaches it, answers nothing on every other line, and ends holding that
number capped at the threshold.
-/
namespace CrashTest

namespace Text

/-- The search for a needle finds it exactly where it stands as a run of characters. -/
theorem occursIn_iff (needle hay : List Char) : occursIn needle hay = true ↔ needle <:+: hay := by
  induction hay with
  | nil => simp [occursIn, List.infix_nil]
  | cons c rest ih =>
    rw [occursIn, Bool.or_eq_true, ih, List.isPrefixOf_iff_prefix, List.infix_cons_iff]

/-- A text contains another when the other's characters stand in it as one run. -/
theorem contains_iff (hay needle : String) :
    contains hay needle = true ↔ needle.toList <:+: hay.toList :=
  occursIn_iff _ _

end Text

/-- The lines of `lines` that mention `e`: those holding its characters as one run. -/
def mentionCount (e : String) (lines : List String) : Nat :=
  lines.countP fun line => decide (e.toList <:+: line.toList)

namespace EventCounter

/-- Feeds lines to the counter in order: the counter afterwards, and what it answered to each. -/
def feed (c : EventCounter) : List String → EventCounter × List (Option Nat)
  | [] => (c, [])
  | line :: rest =>
    let step := c.observe line
    let run := step.1.feed rest
    (run.1, step.2 :: run.2)

@[simp] theorem feed_nil (c : EventCounter) : c.feed [] = (c, []) := rfl

@[simp] theorem feed_cons (c : EventCounter) (line : String) (rest : List String) :
    c.feed (line :: rest) =
      (((c.observe line).1.feed rest).1, (c.observe line).2 :: ((c.observe line).1.feed rest).2) :=
  rfl

/-- A counter that can go on counting: a positive threshold not passed, and fired exactly when
reached. -/
structure Sound (c : EventCounter) : Prop where
  pos : 0 < c.threshold
  le : c.observed ≤ c.threshold
  fired_iff : c.fired = true ↔ c.observed = c.threshold

/-- A fresh counter of a positive threshold is sound. -/
theorem sound_fresh (e : String) {t : Nat} (ht : 0 < t) :
    Sound { eventName := e, threshold := t } :=
  ⟨ht, Nat.zero_le _, by simp; omega⟩

@[simp] theorem observe_eventName (c : EventCounter) (line : String) :
    (c.observe line).1.eventName = c.eventName := by
  unfold observe; dsimp only; split_ifs <;> rfl

@[simp] theorem observe_threshold (c : EventCounter) (line : String) :
    (c.observe line).1.threshold = c.threshold := by
  unfold observe; dsimp only; split_ifs <;> rfl

@[simp] theorem observe_mentions (c : EventCounter) (line : String) :
    (c.observe line).1.mentions = c.mentions := by
  funext other; simp [mentions]

/-- What one line does to a counter: nothing once it has fired or when the line does not mention
the event; otherwise one more, which fires it with the threshold when that reaches it. -/
theorem observe_cases (c : EventCounter) (line : String) :
    ((c.fired = true ∨ c.mentions line = false) ∧ c.observe line = (c, none)) ∨
    (c.fired = false ∧ c.mentions line = true ∧ c.observed + 1 = c.threshold ∧
      c.observe line = ({ c with observed := c.threshold, fired := true }, some c.threshold)) ∨
    (c.fired = false ∧ c.mentions line = true ∧ c.observed + 1 ≠ c.threshold ∧
      c.observe line = ({ c with observed := c.observed + 1 }, none)) := by
  unfold observe
  cases hf : c.fired <;> cases hm : c.mentions line <;> simp only [Bool.true_or, Bool.false_or,
    Bool.not_true, Bool.not_false, if_true, Bool.false_eq_true, if_false] <;> simp
  split_ifs with hReach <;> simp [hReach]

/-- A fired counter ignores every line. -/
theorem observe_of_fired {c : EventCounter} (h : c.fired = true) (line : String) :
    c.observe line = (c, none) := by
  simp [observe, h]

/-- A counter that answers a line has fired on it. -/
theorem fired_of_observe_answer {c : EventCounter} {line : String} {n : Nat}
    (h : (c.observe line).2 = some n) : (c.observe line).1.fired = true := by
  rcases observe_cases c line with ⟨-, hObs⟩ | ⟨-, -, -, hObs⟩ | ⟨-, -, -, hObs⟩ <;>
    rw [hObs] at h ⊢ <;> simp_all

/-- A counter answers only with its threshold. -/
theorem eq_threshold_of_observe_answer {c : EventCounter} {line : String} {n : Nat}
    (h : (c.observe line).2 = some n) : n = c.threshold := by
  rcases observe_cases c line with ⟨-, hObs⟩ | ⟨-, -, -, hObs⟩ | ⟨-, -, -, hObs⟩ <;>
    rw [hObs] at h <;> simp_all

section Sound

variable {c : EventCounter} (hc : c.Sound) (line : String)
include hc

/-- A sound counter that has not fired is below its threshold. -/
theorem Sound.lt_of_not_fired (h : c.fired = false) : c.observed < c.threshold := by
  have hne : c.observed ≠ c.threshold := fun heq => by simp [hc.fired_iff.2 heq] at h
  exact Nat.lt_of_le_of_ne hc.le hne

/-- A line that mentions the event adds one to the count of a sound counter, capped at the
threshold. -/
theorem Sound.observe_observed :
    (c.observe line).1.observed =
      min c.threshold (c.observed + if c.mentions line then 1 else 0) := by
  rcases observe_cases c line with ⟨hIdle, hObs⟩ | ⟨hf, hm, hReach, hObs⟩ | ⟨hf, hm, hBelow, hObs⟩
  · rw [hObs]
    rcases hIdle with hf | hm
    · -- a fired counter already stands at its threshold
      have := hc.fired_iff.1 hf
      simp only; omega
    · simpa [hm] using hc.le
  · simp [hObs, hm]; omega
  · have := hc.lt_of_not_fired hf
    simp only [hObs, hm, if_true]; omega

/-- A sound counter answers the threshold on the line that takes its count onto it, and nothing
otherwise. -/
theorem Sound.observe_answer :
    (c.observe line).2 = if c.observed < c.threshold ∧
        c.threshold ≤ c.observed + (if c.mentions line then 1 else 0)
      then some c.threshold else none := by
  rcases observe_cases c line with ⟨hIdle, hObs⟩ | ⟨hf, hm, hReach, hObs⟩ | ⟨hf, hm, hBelow, hObs⟩
  · rw [hObs]
    rcases hIdle with hf | hm
    · have := hc.fired_iff.1 hf
      rw [if_neg (by omega)]
    · simp [hm]
  · simp only [hObs, hm, if_true]
    rw [if_pos (by omega)]
  · have := hc.lt_of_not_fired hf
    simp only [hObs, hm, if_true]
    rw [if_neg (by omega)]

/-- A line keeps a counter sound. -/
theorem Sound.observe : (c.observe line).1.Sound := by
  rcases observe_cases c line with ⟨-, hObs⟩ | ⟨-, -, -, hObs⟩ | ⟨hf, -, hBelow, hObs⟩ <;>
    rw [hObs]
  · exact hc
  · exact ⟨hc.pos, le_refl _, by simp⟩
  · have := hc.lt_of_not_fired hf
    exact ⟨hc.pos, by simp only; omega, by simp [hf, hBelow]⟩

end Sound

/-- A fired counter answers nothing to any stream and stays as it is. -/
theorem feed_of_fired {c : EventCounter} (h : c.fired = true) (lines : List String) :
    c.feed lines = (c, List.replicate lines.length none) := by
  induction lines with
  | nil => rfl
  | cons line rest ih => simp [observe_of_fired h, ih, List.replicate_succ]

@[simp] theorem feed_threshold (c : EventCounter) (lines : List String) :
    (c.feed lines).1.threshold = c.threshold := by
  induction lines generalizing c with
  | nil => rfl
  | cons line rest ih => simp [ih]

@[simp] theorem feed_mentions (c : EventCounter) (lines : List String) :
    (c.feed lines).1.mentions = c.mentions := by
  induction lines generalizing c with
  | nil => rfl
  | cons line rest ih => simp [ih]

section Feed

variable {c : EventCounter} (hc : c.Sound)
include hc

/-- A stream keeps a counter sound. -/
theorem Sound.feed (lines : List String) : (c.feed lines).1.Sound := by
  induction lines generalizing c with
  | nil => exact hc
  | cons line rest ih => exact ih (hc.observe line)

/-- A stream adds the lines that mention the event to the count, capped at the threshold. -/
theorem Sound.feed_observed (lines : List String) :
    (c.feed lines).1.observed = min c.threshold (c.observed + lines.countP c.mentions) := by
  induction lines generalizing c with
  | nil => simp [hc.le]
  | cons line rest ih =>
    rw [feed_cons, ih (hc.observe line), hc.observe_observed, observe_threshold,
      observe_mentions, List.countP_cons]
    omega

/-- A stream fires the counter exactly when its count, with the lines that mention the event,
reaches the threshold. -/
theorem Sound.feed_fired (lines : List String) :
    (c.feed lines).1.fired = true ↔ c.threshold ≤ c.observed + lines.countP c.mentions := by
  rw [(hc.feed lines).fired_iff, hc.feed_observed, feed_threshold]
  omega

/-- What a sound counter answers to each line of a stream: the threshold on the line whose count
of mentions goes from below it to it, nothing elsewhere. -/
theorem Sound.feed_answers (lines : List String) :
    (c.feed lines).2 = (List.range lines.length).map fun p =>
      if c.observed + (lines.take p).countP c.mentions < c.threshold ∧
          c.threshold ≤ c.observed + (lines.take (p + 1)).countP c.mentions
      then some c.threshold else none := by
  induction lines generalizing c with
  | nil => rfl
  | cons line rest ih =>
    have hObserved := hc.observe_observed line
    rw [feed_cons, ih (hc.observe line), hc.observe_answer, List.length_cons,
      List.range_succ_eq_map, List.map_cons, List.map_map]
    simp only [observe_threshold, observe_mentions, List.take_zero, List.countP_nil,
      List.take_succ_cons, List.countP_cons, List.take_zero, Nat.add_zero, List.cons.injEq]
    refine ⟨by split_ifs <;> rfl, ?_⟩
    refine List.map_congr_left fun p _ => ?_
    simp only [Function.comp_apply, Nat.succ_eq_add_one, List.take_succ_cons, List.countP_cons]
    -- past a fired counter the capped count hides the extra mention; both conditions then fail
    refine if_congr ?_ rfl rfl
    rw [hObserved]
    omega

/-- A sound counter answers at most once over any stream. -/
theorem Sound.feed_answers_once (lines : List String) :
    (c.feed lines).2.countP Option.isSome ≤ 1 := by
  induction lines generalizing c with
  | nil => simp
  | cons line rest ih =>
    rw [feed_cons, List.countP_cons]
    cases hAnswer : (c.observe line).2 with
    | none => simpa using ih (hc.observe line)
    | some n =>
      -- the line that answers fires the counter, which then answers nothing more
      rw [feed_of_fired (fired_of_observe_answer hAnswer)]
      simp [List.countP_replicate]

end Feed

end EventCounter

/-- The number of mentions among the first `p` lines grows by at most one per line. -/
theorem mentionCount_take_succ_le (e : String) (lines : List String) (p : Nat) :
    mentionCount e (lines.take (p + 1)) ≤ mentionCount e (lines.take p) + 1 := by
  rw [mentionCount, mentionCount, List.take_add_one, List.countP_append]
  cases lines[p]? <;> simp [List.countP_cons]; split_ifs <;> omega

theorem mentionCount_take_mono (e : String) (lines : List String) {q p : Nat} (h : q ≤ p) :
    mentionCount e (lines.take q) ≤ mentionCount e (lines.take p) :=
  (List.take_prefix_take_left h).sublist.countP_le

/-- The count goes from below `t` to `t` at line `p` exactly when line `p` is the first at which
it equals `t`. -/
theorem mentionCount_crosses_iff (e : String) (lines : List String) {t : Nat} (ht : 0 < t)
    (p : Nat) :
    (mentionCount e (lines.take p) < t ∧ t ≤ mentionCount e (lines.take (p + 1))) ↔
      (mentionCount e (lines.take (p + 1)) = t ∧
        ∀ q < p, mentionCount e (lines.take (q + 1)) ≠ t) := by
  have hStep := mentionCount_take_succ_le e lines p
  constructor
  · rintro ⟨hBelow, hReach⟩
    refine ⟨by omega, fun q hq => ?_⟩
    have := mentionCount_take_mono e lines (show q + 1 ≤ p by omega)
    omega
  · rintro ⟨hReach, hFirst⟩
    refine ⟨?_, hReach.ge⟩
    cases p with
    | zero => simpa [mentionCount] using ht
    | succ q =>
      have := mentionCount_take_mono e lines (Nat.le_add_right (q + 1) 1)
      have := hFirst q (Nat.lt_succ_self q)
      omega

/-- What a counting of `e` up to `t` answers over the lines `lines`, as its contract states it:
the threshold exactly on the first line at which the number of lines mentioning `e` so far
equals `t`, nothing on any other line and so at most once, and afterwards a count that is that
number capped at `t`, fired exactly when the number reaches `t`. The cap holds at every point of
the stream, and an unfired counter is strictly below it, so counting one more never passes `t`. -/
structure CountsUpTo (c : EventCounter) (e : String) (t : Nat) (lines : List String) : Prop where
  answers : (c.feed lines).2 = (List.range lines.length).map fun p =>
    if mentionCount e (lines.take (p + 1)) = t ∧ ∀ q < p, mentionCount e (lines.take (q + 1)) ≠ t
    then some t else none
  answers_once : (c.feed lines).2.countP Option.isSome ≤ 1
  observed : (c.feed lines).1.observed = min t (mentionCount e lines)
  fired_iff : (c.feed lines).1.fired = true ↔ t ≤ mentionCount e lines
  capped : ∀ k, (c.feed (lines.take k)).1.observed ≤ t
  room : ∀ k, (c.feed (lines.take k)).1.fired = false → (c.feed (lines.take k)).1.observed < t

/-- A counter's test of a line is mention of its event. -/
theorem EventCounter.mentions_eq (c : EventCounter) (line : String) :
    c.mentions line = decide (c.eventName.toList <:+: line.toList) := by
  rw [Bool.eq_iff_iff, decide_eq_true_iff]
  exact Text.contains_iff _ _

theorem mentionCount_append_singleton (e : String) (lines : List String) (line : String) :
    mentionCount e (lines ++ [line]) =
      mentionCount e lines + if e.toList <:+: line.toList then 1 else 0 := by
  simp [mentionCount, List.countP_append]

/-- A fresh counter's test of a line is mention of the event. -/
theorem EventCounter.countP_mentions_fresh (e : String) (t : Nat) (lines : List String) :
    lines.countP (EventCounter.mentions { eventName := e, threshold := t }) =
      mentionCount e lines :=
  List.countP_congr fun line _ => by simp [EventCounter.mentions_eq]

/-- A counter rejects an empty event name first and then a zero threshold; any other pair makes
a counter that, fed any stream of lines, answers its threshold on exactly the first line at which
the lines mentioning the event reach it, nothing elsewhere, and ends holding their number capped
at the threshold. -/
theorem counter_answers_on_first_reaching_line (e : String) (t : Nat) :
    (EventCounter.new e t = .error .emptyEvent ↔ e = "") ∧
    (EventCounter.new e t = .error .zeroThreshold ↔ e ≠ "" ∧ t = 0) ∧
    (e ≠ "" → 0 < t → ∃ c, EventCounter.new e t = .ok c ∧ ∀ lines, CountsUpTo c e t lines) := by
  refine ⟨?_, ?_, fun he ht => ⟨{ eventName := e, threshold := t }, ?_, fun lines => ?_⟩⟩
  · by_cases he : e = "" <;> by_cases ht : t = 0 <;> simp [EventCounter.new, he, ht]
  · by_cases he : e = "" <;> by_cases ht : t = 0 <;> simp [EventCounter.new, he, ht]
  · simp [EventCounter.new, he, Nat.pos_iff_ne_zero.1 ht]
  · have hc := EventCounter.sound_fresh e ht
    have hCount := EventCounter.countP_mentions_fresh e t
    refine ⟨?_, hc.feed_answers_once lines, ?_, ?_, fun k => ?_, fun k => ?_⟩
    · rw [hc.feed_answers]
      refine List.map_congr_left fun p _ => if_congr ?_ rfl rfl
      simpa [hCount] using mentionCount_crosses_iff e lines ht p
    · simp [hc.feed_observed, hCount]
    · simp [hc.feed_fired, hCount]
    · simpa using (hc.feed (lines.take k)).le
    · simpa using (hc.feed (lines.take k)).lt_of_not_fired

/-- The counter of the contract's own example: `flush` counted up to two. -/
theorem counter_answers_flush_twice :
    ("flush" ≠ "" ∧ 0 < 2) ∧
      ∃ c, EventCounter.new "flush" 2 = .ok c ∧ ∀ lines, CountsUpTo c "flush" 2 lines :=
  ⟨⟨by decide, by decide⟩, (counter_answers_on_first_reaching_line "flush" 2).2.2 (by decide)
    (by decide)⟩

example :
    (({ eventName := "flush", threshold := 2 } : EventCounter).feed
      ["init", "flush chainstate", "loading", "flush index", "flush"]).2 =
      [none, none, none, some 2, none] := by decide

end CrashTest
