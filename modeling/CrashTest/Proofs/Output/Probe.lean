import Mathlib
import CrashTest.Proofs.Output.Armed
/-!
Counting probes as their tasks run them, beside the publisher and the probes' holders.

Arming a probe subscribes to the bus and hands the subscription to a task of its own. The task
loops: it waits for the next line, counts it, and stores the count where the probe's holder reads
it; when the count fires, it calls the callback with the count, once, and stops. The publisher
publishes at any moment, a holder reads the stored count or disarms (aborting the task) at any
moment, and further probes are armed on the same bus at any moment. A `ProbeSystem` holds the bus
and every task, and any list of `ProbeStep`s is one interleaving of all of them; a step that
cannot be taken (a task waiting on an empty queue, or already stopped) changes nothing.

Besides what the tasks hold, a system records what an observer sees: the lines published so far,
and for each task the lines it has counted, how many lines had been published when it was armed,
and what its callback was called with. No step reads these records.

Along every run, for every probe: the stored count is the number of counted lines that mention
the event, capped at the threshold; the callback is called at most once, with the threshold, and
only once the threshold-th mention has been counted and stored; and the counted lines are the
lines published since the probe was armed, oldest first, none skipped.
-/
namespace CrashTest

/-- A probe's task, and what it has done so far. -/
structure ProbeTask where
  /-- The task's subscription on the bus. -/
  sub : Nat
  counter : EventCounter
  /-- The count the task last stored, which the probe's holder reads. -/
  stored : Nat := 0
  /-- Whether the task still holds its callback. -/
  holdsCallback : Bool := true
  /-- The count the task fired on, on its way to the callback. -/
  firing : Option Nat := none
  /-- Whether the task runs: it stops after the callback, or when its probe is disarmed. -/
  running : Bool := true
  /-- Record: how many lines had been published when the probe was armed. -/
  armedAt : Nat
  /-- Record: the lines the task has counted, oldest first. -/
  counted : List OutputEvent := []
  /-- Record: what the callback was called with, each time it was. -/
  calls : List Nat := []
  deriving DecidableEq, Repr

namespace ProbeTask

/-- The task takes the next line queued for it, counts it, and stores the count; the count it
fires on, if it fires, is kept for the callback. With nothing queued it waits. -/
def count (t : ProbeTask) (bus : EventBus) : EventBus × ProbeTask :=
  if t.running && t.firing.isNone then
    match bus.tryRecv t.sub with
    | (bus', some line) =>
      let (c, fired) := t.counter.observe line.line
      (bus', { t with counter := c, stored := c.observed, firing := fired,
                      counted := t.counted ++ [line] })
    | (_, none) => (bus, t)
  else (bus, t)

/-- The task hands the count it fired on to the callback, if it still holds it, and stops,
dropping its subscription. -/
def fire (t : ProbeTask) (bus : EventBus) : EventBus × ProbeTask :=
  match t.running, t.firing with
  | true, some n =>
    (bus.drop t.sub, { t with holdsCallback := false, running := false,
                              calls := if t.holdsCallback then t.calls ++ [n] else t.calls })
  | _, _ => (bus, t)

/-- The probe's holder aborts the task, which drops its subscription. -/
def abort (t : ProbeTask) (bus : EventBus) : EventBus × ProbeTask :=
  if t.running then (bus.drop t.sub, { t with running := false }) else (bus, t)

end ProbeTask

/-- Probes armed on one bus, with the lines published on it so far, oldest first. -/
structure ProbeSystem where
  bus : EventBus
  tasks : List ProbeTask := []
  published : List OutputEvent := []

/-- One step of a system of probes. -/
inductive ProbeStep where
  /-- A target writes a line. -/
  | publish (e : OutputEvent)
  /-- A probe is armed, counting `eventName` up to `threshold`. -/
  | arm (eventName : String) (threshold : Nat)
  /-- Task `i` counts the next line queued for it. -/
  | count (i : Nat)
  /-- Task `i` calls its callback and stops. -/
  | fire (i : Nat)
  /-- The holder of probe `i` disarms it. -/
  | disarm (i : Nat)
  deriving DecidableEq, Repr

namespace ProbeSystem

/-- Lets task `i` take a step. -/
def onTask (s : ProbeSystem) (i : Nat) (f : ProbeTask → EventBus → EventBus × ProbeTask) :
    ProbeSystem :=
  match s.tasks[i]? with
  | some t => { s with bus := (f t s.bus).1, tasks := s.tasks.set i (f t s.bus).2 }
  | none => s

/-- Takes one step. Arming checks the name and threshold as a counter does, and a refused arm
changes nothing. -/
def step (s : ProbeSystem) : ProbeStep → ProbeSystem
  | .publish e => { s with bus := s.bus.publish e, published := s.published ++ [e] }
  | .arm eventName threshold =>
    match EventCounter.new eventName threshold with
    | .ok c =>
      { s with bus := s.bus.subscribe.1,
               tasks := s.tasks ++ [{ sub := s.bus.nextId, counter := c,
                                      armedAt := s.published.length }] }
    | .error _ => s
  | .count i => s.onTask i ProbeTask.count
  | .fire i => s.onTask i ProbeTask.fire
  | .disarm i => s.onTask i ProbeTask.abort

/-- Takes steps in order. -/
def run (s : ProbeSystem) (steps : List ProbeStep) : ProbeSystem := steps.foldl step s

end ProbeSystem

/-! ### What a task keeps true -/

namespace ProbeTask

/-- The task's own state agrees with what it has counted: its counter has counted the lines
that mention the event, capped at the threshold, and stored that count; it fires and calls back
only with the threshold, once the counter has fired; and it calls back at most once. -/
structure Counts (t : ProbeTask) : Prop where
  sound : t.counter.Sound
  observed : t.counter.observed =
    min t.counter.threshold (mentionCount t.counter.eventName (t.counted.map (·.line)))
  stored : t.stored = t.counter.observed
  firing : ∀ n, t.firing = some n → n = t.counter.threshold ∧ t.counter.fired = true
  callback : t.holdsCallback = true → t.calls = []
  calls : ∀ n ∈ t.calls, n = t.counter.threshold ∧ t.counter.fired = true
  once : t.calls.length ≤ 1

/-- The task's subscription on `bus` carries what was published since the probe was armed: the
counted lines followed by the queued ones are those lines, oldest first, all of them while the
subscription is live and a first part of them once it is dropped; and a running task's
subscription is live. -/
structure Listens (bus : EventBus) (published : List OutputEvent) (t : ProbeTask) : Prop where
  sub_lt : t.sub < bus.nextId
  live : t.running = true → bus.attached t.sub = true
  lines : bus.attached t.sub = true → t.counted ++ bus.peek t.sub = published.drop t.armedAt
  seen : t.counted ++ bus.peek t.sub <+: published.drop t.armedAt
  armedAt_le : t.armedAt ≤ published.length

end ProbeTask

/-- A bus changed at one number only: no number handed out, and every other number seen as
before. -/
def EventBus.ChangedAt (b b' : EventBus) (j : Nat) : Prop :=
  b'.nextId = b.nextId ∧ ∀ id, id ≠ j → b'.find? id = b.find? id

theorem EventBus.changedAt_refl (b : EventBus) (j : Nat) : b.ChangedAt b j :=
  ⟨rfl, fun _ _ => rfl⟩

theorem EventBus.changedAt_call (b : EventBus) {c : EventBus.Call} {j : Nat}
    (hc : c = .drop j ∨ c = .tryRecv j ∨ c = .drain j) : b.ChangedAt (b.call c).1 j :=
  ⟨EventBus.call_nextId_of_ne b (by rcases hc with rfl | rfl | rfl <;> simp),
    fun _ hid => EventBus.find?_call_of_ne b (Ne.symm hid) hc⟩

/-- A task whose subscription a step left alone goes on listening as before. -/
theorem ProbeTask.Listens.of_changedAt {bus bus' : EventBus} {published : List OutputEvent}
    {t : ProbeTask} (h : t.Listens bus published) {j : Nat} (hChanged : bus.ChangedAt bus' j)
    (hj : t.sub ≠ j) : t.Listens bus' published := by
  have hAttached : bus'.attached t.sub = bus.attached t.sub := by
    simp only [EventBus.attached, hChanged.2 t.sub hj]
  have hPeek : bus'.peek t.sub = bus.peek t.sub := by
    simp only [EventBus.peek_eq, hChanged.2 t.sub hj]
  exact ⟨hChanged.1 ▸ h.sub_lt, hAttached ▸ h.live, hAttached ▸ hPeek ▸ h.lines, hPeek ▸ h.seen,
    h.armedAt_le⟩

/-- Publishing a line adds it to what every live subscription carries. -/
theorem ProbeTask.Listens.publish {bus : EventBus} (hb : bus.Numbered)
    {published : List OutputEvent} {t : ProbeTask} (h : t.Listens bus published)
    (e : OutputEvent) : t.Listens (bus.publish e) (published ++ [e]) := by
  have hAttached : (bus.publish e).attached t.sub = bus.attached t.sub :=
    hb.attached_publish e t.sub
  have hPeek := hb.call_peek (.publish e) t.sub
  simp only [EventBus.Call.takesFor, Bool.false_eq_true, if_false, List.nil_append,
    EventBus.Call.published?, Option.toList_some] at hPeek
  change (bus.publish e).peek t.sub = _ at hPeek
  have hDrop : (published ++ [e]).drop t.armedAt = published.drop t.armedAt ++ [e] :=
    List.drop_append_of_le_length h.armedAt_le
  refine ⟨h.sub_lt, hAttached ▸ h.live, fun hLive => ?_, ?_,
    h.armedAt_le.trans (by simp)⟩
  · rw [hAttached] at hLive
    rw [hPeek, if_pos hLive, ← List.append_assoc, h.lines hLive, hDrop]
  · rw [hPeek, hDrop]
    by_cases hLive : bus.attached t.sub = true
    · rw [if_pos hLive, ← List.append_assoc, h.lines hLive]
    · rw [if_neg hLive, List.append_nil]
      exact h.seen.trans (List.prefix_append _ _)

/-- A new subscription leaves every other one as it was. -/
theorem ProbeTask.Listens.subscribe {bus : EventBus} (hb : bus.Numbered)
    {published : List OutputEvent} {t : ProbeTask} (h : t.Listens bus published) :
    t.Listens bus.subscribe.1 published := by
  have hNe : (t.sub == bus.nextId) = false := by simp [Nat.ne_of_lt h.sub_lt]
  have hAttached : bus.subscribe.1.attached t.sub = bus.attached t.sub := by
    simpa [hNe, EventBus.call] using hb.attached_subscribe t.sub
  have hPeek : bus.subscribe.1.peek t.sub = bus.peek t.sub := by
    simpa [EventBus.Call.takesFor, EventBus.Call.published?, EventBus.call] using
      hb.call_peek .subscribe t.sub
  exact ⟨Nat.lt_succ_of_lt h.sub_lt, hAttached ▸ h.live, hAttached ▸ hPeek ▸ h.lines,
    hPeek ▸ h.seen, h.armedAt_le⟩

/-! ### The task's own steps -/

namespace ProbeTask

/-- What a task's step does: nothing, or take the next queued line and count it. -/
theorem count_cases (t : ProbeTask) (bus : EventBus) :
    t.count bus = (bus, t) ∨
    ∃ line, t.running = true ∧ t.firing = none ∧ (bus.tryRecv t.sub).2 = some line ∧
      t.count bus = ((bus.tryRecv t.sub).1,
        { t with counter := (t.counter.observe line.line).1,
                 stored := (t.counter.observe line.line).1.observed,
                 firing := (t.counter.observe line.line).2,
                 counted := t.counted ++ [line] }) := by
  unfold count
  by_cases hGo : (t.running && t.firing.isNone) = true
  · rw [if_pos hGo]
    simp only [Bool.and_eq_true, Option.isNone_iff_eq_none] at hGo
    rcases hRecv : bus.tryRecv t.sub with ⟨bus', _ | line⟩
    · exact .inl rfl
    · exact .inr ⟨line, hGo.1, hGo.2, rfl, rfl⟩
  · exact .inl (if_neg hGo)

/-- Calling back, or being aborted, only stops the task and drops its subscription. -/
theorem fire_cases (t : ProbeTask) (bus : EventBus) :
    t.fire bus = (bus, t) ∨
    ∃ n, t.running = true ∧ t.firing = some n ∧
      t.fire bus = (bus.drop t.sub,
        { t with holdsCallback := false, running := false,
                 calls := if t.holdsCallback then t.calls ++ [n] else t.calls }) := by
  unfold fire
  rcases hRun : t.running with _ | _ <;> rcases hFiring : t.firing with _ | n
  · exact .inl rfl
  · exact .inl rfl
  · exact .inl rfl
  · exact .inr ⟨n, rfl, rfl, rfl⟩

theorem abort_cases (t : ProbeTask) (bus : EventBus) :
    t.abort bus = (bus, t) ∨ t.abort bus = (bus.drop t.sub, { t with running := false }) := by
  unfold abort
  split
  · exact .inr rfl
  · exact .inl rfl

/-- Counting one more line keeps the counter's count the capped number of mentions. -/
theorem Counts.count {t : ProbeTask} (ht : t.Counts) (line : OutputEvent) :
    ({ t with counter := (t.counter.observe line.line).1,
              stored := (t.counter.observe line.line).1.observed,
              firing := (t.counter.observe line.line).2,
              counted := t.counted ++ [line] } : ProbeTask).Counts := by
  have hObserved := ht.sound.observe_observed line.line
  refine ⟨ht.sound.observe line.line, ?_, rfl, fun n hn => ?_, ht.callback, fun n hn => ?_, ht.once⟩
  · simp only [EventCounter.observe_threshold, EventCounter.observe_eventName, List.map_append,
      List.map_cons, List.map_nil, mentionCount_append_singleton, hObserved, ht.observed,
      EventCounter.mentions_eq, decide_eq_true_eq]
    split_ifs <;> omega
  · exact ⟨(EventCounter.eq_threshold_of_observe_answer hn).trans (by simp),
      EventCounter.fired_of_observe_answer hn⟩
  · -- a task that has called back has a fired counter, which counts nothing more
    obtain ⟨hThreshold, hFired⟩ := ht.calls n hn
    simp only [EventCounter.observe_of_fired hFired]
    exact ⟨hThreshold, hFired⟩

/-- Calling back with the count the task fired on keeps it the only call. -/
theorem Counts.fire {t : ProbeTask} (ht : t.Counts) {n : Nat} (hFiring : t.firing = some n) :
    ({ t with holdsCallback := false, running := false,
              calls := if t.holdsCallback then t.calls ++ [n] else t.calls } : ProbeTask).Counts := by
  refine ⟨ht.sound, ht.observed, ht.stored, ht.firing, fun h => absurd h (by simp), ?_, ?_⟩
  · intro m hm
    by_cases hHolds : t.holdsCallback = true
    · simp only [hHolds, if_true, ht.callback hHolds, List.nil_append, List.mem_singleton] at hm
      exact hm ▸ ht.firing n hFiring
    · simp only [hHolds, Bool.false_eq_true, if_false] at hm
      exact ht.calls m hm
  · by_cases hHolds : t.holdsCallback = true
    · simp [hHolds, ht.callback hHolds]
    · simpa [hHolds] using ht.once

/-- A step of a task's own: it changes its subscription alone, keeps the bus as calls make it,
and keeps the task's counting and its listening. -/
structure Step (f : ProbeTask → EventBus → EventBus × ProbeTask) : Prop where
  sub : ∀ (t : ProbeTask) (bus : EventBus), (f t bus).2.sub = t.sub
  changedAt : ∀ (t : ProbeTask) (bus : EventBus), bus.ChangedAt (f t bus).1 t.sub
  numbered : ∀ (t : ProbeTask) (bus : EventBus), bus.Numbered → (f t bus).1.Numbered
  counts : ∀ (t : ProbeTask) (bus : EventBus), t.Counts → (f t bus).2.Counts
  listens : ∀ (t : ProbeTask) (bus : EventBus) (published : List OutputEvent), bus.Numbered →
    t.Listens bus published → (f t bus).2.Listens (f t bus).1 published

/-- A task that stops and drops its subscription goes on listening: what it counted and what is
queued stay as they were. -/
theorem Listens.stop {bus : EventBus} {published : List OutputEvent} {t t' : ProbeTask}
    (h : t.Listens bus published) (hSub : t'.sub = t.sub) (hArmed : t'.armedAt = t.armedAt)
    (hCounted : t'.counted = t.counted) (hRun : t'.running = false) :
    t'.Listens (bus.drop t.sub) published := by
  have hDropped : (bus.drop t.sub).attached t.sub = false := by
    simpa [EventBus.call] using EventBus.attached_drop bus t.sub t.sub
  refine ⟨hSub ▸ h.sub_lt, fun h' => absurd h' (by simp [hRun]), fun h' => ?_, ?_,
    hArmed ▸ h.armedAt_le⟩
  · rw [hSub] at h'; simp [hDropped] at h'
  · rw [hSub, hArmed, hCounted, EventBus.peek_drop]
    exact h.seen

theorem step_count : Step count where
  sub t bus := by
    rcases count_cases t bus with h | ⟨line, -, -, -, h⟩ <;> rw [h]
  changedAt t bus := by
    rcases count_cases t bus with h | ⟨line, -, -, -, h⟩ <;> rw [h]
    · exact bus.changedAt_refl t.sub
    · exact bus.changedAt_call (.inr (.inl rfl))
  numbered t bus hb := by
    rcases count_cases t bus with h | ⟨line, -, -, -, h⟩ <;> rw [h]
    · exact hb
    · exact hb.call (.tryRecv t.sub)
  counts t bus ht := by
    rcases count_cases t bus with h | ⟨line, -, -, -, h⟩ <;> rw [h]
    · exact ht
    · exact ht.count line
  listens t bus published hb hListens := by
    rcases count_cases t bus with h | ⟨line, hRun, -, hLine, h⟩ <;> rw [h]
    · exact hListens
    · -- the line taken from the front of the queue joins the counted lines
      have hAttached : (bus.tryRecv t.sub).1.attached t.sub = bus.attached t.sub :=
        EventBus.attached_take bus (.inl rfl) t.sub
      have hTaken := EventBus.tryRecv_peek bus t.sub
      rw [hLine, Option.toList_some] at hTaken
      have hQueue : (t.counted ++ [line]) ++ (bus.tryRecv t.sub).1.peek t.sub =
          t.counted ++ bus.peek t.sub := by
        rw [List.append_assoc, ← hTaken]
      have hNext := EventBus.call_nextId_of_ne bus
        (show EventBus.Call.tryRecv t.sub ≠ .subscribe by simp)
      refine ⟨hNext ▸ hListens.sub_lt, fun _ => hAttached ▸ hListens.live hRun, fun hLive => ?_,
        hQueue ▸ hListens.seen, hListens.armedAt_le⟩
      exact hQueue.trans (hListens.lines (hAttached ▸ hLive))

theorem step_fire : Step fire where
  sub t bus := by
    rcases fire_cases t bus with h | ⟨n, -, -, h⟩ <;> rw [h]
  changedAt t bus := by
    rcases fire_cases t bus with h | ⟨n, -, -, h⟩ <;> rw [h]
    · exact bus.changedAt_refl t.sub
    · exact bus.changedAt_call (.inl rfl)
  numbered t bus hb := by
    rcases fire_cases t bus with h | ⟨n, -, -, h⟩ <;> rw [h]
    · exact hb
    · exact hb.call (.drop t.sub)
  counts t bus ht := by
    rcases fire_cases t bus with h | ⟨n, -, hFiring, h⟩ <;> rw [h]
    · exact ht
    · exact ht.fire hFiring
  listens t bus published _ hListens := by
    rcases fire_cases t bus with h | ⟨n, -, -, h⟩ <;> rw [h]
    · exact hListens
    · exact hListens.stop rfl rfl rfl rfl

theorem step_abort : Step abort where
  sub t bus := by
    rcases abort_cases t bus with h | h <;> rw [h]
  changedAt t bus := by
    rcases abort_cases t bus with h | h <;> rw [h]
    · exact bus.changedAt_refl t.sub
    · exact bus.changedAt_call (.inl rfl)
  numbered t bus hb := by
    rcases abort_cases t bus with h | h <;> rw [h]
    · exact hb
    · exact hb.call (.drop t.sub)
  counts t bus ht := by
    rcases abort_cases t bus with h | h <;> rw [h]
    · exact ht
    · exact ⟨ht.sound, ht.observed, ht.stored, ht.firing, ht.callback, ht.calls, ht.once⟩
  listens t bus published _ hListens := by
    rcases abort_cases t bus with h | h <;> rw [h]
    · exact hListens
    · exact hListens.stop rfl rfl rfl rfl

end ProbeTask

/-! ### Every run of a system -/

/-- What a task shows to an observer: the count its holder reads is the number of counted lines
that mention the event, capped at the threshold; the callback ran at most once, with the
threshold, after that count was stored and once that many mentions were counted; the count it
fired on is the threshold, already stored; and the counted lines are the first lines published
since the probe was armed. -/
structure ProbeTask.CountsSince (published : List OutputEvent) (t : ProbeTask) : Prop where
  stored : t.stored =
    min t.counter.threshold (mentionCount t.counter.eventName (t.counted.map (·.line)))
  calledOnce : t.calls.length ≤ 1
  called : ∀ n ∈ t.calls, n = t.counter.threshold ∧ t.stored = t.counter.threshold ∧
    t.counter.threshold ≤ mentionCount t.counter.eventName (t.counted.map (·.line))
  firing : ∀ n, t.firing = some n → n = t.counter.threshold ∧ t.stored = t.counter.threshold
  since : t.counted <+: published.drop t.armedAt

/-- A task that counts and listens as it should shows it to an observer. -/
theorem ProbeTask.Counts.countsSince {t : ProbeTask} (hc : t.Counts) {bus : EventBus}
    {published : List OutputEvent} (hl : t.Listens bus published) : t.CountsSince published := by
  have hStored := hc.stored.trans hc.observed
  -- a fired counter has reached its threshold, which the capped count only does once the
  -- mentions have
  have hReached : t.counter.fired = true →
      t.stored = t.counter.threshold ∧
        t.counter.threshold ≤ mentionCount t.counter.eventName (t.counted.map (·.line)) := by
    intro hFired
    have hFull := hc.sound.fired_iff.1 hFired
    have hObserved := hc.observed
    constructor <;> omega
  refine ⟨hStored, hc.once, fun n hn => ?_, fun n hn => ?_,
    (List.prefix_append _ _).trans hl.seen⟩
  · obtain ⟨hn, hFired⟩ := hc.calls n hn
    exact ⟨hn, hReached hFired⟩
  · obtain ⟨hn, hFired⟩ := hc.firing n hn
    exact ⟨hn, (hReached hFired).1⟩

namespace ProbeSystem

/-- What holds of a system of probes at every point of every run: the bus is as calls make it,
the tasks hold distinct subscriptions, and every task counts and listens as it should. -/
structure Sound (s : ProbeSystem) : Prop where
  numbered : s.bus.Numbered
  distinct : (s.tasks.map (·.sub)).Nodup
  counts : ∀ t ∈ s.tasks, t.Counts
  listens : ∀ t ∈ s.tasks, t.Listens s.bus s.published

theorem sound_start : Sound { bus := {} } :=
  ⟨EventBus.numbered_new, List.nodup_nil, by simp, by simp⟩

variable {s : ProbeSystem}

theorem Sound.publish (hs : s.Sound) (e : OutputEvent) : (s.step (.publish e)).Sound :=
  ⟨hs.numbered.publish e, hs.distinct, hs.counts,
    fun t ht => (hs.listens t ht).publish hs.numbered e⟩

/-- A probe just armed has counted nothing, and its subscription, live and empty, carries
everything published from then on. -/
theorem Sound.arm (hs : s.Sound) (e : String) (n : Nat) : (s.step (.arm e n)).Sound := by
  cases hNew : EventCounter.new e n with
  | error _ => simp only [step, hNew]; exact hs
  | ok c =>
    simp only [step, hNew]
    obtain ⟨rfl, hPos⟩ := EventCounter.eq_of_new hNew
    have hFresh : s.bus.find? s.bus.nextId = none := hs.numbered.find?_eq_none le_rfl
    have hBelow : ∀ t ∈ s.tasks, t.sub < s.bus.nextId := fun t ht => (hs.listens t ht).sub_lt
    have hNewCounts : ProbeTask.Counts
        { sub := s.bus.nextId, counter := { eventName := e, threshold := n },
          armedAt := s.published.length } :=
      ⟨EventCounter.sound_fresh e hPos, by simp [mentionCount], rfl, by simp, fun _ => rfl,
        by simp, by simp⟩
    have hNewListens : ProbeTask.Listens s.bus.subscribe.1 s.published
        { sub := s.bus.nextId, counter := { eventName := e, threshold := n },
          armedAt := s.published.length } := by
      have hLive : s.bus.subscribe.1.attached s.bus.nextId = true := by
        simpa [EventBus.call] using hs.numbered.attached_subscribe s.bus.nextId
      have hEmpty : s.bus.subscribe.1.peek s.bus.nextId = [] := by
        have := hs.numbered.call_peek .subscribe s.bus.nextId
        simpa [EventBus.call, EventBus.Call.takesFor, EventBus.Call.published?, EventBus.peek,
          hFresh] using this
      exact ⟨Nat.lt_succ_self _, fun _ => hLive, fun _ => by simp [hEmpty], by simp [hEmpty],
        le_rfl⟩
    refine ⟨hs.numbered.subscribe, ?_, ?_, ?_⟩
    · rw [List.map_append, List.nodup_append]
      refine ⟨hs.distinct, List.nodup_singleton _, ?_⟩
      intro a ha b hb
      simp only [List.map_cons, List.map_nil, List.mem_singleton] at hb
      obtain ⟨t, ht, rfl⟩ := List.mem_map.1 ha
      exact hb ▸ Nat.ne_of_lt (hBelow t ht)
    · intro t ht
      rcases List.mem_append.1 ht with ht | ht
      · exact hs.counts t ht
      · rw [List.mem_singleton.1 ht]; exact hNewCounts
    · intro t ht
      rcases List.mem_append.1 ht with ht | ht
      · exact (hs.listens t ht).subscribe hs.numbered
      · rw [List.mem_singleton.1 ht]; exact hNewListens

/-- A task's own step keeps a system sound: the other tasks' subscriptions are left alone. -/
theorem Sound.onTask (hs : s.Sound) {f : ProbeTask → EventBus → EventBus × ProbeTask}
    (hf : ProbeTask.Step f) (i : Nat) : (s.onTask i f).Sound := by
  unfold ProbeSystem.onTask
  split
  next t hi =>
    obtain ⟨hLt, hAt⟩ := List.getElem?_eq_some_iff.1 hi
    have hMem : t ∈ s.tasks := hAt ▸ List.getElem_mem hLt
    have hSubs : (s.tasks.set i (f t s.bus).2).map (·.sub) = s.tasks.map (·.sub) := by
      rw [List.map_set, hf.sub]
      refine List.ext_getElem? fun k => ?_
      rw [List.getElem?_set]
      split
      · rename_i hik
        subst hik
        simp [hLt, hAt]
      · rfl
    refine ⟨hf.numbered t s.bus hs.numbered, hSubs ▸ hs.distinct, ?_, ?_⟩
    · intro u hu
      rcases List.mem_or_eq_of_mem_set hu with hu | rfl
      · exact hs.counts u hu
      · exact hf.counts t s.bus (hs.counts t hMem)
    · intro u hu
      obtain ⟨j, hj, rfl⟩ := List.mem_iff_getElem.1 hu
      rw [List.getElem_set]
      split
      · exact hf.listens t s.bus s.published hs.numbered (hs.listens t hMem)
      · -- another task holds another subscription, which the step left alone
        rename_i hij
        have hjLt : j < s.tasks.length := by simpa using hj
        have hNe : s.tasks[j].sub ≠ t.sub := by
          intro hEq
          have hSame : s.tasks[j] = s.tasks[i] :=
            (List.inj_on_of_nodup_map hs.distinct (List.getElem_mem hjLt) hMem hEq).trans hAt.symm
          exact hij ((hs.distinct.of_map _).getElem_inj_iff.1 hSame).symm
        exact (hs.listens _ (List.getElem_mem hjLt)).of_changedAt (hf.changedAt t s.bus) hNe
  next => exact hs

/-- Every step keeps a system sound. -/
theorem Sound.step (hs : s.Sound) : ∀ st : ProbeStep, (s.step st).Sound
  | .publish e => hs.publish e
  | .arm e n => hs.arm e n
  | .count i => hs.onTask ProbeTask.step_count i
  | .fire i => hs.onTask ProbeTask.step_fire i
  | .disarm i => hs.onTask ProbeTask.step_abort i

/-- Every run keeps a system sound. -/
theorem Sound.run (hs : s.Sound) (steps : List ProbeStep) : (s.run steps).Sound := by
  induction steps generalizing s with
  | nil => exact hs
  | cons st rest ih => exact ih (hs.step st)

theorem Sound.countsSince (hs : s.Sound) : ∀ t ∈ s.tasks, t.CountsSince s.published :=
  fun t ht => (hs.counts t ht).countsSince (hs.listens t ht)

end ProbeSystem

/-- Under every interleaving of probe tasks with the publisher, with further arms on the same bus
and with disarms, every task shows an observer what a probe should: the count it stored is the
number of mentions among the lines it counted, capped at the threshold; its callback ran at most
once, with the threshold, once that many mentions were counted and the count stored; and it
counted only lines published after its own arm, in order. The bus's own probe, which counts each
line as it is published, holds after any calls the number of mentions among the lines published
between its arm and its disarm, capped at the threshold, and has fired on the threshold exactly
when that number reaches it. -/
theorem probe_counts_then_fires_once :
    (∀ steps : List ProbeStep, ∀ task ∈ (ProbeSystem.run { bus := {} } steps).tasks,
      task.CountsSince (ProbeSystem.run { bus := {} } steps).published) ∧
    (∀ (b : EventBus) (e : String) (t : Nat), b.IdsBelow → e ≠ "" → 0 < t →
      ∃ b' p, ArmedProbe.arm b e t = .ok (b', p) ∧ ∀ calls : List EventBus.Call,
        p.observed (b'.callAll calls) =
            min t (mentionCount e ((EventBus.publishedUntilDrop p.sub calls).map (·.line))) ∧
          p.fired? (b'.callAll calls) =
            if t ≤ mentionCount e ((EventBus.publishedUntilDrop p.sub calls).map (·.line))
            then some t else none) := by
  refine ⟨fun steps => (ProbeSystem.sound_start.run steps).countsSince, ?_⟩
  intro b e t hb he ht
  have hArm := ArmedProbe.arm_of_valid b he ht
  exact ⟨_, _, hArm, ArmedProbe.counts_until_disarm hb hArm⟩

theorem probe_counts_flush_twice :
    (({} : EventBus).IdsBelow ∧ "flush" ≠ "" ∧ 0 < 2) ∧
      ∃ b' p, ArmedProbe.arm {} "flush" 2 = .ok (b', p) ∧ ∀ calls : List EventBus.Call,
        p.observed (b'.callAll calls) =
            min 2 (mentionCount "flush" ((EventBus.publishedUntilDrop p.sub calls).map (·.line))) ∧
          p.fired? (b'.callAll calls) =
            if 2 ≤ mentionCount "flush" ((EventBus.publishedUntilDrop p.sub calls).map (·.line))
            then some 2 else none :=
  have hb : ({} : EventBus).IdsBelow := fun _ h => by simp at h
  ⟨⟨hb, by decide, by decide⟩,
    probe_counts_then_fires_once.2 {} "flush" 2 hb (by decide) (by decide)⟩

end CrashTest
