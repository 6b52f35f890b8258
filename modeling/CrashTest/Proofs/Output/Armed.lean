import Mathlib
import CrashTest.Output.Probe
import CrashTest.Proofs.Output.Bus
import CrashTest.Proofs.Trigger.Counter
/-!
A probe armed on the bus, whatever else happens on it.

An armed probe is a subscription whose counter sees each line as it is published. Any calls may
follow the arm: subscriptions made, lines published, other subscriptions read from or dropped,
and the probe itself disarmed, which drops its subscription. A probe has nothing queued, so
reading from its number changes nothing, and a subscription made later takes a later number. The
probe's subscription is therefore always the one the counter makes of the lines published between
the arm and the disarm, and its count and its firing are the counter's.
-/
namespace CrashTest

/-- A counter made by `EventCounter.new` is fresh, for a name and a positive threshold. -/
theorem EventCounter.eq_of_new {e : String} {n : Nat} {c : EventCounter}
    (h : EventCounter.new e n = .ok c) : c = { eventName := e, threshold := n } ∧ 0 < n := by
  unfold EventCounter.new at h
  split_ifs at h with hEmpty hZero
  cases h
  exact ⟨rfl, Nat.pos_of_ne_zero hZero⟩

theorem EventCounter.new_of_valid {e : String} {n : Nat} (he : e ≠ "") (hn : 0 < n) :
    EventCounter.new e n = .ok { eventName := e, threshold := n } := by
  have hEmpty : e.isEmpty = false := by simpa [String.isEmpty_iff] using he
  unfold EventCounter.new
  rw [if_neg (by simp [hEmpty]), if_neg (by omega)]

namespace EventBus

/-- Every subscription carries a number already handed out. -/
def IdsBelow (b : EventBus) : Prop := ∀ s ∈ b.subs, s.id < b.nextId

variable {b : EventBus}

theorem IdsBelow.attach (hb : b.IdsBelow) (l : Listener) : (b.attach l).1.IdsBelow := by
  intro s hs
  simp only [EventBus.attach, List.mem_append, List.mem_singleton] at hs
  rcases hs with hs | rfl
  · exact Nat.lt_succ_of_lt (hb s hs)
  · exact Nat.lt_succ_self _

theorem IdsBelow.modify (hb : b.IdsBelow) {f : Subscription → Subscription}
    (hf : ∀ s, (f s).id = s.id) (j : Nat) : (b.modify j f).IdsBelow := by
  intro s hs
  simp only [EventBus.modify, List.mem_map] at hs
  obtain ⟨s, hs, rfl⟩ := hs
  split
  · rw [hf]; exact hb s hs
  · exact hb s hs

/-- Every call keeps the numbers of a bus handed out. -/
theorem IdsBelow.call (hb : b.IdsBelow) (c : Call) : (b.call c).1.IdsBelow := by
  cases c with
  | subscribe => exact hb.attach _
  | publish e =>
    intro s hs
    simp only [EventBus.call, publish_eq, List.mem_map] at hs
    obtain ⟨s, hs, rfl⟩ := hs
    rw [deliver_id]
    exact hb s hs
  | drop id =>
    refine hb.modify ?_ id
    intro s; rfl
  | tryRecv id =>
    simp only [EventBus.call, tryRecv]
    split
    · refine hb.modify ?_ id
      intro s; rfl
    · exact hb
  | drain id =>
    simp only [EventBus.call, drain]
    split
    · refine hb.modify ?_ id
      intro s; rfl
    · exact hb

theorem nextId_le_call (b : EventBus) (c : Call) : b.nextId ≤ (b.call c).1.nextId := by
  by_cases hc : c = .subscribe
  · rw [hc, call_nextId_subscribe]; exact Nat.le_succ _
  · rw [call_nextId_of_ne b hc]

/-- The subscription of a probe whose counter stands at `c`: once the counter has fired, it
holds the count it fired on. -/
def probeSub (id : Nat) (c : EventCounter) (live : Bool) : Subscription :=
  ⟨id, .probe c (if c.fired then some c.threshold else none), live⟩

theorem deliver_of_not_live (e : OutputEvent) {s : Subscription} (h : s.live = false) :
    s.deliver e = s := by
  simp [Subscription.deliver, h]

/-- A probe that receives while its counter has not fired counts the line, and stops receiving
when the line fires it. -/
theorem deliver_probeSub {c : EventCounter} (id : Nat) (e : OutputEvent) :
    (probeSub id c !c.fired).deliver e =
      probeSub id (c.observe e.line).1 !(c.observe e.line).1.fired := by
  rcases EventCounter.observe_cases c e.line with ⟨hIdle, hObs⟩ | ⟨hf, -, -, hObs⟩ |
    ⟨hf, -, -, hObs⟩
  · rcases hIdle with hf | -
    · rw [hObs]
      exact deliver_of_not_live e (by simp [probeSub, hf])
    · cases hf : c.fired <;>
        simp [probeSub, Subscription.deliver, Listener.receive, hObs, hf]
  · simp [probeSub, Subscription.deliver, Listener.receive, hObs, hf]
  · simp [probeSub, Subscription.deliver, Listener.receive, hObs, hf]

theorem tryRecv_of_probe {id : Nat} {s : Subscription} (hs : b.find? id = some s)
    {c : EventCounter} {f : Option Nat} (hProbe : s.listener = .probe c f) :
    b.tryRecv id = (b, none) := by
  obtain ⟨_, l, _⟩ := s
  cases hProbe
  simp [tryRecv, hs]

theorem drain_of_probe {id : Nat} {s : Subscription} (hs : b.find? id = some s)
    {c : EventCounter} {f : Option Nat} (hProbe : s.listener = .probe c f) :
    b.drain id = (b, []) := by
  obtain ⟨_, l, _⟩ := s
  cases hProbe
  simp [drain, hs]

section Probe

variable (hb : b.IdsBelow) {id : Nat} (hid : id < b.nextId) {s : Subscription}
  (hs : b.find? id = some s) {c : EventCounter} {f : Option Nat}
  (hProbe : s.listener = .probe c f)
include hb hid hs hProbe

/-- A probe's subscription is touched only by publishing and by dropping it: a later
subscription takes a later number, and a probe has nothing queued to take. -/
theorem find?_call_of_probe {call : Call} (hPub : call.published? = none)
    (hDrop : call ≠ .drop id) : (b.call call).1.find? id = some s := by
  cases call with
  | subscribe =>
    show (b.attach _).1.find? id = _
    rw [find?_attach hb, if_neg (Nat.ne_of_lt hid), hs]
  | publish e => simp [Call.published?] at hPub
  | drop j =>
    have hj : j ≠ id := fun h => hDrop (h ▸ rfl)
    rw [find?_call_of_ne b hj (.inl rfl), hs]
  | tryRecv j =>
    by_cases hj : j = id
    · subst hj
      show (b.tryRecv j).1.find? j = _
      rw [tryRecv_of_probe hs hProbe, hs]
    · rw [find?_call_of_ne b hj (.inr (.inl rfl)), hs]
  | drain j =>
    by_cases hj : j = id
    · subst hj
      show (b.drain j).1.find? j = _
      rw [drain_of_probe hs hProbe, hs]
    · rw [find?_call_of_ne b hj (.inr (.inr rfl)), hs]

/-- A probe's subscription once stopped stays as it is, whatever calls follow. -/
theorem find?_callAll_of_stopped (hLive : s.live = false) (calls : List Call) :
    (b.callAll calls).find? id = some s := by
  induction calls generalizing b with
  | nil => exact hs
  | cons call rest ih =>
    have hNext : (b.call call).1.find? id = some s := by
      by_cases hDrop : call = .drop id
      · subst hDrop
        rw [show (b.call (.drop id)).1 = b.drop id from rfl, find?_drop, if_pos rfl, hs]
        obtain ⟨_, _, _⟩ := s
        simp_all
      · cases hPub : call.published? with
        | none => exact find?_call_of_probe hb hid hs hProbe hPub hDrop
        | some e =>
          obtain rfl : call = .publish e := by cases call <;> simp_all [Call.published?]
          rw [show (b.call (.publish _)).1 = b.publish _ from rfl, find?_publish, hs,
            Option.map_some, deliver_of_not_live _ hLive]
    exact ih (hb.call call) (Nat.lt_of_lt_of_le hid (nextId_le_call b call)) hNext

end Probe

/-- Whatever calls follow, a probe's subscription is the one its counter makes of the lines
published until the probe is dropped. The induction is on the calls; the counter and the bus are
generalised, the counter staying sound and the subscription live until it fires or is dropped. -/
theorem find?_callAll_probe (calls : List Call) {id : Nat} :
    ∀ (b : EventBus) (c : EventCounter), b.IdsBelow → id < b.nextId → c.Sound →
      b.find? id = some (probeSub id c !c.fired) →
      ∃ live, (b.callAll calls).find? id =
        some (probeSub id (c.feed ((publishedUntilDrop id calls).map (·.line))).1 live) := by
  induction calls with
  | nil => intro b c _ _ _ hs; exact ⟨_, hs⟩
  | cons call rest ih =>
    intro b c hb hid hc hs
    have hid' := Nat.lt_of_lt_of_le hid (nextId_le_call b call)
    show ∃ live, ((b.call call).1.callAll rest).find? id = _
    rw [publishedUntilDrop_cons]
    by_cases hDrop : call = .drop id
    · -- the disarm: the subscription stops where it stands, and nothing touches it after
      subst hDrop
      have hStopped : (b.call (.drop id)).1.find? id = some (probeSub id c false) := by
        rw [show (b.call (.drop id)).1 = b.drop id from rfl, find?_drop, if_pos rfl, hs]
        rfl
      refine ⟨false, ?_⟩
      rw [if_pos rfl]
      exact find?_callAll_of_stopped (hb.call _) hid' hStopped rfl rfl rest
    · rw [if_neg hDrop]
      cases hPub : call.published? with
      | none =>
        simpa using ih (b.call call).1 c (hb.call call) hid' hc
          (find?_call_of_probe hb hid hs rfl hPub hDrop)
      | some e =>
        -- a publish: the counter takes the line, then the rest of the calls follow
        obtain rfl : call = .publish e := by cases call <;> simp_all [Call.published?]
        have hDelivered : (b.call (.publish e)).1.find? id =
            some (probeSub id (c.observe e.line).1 !(c.observe e.line).1.fired) := by
          rw [show (b.call (.publish e)).1 = b.publish e from rfl, find?_publish, hs,
            Option.map_some, deliver_probeSub]
        simpa using ih (b.call (.publish e)).1 (c.observe e.line).1 (hb.call _) hid'
          (hc.observe e.line) hDelivered

theorem counter?_probeSub {id : Nat} {c : EventCounter} {live : Bool}
    (h : b.find? id = some (probeSub id c live)) : b.counter? id = some c := by
  simp [counter?, h, probeSub]

theorem fired?_probeSub {id : Nat} {c : EventCounter} {live : Bool}
    (h : b.find? id = some (probeSub id c live)) :
    b.fired? id = if c.fired then some c.threshold else none := by
  simp [fired?, h, probeSub]

end EventBus

namespace ArmedProbe

/-- Arming with a name and a positive threshold subscribes a fresh counter under the next
number. -/
theorem arm_of_valid (b : EventBus) {e : String} {t : Nat} (he : e ≠ "") (ht : 0 < t) :
    arm b e t =
      .ok ((b.attach (.probe { eventName := e, threshold := t } none)).1, { sub := b.nextId }) := by
  simp [arm, EventCounter.new_of_valid he ht, EventBus.attach]

/-- An arm that succeeds has subscribed a fresh counter of a positive threshold under the next
number. -/
theorem eq_of_arm {b b' : EventBus} {e : String} {t : Nat} {p : ArmedProbe}
    (h : arm b e t = .ok (b', p)) :
    0 < t ∧ b' = (b.attach (.probe { eventName := e, threshold := t } none)).1 ∧
      p = { sub := b.nextId } := by
  cases hNew : EventCounter.new e t with
  | error err => simp [arm, hNew] at h
  | ok c =>
    obtain ⟨rfl, ht⟩ := EventCounter.eq_of_new hNew
    simp only [arm, hNew, EventBus.attach] at h
    cases h
    exact ⟨ht, rfl, rfl⟩

/-- Whatever calls follow the arm, the probe's count is the number of mentions among the lines
published before its disarm, capped at the threshold, and it has fired, on the threshold,
exactly when that number reaches it. -/
theorem counts_until_disarm {b b' : EventBus} (hb : b.IdsBelow) {e : String} {t : Nat}
    {p : ArmedProbe} (hArm : arm b e t = .ok (b', p)) (calls : List EventBus.Call) :
    p.observed (b'.callAll calls) =
        min t (mentionCount e ((EventBus.publishedUntilDrop p.sub calls).map (·.line))) ∧
      p.fired? (b'.callAll calls) =
        if t ≤ mentionCount e ((EventBus.publishedUntilDrop p.sub calls).map (·.line))
        then some t else none := by
  obtain ⟨ht, rfl, rfl⟩ := eq_of_arm hArm
  have hc : EventCounter.Sound { eventName := e, threshold := t } := EventCounter.sound_fresh e ht
  have hFound : (b.attach (.probe { eventName := e, threshold := t } none)).1.find? b.nextId =
      some (EventBus.probeSub b.nextId { eventName := e, threshold := t } true) := by
    rw [EventBus.find?_attach hb, if_pos rfl]
    rfl
  obtain ⟨live, hRun⟩ := EventBus.find?_callAll_probe calls _ _ (hb.attach _)
    (Nat.lt_succ_self _) hc hFound
  -- the lines the counter took, and what a fresh counter makes of them
  set lines := (EventBus.publishedUntilDrop b.nextId calls).map (·.line)
  have hMentions := EventCounter.countP_mentions_fresh e t lines
  have hObserved := hc.feed_observed lines
  have hFired := hc.feed_fired lines
  simp only [Nat.zero_add, hMentions] at hObserved hFired
  refine ⟨?_, ?_⟩
  · simp only [observed, EventBus.counter?_probeSub hRun, Option.map_some, Option.getD_some]
    exact hObserved
  · rw [fired?, EventBus.fired?_probeSub hRun, EventCounter.feed_threshold]
    exact if_congr hFired rfl rfl

end ArmedProbe

end CrashTest
