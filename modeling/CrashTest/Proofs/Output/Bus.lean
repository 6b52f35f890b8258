import Mathlib
import CrashTest.Output.Bus
/-!
What the subscribers of a bus receive.

A caller sees a subscription through its number, and the bus answers for a number from the first
subscription that carries it (`find?`). Every call changes all subscriptions of a number alike, so
that view is all there is to know: publishing appends the event to the queue of a live
subscription, taking removes events from the front of the queue, dropping stops delivery and
keeps what is queued, and a new subscription takes the next number with an empty queue.

Over any sequence of calls on a new bus, what the holder of a subscription has taken, followed by
what is still queued for it, is therefore exactly the events published after the subscription was
made and before it was dropped, in the order they were published. Numbers are handed out in order,
one subscription each, so the count of live subscriptions is the number made and not dropped.
-/
namespace CrashTest

/-- What a subscription does with one published event. -/
def Subscription.deliver (e : OutputEvent) (s : Subscription) : Subscription :=
  if s.live then
    let (l, live) := s.listener.receive e
    { s with listener := l, live }
  else s

/-- The events a subscription holds for its holder. -/
def Subscription.pending (s : Subscription) : List OutputEvent :=
  match s.listener with
  | .queue pending => pending
  | .probe .. => []

namespace EventBus

/-- One call on a bus: by the holder of the bus (subscribe, publish), or by the holder of a
subscription (drop it, take one event, take them all). -/
inductive Call where
  | subscribe
  | publish (e : OutputEvent)
  | drop (id : Nat)
  | tryRecv (id : Nat)
  | drain (id : Nat)
  deriving DecidableEq, Repr

namespace Call

/-- The event a call publishes. -/
def published? : Call → Option OutputEvent
  | .publish e => some e
  | _ => none

/-- Whether the call takes events queued for subscription `id`. -/
def takesFor (id : Nat) : Call → Bool
  | .tryRecv j | .drain j => j == id
  | _ => false

end Call

/-- Makes a call: the bus afterwards, and the events handed to the caller. -/
def call (b : EventBus) : Call → EventBus × List OutputEvent
  | .subscribe => (b.subscribe.1, [])
  | .publish e => (b.publish e, [])
  | .drop id => (b.drop id, [])
  | .tryRecv id => ((b.tryRecv id).1, (b.tryRecv id).2.toList)
  | .drain id => b.drain id

/-- Makes calls in order. -/
def callAll (b : EventBus) (calls : List Call) : EventBus :=
  calls.foldl (fun b c => (b.call c).1) b

/-- The events handed to the holder of subscription `id` by calls made in order. -/
def received (id : Nat) (b : EventBus) : List Call → List OutputEvent
  | [] => []
  | c :: rest => (if c.takesFor id then (b.call c).2 else []) ++ received id (b.call c).1 rest

/-! ### What a subscription is owed -/

/-- The events published from the start of `calls` until subscription `id` is dropped. -/
def publishedUntilDrop (id : Nat) (calls : List Call) : List OutputEvent :=
  (calls.takeWhile (· != .drop id)).filterMap Call.published?

/-- The events that `calls`, made on a bus that has handed out `made` subscriptions, owe to
subscription `id`: those published after the call that makes it and before it is dropped. -/
def owed (id : Nat) : Nat → List Call → List OutputEvent
  | _, [] => []
  | made, .subscribe :: rest =>
    if made = id then publishedUntilDrop id rest else owed id (made + 1) rest
  | made, _ :: rest => owed id made rest

/-- Whether subscription `id` is attached after `calls`, made on a bus that has handed out `made`
subscriptions: one of the calls made it and no later call dropped it. -/
def attachedAfter (id : Nat) : Nat → List Call → Bool
  | _, [] => false
  | made, .subscribe :: rest =>
    if made = id then !rest.contains (.drop id) else attachedAfter id (made + 1) rest
  | made, _ :: rest => attachedAfter id made rest

/-! ### A subscription seen through its number -/

/-- Whether the subscription numbered `id` receives events. -/
def attached (b : EventBus) (id : Nat) : Bool := (b.find? id).any (·.live)

theorem publish_eq (b : EventBus) (e : OutputEvent) :
    b.publish e = { b with subs := b.subs.map (Subscription.deliver e) } := rfl

@[simp] theorem deliver_id (e : OutputEvent) (s : Subscription) : (s.deliver e).id = s.id := by
  unfold Subscription.deliver; split <;> rfl

theorem peek_eq (b : EventBus) (id : Nat) : b.peek id = ((b.find? id).map (·.pending)).getD [] := by
  unfold peek
  rcases b.find? id with _ | ⟨_, _ | _, _⟩ <;> rfl

theorem find?_mem {b : EventBus} {id : Nat} {s : Subscription} (h : b.find? id = some s) :
    s ∈ b.subs :=
  List.mem_of_find?_eq_some h

theorem find?_id {b : EventBus} {id : Nat} {s : Subscription} (h : b.find? id = some s) :
    s.id = id := by
  simpa using List.find?_some h

/-- Publishing shows on every subscription as delivery of the event. -/
theorem find?_publish (b : EventBus) (e : OutputEvent) (id : Nat) :
    (b.publish e).find? id = (b.find? id).map (Subscription.deliver e) := by
  simp only [find?, publish_eq, List.find?_map]
  congr 2
  funext s
  simp

/-- Changing the subscriptions of one number changes the view of that number alone. -/
theorem find?_modify (b : EventBus) {f : Subscription → Subscription} (hf : ∀ s, (f s).id = s.id)
    (j id : Nat) : (b.modify j f).find? id = if j = id then (b.find? id).map f else b.find? id := by
  simp only [find?, modify, List.find?_map]
  have hSame : ((fun s : Subscription => s.id == id) ∘ fun s => if s.id == j then f s else s) =
      fun s => s.id == id := by
    funext s; by_cases h : s.id = j <;> simp [h, hf]
  rw [hSame]
  cases hFound : b.subs.find? (·.id == id) with
  | none => simp
  | some s =>
    have hs : s.id = id := by simpa using List.find?_some hFound
    by_cases hj : j = id
    · simp [hs, hj]
    · simp [hs, hj, Ne.symm hj]

/-- A new subscription takes the next number; the others keep theirs. -/
theorem find?_attach {b : EventBus} (hBelow : ∀ s ∈ b.subs, s.id < b.nextId) (l : Listener)
    (id : Nat) :
    (b.attach l).1.find? id = if id = b.nextId then some ⟨b.nextId, l, true⟩ else b.find? id := by
  simp only [find?, attach, List.find?_append]
  by_cases hid : id = b.nextId
  · subst hid
    have hNone : b.subs.find? (·.id == b.nextId) = none := by
      rw [List.find?_eq_none]
      intro s hs
      have := hBelow s hs
      simp; omega
    simp [hNone]
  · simp [hid, Ne.symm hid]

/-- Dropping a subscription stops it, and changes nothing else. -/
theorem find?_drop (b : EventBus) (j id : Nat) :
    (b.drop j).find? id =
      if j = id then (b.find? id).map (fun s => { s with live := false }) else b.find? id := by
  unfold EventBus.drop
  refine find?_modify b ?_ j id
  intro s; rfl

/-- Dropping a subscription keeps what is queued for every number. -/
theorem peek_drop (b : EventBus) (j id : Nat) : (b.drop j).peek id = b.peek id := by
  rw [peek_eq, peek_eq, find?_drop]
  split
  · cases b.find? id <;> rfl
  · rfl

/-! ### The buses that calls make from a new one -/

/-- A bus as calls make it: its subscriptions are numbered `0, 1, …` in order, and all of them
queue events. -/
structure Numbered (b : EventBus) : Prop where
  ids : b.subs.map (·.id) = List.range b.nextId
  queues : ∀ s ∈ b.subs, ∃ pending, s.listener = .queue pending

theorem numbered_new : Numbered {} := ⟨rfl, by simp⟩

namespace Numbered

variable {b : EventBus} (hb : b.Numbered)
include hb

theorem id_lt {s : Subscription} (hs : s ∈ b.subs) : s.id < b.nextId := by
  have : s.id ∈ b.subs.map (·.id) := List.mem_map_of_mem hs
  simpa [hb.ids] using this

/-- No subscription carries a number not yet handed out. -/
theorem find?_eq_none {id : Nat} (h : b.nextId ≤ id) : b.find? id = none := by
  rw [find?, List.find?_eq_none]
  intro s hs
  have := hb.id_lt hs
  simp only [beq_iff_eq]
  omega

/-- A queue keeps receiving whatever is published. -/
theorem deliver_eq {s : Subscription} (hs : s ∈ b.subs) (e : OutputEvent) :
    s.deliver e = if s.live then { s with listener := .queue (s.pending ++ [e]) } else s := by
  obtain ⟨pending, hq⟩ := hb.queues s hs
  obtain ⟨id, l, live⟩ := s
  cases live <;> simp_all [Subscription.deliver, Subscription.pending, Listener.receive]

/-- Below the next number every number has its subscription, found where the number says. -/
theorem find?_of_mem {s : Subscription} (hs : s ∈ b.subs) : b.find? s.id = some s := by
  have hNodup : (b.subs.map (·.id)).Nodup := hb.ids ▸ List.nodup_range
  obtain ⟨s', hFound⟩ : ∃ s', b.find? s.id = some s' := by
    cases h : b.find? s.id with
    | some s' => exact ⟨s', rfl⟩
    | none =>
      simp only [find?, List.find?_eq_none, beq_iff_eq] at h
      exact absurd rfl (h s hs)
  rw [hFound, List.inj_on_of_nodup_map hNodup (find?_mem hFound) hs (find?_id hFound)]

theorem subscribe : (b.call .subscribe).1.Numbered := by
  refine ⟨?_, ?_⟩
  · simp [call, EventBus.subscribe, attach, hb.ids, List.range_succ]
  · intro s hs
    simp only [call, EventBus.subscribe, attach, List.mem_append, List.mem_singleton] at hs
    rcases hs with hs | rfl
    · exact hb.queues s hs
    · exact ⟨[], rfl⟩

theorem publish (e : OutputEvent) : (b.call (.publish e)).1.Numbered := by
  refine ⟨by simp [call, publish_eq, Function.comp_def, hb.ids], ?_⟩
  intro s hs
  simp only [call, publish_eq, List.mem_map] at hs
  obtain ⟨s, hs, rfl⟩ := hs
  rw [hb.deliver_eq hs]
  split
  · exact ⟨_, rfl⟩
  · exact hb.queues s hs

/-- Changing subscriptions of one number, keeping numbers and queues, keeps a bus numbered. -/
theorem modify {f : Subscription → Subscription} (hf : ∀ s, (f s).id = s.id)
    (hq : ∀ s pending, s.listener = .queue pending → ∃ pending', (f s).listener = .queue pending')
    (j : Nat) : (b.modify j f).Numbered := by
  refine ⟨?_, ?_⟩
  · simp only [EventBus.modify, List.map_map]
    rw [← hb.ids]
    congr 1
    funext s
    by_cases h : s.id = j <;> simp [h, hf]
  · intro s hs
    simp only [EventBus.modify, List.mem_map] at hs
    obtain ⟨s, hs, rfl⟩ := hs
    obtain ⟨pending, hp⟩ := hb.queues s hs
    split
    · exact hq s pending hp
    · exact ⟨pending, hp⟩

/-- Every call keeps a bus numbered. -/
theorem call (c : Call) : (b.call c).1.Numbered := by
  cases c with
  | subscribe => exact hb.subscribe
  | publish e => exact hb.publish e
  | drop id =>
    refine hb.modify ?_ ?_ id
    · intro s; rfl
    · intro s pending h; exact ⟨pending, h⟩
  | tryRecv id =>
    simp only [EventBus.call, tryRecv]
    split
    · refine hb.modify ?_ ?_ id
      · intro s; rfl
      · intro s pending _; exact ⟨_, rfl⟩
    · exact hb
  | drain id =>
    simp only [EventBus.call, drain]
    split
    · refine hb.modify ?_ ?_ id
      · intro s; rfl
      · intro s pending _; exact ⟨_, rfl⟩
    · exact hb

/-- Every run of calls keeps a bus numbered. -/
theorem callAll (calls : List Call) : (b.callAll calls).Numbered := by
  induction calls generalizing b with
  | nil => exact hb
  | cons c rest ih => exact ih (hb.call c)

/-- Only numbers handed out have a live subscription. -/
theorem lt_of_attached {id : Nat} (h : b.attached id = true) : id < b.nextId := by
  unfold attached at h
  cases hFound : b.find? id with
  | none => simp [hFound] at h
  | some s =>
    rw [← find?_id hFound]
    exact hb.id_lt (find?_mem hFound)

/-- The live subscriptions are counted by number. -/
theorem subscriberCount_eq : b.subscriberCount = (List.range b.nextId).countP b.attached := by
  rw [subscriberCount, ← List.countP_eq_length_filter, ← hb.ids, List.countP_map]
  refine List.countP_congr fun s hs => ?_
  simp [attached, hb.find?_of_mem hs]

end Numbered

/-! ### One call, seen from one subscription -/

@[simp] theorem publishedUntilDrop_nil (id : Nat) : publishedUntilDrop id [] = [] := rfl

theorem publishedUntilDrop_cons (id : Nat) (c : Call) (rest : List Call) :
    publishedUntilDrop id (c :: rest) =
      if c = .drop id then [] else c.published?.toList ++ publishedUntilDrop id rest := by
  unfold publishedUntilDrop
  by_cases h : c = .drop id
  · simp [h]
  · rw [List.takeWhile_cons_of_pos (by simpa using h), List.filterMap_cons, if_neg h]
    cases c.published? <;> rfl

theorem owed_cons_of_ne {c : Call} (h : c ≠ .subscribe) (id made : Nat) (rest : List Call) :
    owed id made (c :: rest) = owed id made rest := by
  cases c <;> first | rfl | exact absurd rfl h

theorem attachedAfter_cons_of_ne {c : Call} (h : c ≠ .subscribe) (id made : Nat)
    (rest : List Call) : attachedAfter id made (c :: rest) = attachedAfter id made rest := by
  cases c <;> first | rfl | exact absurd rfl h

/-- The view of one number through a call that changes only other numbers. -/
theorem find?_call_of_ne (b : EventBus) {c : Call} {j id : Nat} (hj : j ≠ id)
    (hc : c = .drop j ∨ c = .tryRecv j ∨ c = .drain j) : (b.call c).1.find? id = b.find? id := by
  rcases hc with rfl | rfl | rfl
  · simp [call, drop, find?_modify, hj]
  · simp only [call, tryRecv]
    split
    · simp [find?_modify, hj]
    · rfl
  · simp only [call, drain]
    split
    · simp [find?_modify, hj]
    · rfl

/-- Draining hands over every queued event and leaves none queued. -/
theorem drain_peek (b : EventBus) (id : Nat) :
    (b.drain id).2 = b.peek id ∧ (b.drain id).1.peek id = [] := by
  unfold drain
  cases hFound : b.find? id with
  | none => simp [peek, hFound]
  | some s =>
    obtain ⟨j, l, live⟩ := s
    cases l with
    | queue pending =>
      refine ⟨by simp [peek, hFound], ?_⟩
      simp [peek_eq, find?_modify, hFound, Subscription.pending]
    | probe c fired => simp [peek, hFound]

/-- Taking one event hands over the front of the queue and leaves the rest. -/
theorem tryRecv_peek (b : EventBus) (id : Nat) :
    (b.tryRecv id).2.toList ++ (b.tryRecv id).1.peek id = b.peek id := by
  unfold tryRecv
  cases hFound : b.find? id with
  | none => simp
  | some s =>
    obtain ⟨j, l, live⟩ := s
    cases l with
    | queue pending =>
      cases pending with
      | nil => simp [hFound, peek]
      | cons e rest =>
        simp [peek_eq, find?_modify, hFound, Subscription.pending]
    | probe c fired => simp

section Numbered

variable {b : EventBus} (hb : b.Numbered)
include hb

/-- What a call hands to the holder of subscription `id`, followed by what stays queued for it,
is what was queued, followed by the event the call publishes if the subscription is live: no
event is lost, duplicated or reordered by any call. -/
theorem Numbered.call_peek (c : Call) (id : Nat) :
    (if c.takesFor id then (b.call c).2 else []) ++ (b.call c).1.peek id =
      b.peek id ++ if b.attached id then c.published?.toList else [] := by
  cases c with
  | subscribe =>
    show (b.attach (.queue [])).1.peek id = b.peek id ++ if b.attached id then [] else []
    rw [ite_self, List.append_nil, peek_eq, peek_eq, find?_attach (fun s hs => hb.id_lt hs)]
    by_cases hid : id = b.nextId
    · -- the new subscription starts empty, and no older one had its number
      simp [hid, hb.find?_eq_none le_rfl, Subscription.pending]
    · simp [hid]
  | publish e =>
    show (b.publish e).peek id = b.peek id ++ if b.attached id then [e] else []
    rw [peek_eq, peek_eq, find?_publish, attached]
    obtain hNone | ⟨s, hFound⟩ : b.find? id = none ∨ ∃ s, b.find? id = some s := by
      cases b.find? id <;> simp
    · simp [hNone]
    · rw [hFound, Option.map_some, Option.map_some, hb.deliver_eq (find?_mem hFound)]
      by_cases hl : s.live <;> simp [hl, Subscription.pending]
  | drop j =>
    show (b.drop j).peek id = b.peek id ++ if b.attached id then [] else []
    rw [ite_self, List.append_nil, peek_eq, peek_eq, find?_drop]
    split
    · cases b.find? id <;> rfl
    · rfl
  | tryRecv j =>
    by_cases hj : j = id
    · subst hj
      rw [if_pos (by simp [Call.takesFor])]
      show (b.tryRecv j).2.toList ++ (b.tryRecv j).1.peek j = b.peek j ++ if b.attached j then [] else []
      rw [tryRecv_peek, ite_self, List.append_nil]
    · rw [if_neg (by simp [Call.takesFor, hj]), List.nil_append, peek_eq, peek_eq,
        find?_call_of_ne b hj (.inr (.inl rfl))]
      simp [Call.published?]
  | drain j =>
    by_cases hj : j = id
    · subst hj
      rw [if_pos (by simp [Call.takesFor])]
      show (b.drain j).2 ++ (b.drain j).1.peek j = b.peek j ++ if b.attached j then [] else []
      rw [(drain_peek b j).1, (drain_peek b j).2, ite_self]
    · rw [if_neg (by simp [Call.takesFor, hj]), List.nil_append, peek_eq, peek_eq,
        find?_call_of_ne b hj (.inr (.inr rfl))]
      simp [Call.published?]

/-- A new subscription is live under the next number. -/
theorem Numbered.attached_subscribe (id : Nat) :
    (b.call .subscribe).1.attached id = (b.attached id || id == b.nextId) := by
  show (b.attach (.queue [])).1.attached id = _
  unfold attached
  rw [find?_attach (fun s hs => hb.id_lt hs)]
  by_cases hid : id = b.nextId
  · simp [hid]
  · simp [hid]

/-- Publishing keeps every queue live. -/
theorem Numbered.attached_publish (e : OutputEvent) (id : Nat) :
    (b.call (.publish e)).1.attached id = b.attached id := by
  show (b.publish e).attached id = _
  unfold attached
  rw [find?_publish]
  obtain hNone | ⟨s, hFound⟩ : b.find? id = none ∨ ∃ s, b.find? id = some s := by
    cases b.find? id <;> simp
  · simp [hNone]
  · rw [hFound, Option.map_some, hb.deliver_eq (find?_mem hFound)]
    by_cases hl : s.live <;> simp [hl]

end Numbered

/-- Dropping a subscription stops it and no other. -/
theorem attached_drop (b : EventBus) (j id : Nat) :
    (b.call (.drop j)).1.attached id = (b.attached id && j != id) := by
  show (b.drop j).attached id = _
  unfold attached
  rw [find?_drop]
  by_cases hj : j = id
  · cases b.find? id <;> simp [hj]
  · simp [hj]

/-- Taking events leaves every subscription as live as it was. -/
theorem attached_take (b : EventBus) {c : Call} {j : Nat} (hc : c = .tryRecv j ∨ c = .drain j)
    (id : Nat) : (b.call c).1.attached id = b.attached id := by
  by_cases hj : j = id
  · subst hj
    rcases hc with rfl | rfl
    · show (b.tryRecv j).1.attached j = _
      unfold tryRecv
      split
      · rw [attached, attached, find?_modify, if_pos rfl]
        · cases b.find? j <;> rfl
        · intro s; rfl
      · rfl
    · show (b.drain j).1.attached j = _
      unfold drain
      split
      · rw [attached, attached, find?_modify, if_pos rfl]
        · cases b.find? j <;> rfl
        · intro s; rfl
      · rfl
  · unfold attached
    rw [find?_call_of_ne b hj (by rcases hc with rfl | rfl <;> simp)]

theorem call_nextId_subscribe (b : EventBus) :
    (b.call .subscribe).1.nextId = b.nextId + 1 := rfl

theorem call_nextId_of_ne (b : EventBus) {c : Call} (h : c ≠ .subscribe) :
    (b.call c).1.nextId = b.nextId := by
  cases c with
  | subscribe => exact absurd rfl h
  | publish e => rfl
  | drop j => rfl
  | tryRecv j =>
    show (b.tryRecv j).1.nextId = _
    unfold tryRecv; split <;> rfl
  | drain j =>
    show (b.drain j).1.nextId = _
    unfold drain; split <;> rfl

/-! ### Runs of calls -/

/-- The events that later calls still owe to subscription `id` of bus `b`. -/
def owedFrom (b : EventBus) (id : Nat) (calls : List Call) : List OutputEvent :=
  if id < b.nextId then (if b.attached id then publishedUntilDrop id calls else [])
  else owed id b.nextId calls

/-- Whether subscription `id` of bus `b` is live after later calls. -/
def attachedFrom (b : EventBus) (id : Nat) (calls : List Call) : Bool :=
  if id < b.nextId then b.attached id && !calls.contains (.drop id)
  else attachedAfter id b.nextId calls

theorem callAll_nextId (b : EventBus) (calls : List Call) :
    (b.callAll calls).nextId = b.nextId + calls.count .subscribe := by
  induction calls generalizing b with
  | nil => rfl
  | cons c rest ih =>
    rw [EventBus.callAll, List.foldl_cons, ← EventBus.callAll, ih, List.count_cons]
    by_cases hc : c = .subscribe
    · subst hc; rw [call_nextId_subscribe]; simp; omega
    · rw [call_nextId_of_ne b hc]; simp [hc]

section Run

variable {b : EventBus} (hb : b.Numbered)
include hb

/-- What a call delivers to a subscription, followed by what later calls owe it, is what the
calls from there on owe it. -/
theorem Numbered.owedFrom_cons (c : Call) (rest : List Call) (id : Nat) :
    (if b.attached id then c.published?.toList else []) ++ owedFrom (b.call c).1 id rest =
      owedFrom b id (c :: rest) := by
  have hLive : b.attached id = true → id < b.nextId := hb.lt_of_attached
  cases c with
  | subscribe =>
    rw [owedFrom, owedFrom, hb.attached_subscribe, call_nextId_subscribe]
    rcases Nat.lt_trichotomy id b.nextId with hid | rfl | hid
    · simp [hid, Nat.lt_succ_of_lt hid, Nat.ne_of_lt hid, publishedUntilDrop_cons,
        Call.published?]
    · -- the call makes the subscription: from here on it is owed what is published
      have : b.attached b.nextId = false := by
        by_contra h; exact absurd (hLive (by simpa using h)) (lt_irrefl _)
      simp [this, owed]
    · have : b.attached id = false := by
        by_contra h; exact absurd (hLive (by simpa using h)) (by omega)
      simp [this, owed, show ¬id < b.nextId + 1 by omega,
        show ¬id < b.nextId by omega, show b.nextId ≠ id by omega]
  | publish e =>
    rw [owedFrom, owedFrom, hb.attached_publish, call_nextId_of_ne b (by simp),
      owed_cons_of_ne (by simp)]
    by_cases hid : id < b.nextId
    · by_cases ha : b.attached id <;> simp [hid, ha, publishedUntilDrop_cons, Call.published?]
    · have : b.attached id = false := by
        by_contra h; exact hid (hLive (by simpa using h))
      simp [hid, this]
  | drop j =>
    rw [owedFrom, owedFrom, attached_drop, call_nextId_of_ne b (by simp),
      owed_cons_of_ne (by simp)]
    by_cases hj : j = id
    · subst hj
      by_cases ha : b.attached j <;> simp [ha, publishedUntilDrop_cons, Call.published?]
    · by_cases hid : id < b.nextId
      · by_cases ha : b.attached id <;>
          simp [hid, ha, hj, publishedUntilDrop_cons, Call.published?]
      · have : b.attached id = false := by
          by_contra h; exact hid (hLive (by simpa using h))
        simp [hid, this]
  | tryRecv j =>
    rw [owedFrom, owedFrom, attached_take b (.inl rfl), call_nextId_of_ne b (by simp),
      owed_cons_of_ne (by simp)]
    by_cases ha : b.attached id <;> simp [ha, publishedUntilDrop_cons, Call.published?]
  | drain j =>
    rw [owedFrom, owedFrom, attached_take b (.inr rfl), call_nextId_of_ne b (by simp),
      owed_cons_of_ne (by simp)]
    by_cases ha : b.attached id <;> simp [ha, publishedUntilDrop_cons, Call.published?]

/-- Over any run of calls, what the holder of subscription `id` takes, followed by what is still
queued for it, is what was queued, followed by what the run owes it. -/
theorem Numbered.received_peek (calls : List Call) (id : Nat) :
    received id b calls ++ (b.callAll calls).peek id = b.peek id ++ owedFrom b id calls := by
  induction calls generalizing b with
  | nil =>
    have : owedFrom b id [] = [] := by unfold owedFrom; split_ifs <;> rfl
    simp [received, EventBus.callAll, this]
  | cons c rest ih =>
    have hStep := hb.call_peek c id
    calc received id b (c :: rest) ++ (b.callAll (c :: rest)).peek id
        = (if c.takesFor id then (b.call c).2 else []) ++
            (received id (b.call c).1 rest ++ ((b.call c).1.callAll rest).peek id) := by
          simp [received, EventBus.callAll, List.append_assoc]
      _ = ((if c.takesFor id then (b.call c).2 else []) ++ (b.call c).1.peek id) ++
            owedFrom (b.call c).1 id rest := by
          rw [ih (hb.call c), List.append_assoc]
      _ = b.peek id ++ owedFrom b id (c :: rest) := by
          rw [hStep, List.append_assoc, hb.owedFrom_cons]

/-- A call keeps the liveness that later calls give a subscription. -/
theorem Numbered.attachedFrom_cons (c : Call) (rest : List Call) (id : Nat) :
    attachedFrom (b.call c).1 id rest = attachedFrom b id (c :: rest) := by
  have hLive : b.attached id = true → id < b.nextId := hb.lt_of_attached
  cases c with
  | subscribe =>
    rw [attachedFrom, attachedFrom, hb.attached_subscribe, call_nextId_subscribe]
    rcases Nat.lt_trichotomy id b.nextId with hid | rfl | hid
    · have hNe : (id == b.nextId) = false := by simp [Nat.ne_of_lt hid]
      simp [hid, Nat.lt_succ_of_lt hid, hNe]
    · simp [attachedAfter]
    · simp [attachedAfter, show ¬id < b.nextId + 1 by omega,
        show ¬id < b.nextId by omega, show b.nextId ≠ id by omega]
  | publish e =>
    rw [attachedFrom, attachedFrom, hb.attached_publish, call_nextId_of_ne b (by simp),
      attachedAfter_cons_of_ne (by simp)]
    simp
  | drop j =>
    rw [attachedFrom, attachedFrom, attached_drop, call_nextId_of_ne b (by simp),
      attachedAfter_cons_of_ne (by simp)]
    by_cases hj : j = id
    · subst hj; simp
    · have hNe : (j != id) = true := by simp [hj]
      simp [hNe, Ne.symm hj]
  | tryRecv j =>
    rw [attachedFrom, attachedFrom, attached_take b (.inl rfl), call_nextId_of_ne b (by simp),
      attachedAfter_cons_of_ne (by simp)]
    simp
  | drain j =>
    rw [attachedFrom, attachedFrom, attached_take b (.inr rfl), call_nextId_of_ne b (by simp),
      attachedAfter_cons_of_ne (by simp)]
    simp

/-- A subscription is live after a run of calls exactly when it was made and not dropped. -/
theorem Numbered.attached_callAll (calls : List Call) (id : Nat) :
    (b.callAll calls).attached id = attachedFrom b id calls := by
  induction calls generalizing b with
  | nil =>
    show b.attached id = _
    cases h : b.attached id
    · simp [attachedFrom, h, attachedAfter]
    · simp [attachedFrom, h, hb.lt_of_attached h]
  | cons c rest ih =>
    rw [EventBus.callAll, List.foldl_cons, ← EventBus.callAll, ih (hb.call c),
      hb.attachedFrom_cons]

end Run

/-- On a new bus, whatever calls are made in whatever order: what the holder of a subscription
has taken, followed by what is still queued for it, is exactly the events published after the
subscription was made and before it was dropped, in publish order, none lost and none twice;
draining hands over everything queued and leaves nothing; and the count of subscribers is the
number of subscriptions made and not dropped. -/
theorem bus_delivers_each_event_once (calls : List Call) :
    (∀ id, received id {} calls ++ (callAll {} calls).peek id = owed id 0 calls) ∧
    (∀ (b : EventBus) id, (b.drain id).2 = b.peek id ∧ (b.drain id).1.peek id = []) ∧
    (callAll {} calls).subscriberCount =
      (List.range (calls.count .subscribe)).countP fun id => attachedAfter id 0 calls := by
  have hNew := numbered_new
  refine ⟨fun id => ?_, drain_peek, ?_⟩
  · simpa [owedFrom, peek, find?] using hNew.received_peek calls id
  · rw [(hNew.callAll calls).subscriberCount_eq, callAll_nextId, show ({} : EventBus).nextId = 0
      from rfl, Nat.zero_add]
    refine List.countP_congr fun id _ => ?_
    simp [hNew.attached_callAll, attachedFrom]

example :
    received 0 {} [.publish ⟨1, .stdout, "early"⟩, .subscribe, .publish ⟨1, .stdout, "late"⟩,
      .drain 0] = [⟨1, .stdout, "late"⟩] := by decide

end EventBus

end CrashTest
