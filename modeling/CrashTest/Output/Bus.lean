import CrashTest.Trigger.Counter
/-!
The output of targets, line by line, and those who listen to it.

Every line a target writes to its standard output or standard error is an event on a bus. A
subscription sees exactly the events published after it was made, in order, until it is
dropped. A counting probe is a subscription that counts the lines mentioning an event as they
arrive; when it reaches its threshold it records the count and stops listening. A dropped
subscription, and a probe that has fired, no longer count as subscribers, but what a probe
counted stays readable.
-/
namespace CrashTest

/-- The two output streams of a process. -/
inductive OutputStream where
  | stdout
  | stderr
  deriving DecidableEq, Repr, Inhabited

/-- The stream's name as the outside world writes it. -/
def OutputStream.name : OutputStream → String
  | .stdout => "stdout"
  | .stderr => "stderr"

/-- One line of output from a target. -/
structure OutputEvent where
  pid : Nat
  stream : OutputStream
  line : String
  deriving DecidableEq, Repr, Inhabited

/-- What a subscription does with events. -/
inductive Listener where
  /-- Keeps them, oldest first, until they are taken. -/
  | queue (pending : List OutputEvent)
  /-- Counts them; `fired` is the count it fired on, once it has. -/
  | probe (counter : EventCounter) (fired : Option Nat)
  deriving DecidableEq, Repr, Inhabited

/-- A subscription to the bus. -/
structure Subscription where
  id : Nat
  listener : Listener
  /-- Whether it still receives events. -/
  live : Bool
  deriving DecidableEq, Repr, Inhabited

/-- Hands one event to a listener: the listener afterwards, and whether it keeps listening. -/
def Listener.receive (e : OutputEvent) : Listener → Listener × Bool
  | .queue pending => (.queue (pending ++ [e]), true)
  | .probe c fired =>
    match c.observe e.line with
    | (c', some n) => (.probe c' (some n), false)
    | (c', none) => (.probe c' fired, true)

/-- The bus: every subscription ever made, and the next subscription's number. -/
structure EventBus where
  subs : List Subscription := []
  nextId : Nat := 0
  deriving DecidableEq, Repr, Inhabited

namespace EventBus

/-- Adds a subscription with this listener; returns its number. -/
def attach (b : EventBus) (l : Listener) : EventBus × Nat :=
  ({ subs := b.subs ++ [⟨b.nextId, l, true⟩], nextId := b.nextId + 1 }, b.nextId)

/-- A new subscription that queues events. -/
def subscribe (b : EventBus) : EventBus × Nat := b.attach (.queue [])

/-- Publishes an event to every live subscription. -/
def publish (b : EventBus) (e : OutputEvent) : EventBus :=
  { b with subs := b.subs.map fun s =>
      if s.live then
        let (l, live) := s.listener.receive e
        { s with listener := l, live }
      else s }

/-- The subscription with this number. -/
def find? (b : EventBus) (id : Nat) : Option Subscription := b.subs.find? (·.id == id)

/-- Changes the subscription with this number. -/
def modify (b : EventBus) (id : Nat) (f : Subscription → Subscription) : EventBus :=
  { b with subs := b.subs.map fun s => if s.id == id then f s else s }

/-- Stops a subscription; what it holds stays readable. -/
def drop (b : EventBus) (id : Nat) : EventBus := b.modify id fun s => { s with live := false }

/-- How many subscriptions still receive events. -/
def subscriberCount (b : EventBus) : Nat := (b.subs.filter (·.live)).length

/-- Takes all events queued for a subscription, oldest first. -/
def drain (b : EventBus) (id : Nat) : EventBus × List OutputEvent :=
  match b.find? id with
  | some ⟨_, .queue pending, _⟩ => (b.modify id fun s => { s with listener := .queue [] }, pending)
  | _ => (b, [])

/-- The events queued for a subscription, oldest first, leaving them queued. -/
def peek (b : EventBus) (id : Nat) : List OutputEvent :=
  match b.find? id with
  | some ⟨_, .queue pending, _⟩ => pending
  | _ => []

/-- Takes the oldest event queued for a subscription, if any. -/
def tryRecv (b : EventBus) (id : Nat) : EventBus × Option OutputEvent :=
  match b.find? id with
  | some ⟨_, .queue (e :: rest), _⟩ => (b.modify id fun s => { s with listener := .queue rest }, some e)
  | _ => (b, none)

/-- The counter of a probe subscription. -/
def counter? (b : EventBus) (id : Nat) : Option EventCounter :=
  match b.find? id with
  | some ⟨_, .probe c _, _⟩ => some c
  | _ => none

/-- The count a probe subscription fired on, if it has. -/
def fired? (b : EventBus) (id : Nat) : Option Nat :=
  match b.find? id with
  | some ⟨_, .probe _ fired, _⟩ => fired
  | _ => none

end EventBus

end CrashTest
