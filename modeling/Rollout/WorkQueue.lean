import Rollout.Backoff
import Rollout.Bell

/-!
# Work queues

A work queue hands out keys to workers. A key that is added while it is pending is added once; a key
that is added while a worker holds it is handed out again after the worker has released it. Adding
can be delayed: a key has at most one delayed addition, which is the earliest that was asked for.
After the queue is shut down, keys that are ready are still handed out.
-/

namespace Rollout

/-- A delayed addition that is wanted: when it is due, and the number of its timer. -/
structure Delayed where
  due : Nat
  number : Nat
  deriving DecidableEq, Repr

/-- A timer that was set for a delayed addition, wanted still or not. -/
structure Timer where
  key : String
  due : Nat
  number : Nat
  /-- When the timer was set. -/
  since : Nat
  deriving DecidableEq, Repr

/-- Keys that wait for workers. Times are in milliseconds. -/
structure WorkQueue where
  /-- The keys that can be handed out, in this order. -/
  ready : List String := []
  /-- The keys that were added and not handed out since. -/
  pending : List String := []
  /-- The keys that workers hold. -/
  held : List String := []
  /-- The delayed addition of each key that has one. -/
  delayed : Table String Delayed := .empty
  timers : List Timer := []
  nextTimer : Nat := 1
  closed : Bool := false
  bell : Bell := {}
  backoff : Backoff := {}
  deriving DecidableEq, Repr

namespace WorkQueue

/-- Add a key, unless it is pending. -/
def add (q : WorkQueue) (key : String) : WorkQueue :=
  if q.closed || q.pending.contains key then q
  -- `done` makes it ready
  else if q.held.contains key then { q with pending := key :: q.pending }
  else { q with pending := key :: q.pending, ready := q.ready ++ [key], bell := q.bell.ring }

/-- Whether a wanted addition is due no later than `due`. -/
def isPromised (q : WorkQueue) (key : String) (due : Nat) : Bool :=
  match q.delayed.get? key with
  | some d => d.due ≤ due
  | none => false

/-- Add a key after a delay, unless an earlier addition is wanted already, or the clock cannot count
the delay. -/
def addAfter (q : WorkQueue) (now : Nat) (key : String) (delay : Duration) : WorkQueue :=
  if delay.nanos = 0 then q.add key
  else
    let due := now + delay.ceilMillis
    if !delay.isCountable now || q.closed || q.isPromised key due then q
    else
      { q with
        delayed := q.delayed.insert key ⟨due, q.nextTimer⟩
        timers := q.timers ++ [⟨key, due, q.nextTimer, now⟩]
        nextTimer := q.nextTimer + 1 }

/-- Add a key after the delay that its failures ask for, and count a failure. -/
def retry (q : WorkQueue) (now : Nat) (key : String) : WorkQueue :=
  { q with backoff := q.backoff.fail key }.addAfter now key (q.backoff.next key)

/-- Whether the clock can count the delay that the failures of a key ask for. -/
def canRetry (q : WorkQueue) (now : Nat) (key : String) : Bool :=
  (q.backoff.next key).isCountable now

/-- A timer goes off: its key is added if the timer is the wanted one. -/
def fire (q : WorkQueue) (t : Timer) : WorkQueue :=
  let q := { q with timers := q.timers.filter (·.number ≠ t.number) }
  if (q.delayed.get? t.key).any (·.number = t.number) then
    { q with delayed := q.delayed.erase t.key }.add t.key
  -- the addition was forgotten, or is wanted at an earlier time
  else q

/-- What a caller who asks now is given. -/
def offer (q : WorkQueue) : Answer String :=
  match q.ready with
  | key :: _ => .item key
  | [] => if q.closed then .closed else .nothing

/-- Hand out the first ready key, if there is one. -/
def handOut (q : WorkQueue) : WorkQueue :=
  match q.ready with
  | key :: r =>
    { q with
      ready := r
      pending := q.pending.filter (· ≠ key)
      held := key :: q.held.filter (· ≠ key) }
  | [] => q

/-- A worker releases a key. -/
def done (q : WorkQueue) (key : String) : WorkQueue :=
  let q := { q with held := q.held.filter (· ≠ key) }
  if q.pending.contains key then { q with ready := q.ready ++ [key], bell := q.bell.ring } else q

/-- Forget the failures of a key and its delayed addition. -/
def forget (q : WorkQueue) (key : String) : WorkQueue :=
  { q with delayed := q.delayed.erase key, backoff := q.backoff.forget key }

/-- Whether a delayed addition of a key is wanted. -/
def isDelayed (q : WorkQueue) (key : String) : Bool := q.delayed.contains key

/-- Take no more keys. -/
def shutDown (q : WorkQueue) : WorkQueue := { q with closed := true, bell := q.bell.ringAll }

/-- A caller looks into the queue, with the ticket under which it waited. -/
def greet (q : WorkQueue) (ticket : Option Nat) : WorkQueue :=
  { q with bell := q.bell.greet ticket }

/-- A caller who was given nothing waits, under the ticket `q.bell.nextTicket`. -/
def park (q : WorkQueue) : WorkQueue := { q with bell := q.bell.wait }

end WorkQueue

end Rollout
