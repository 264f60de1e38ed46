import Rollout.Bell
import Rollout.Fragment

/-!
# Request queues

The fragments that wait for their execution, first come first served. A fragment that would be
rejected never enters the queue, and none does after the queue is closed.
-/

namespace Rollout

/-- Why a fragment did not enter the queue. -/
inductive Refusal
  | closed
  | malformed (r : Rejection)
  deriving DecidableEq, Repr

/-- The text of a refusal. -/
def Refusal.message : Refusal → String
  | closed => "queue unavailable"
  | malformed r => "malformed request: " ++ r.message

/-- Fragments that wait for their execution. -/
structure RequestQueue where
  /-- The fragments in the order in which they came. -/
  requests : List Fragment := []
  closed : Bool := false
  bell : Bell := {}
  deriving DecidableEq, Repr

namespace RequestQueue

/-- Put a fragment at the end, unless it is rejected or the queue is closed. -/
def push (q : RequestQueue) (f : Fragment) : Except Refusal RequestQueue :=
  match f.rejection? with
  | some r => .error (.malformed r)
  | none =>
    if q.closed then .error .closed
    else .ok { q with requests := q.requests ++ [f], bell := q.bell.ring }

/-- What a caller who asks now is given. -/
def offer (q : RequestQueue) : Answer Fragment :=
  match q.requests with
  | f :: _ => .item f
  | [] => if q.closed then .closed else .nothing

/-- Take the first fragment off, if there is one. -/
def pop (q : RequestQueue) : RequestQueue := { q with requests := q.requests.tail }

/-- Drop all fragments. -/
def clear (q : RequestQueue) : RequestQueue := { q with requests := [] }

/-- Take no more fragments. -/
def close (q : RequestQueue) : RequestQueue := { q with closed := true, bell := q.bell.ringAll }

/-- A caller looks into the queue, with the ticket under which it waited. -/
def greet (q : RequestQueue) (ticket : Option Nat) : RequestQueue :=
  { q with bell := q.bell.greet ticket }

/-- A caller who was given nothing waits, under the ticket `q.bell.nextTicket`. -/
def park (q : RequestQueue) : RequestQueue := { q with bell := q.bell.wait }

/-- A caller who waits goes away. -/
def leave (q : RequestQueue) (ticket : Option Nat) : RequestQueue :=
  match ticket with
  | none => q
  | some t => { q with bell := q.bell.leave t }

end RequestQueue

end Rollout
