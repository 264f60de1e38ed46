/-!
# Bells

A bell wakes callers who wait for something. A single ring wakes the caller who has waited longest,
and is stored, once, when nobody waits. Ringing for all wakes everybody who waits and is not stored.
A caller who was woken by a single ring and goes away without using it passes it on.
-/

namespace Rollout

/-- How a caller was woken. -/
inductive Wake
  | single
  | all
  deriving DecidableEq, Repr

/-- The callers of a bell, each known by a ticket. -/
structure Bell where
  /-- Whether a ring is stored. -/
  stored : Bool := false
  /-- Those who wait, in the order in which they came. -/
  waiting : List Nat := []
  /-- Those who were woken and have not answered yet. -/
  woken : List (Nat × Wake) := []
  nextTicket : Nat := 0
  deriving DecidableEq, Repr

/-- What a caller finds who looks for something. -/
inductive Answer (α : Type)
  | item (a : α)
  /-- Nothing more will come. -/
  | closed
  /-- Nothing is there now. -/
  | nothing
  deriving DecidableEq, Repr

/-- Somebody who asks for one thing under a name. -/
structure Caller where
  name : String
  /-- The ticket of a caller who waits. -/
  ticket : Option Nat := none
  isServed : Bool := false
  deriving DecidableEq, Repr

namespace Bell

/-- Ring once. -/
def ring (b : Bell) : Bell :=
  match b.waiting with
  | [] => { b with stored := true }
  | t :: r => { b with waiting := r, woken := b.woken ++ [(t, .single)] }

/-- Ring for all. -/
def ringAll (b : Bell) : Bell :=
  { b with waiting := [], woken := b.woken ++ b.waiting.map (·, .all) }

/-- Use up a stored ring, as every caller does who comes anew. -/
def enter (b : Bell) : Bell := { b with stored := false }

/-- Wait under a new ticket. -/
def wait (b : Bell) : Bell :=
  { b with waiting := b.waiting ++ [b.nextTicket], nextTicket := b.nextTicket + 1 }

/-- Whether the caller with a ticket was woken. -/
def isWoken (b : Bell) (ticket : Nat) : Bool := b.woken.any (·.1 = ticket)

/-- The caller with a ticket answers the bell. -/
def answer (b : Bell) (ticket : Nat) : Bell :=
  { b with woken := b.woken.filter (·.1 ≠ ticket) }

/-- Whether a caller can look for what it wants: it comes anew, or waited and was woken. -/
def admits (b : Bell) : Option Nat → Bool
  | none => true
  | some ticket => b.isWoken ticket

/-- A caller looks for what it wants: it answers the bell if it waited and uses up a stored ring. -/
def greet (b : Bell) : Option Nat → Bell
  | none => b.enter
  | some ticket => (b.answer ticket).enter

/-- The caller with a ticket goes away. -/
def leave (b : Bell) (ticket : Nat) : Bell :=
  let left := { b with waiting := b.waiting.filter (· ≠ ticket) }.answer ticket
  -- a ring for all was meant for everybody and is not passed on
  if b.woken.contains (ticket, .single) then left.ring else left

end Bell

end Rollout
