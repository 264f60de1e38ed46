import Rollout.Object

/-!
# Streams of changes

A stream carries the changes of objects to one watcher in the order in which they were made. When a
stream is closed, the changes that are on their way still arrive.
-/

namespace Rollout

/-- A change of an object, with the object as it is afterwards, or was before it was deleted. -/
inductive Change
  | added (o : Object)
  | modified (o : Object)
  | deleted (o : Object)
  deriving DecidableEq, Repr

/-- The object that a change is about. -/
def Change.object : Change → Object
  | added o => o
  | modified o => o
  | deleted o => o

/-- The changes on their way to one watcher, oldest first. -/
structure Stream where
  id : Nat
  pending : List Change := []
  isOpen : Bool := true
  deriving DecidableEq, Repr

/-- What a watcher finds on its stream. -/
inductive Delivery
  | change (c : Change)
  /-- Nothing is on its way, but something may come. -/
  | quiet
  | ended
  deriving DecidableEq, Repr

/-- The streams of all watchers. -/
structure Streams where
  all : List Stream := []
  next : Nat := 0
  deriving DecidableEq, Repr

namespace Streams

/-- The stream with an id. -/
def find? (s : Streams) (id : Nat) : Option Stream := s.all.find? (·.id = id)

/-- The id of the stream that is opened next. -/
def fresh (s : Streams) : Nat := s.next

/-- Open a stream. -/
def «open» (s : Streams) : Streams := { all := s.all ++ [{ id := s.next }], next := s.next + 1 }

/-- Open a stream that is closed at once. -/
def openEnded (s : Streams) : Streams :=
  { all := s.all ++ [{ id := s.next, isOpen := false }], next := s.next + 1 }

/-- Send a change to every watcher whose stream is open. -/
def publish (s : Streams) (c : Change) : Streams :=
  { s with
    all := s.all.map fun t => if t.isOpen then { t with pending := t.pending ++ [c] } else t }

/-- Close every stream. -/
def close (s : Streams) : Streams := { s with all := s.all.map ({ · with isOpen := false }) }

/-- Forget a stream whose watcher is gone. -/
def drop (s : Streams) (id : Nat) : Streams := { s with all := s.all.filter (·.id ≠ id) }

/-- The number of open streams. -/
def openCount (s : Streams) : Nat := s.all.countP (·.isOpen)

/-- What a watcher finds. -/
def look (s : Streams) (id : Nat) : Delivery :=
  match s.find? id with
  | none => .ended
  | some t =>
    match t.pending with
    | c :: _ => .change c
    | [] => if t.isOpen then .quiet else .ended

/-- Take the oldest change off a stream. -/
def pop (s : Streams) (id : Nat) : Streams :=
  { s with all := s.all.map fun t => if t.id = id then { t with pending := t.pending.tail } else t }

/-- Take every change off a stream. -/
def drain (s : Streams) (id : Nat) : Streams :=
  { s with all := s.all.map fun t => if t.id = id then { t with pending := [] } else t }

end Streams

end Rollout
