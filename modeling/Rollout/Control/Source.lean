import Rollout.Object.Stream

/-!
# Sources

A control loop gets its objects from a source, which it asks for a stream of changes and for a
listing. The source is a store of the cluster, or a script that says how each call ends.
-/

namespace Rollout

/-- How a call for a stream ends. -/
inductive WatchReply
  | «open»
  /-- With a stream that is closed already. -/
  | closed
  | failure
  /-- Not at all. -/
  | never
  deriving DecidableEq, Repr

/-- How a call for a listing ends. -/
inductive ListReply
  /-- With some objects after some milliseconds. -/
  | objects (delay : Nat) (l : List Object)
  | failure
  /-- Not at all. -/
  | never
  deriving DecidableEq, Repr

/-- How the calls of a control loop end, one after the other. The last reply is given again and
again; without any, streams are open and listings empty. -/
structure SourceScript where
  watches : List WatchReply := []
  lists : List ListReply := []
  /-- The streams that were opened. -/
  streams : Streams := {}
  deriving DecidableEq, Repr

namespace SourceScript

/-- The reply to the next call for a stream. -/
def watchReply (s : SourceScript) : WatchReply := s.watches.headD .open

/-- The reply to the next call for a listing. -/
def listReply (s : SourceScript) : ListReply := s.lists.headD (.objects 0 [])

/-- What is left of a list of replies after one was given. -/
def after {α : Type} : List α → List α
  | _ :: b :: r => b :: r
  | l => l

end SourceScript

/-- Where a control loop gets its objects from. -/
inductive Source
  /-- The store of its kind. -/
  | cluster
  | script (s : SourceScript)
  deriving DecidableEq, Repr

end Rollout
