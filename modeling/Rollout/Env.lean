import Rollout.Control.Error
import Rollout.Deployment.Error
import Rollout.Tracker

/-!
# The environment of processes

What the processes of a control plane share: the time, the cluster, the tracker, and a journal of
what they did.
-/

namespace Rollout

/-- What a process did. -/
inductive Note
  /-- It asked its source for a stream. -/
  | watched
  /-- It asked its source for a listing. -/
  | listed
  /-- It found out about the readiness of an object, or failed to. -/
  | checked (key : String) (failed : Bool)
  /-- It gave up a key and reported why. -/
  | reported (key : String) (kind : Kind) (e : ControlError)
  /-- A caller of its work queue was given a key, or learned that there will be none. -/
  | got (caller : String) (key : Option String)
  /-- A caller learned that its catalog is filled. -/
  | synced (caller : String)
  /-- A caller of its request queue was given a request, or learned that there will be none. -/
  | taken (caller : String) (requestId : Option String)
  /-- It asked for the deployers of a stage. -/
  | staffed (stage : String)
  /-- A deployer began to build, began to deploy, has deployed, or began to undo. -/
  | building (deployer : String)
  | deploying (deployer : String)
  | deployed (deployer : String)
  | undoing (deployer : String)
  deriving DecidableEq, Repr

/-- An entry of the journal: when which process did what. -/
structure Entry where
  time : Nat
  process : Nat
  note : Note
  deriving DecidableEq, Repr

/-- What processes share. Time is in milliseconds. -/
structure Env where
  now : Nat := 0
  cluster : Cluster
  tracker : Tracker := {}
  /-- What was done, the latest first. -/
  journal : List Entry := []
  deriving DecidableEq, Repr

namespace Env

/-- Put down what a process did. -/
def write (e : Env) (process : Nat) (note : Note) : Env :=
  { e with journal := ⟨e.now, process, note⟩ :: e.journal }

/-- The environment after a change of the tracker. -/
def onTracker (e : Env) (f : Tracker → Tracker) : Env := { e with tracker := f e.tracker }

/-- The environment after a change of the cluster. -/
def onCluster (e : Env) (f : Cluster → Cluster) : Env := { e with cluster := f e.cluster }

end Env

end Rollout
