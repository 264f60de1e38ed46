import Rollout.Resource
import Rollout.Table

/-!
# The tracker

The tracker holds what is recorded about every resource that was registered and not removed since.
Registering again keeps what is known, a status is recorded only for a tracked resource, and an
endpoint that was once given stays until another is given.
-/

namespace Rollout

/-- The tracked resources. -/
structure Tracker where
  records : Table Identity Record := .empty
  deriving DecidableEq, Repr

/-- How far the resources of an application instance have come. -/
structure Summary where
  app : String
  total : Nat
  pending : Nat
  deploying : Nat
  running : Nat
  degraded : Nat
  error : Nat
  /-- Whether there are resources and all of them are running. -/
  converged : Bool
  deriving DecidableEq, Repr

namespace Tracker

/-- What is recorded about a resource, if it is tracked. -/
def get? (t : Tracker) (i : Identity) : Option Record := t.records.get? i

/-- Whether a resource is tracked. -/
def isTracked (t : Tracker) (i : Identity) : Bool := t.records.contains i

/-- Track a resource that was created in a stage. A resource that is tracked already keeps its
status and gets the stage. -/
def register (t : Tracker) (i : Identity) (stage : String) : Tracker :=
  match t.get? i with
  | some r => ⟨t.records.insert i { r with stage := stage }⟩
  | none => ⟨t.records.insert i { stage := stage }⟩

/-- Record a status of a tracked resource; the known endpoint stays unless another is given. -/
def report (t : Tracker) (i : Identity) (status : Status) (info : String)
    (endpoint : Option String) : Tracker :=
  match t.get? i with
  | some r =>
    ⟨t.records.insert i
      { r with status := status, info := info, endpoint := endpoint.or r.endpoint }⟩
  | none => t

/-- Record a status, and tell whether it was recorded, which it is for a tracked resource only. -/
def recordStatus (t : Tracker) (i : Identity) (status : Status) (info : String)
    (endpoint : Option String) : Bool × Tracker :=
  match t.get? i with
  | some _ => (true, t.report i status info endpoint)
  | none => (false, t)

/-- Stop tracking a resource. -/
def remove (t : Tracker) (i : Identity) : Tracker := ⟨t.records.erase i⟩

/-- The tracked resources in the order of their identities. -/
def snapshot (t : Tracker) : List Resource := t.records.entries.map fun e => ⟨e.1, e.2⟩

/-- The tracked resources of an application instance in the order of their identities. -/
def ofApp (t : Tracker) (app : String) : List Resource :=
  t.snapshot.filter (·.identity.app == app)

/-- The number of tracked resources. -/
def size (t : Tracker) : Nat := t.records.size

/-- How many of some resources have a status. -/
def count (l : List Resource) (s : Status) : Nat := l.countP (·.record.status = s)

/-- How far the resources of an application instance have come. -/
def summary (t : Tracker) (app : String) : Summary :=
  let l := t.ofApp app
  { app := app
    total := l.length
    pending := count l .pending
    deploying := count l .deploying
    running := count l .running
    degraded := count l .degraded
    error := count l .error
    converged := !l.isEmpty && count l .running = l.length }

end Tracker

end Rollout
