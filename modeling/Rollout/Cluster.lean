import Rollout.Cluster.Store

/-!
# The cluster

A cluster inside the process: a store for each kind of object. New objects get uids from one
counter, so that no two objects ever created have the same uid.
-/

namespace Rollout

/-- A store for each kind of object. -/
structure Cluster where
  workloads : Store
  networks : Store
  routes : Store
  /-- The number in the uid of the next object. -/
  nextUid : Nat := 1
  deriving DecidableEq, Repr

/-- The key of an object that could not be created is in use. -/
structure Conflict where
  kind : Kind
  key : String
  deriving DecidableEq, Repr

namespace Cluster

/-- An empty cluster for a namespace. -/
def ofSpace (space : String) : Cluster where
  workloads := { space := space }
  networks := { space := space }
  routes := { space := space }

/-- The namespace of the cluster. -/
def space (c : Cluster) : String := c.workloads.space

/-- The store of a kind. -/
def store (c : Cluster) : Kind → Store
  | .workload => c.workloads
  | .network => c.networks
  | .route => c.routes

/-- The cluster with another store of a kind. -/
def setStore (c : Cluster) (k : Kind) (s : Store) : Cluster :=
  match k with
  | .workload => { c with workloads := s }
  | .network => { c with networks := s }
  | .route => { c with routes := s }

/-- The cluster after a change of the store of a kind. -/
def onStore (c : Cluster) (k : Kind) (f : Store → Store) : Cluster := c.setStore k (f (c.store k))

/-- The uid with a number, which has at least six digits. -/
def uidOf (n : Nat) : String :=
  let digits := toString n
  "uid-" ++ String.ofList (List.replicate (6 - digits.length) '0') ++ digits

/-- Create an object under a key that is not in use and give it a uid. -/
def create (c : Cluster) (o : Object) : Except Conflict (Object × Cluster) :=
  if (c.store o.kind).objects.contains o.key then .error ⟨o.kind, o.key⟩
  else
    let o := o.withUid (uidOf c.nextUid)
    .ok (o, { c.onStore o.kind (·.add o) with nextUid := c.nextUid + 1 })

/-- Store an object as it is. -/
def upsert (c : Cluster) (o : Object) : Cluster := c.onStore o.kind (·.upsert o)

/-- Change the object of a kind under a key. -/
def update (c : Cluster) (k : Kind) (key : String) (change : Object → Object) : Cluster :=
  c.onStore k (·.update key change)

/-- Delete the object of a kind under a key. -/
def delete (c : Cluster) (k : Kind) (key : String) : Cluster := c.onStore k (·.delete key)

/-- The object of a kind under a key. -/
def get? (c : Cluster) (k : Kind) (key : String) : Option Object := (c.store k).get? key

/-- The streams of the watchers of a kind. -/
def streams (c : Cluster) (k : Kind) : Streams := (c.store k).streams

/-- The cluster after a change of the streams of a kind. -/
def onStreams (c : Cluster) (k : Kind) (f : Streams → Streams) : Cluster :=
  c.onStore k fun s => { s with streams := f s.streams }

end Cluster

end Rollout
