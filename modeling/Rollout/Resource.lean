/-!
# Resources

A resource is an object of the cluster that was created for a service. It is known by its identity,
and its status is what the control loops last found out about it.
-/

namespace Rollout

/-- Which object a resource is: the application instance and the service it was made for, and the
uid that the cluster gave it. -/
structure Identity where
  app : String
  service : String
  uid : String
  deriving DecidableEq, Repr

namespace Identity

/-- Identities are ordered by application instance, then service, then uid. -/
instance : Ord Identity :=
  ⟨compareLex (compareOn app) (compareLex (compareOn service) (compareOn uid))⟩

instance : Std.TransOrd Identity :=
  inferInstanceAs (Std.TransCmp (compareLex (compareOn app) (compareLex (compareOn service)
    (compareOn uid))))

instance : Std.LawfulEqOrd Identity where
  eq_of_compare {a b} h := by
    have h :
        compareLex (compareOn app) (compareLex (compareOn service) (compareOn uid)) a b = .eq := h
    simp only [compareLex, compareOn, Ordering.then_eq_eq, Std.LawfulEqOrd.compare_eq_iff_eq] at h
    cases a; cases b; simp_all

/-- The written form of an identity. -/
def toText (i : Identity) : String := i.app ++ "/" ++ i.service ++ "/" ++ i.uid

end Identity

/-- What is known about the state of a resource. -/
inductive Status
  /-- Nothing was observed yet. -/
  | pending
  /-- It is still being rolled out. -/
  | deploying
  /-- It has arrived at what was asked for. -/
  | running
  /-- It works, but some of its replicas do not. -/
  | degraded
  /-- The platform reports a failure. -/
  | error
  deriving DecidableEq, Repr

namespace Status

/-- The word for a status. -/
def label : Status → String
  | pending => "pending"
  | deploying => "deploying"
  | running => "running"
  | degraded => "degraded"
  | error => "error"

/-- All statuses. -/
def all : List Status := [pending, deploying, running, degraded, error]

/-- The status with a certain word. -/
def ofLabel? (s : String) : Option Status := all.find? (·.label == s)

end Status

/-- What is recorded about a resource besides its identity. -/
structure Record where
  /-- The stage that the resource was created in. -/
  stage : String
  status : Status := .pending
  /-- A text for the reader that came with the status. -/
  info : String := ""
  /-- Where the resource can be reached, once that is known. -/
  endpoint : Option String := none
  deriving DecidableEq, Repr

/-- A resource with what is recorded about it. -/
structure Resource where
  identity : Identity
  record : Record
  deriving DecidableEq, Repr

end Rollout
