import Rollout.Object

/-!
# Readiness

What an object says about the state of the resource that it is. A workload runs once all its
replicas are available and follows its conditions until then, a network service runs as soon as it
is seen, and a route runs once a load balancer has taken it up.
-/

namespace Rollout

/-- What an object says about its resource. -/
inductive Readiness
  /-- Nothing that should be recorded yet. -/
  | notReady
  | status (s : Status) (info : String) (endpoint : Option String)
  deriving DecidableEq, Repr

namespace Workload

/-- Whether a condition about an aspect has a value. -/
def shows (w : Workload) (a : Aspect) (value : Bool) : Bool :=
  w.conditions.any fun c => c.aspect = a && c.holds == value

/-- Whether there are replicas and all of them are available. -/
def isComplete (w : Workload) : Bool := w.unavailable = 0 && 0 < w.available

/-- The status that the conditions of a workload amount to. -/
def derivedStatus (w : Workload) : Status :=
  if w.shows .replicaFailure true || w.shows .progressing false then .error
  else if w.shows .available true then .degraded
  else if w.shows .progressing true then .deploying
  else .pending

/-- The texts of the conditions. -/
def info (w : Workload) : String := "; ".intercalate (w.conditions.map Condition.toText)

/-- What a workload says. -/
def readiness (w : Workload) : Readiness :=
  if w.isComplete then .status .running "" none else .status w.derivedStatus w.info none

end Workload

/-- Whether a load balancer has taken up the route. -/
def Balancer.isAssigned (b : Balancer) : Bool := !b.hostname.isEmpty && !b.ip.isEmpty

/-- What a route says: its endpoint is the name of the first load balancer that took it up. -/
def Route.readiness (r : Route) : Readiness :=
  match r.balancers.find? (·.isAssigned) with
  | none => .notReady
  | some b => .status .running (b.hostname ++ " (" ++ b.ip ++ ")") (some b.hostname)

/-- What an object says about its resource. -/
def Object.readiness (o : Object) : Readiness :=
  match o.body with
  | .workload w => w.readiness
  | .network _ => .status .running "" none
  | .route r => r.readiness

end Rollout
