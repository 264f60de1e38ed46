import Rollout.Resource
import Rollout.Table

/-!
# Objects of the cluster

The cluster holds objects of three kinds: workloads, network services and ingress routes. All of
them have metadata, by which they are found, and labels, which say what they were made for.
-/

namespace Rollout

/-- The kinds of objects. -/
inductive Kind
  | workload
  | network
  | route
  deriving DecidableEq, Repr

/-- The word for a kind. -/
def Kind.label : Kind → String
  | workload => "workload"
  | network => "network-service"
  | route => "ingress-route"

namespace Label

/-- The label with the application instance. -/
def app : String := "deployd.io/app-instance-id"

/-- The label with the service. -/
def service : String := "deployd.io/service-id"

/-- The label with the stage. -/
def stage : String := "deployd.io/stage-id"

end Label

/-- What all objects have. -/
structure Metadata where
  /-- The namespace. -/
  space : String := ""
  name : String := ""
  /-- The id that the cluster gave the object. -/
  uid : String := ""
  labels : Table String String := .empty
  deriving DecidableEq, Repr

namespace Metadata

/-- The key of an object with a namespace and a name. -/
def keyOf (space name : String) : String := space ++ "/" ++ name

/-- The key by which an object is found. -/
def key (m : Metadata) : String := keyOf m.space m.name

/-- The identity of the resource that an object is, if its labels and its uid give one. -/
def identity? (m : Metadata) : Option Identity := do
  let app ← m.labels.get? Label.app
  let service ← m.labels.get? Label.service
  if m.uid.isEmpty then none else some ⟨app, service, m.uid⟩

end Metadata

/-- What a condition of a workload is about. -/
inductive Aspect
  | available
  | progressing
  | replicaFailure
  deriving DecidableEq, Repr

/-- The word for an aspect. -/
def Aspect.label : Aspect → String
  | available => "Available"
  | progressing => "Progressing"
  | replicaFailure => "ReplicaFailure"

/-- Whether something holds of a workload, and why. -/
structure Condition where
  aspect : Aspect
  holds : Bool
  reason : String := ""
  message : String := ""
  deriving DecidableEq, Repr

/-- The text of a condition. -/
def Condition.toText (c : Condition) : String :=
  c.aspect.label ++ "=" ++ (if c.holds then "True" else "False") ++
    (if c.reason.isEmpty then "" else " (" ++ c.reason ++ ")") ++
    (if c.message.isEmpty then "" else ": " ++ c.message)

/-- Replicas of an image. -/
structure Workload where
  image : String := ""
  env : Table String String := .empty
  /-- How many replicas are asked for. -/
  replicas : UInt32 := 0
  available : UInt32 := 0
  unavailable : UInt32 := 0
  conditions : List Condition := []
  deriving DecidableEq, Repr

/-- A stable address in front of a workload. -/
structure Network where
  clusterIp : Option String := none
  ports : List UInt16 := []
  deriving DecidableEq, Repr

/-- An entry of a load balancer. -/
structure Balancer where
  hostname : String := ""
  ip : String := ""
  deriving DecidableEq, Repr

/-- A route from outside to a service. -/
structure Route where
  host : String := ""
  balancers : List Balancer := []
  deriving DecidableEq, Repr

/-- What the objects of each kind have. -/
inductive Body
  | workload (w : Workload)
  | network (n : Network)
  | route (r : Route)
  deriving DecidableEq, Repr

/-- The kind of a body. -/
def Body.kind : Body → Kind
  | workload _ => .workload
  | network _ => .network
  | route _ => .route

/-- The body of a new object of a kind. -/
def Body.blank : Kind → Body
  | .workload => .workload {}
  | .network => .network {}
  | .route => .route {}

/-- An object of the cluster. -/
structure Object where
  metadata : Metadata := {}
  body : Body
  deriving DecidableEq, Repr

namespace Object

/-- The kind of an object. -/
def kind (o : Object) : Kind := o.body.kind

/-- The key by which an object is found among those of its kind. -/
def key (o : Object) : String := o.metadata.key

/-- The identity of the resource that an object is. -/
def identity? (o : Object) : Option Identity := o.metadata.identity?

/-- The object with a uid. -/
def withUid (o : Object) (uid : String) : Object :=
  { o with metadata := { o.metadata with uid := uid } }

end Object

end Rollout
