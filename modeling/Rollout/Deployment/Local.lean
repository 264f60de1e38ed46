import Rollout.Deployment.Deployer
import Rollout.Text.Lowercase

/-!
# Local deployment

A service becomes a workload and a network service in the cluster of the process, and a route as
well if one of its ports is public. The objects of a service have one name, made of the application
instance and the name of the service, and carry labels that lead back to both.
-/

namespace Rollout

/-- The phrase for an object of a kind. -/
def Kind.phrase : Kind → String
  | .workload => "workload"
  | .network => "network service"
  | .route => "ingress route"

/-- A stage that is brought to the cluster of the process, one step at a time. -/
structure Installation where
  /-- The namespace of the cluster. -/
  space : String
  app : String
  stage : Stage
  /-- The objects that were built last. -/
  built : List Object := []
  /-- The kinds and keys of the objects that were created, the latest first. -/
  created : List (Kind × String) := []
  deriving DecidableEq, Repr

namespace Installation

/-- The metadata of the objects of a service. -/
def metadata (i : Installation) (s : Service) : Metadata where
  space := i.space
  name := Text.lowercase (i.app ++ "-" ++ s.name)
  labels :=
    ((s.labels.insert Label.app i.app).insert Label.service s.id).insert Label.stage i.stage.id

/-- The workload of a service. -/
def workload (i : Installation) (s : Service) : Object :=
  ⟨i.metadata s, .workload { image := s.image, env := s.env, replicas := s.replicas }⟩

/-- The network service of a service. -/
def network (i : Installation) (s : Service) : Object :=
  ⟨i.metadata s, .network { ports := s.ports.map (·.number) }⟩

/-- The route to a service. -/
def route (i : Installation) (s : Service) : Object :=
  ⟨i.metadata s, .route { host := Text.lowercase (s.name ++ "." ++ i.app ++ ".local") }⟩

/-- Why nothing can be built for a service. -/
def flaw? (s : Service) : Option String :=
  if Text.allBlank s.name then some ("service " ++ s.id ++ " has no name")
  else if Text.allBlank s.image then some ("service " ++ s.id ++ " has no image")
  else none

/-- The objects of a service in the order of their creation. -/
def objectsFor (i : Installation) (s : Service) : List Object :=
  [i.workload s, i.network s] ++ if s.ports.any (·.isPublic) then [i.route s] else []

/-- The objects of some services, unless one of them has a flaw. -/
def objectsOf (i : Installation) : List Service → Except DeployError (List Object)
  | [] => .ok []
  | s :: r =>
    match flaw? s with
    | some reason => .error (.build i.stage.id reason)
    | none => (i.objectsOf r).map (i.objectsFor s ++ ·)

/-- Build the objects of all services of the stage. -/
def build (i : Installation) : Except DeployError Installation :=
  (i.objectsOf i.stage.services).map fun l => { i with built := l }

/-- Create objects one after the other and register each, and stop at the first that is refused.
What was created comes on top of `created`. -/
def install (stage : String) (created : List (Kind × String)) :
    List Object → Routine (Except DeployError Unit × List (Kind × String))
  | [] => pure (.ok (), created)
  | o :: r => do
    match ← Routine.command (.create o) with
    | .error conflict =>
      let reason := conflict.toError.message
      return (.error (.create (o.kind.phrase ++ " " ++ o.key) reason), created)
    | .ok o =>
      -- the labels and the uid that `create` gave make up an identity
      if let some id := o.identity? then
        Routine.command (.register id stage)
      install stage ((o.kind, o.key) :: created) r

/-- Delete objects one after the other. -/
def withdraw : List (Kind × String) → Routine Unit
  | [] => pure ()
  | (kind, key) :: r => do
    Routine.command (.delete kind key)
    withdraw r

/-- Create what was built. -/
def deploy (i : Installation) : Routine (Except DeployError Unit × Installation) := do
  let (result, created) ← install i.stage.id i.created i.built
  return (result, { i with created := created })

/-- Delete what was created. -/
def undeploy (i : Installation) : Routine Installation := do
  withdraw i.created
  return { i with created := [] }

/-- The deployer that brings the stage to the cluster. -/
def deployer (i : Installation) : Deployer where
  name := i.stage.id
  build := i.build.map fun built => do
    let (result, i) ← built.deploy
    return ⟨result, do
      let _ ← i.undeploy
      return .ok ()⟩

/-- The deployers for a cluster in the process: one for a stage with services. -/
def factory (space : String) : Factory := fun f stage =>
  let installation : Installation := { space := space, app := f.appId, stage := stage }
  .ok (if stage.services.isEmpty then [] else [installation.deployer])

end Installation

end Rollout
