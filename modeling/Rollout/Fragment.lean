import Rollout.Table
import Rollout.Text.Blank

/-!
# Fragments

A fragment is what a controlling party submits: services to be started for one application instance,
in stages that are deployed one after the other. `Fragment.rejection?` names the first reason why a
fragment cannot be accepted.
-/

namespace Rollout

/-- A port that a service listens on. -/
structure Port where
  name : String
  number : UInt16
  /-- Whether the port is reached from outside through a route. -/
  isPublic : Bool := false
  deriving DecidableEq, Repr

/-- A service to be started. -/
structure Service where
  id : String
  name : String
  image : String
  replicas : UInt32 := 1
  labels : Table String String := .empty
  env : Table String String := .empty
  ports : List Port := []
  deriving DecidableEq, Repr

/-- Services that are deployed, and on failure withdrawn, together. -/
structure Stage where
  id : String
  services : List Service
  deriving DecidableEq, Repr

/-- A request to deploy some stages for an application instance. -/
structure Fragment where
  requestId : String
  fragmentId : String
  appId : String
  /-- The stages in the order of their deployment. -/
  stages : List Stage
  deriving DecidableEq, Repr

/-- Why a fragment is not accepted. -/
inductive Rejection
  | blankRequestId
  | blankAppId (requestId : String)
  | noStages (requestId : String)
  | blankStageId (index : Nat)
  | repeatedStage (id : String)
  deriving DecidableEq, Repr

namespace Rejection

/-- The text of a rejection. -/
def message : Rejection → String
  | blankRequestId => "request id is empty"
  | blankAppId id => "request " ++ id ++ " has no application instance id"
  | noStages id => "request " ++ id ++ " has no stages"
  | blankStageId index => "stage at index " ++ toString index ++ " has an empty id"
  | repeatedStage id => "duplicate stage id: " ++ id

end Rejection

namespace Fragment

/-- The first fault among stages that follow `index` others with the ids `seen`: an id that is blank
or that was used before. -/
def stageRejection? (seen : List String) (index : Nat) : List Stage → Option Rejection
  | [] => none
  | s :: r =>
    if Text.allBlank s.id then some (.blankStageId index)
    else if seen.contains s.id then some (.repeatedStage s.id)
    else stageRejection? (s.id :: seen) (index + 1) r

/-- The first reason why a fragment is not accepted. -/
def rejection? (f : Fragment) : Option Rejection :=
  if Text.allBlank f.requestId then some .blankRequestId
  else if Text.allBlank f.appId then some (.blankAppId f.requestId)
  else if f.stages.isEmpty then some (.noStages f.requestId)
  else stageRejection? [] 0 f.stages

/-- The number of services in all stages. -/
def serviceCount (f : Fragment) : Nat := (f.stages.flatMap (·.services)).length

end Fragment

end Rollout
