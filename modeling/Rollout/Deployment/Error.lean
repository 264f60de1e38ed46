import Rollout.Fragment

/-!
# Failures of deployments

Why a stage could not be deployed, and why a fragment could not be executed.
-/

namespace Rollout

/-- Why a stage could not be deployed. -/
inductive DeployError
  | build (stage reason : String)
  | create (resource reason : String)
  | delete (resource reason : String)
  | noDeployers (stage : String)
  | platform (reason : String)
  deriving DecidableEq, Repr

/-- The text of a failed deployment. -/
def DeployError.message : DeployError → String
  | build stage reason => "build failed for stage " ++ stage ++ ": " ++ reason
  | create resource reason => "failed to create " ++ resource ++ ": " ++ reason
  | delete resource reason => "failed to delete " ++ resource ++ ": " ++ reason
  | noDeployers stage => "no deployers available for stage " ++ stage
  | platform reason => "platform error: " ++ reason

/-- Why a fragment could not be executed. -/
inductive ExecutionError
  | invalid (r : Rejection)
  | stage (requestId stageId : String) (cause : DeployError)
  deriving DecidableEq, Repr

namespace ExecutionError

/-- The text of a failed execution. -/
def message : ExecutionError → String
  | invalid r => "invalid request: " ++ r.message
  | stage requestId stageId cause =>
    "request " ++ requestId ++ " failed at stage " ++ stageId ++ ": " ++ cause.message

/-- The stage that the execution stopped at, if it failed in one. -/
def stageId? : ExecutionError → Option String
  | invalid _ => none
  | stage _ id _ => some id

end ExecutionError

end Rollout
