import Rollout.Deployment.Error
import Rollout.Deployment.Routine

/-!
# Deployers

A deployer brings the services of a stage, or some of them, to the platform. First it is built,
which may fail before anything happens; what it has built is a routine that deploys, and that says
at its end how to undo what it did.
-/

namespace Rollout

/-- The end of a deployment. -/
structure Deployed where
  result : Except DeployError Unit
  /-- How what was done is undone. -/
  undo : Routine (Except DeployError Unit)

/-- What brings services to the platform. -/
structure Deployer where
  name : String
  /-- What the deployer builds, or why it cannot. -/
  build : Except DeployError (Routine Deployed)

/-- How the deployers of a stage of a fragment are found. -/
abbrev Factory : Type := Fragment → Stage → Except DeployError (List Deployer)

end Rollout
