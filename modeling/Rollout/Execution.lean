import Rollout.Deployment.Deployer

/-!
# The execution of fragments

The stages of a fragment are deployed one after the other, and in each stage the deployers one after
the other. When a deployer fails, what its stage has done so far is undone, latest first; stages
that were deployed before stay. The failing deployer itself is undone only if it registered
something.
-/

namespace Rollout

/-- How the execution of a fragment ended. -/
structure Report where
  /-- The number of stages that were deployed as a whole. -/
  completed : Nat
  result : Except ExecutionError Unit

/-- What is kept of an execution. -/
structure Outcome where
  requestId : String
  fragmentId : String
  appId : String
  succeeded : Bool
  completedStages : Nat
  failedStage : Option String
  error : Option String
  deriving DecidableEq, Repr

/-- What is kept of the execution of a fragment. -/
def Report.outcome (r : Report) (f : Fragment) : Outcome where
  requestId := f.requestId
  fragmentId := f.fragmentId
  appId := f.appId
  succeeded := r.result.isOk
  completedStages := r.completed
  failedStage := match r.result with
    | .ok _ => none
    | .error e => e.stageId?
  error := match r.result with
    | .ok _ => none
    | .error e => some e.message

namespace Execution

/-- What a deployer did, under its name, with the way to undo it. -/
structure Undoable where
  name : String
  undo : Routine (Except DeployError Unit)

/-- Undo one after the other, whether or not it succeeds. -/
def undoAll : List Undoable → Routine Unit
  | [] => pure ()
  | u :: r => do
    Routine.note (.undoing u.name)
    let _ ← u.undo
    undoAll r

/-- Let deployers build and deploy one after the other, on top of what was done in the stage before,
the latest first. -/
def deployAll (finished : List Undoable) : List Deployer → Routine (Except DeployError Unit)
  | [] => pure (.ok ())
  | d :: ds => do
    Routine.note (.building d.name)
    match d.build with
    | .error e =>
      undoAll finished
      return .error e
    | .ok deploy =>
      Routine.note (.deploying d.name)
      let (deployed, registrations) ← deploy.counting 0
      let undoable : Undoable := ⟨d.name, deployed.undo⟩
      match deployed.result with
      | .ok () =>
        Routine.note (.deployed d.name)
        deployAll (undoable :: finished) ds
      | .error e =>
        -- a deployer that registered nothing left nothing behind
        undoAll (if 0 < registrations then undoable :: finished else finished)
        return .error e

/-- Deploy a stage of a fragment. -/
def deployStage (factory : Factory) (f : Fragment) (s : Stage) :
    Routine (Except DeployError Unit) := do
  Routine.note (.staffed s.id)
  match factory f s with
  | .error e => return .error e
  | .ok deployers =>
    if deployers.isEmpty && !s.services.isEmpty then return .error (.noDeployers s.id)
    else deployAll [] deployers

/-- Deploy stages of a fragment one after the other, when some are deployed already. -/
def deployStages (factory : Factory) (f : Fragment) (completed : Nat) : List Stage → Routine Report
  | [] => pure ⟨completed, .ok ()⟩
  | s :: r => do
    match ← deployStage factory f s with
    | .ok () => deployStages factory f (completed + 1) r
    | .error e => return ⟨completed, .error (.stage f.requestId s.id e)⟩

end Execution

/-- Execute a fragment. -/
def Fragment.execute (f : Fragment) (factory : Factory) : Routine Report :=
  match f.rejection? with
  | some r => pure ⟨0, .error (.invalid r)⟩
  | none => Execution.deployStages factory f 0 f.stages

end Rollout
