import Rollout.Deployment.Deployer
import Rollout.Table

/-!
# Rehearsals

Deployers that follow a script instead of creating objects: the script says what is registered and
reported, how long it takes, and where it fails.
-/

namespace Rollout

/-- A step of a script. -/
inductive ScriptStep
  | register (id : Identity)
  | report (id : Identity) (status : Status) (info : String) (endpoint : Option String)
  | wait (millis : Nat)
  | fail (e : DeployError)
  deriving DecidableEq, Repr

/-- A script for one deployer. -/
structure Script where
  name : String
  /-- Why it cannot be built, if so. -/
  flaw : Option DeployError := none
  steps : List ScriptStep := []
  /-- Why it cannot be undone, if so. -/
  undoFailure : Option DeployError := none
  deriving DecidableEq, Repr

namespace Script

/-- An error as a result. -/
def resultOf : Option DeployError → Except DeployError Unit
  | none => .ok ()
  | some e => .error e

/-- Follow the steps of a script in a stage. -/
def follow (stage : String) : List ScriptStep → Routine (Except DeployError Unit)
  | [] => pure (.ok ())
  | .register id :: r => do
    Routine.command (.register id stage)
    follow stage r
  | .report id status info endpoint :: r => do
    Routine.command (.report id status info endpoint)
    follow stage r
  | .wait millis :: r => do
    Routine.command (.wait millis)
    follow stage r
  | .fail e :: _ => pure (.error e)

/-- The deployer that follows a script in a stage. -/
def deployer (s : Script) (stage : String) : Deployer where
  name := s.name
  build :=
    match s.flaw with
    | some e => .error e
    | none => .ok do
      let result ← follow stage s.steps
      return ⟨result, pure (resultOf s.undoFailure)⟩

end Script

/-- The scripts for each stage, or why there are none. -/
abbrev Playbook : Type := Table String (Except DeployError (List Script))

/-- The deployers that a playbook has for a stage: none for a stage that it does not know. -/
def Playbook.factory (p : Playbook) : Factory := fun _ stage =>
  match p.get? stage.id with
  | none => .ok []
  | some (.error e) => .error e
  | some (.ok scripts) => .ok (scripts.map (·.deployer stage.id))

end Rollout
